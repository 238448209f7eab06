/-! Texts as lists of characters: blank characters, words, trimming, lines and joining. -/
namespace CallTracer

/-- A text is the list of its characters. -/
abbrev Text := List Char

namespace Text

/-- The characters that separate words: those of the property White_Space. -/
def isBlank (c : Char) : Bool :=
  (9 ≤ c.toNat && c.toNat ≤ 13) || c.toNat == 0x20 || c.toNat == 0x85 || c.toNat == 0xA0 ||
    c.toNat == 0x1680 || (0x2000 ≤ c.toNat && c.toNat ≤ 0x200A) || c.toNat == 0x2028 ||
    c.toNat == 0x2029 || c.toNat == 0x202F || c.toNat == 0x205F || c.toNat == 0x3000

theorem length_dropWhile_le {α : Type} (p : α → Bool) (s : List α) :
    (s.dropWhile p).length ≤ s.length :=
  (List.dropWhile_sublist p).length_le

def trimStart (s : Text) : Text := s.dropWhile isBlank

def trimEnd (s : Text) : Text := (s.reverse.dropWhile isBlank).reverse

def trim (s : Text) : Text := trimEnd (trimStart s)

/-- The maximal runs of characters that are not blank, in order. -/
def words (s : Text) : List Text :=
  match _h : trimStart s with
  | [] => []
  | c :: cs =>
    (c :: cs.takeWhile (!isBlank ·)) :: words (cs.dropWhile (!isBlank ·))
termination_by s.length
decreasing_by
  have h₁ := length_dropWhile_le isBlank s
  have h₂ := length_dropWhile_le (!isBlank ·) cs
  rw [trimStart] at _h
  rw [_h, List.length_cons] at h₁
  omega

/-- A line without the carriage return that belongs to its line end. -/
def dropReturn (line : Text) : Text :=
  if line.getLast? = some '\r' then line.dropLast else line

/-- The lines of a text: each ends at a newline, or at a carriage return and a newline; what
follows the last newline is a line only when it is not empty. -/
def lines (s : Text) : List Text :=
  match s with
  | [] => []
  | c :: cs =>
    match _h : (c :: cs).dropWhile (· != '\n') with
    | [] => [c :: cs]
    | _ :: rest => dropReturn ((c :: cs).takeWhile (· != '\n')) :: lines rest
termination_by s.length
decreasing_by
  have h₁ := length_dropWhile_le (· != '\n') (c :: cs)
  rw [_h, List.length_cons] at h₁
  omega

/-- The parts that a separating character cuts a text into, one more than its occurrences. -/
def split (separator : Char) : Text → List Text
  | [] => [[]]
  | c :: cs =>
    if c = separator then [] :: split separator cs
    else match split separator cs with
      | [] => [[c]]
      | part :: parts => (c :: part) :: parts

/-- The parts with a separator between neighbours. -/
def join (separator : Text) : List Text → Text
  | [] => []
  | [part] => part
  | part :: next :: rest => part ++ separator ++ join separator (next :: rest)

/-- The lines, each followed by a newline. -/
def unlines (ls : List Text) : Text := ls.flatMap (· ++ ['\n'])

/-- The text between two double quotes, with nothing escaped. -/
def inQuotes (s : Text) : Text := '"' :: s ++ ['"']

/-- The number in decimal digits. -/
def ofNat (n : Nat) : Text := Nat.toDigits 10 n

/-- The number of bytes of the text in UTF-8. -/
def byteLength : Text → Nat
  | [] => 0
  | c :: s => c.utf8Size + byteLength s

@[simp] theorem words_nil : words [] = [] := by
  rw [words]; rfl

@[simp] theorem lines_nil : lines [] = [] := by
  rw [lines]

theorem split_ne_nil (separator : Char) (s : Text) : split separator s ≠ [] := by
  cases s with
  | nil => simp [split]
  | cons c cs =>
    rw [split]
    split
    · simp
    · split <;> simp

@[simp] theorem unlines_nil : unlines [] = [] := rfl

@[simp] theorem unlines_cons (l : Text) (ls : List Text) :
    unlines (l :: ls) = l ++ '\n' :: unlines ls := by
  simp [unlines]

@[simp] theorem unlines_append (k l : List Text) : unlines (k ++ l) = unlines k ++ unlines l := by
  simp [unlines]

@[simp] theorem byteLength_append (s t : Text) :
    byteLength (s ++ t) = byteLength s + byteLength t := by
  induction s with
  | nil => simp [byteLength]
  | cons c s ih => simp [byteLength, ih, Nat.add_assoc]

end Text
end CallTracer
