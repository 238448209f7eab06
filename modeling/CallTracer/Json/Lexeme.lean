import CallTracer.Text
/-! The lexemes of JSON: blanks, words, strings and numbers, each read from the front of a text. -/
namespace CallTracer.Json

/-- Why a text is not JSON: it has something else than JSON allows, or it ends too early. -/
inductive Fault
  | malformed (remark : Text)
  | ended (remark : Text)
  deriving DecidableEq, Repr

def Fault.remark : Fault → Text
  | malformed r | ended r => r

def isBlank (c : Char) : Bool := c == ' ' || c == '\n' || c == '\t' || c == '\r'

def skipBlank (s : Text) : Text := s.dropWhile isBlank

theorem length_skipBlank_le (s : Text) : (skipBlank s).length ≤ s.length :=
  Text.length_dropWhile_le isBlank s

theorem length_lt_of_skipBlank {s r : Text} {c : Char} (h : skipBlank s = c :: r) :
    r.length < s.length := by
  have := length_skipBlank_le s
  rw [h, List.length_cons] at this
  omega

/-- Reads the characters of a word such as `null`. -/
def readWord : Text → Text → Except Fault Text
  | [], s => .ok s
  | _ :: _, [] => .error (.ended "EOF while parsing a value".toList)
  | w :: ws, c :: s =>
    if w = c then readWord ws s else .error (.malformed "expected ident".toList)

theorem length_readWord_le {w s r : Text} (h : readWord w s = .ok r) : r.length ≤ s.length := by
  fun_induction readWord w s with
  | case1 => simp_all
  | case2 => simp at h
  | case3 _ _ _ ih => exact Nat.le_succ_of_le (ih h)
  | case4 => simp at h

def hexDigit? (c : Char) : Option Nat :=
  if c.isDigit then some (c.toNat - '0'.toNat)
  else if 'a' ≤ c ∧ c ≤ 'f' then some (c.toNat - 'a'.toNat + 10)
  else if 'A' ≤ c ∧ c ≤ 'F' then some (c.toNat - 'A'.toNat + 10)
  else none

/-- Reads the four hexadecimal digits of a code unit. -/
def readUnit (s : Text) : Except Fault (Nat × Text) :=
  if Text.byteLength (s.take 4) < 4 then .error (.ended "EOF while parsing a string".toList)
  else match s with
    | a :: b :: c :: d :: r =>
      match hexDigit? a, hexDigit? b, hexDigit? c, hexDigit? d with
      | some a, some b, some c, some d => .ok (((a * 16 + b) * 16 + c) * 16 + d, r)
      | _, _, _, _ => .error (.malformed "invalid escape".toList)
    | _ => .error (.malformed "invalid escape".toList)

theorem length_readUnit_lt {s r : Text} {n : Nat} (h : readUnit s = .ok (n, r)) :
    r.length < s.length := by
  unfold readUnit at h
  split at h
  · simp at h
  · split at h
    · split at h
      · simp only [Except.ok.injEq, Prod.mk.injEq] at h
        obtain ⟨-, rfl⟩ := h
        simp only [List.length_cons]
        omega
      · simp at h
    · simp at h

def isLeading (n : Nat) : Bool := 0xD800 ≤ n && n < 0xDC00

def isTrailing (n : Nat) : Bool := 0xDC00 ≤ n && n < 0xE000

/-- The character that a leading and a trailing surrogate name together. -/
def joinSurrogates (leading trailing : Nat) : Char :=
  Char.ofNat (0x10000 + (leading - 0xD800) * 0x400 + (trailing - 0xDC00))

/-- Reads the trailing half of a pair of escaped surrogates. -/
def readTrailing (leading : Nat) : Text → Except Fault (Char × Text)
  | [] | ['\\'] => .error (.ended "EOF while parsing a string".toList)
  | '\\' :: 'u' :: s => do
    let (n, r) ← readUnit s
    if isTrailing n then .ok (joinSurrogates leading n, r)
    else .error (.malformed "lone leading surrogate in hex escape".toList)
  | _ => .error (.malformed "unexpected end of hex escape".toList)

theorem length_readTrailing_lt {l : Nat} {s r : Text} {c : Char}
    (h : readTrailing l s = .ok (c, r)) : r.length < s.length := by
  unfold readTrailing at h
  split at h
  · simp at h
  · simp at h
  · rename_i s'
    cases hu : readUnit s' with
    | error e => simp [hu, bind, Except.bind] at h
    | ok p =>
      obtain ⟨n, q⟩ := p
      have := length_readUnit_lt hu
      simp only [hu, bind, Except.bind] at h
      split at h
      · simp only [Except.ok.injEq, Prod.mk.injEq] at h
        obtain ⟨-, rfl⟩ := h
        simp only [List.length_cons]
        omega
      · simp at h
  · simp at h

def simpleEscape? : Char → Option Char
  | '"' => some '"'
  | '\\' => some '\\'
  | '/' => some '/'
  | 'b' => some '\x08'
  | 'f' => some '\x0c'
  | 'n' => some '\n'
  | 'r' => some '\r'
  | 't' => some '\t'
  | _ => none

/-- Reads what follows the backslash of an escape. -/
def readEscape : Text → Except Fault (Char × Text)
  | [] => .error (.ended "EOF while parsing a string".toList)
  | 'u' :: s => do
    let (n, r) ← readUnit s
    if isTrailing n then .error (.malformed "lone leading surrogate in hex escape".toList)
    else if isLeading n then readTrailing n r
    else .ok (Char.ofNat n, r)
  | e :: s =>
    match simpleEscape? e with
    | some c => .ok (c, s)
    | none => .error (.malformed "invalid escape".toList)

theorem length_readEscape_lt {s r : Text} {c : Char} (h : readEscape s = .ok (c, r)) :
    r.length < s.length := by
  unfold readEscape at h
  split at h
  · simp at h
  · rename_i s'
    cases hu : readUnit s' with
    | error e => simp [hu, bind, Except.bind] at h
    | ok p =>
      obtain ⟨n, q⟩ := p
      have := length_readUnit_lt hu
      simp only [hu, bind, Except.bind] at h
      split at h
      · simp at h
      · split at h
        · have := length_readTrailing_lt h
          simp only [List.length_cons]
          omega
        · simp only [Except.ok.injEq, Prod.mk.injEq] at h
          obtain ⟨-, rfl⟩ := h
          simp only [List.length_cons]
          omega
  · split at h
    · simp only [Except.ok.injEq, Prod.mk.injEq] at h
      obtain ⟨-, rfl⟩ := h
      simp
    · simp at h

def controlFault : Fault :=
  .malformed "control character (\\u0000-\\u001F) found while parsing a string".toList

/-- Reads the rest of a string, its closing quote included. -/
def readString (s : Text) : Except Fault (Text × Text) :=
  match s with
  | [] => .error (.ended "EOF while parsing a string".toList)
  | '"' :: r => .ok ([], r)
  | '\\' :: e =>
    match _h : readEscape e with
    | .ok (c, r) => (readString r).map fun p => (c :: p.1, p.2)
    | .error f => .error f
  | c :: r =>
    if c.toNat < 0x20 then .error controlFault
    else (readString r).map fun p => (c :: p.1, p.2)
termination_by s.length
decreasing_by
  · have := length_readEscape_lt _h
    simp only [List.length_cons]
    omega
  · simp

theorem length_readString_lt {s r t : Text} (h : readString s = .ok (t, r)) :
    r.length < s.length := by
  fun_induction readString s generalizing t with
  | case1 => simp at h
  | case2 r' =>
    simp only [Except.ok.injEq, Prod.mk.injEq] at h
    obtain ⟨-, rfl⟩ := h
    simp
  | case3 e c q hq ih =>
    cases hr : readString q with
    | error f => simp [hr, Except.map] at h
    | ok p =>
      simp only [hr, Except.map, Except.ok.injEq, Prod.mk.injEq] at h
      have := length_readEscape_lt hq
      have := ih (t := p.1) (by rw [hr, ← h.2])
      simp only [List.length_cons]
      omega
  | case4 => simp at h
  | case5 => simp at h
  | case6 c q _ _ _ ih =>
    cases hr : readString q with
    | error f => simp [hr, Except.map] at h
    | ok p =>
      simp only [hr, Except.map, Except.ok.injEq, Prod.mk.injEq] at h
      have := ih (t := p.1) (by rw [hr, ← h.2])
      simp only [List.length_cons]
      omega

/-- Passes over the rest of a string whose value nobody asks for: escapes have to be well formed,
but surrogates may stand alone. -/
def skipString (s : Text) : Except Fault Text :=
  match s with
  | [] => .error (.ended "EOF while parsing a string".toList)
  | '"' :: r => .ok r
  | ['\\'] => .error (.ended "EOF while parsing a string".toList)
  | '\\' :: 'u' :: e =>
    match _h : readUnit e with
    | .ok (_, r) => skipString r
    | .error f => .error f
  | '\\' :: e :: r =>
    if (simpleEscape? e).isSome then skipString r
    else .error (.malformed "invalid escape".toList)
  | c :: r => if c.toNat < 0x20 then .error controlFault else skipString r
termination_by s.length
decreasing_by
  · have := length_readUnit_lt _h
    simp only [List.length_cons]
    omega
  · simp only [List.length_cons]
    omega
  · simp

theorem length_skipString_lt {s r : Text} (h : skipString s = .ok r) : r.length < s.length := by
  fun_induction skipString s with
  | case1 => simp at h
  | case2 r' =>
    simp only [Except.ok.injEq] at h
    subst h
    simp
  | case3 => simp at h
  | case4 e n q hq ih =>
    have := length_readUnit_lt hq
    have := ih h
    simp only [List.length_cons]
    omega
  | case5 => simp at h
  | case6 e q _ _ ih =>
    have := ih h
    simp only [List.length_cons]
    omega
  | case7 => simp at h
  | case8 => simp at h
  | case9 c q _ _ _ _ _ ih =>
    have := ih h
    simp only [List.length_cons]
    omega

/-- A number as it is written: its sign, the digits before and after the point, and the sign and
digits of its exponent. -/
structure Number where
  negative : Bool
  whole : Text
  fraction : Option Text
  exponent : Option (Bool × Text)
  deriving DecidableEq, Repr

/-- Reads digits, at least one. -/
def readDigits (s : Text) : Except Fault (Text × Text) :=
  match s with
  | [] => .error (.ended "EOF while parsing a value".toList)
  | c :: _ =>
    if c.isDigit then .ok (s.takeWhile Char.isDigit, s.dropWhile Char.isDigit)
    else .error (.malformed "invalid number".toList)

/-- Reads the digits before the point: a zero stands there alone. -/
def readWhole (s : Text) : Except Fault (Text × Text) :=
  match s with
  | '0' :: r =>
    if (r.head?.map Char.isDigit).getD false then .error (.malformed "invalid number".toList)
    else .ok (['0'], r)
  | _ => readDigits s

def readFraction (s : Text) : Except Fault (Option Text × Text) :=
  match s with
  | '.' :: r => (readDigits r).map fun p => (some p.1, p.2)
  | _ => .ok (none, s)

/-- Reads the sign of an exponent, which may be missing: whether it is a minus. -/
def readSign : Text → Bool × Text
  | '-' :: s => (true, s)
  | '+' :: s => (false, s)
  | s => (false, s)

def readExponent (s : Text) : Except Fault (Option (Bool × Text) × Text) :=
  match s with
  | 'e' :: r | 'E' :: r =>
    (readDigits (readSign r).2).map fun p => (some ((readSign r).1, p.1), p.2)
  | _ => .ok (none, s)

def readUnsigned (negative : Bool) (s : Text) : Except Fault (Number × Text) := do
  let (whole, s) ← readWhole s
  let (fraction, s) ← readFraction s
  let (exponent, s) ← readExponent s
  return (⟨negative, whole, fraction, exponent⟩, s)

def readNumber : Text → Except Fault (Number × Text)
  | '-' :: s => readUnsigned true s
  | s => readUnsigned false s

theorem length_readDigits_lt {s r t : Text} (h : readDigits s = .ok (t, r)) :
    r.length < s.length := by
  unfold readDigits at h
  split at h
  · simp at h
  · rename_i c cs
    split at h
    · rename_i hc
      simp only [Except.ok.injEq, Prod.mk.injEq] at h
      obtain ⟨-, rfl⟩ := h
      rw [List.dropWhile_cons_of_pos hc]
      have := Text.length_dropWhile_le Char.isDigit cs
      simp only [List.length_cons]
      omega
    · simp at h

theorem length_readWhole_lt {s r t : Text} (h : readWhole s = .ok (t, r)) :
    r.length < s.length := by
  unfold readWhole at h
  split at h
  · split at h
    · simp at h
    · simp only [Except.ok.injEq, Prod.mk.injEq] at h
      obtain ⟨-, rfl⟩ := h
      simp
  · exact length_readDigits_lt h

theorem length_le_of_map_readDigits {α : Type} {f : Text → α} {s r : Text} {a : α}
    (h : ((readDigits s).map fun p => (f p.1, p.2)) = .ok (a, r)) : r.length ≤ s.length := by
  cases hd : readDigits s with
  | error e => simp [hd, Except.map] at h
  | ok p =>
    simp only [hd, Except.map, Except.ok.injEq, Prod.mk.injEq] at h
    have := length_readDigits_lt (t := p.1) (r := r) (by rw [hd, ← h.2])
    omega

theorem length_readFraction_le {s r : Text} {t : Option Text}
    (h : readFraction s = .ok (t, r)) : r.length ≤ s.length := by
  unfold readFraction at h
  split at h
  · exact Nat.le_succ_of_le (length_le_of_map_readDigits h)
  · simp_all

theorem length_readSign_le (s : Text) : (readSign s).2.length ≤ s.length := by
  unfold readSign
  split <;> simp

theorem length_readExponent_le {s r : Text} {t : Option (Bool × Text)}
    (h : readExponent s = .ok (t, r)) : r.length ≤ s.length := by
  unfold readExponent at h
  split at h
  · rename_i q
    have := length_le_of_map_readDigits (f := fun d => some ((readSign q).1, d)) h
    have := length_readSign_le q
    simp only [List.length_cons]
    omega
  · rename_i q
    have := length_le_of_map_readDigits (f := fun d => some ((readSign q).1, d)) h
    have := length_readSign_le q
    simp only [List.length_cons]
    omega
  · simp_all

theorem length_readUnsigned_lt {b : Bool} {s r : Text} {n : Number}
    (h : readUnsigned b s = .ok (n, r)) : r.length < s.length := by
  unfold readUnsigned at h
  cases hw : readWhole s with
  | error e => simp [hw, bind, Except.bind] at h
  | ok p =>
    obtain ⟨w, s₁⟩ := p
    have := length_readWhole_lt hw
    simp only [hw, bind, Except.bind] at h
    cases hf : readFraction s₁ with
    | error e => simp [hf] at h
    | ok p =>
      obtain ⟨f, s₂⟩ := p
      have := length_readFraction_le hf
      simp only [hf] at h
      cases he : readExponent s₂ with
      | error e => simp [he] at h
      | ok p =>
        obtain ⟨e, s₃⟩ := p
        have := length_readExponent_le he
        simp only [he, pure, Except.pure, Except.ok.injEq, Prod.mk.injEq] at h
        obtain ⟨-, rfl⟩ := h
        omega

theorem length_readNumber_lt {s r : Text} {n : Number} (h : readNumber s = .ok (n, r)) :
    r.length < s.length := by
  unfold readNumber at h
  split at h
  · exact Nat.lt_succ_of_lt (length_readUnsigned_lt h)
  · exact length_readUnsigned_lt h

example : readString "a\\u00e9\\\"b\" x".toList = .ok ("aé\"b".toList, " x".toList) := by cbv
example : readNumber "-1.50e+3,".toList =
    .ok (⟨true, "1".toList, some "50".toList, some (false, "3".toList)⟩, ",".toList) := by cbv
example : readNumber "01".toList = .error (.malformed "invalid number".toList) := by cbv

end CallTracer.Json
