import CallTracer.Proofs.TokenReading
import Mathlib.Data.List.Forall2
/-! Lexemes of the generated source: names, string literals and single marks. Texts that end outside
names and literals are read one after the other, and so are the arguments of a call. -/
namespace CallTracer

/-- A lexeme. The content of a literal is kept as it is written, with its escapes. -/
inductive Lexeme
  | name (text : Text)
  | literal (content : Text)
  | mark (char : Char)
  deriving DecidableEq, Repr

namespace Lexeme

/-- The lexemes of a text. `opened` is what stands before it in a literal that is still open. No
literal goes on over the end of a line or of the text. -/
def readFrom (opened : Option Text) (s : Text) : Option (List Lexeme) :=
  match opened, s with
  | none, [] => some []
  | some _, [] => none
  | some _, '\n' :: _ => none
  | some content, '"' :: s => (readFrom none s).map (.literal content :: ·)
  | some content, '\\' :: c :: s => readFrom (some (content ++ ['\\', c])) s
  | some content, c :: s => readFrom (some (content ++ [c])) s
  | none, c :: s =>
    if Text.isBlank c then readFrom none s
    else if c = '"' then readFrom (some []) s
    else if Identifier.isStart c then
      (readFrom none (s.dropWhile Identifier.isPart)).map
        (.name (c :: s.takeWhile Identifier.isPart) :: ·)
    else (readFrom none s).map (.mark c :: ·)
termination_by s.length
decreasing_by
  all_goals
    have := Text.length_dropWhile_le Identifier.isPart s
    simp only [List.length_cons]
    omega

def read (s : Text) : Option (List Lexeme) := readFrom none s

variable {opened : Option Text} {content s t n : Text} {c : Char} {ls : List Lexeme}

theorem readFrom_blank (h : Text.isBlank c) (s : Text) :
    readFrom none (c :: s) = readFrom none s := by
  rw [readFrom, if_pos h]

theorem readFrom_open (s : Text) : readFrom none ('"' :: s) = readFrom (some []) s := by
  rw [readFrom, if_neg (by decide), if_pos rfl]

theorem readFrom_start (h : Identifier.isStart c) (s : Text) : readFrom none (c :: s) =
    (readFrom none (s.dropWhile Identifier.isPart)).map
      (.name (c :: s.takeWhile Identifier.isPart) :: ·) := by
  have hb := Identifier.isBlank_of_isPart (Identifier.isPart_of_isStart h)
  have hq : c ≠ '"' := by
    rintro rfl
    exact Bool.noConfusion h
  rw [readFrom, if_neg (by simp [hb]), if_neg hq, if_pos h]

theorem readFrom_mark (hb : Text.isBlank c = false) (hq : c ≠ '"')
    (hs : Identifier.isStart c = false) (s : Text) :
    readFrom none (c :: s) = (readFrom none s).map (.mark c :: ·) := by
  rw [readFrom, if_neg (by simp [hb]), if_neg hq, if_neg (by simp [hs])]

/-- A text that ends outside of a literal is read apart from what stands behind it, if no name runs
on from it. -/
theorem readFrom_append (h : readFrom opened s = some ls) (ht : Token.endsName t) :
    readFrom opened (s ++ t) = (read t).map (ls ++ ·) := by
  fun_induction readFrom opened s generalizing ls with
  | case1 =>
    cases h
    simp [read]
  | case2 => cases h
  | case3 => cases h
  | case4 content s ih =>
    obtain ⟨us, hus, rfl⟩ := Option.map_eq_some_iff.1 h
    rw [List.cons_append, readFrom, ih hus, Option.map_map]
    rfl
  | case5 content c s ih => rw [List.cons_append, List.cons_append, readFrom, ih h]
  | case6 content c s hn hq hpair ih =>
    have hescape : c ≠ '\\' := by
      rintro rfl
      cases s with
      | nil => simp [readFrom] at h
      | cons d s => exact hpair d s rfl rfl
    rw [List.cons_append, readFrom, ih h]
    · exact hn
    · exact hq
    · exact fun _ _ he _ => hescape he
  | case7 c s hb ih => rw [List.cons_append, readFrom_blank hb, ih h]
  | case8 s hb ih => rw [List.cons_append, readFrom_open, ih h]
  | case9 c s hb hq hs ih =>
    obtain ⟨us, hus, rfl⟩ := Option.map_eq_some_iff.1 h
    obtain ⟨htake, hdrop⟩ := Token.takeWhile_isPart_append s ht
    rw [List.cons_append, readFrom_start hs, htake, hdrop, ih hus, Option.map_map]
    rfl
  | case10 c s hb hq hs ih =>
    obtain ⟨us, hus, rfl⟩ := Option.map_eq_some_iff.1 h
    rw [List.cons_append, readFrom_mark (by simpa using hb) hq (by simpa using hs), ih hus,
      Option.map_map]
    rfl

/-- Whether a text can stand in a literal as it is. -/
def Unescaped (s : Text) : Prop := ∀ c ∈ s, c ≠ '\n' ∧ c ≠ '"' ∧ c ≠ '\\'

instance (s : Text) : Decidable (Unescaped s) := List.decidableBAll _ s

theorem readFrom_content (h : Unescaped s) (content t : Text) :
    readFrom (some content) (s ++ t) = readFrom (some (content ++ s)) t := by
  induction s generalizing content with
  | nil => simp
  | cons c s ih =>
    obtain ⟨⟨hn, hq, hescape⟩, hs⟩ := List.forall_mem_cons.1 h
    rw [List.cons_append, readFrom, ih hs, List.append_assoc]
    · rfl
    · exact hn
    · exact hq
    · exact fun _ _ he _ => hescape he

theorem read_append {us : List Lexeme} (hs : read s = some us) (ht : Token.endsName t)
    (hls : read t = some ls) : read (s ++ t) = some (us ++ ls) := by
  rw [read, readFrom_append hs ht, hls]
  rfl

theorem read_name (h : Identifier.isValid n) : read n = some [.name n] := by
  cases n with
  | nil => exact Bool.noConfusion h
  | cons c n =>
    simp only [Identifier.isValid_cons, Bool.and_eq_true, List.all_eq_true] at h
    rw [read, readFrom_start h.1, List.takeWhile_eq_self_iff.2 h.2, List.dropWhile_eq_nil_iff.2 h.2,
      readFrom]
    rfl

/-- Texts with commas between them have their lexemes with commas between them. -/
theorem read_join {parts : List Text} {lss : List (List Lexeme)}
    (h : List.Forall₂ (fun part ls => read part = some ls) parts lss) :
    read (Text.join ", ".toList parts) = some (List.intercalate [.mark ','] lss) := by
  induction h with
  | nil => simp [Text.join, read, readFrom]
  | @cons part ls parts lss hpart hparts ih =>
    cases hparts with
    | nil => simpa [Text.join] using hpart
    | @cons next us parts lss hnext hparts =>
      have htail : read (',' :: ' ' :: Text.join ", ".toList (next :: parts)) =
          some (.mark ',' :: List.intercalate [.mark ','] (us :: lss)) := by
        rw [read, readFrom_mark rfl (by decide) rfl, readFrom_blank rfl]
        exact congrArg (Option.map _) ih
      have := read_append hpart rfl htail
      simpa [Text.join, List.intercalate_cons_cons] using this

/-- The arguments of a call and what stands behind it, from the lexemes behind the opening
parenthesis: a comma separates arguments where `depth` counts no further open parenthesis. `begun`
is what is already read of the first argument. -/
def arguments? (depth : Nat) (begun : List Lexeme) :
    List Lexeme → Option (List (List Lexeme) × List Lexeme)
  | [] => none
  | .mark '(' :: ls => arguments? (depth + 1) (begun ++ [.mark '(']) ls
  | .mark ')' :: ls =>
    match depth with
    | 0 => some ([begun], ls)
    | depth + 1 => arguments? depth (begun ++ [.mark ')']) ls
  | .mark ',' :: ls =>
    match depth with
    | 0 => (arguments? 0 [] ls).map fun r => (begun :: r.1, r.2)
    | depth + 1 => arguments? (depth + 1) (begun ++ [.mark ',']) ls
  | l :: ls => arguments? depth (begun ++ [l]) ls

/-- Whether lexemes are one argument wherever they stand. -/
def IsArgument (ls : List Lexeme) : Prop :=
  ∀ depth begun rest, arguments? depth begun (ls ++ rest) = arguments? depth (begun ++ ls) rest

theorem IsArgument.append {us : List Lexeme} (h : IsArgument ls) (hus : IsArgument us) :
    IsArgument (ls ++ us) := by
  intro depth begun rest
  rw [List.append_assoc, h, hus, List.append_assoc]

theorem isArgument_of_no_mark (h : ∀ l ∈ ls, ∀ c, l ≠ .mark c) : IsArgument ls := by
  intro depth begun rest
  induction ls generalizing begun with
  | nil => simp
  | cons l ls ih =>
    obtain ⟨hl, hls⟩ := List.forall_mem_cons.1 h
    rw [List.cons_append, arguments?, ih hls]
    all_goals simp_all

theorem IsArgument.parenthesized (h : IsArgument ls) :
    IsArgument (.mark '(' :: ls ++ [.mark ')']) := by
  intro depth begun rest
  rw [List.append_assoc, List.cons_append, arguments?, h, List.singleton_append, arguments?]
  simp

/-- Arguments are found again between their commas. -/
theorem arguments?_intercalate {lss : List (List Lexeme)} (h : ∀ us ∈ lss, IsArgument us)
    (hls : IsArgument ls) (rest : List Lexeme) :
    arguments? 0 [] (List.intercalate [.mark ','] (ls :: lss) ++ .mark ')' :: rest) =
      some (ls :: lss, rest) := by
  induction lss generalizing ls with
  | nil => rw [List.intercalate_singleton, hls, arguments?]; simp
  | cons us lss ih =>
    obtain ⟨hus, hlss⟩ := List.forall_mem_cons.1 h
    rw [List.intercalate_cons_cons, List.append_assoc, List.append_assoc, hls,
      List.singleton_append, arguments?]
    simp [ih hlss hus]

/-- The arguments of the call that a statement consists of. -/
def callArguments? (function statement : Text) : Option (List (List Lexeme)) := do
  match ← read statement with
  | .name f :: .mark '(' :: ls =>
    if f = function then
      match ← arguments? 0 [] ls with
      | (arguments, [.mark ';']) => some arguments
      | _ => none
    else none
  | _ => none

theorem callArguments?_of_read {function statement : Text} {lss : List (List Lexeme)}
    (hread : read statement = some (.name function :: .mark '(' :: ls))
    (h : arguments? 0 [] ls = some (lss, [.mark ';'])) :
    callArguments? function statement = some lss := by
  rw [callArguments?, hread]
  simp [h]

end Lexeme
end CallTracer
