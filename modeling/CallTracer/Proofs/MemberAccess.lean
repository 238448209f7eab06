import CallTracer.Proofs.LineText
import CallTracer.Proofs.TokenReading
/-! The lines of a text and the member accesses on them. -/
namespace CallTracer.Text

variable {s t l : Text} {ls : List Text}

/-- The longest name that a text ends with. -/
def lastName (s : Text) : Text := (s.reverse.takeWhile Identifier.isPart).reverse

/-- The longest name that a text begins with. -/
def firstName (s : Text) : Text := s.takeWhile Identifier.isPart

/-- For each dot the name that ends before it and the name that begins behind it. `before` is the
text that stands before the given one. -/
def accessesAfter (before : Text) : Text → List (Text × Text)
  | [] => []
  | c :: cs =>
    if c = '.' then (lastName before, firstName cs) :: accessesAfter (before ++ [c]) cs
    else accessesAfter (before ++ [c]) cs

/-- The member accesses of a text, in order: what is accessed and which member. -/
def memberAccesses (s : Text) : List (Text × Text) := accessesAfter [] s

/-- Neither a dot nor a character of a line end. -/
def isPlainChar (c : Char) : Bool := c != '.' && c != '\n' && c != '\r'

/-- A text on one line and without accesses. -/
def Plain (s : Text) : Prop := s.all isPlainChar

/-- A text that stays one line when a newline is put behind it. -/
def IsLine (s : Text) : Prop := '\n' ∉ s ∧ s.getLast? ≠ some '\r'

instance (s : Text) : Decidable (Plain s) := inferInstanceAs (Decidable (_ = true))

instance (s : Text) : Decidable (IsLine s) := inferInstanceAs (Decidable (_ ∧ _))

@[simp] theorem firstName_append (s : Text) (ht : Token.endsName t) :
    firstName (s ++ t) = firstName s := (Token.takeWhile_isPart_append s ht).1

theorem firstName_of_isValid (h : Identifier.isValid s) : firstName s = s :=
  List.takeWhile_eq_self_iff.2 (Identifier.all_isPart_of_isValid h)

/-- No name runs on across the end of a text that does not end inside one. -/
theorem lastName_append (hs : Token.endsName s.reverse) (t : Text) :
    lastName (s ++ t) = lastName t := by
  unfold lastName
  rw [List.reverse_append, (Token.takeWhile_isPart_append t.reverse hs).1]

theorem lastName_of_isPart (h : ∀ c ∈ s, Identifier.isPart c) : lastName s = s := by
  have hp : ∀ c ∈ s.reverse, Identifier.isPart c := fun c hc => h c (List.mem_reverse.1 hc)
  rw [lastName, List.takeWhile_eq_self_iff.2 hp, List.reverse_reverse]

theorem lastName_of_isValid (h : Identifier.isValid s) : lastName s = s :=
  lastName_of_isPart (Identifier.all_isPart_of_isValid h)

theorem accessesAfter_append {before : Text} (h : '.' ∉ s) :
    accessesAfter before (s ++ t) = accessesAfter (before ++ s) t := by
  induction s generalizing before with
  | nil => simp
  | cons c s ih =>
    obtain ⟨hc, hs⟩ : '.' ≠ c ∧ '.' ∉ s := by simpa using h
    rw [List.cons_append, accessesAfter, if_neg (Ne.symm hc), ih hs]
    simp

theorem accessesAfter_of_not_mem {before : Text} (h : '.' ∉ s) : accessesAfter before s = [] := by
  have : accessesAfter before (s ++ []) = accessesAfter (before ++ s) [] := accessesAfter_append h
  rw [List.append_nil] at this
  rw [this, accessesAfter]

/-- What stands on an earlier line does not matter. -/
theorem accessesAfter_of_endsName {before : Text} (h : Token.endsName before.reverse) (s t : Text) :
    accessesAfter (before ++ s) t = accessesAfter s t := by
  induction t generalizing s with
  | nil => rfl
  | cons c t ih =>
    simp only [accessesAfter, List.append_assoc, ih, lastName_append h]

theorem accessesAfter_newline (before l t : Text) :
    accessesAfter before (l ++ '\n' :: t) = accessesAfter before l ++ memberAccesses t := by
  induction l generalizing before with
  | nil =>
    have hends : Token.endsName (before ++ ['\n']).reverse := by
      rw [List.reverse_append]
      rfl
    have := accessesAfter_of_endsName hends [] t
    simpa [accessesAfter, memberAccesses] using this
  | cons c l ih =>
    have hends : Token.endsName ('\n' :: t) := rfl
    by_cases hc : c = '.'
    · simp [accessesAfter, hc, ih, hends]
    · simp [accessesAfter, hc, ih]

/-- The lines of a text have their accesses apart from each other. -/
theorem memberAccesses_unlines (ls : List Text) :
    memberAccesses (unlines ls) = ls.flatMap memberAccesses := by
  induction ls with
  | nil => rfl
  | cons l ls ih =>
    rw [unlines_cons, memberAccesses, accessesAfter_newline, ih]
    rfl

/-- One access of a member of something named, between texts without dots. -/
theorem memberAccesses_access {holder member : Text} (hs : '.' ∉ s)
    (hends : Token.endsName s.reverse) (hholder : Identifier.isValid holder)
    (hmember : Identifier.isValid member) (ht : '.' ∉ t) (hstop : Token.endsName t) :
    memberAccesses (s ++ (holder ++ '.' :: (member ++ t))) = [(holder, member)] := by
  have hdot : Identifier.isPart '.' = false := rfl
  have hbefore : '.' ∉ s ++ holder := by
    simp [hs, Identifier.not_mem_of_isValid hholder hdot]
  have hbehind : '.' ∉ member ++ t := by
    simp [ht, Identifier.not_mem_of_isValid hmember hdot]
  rw [memberAccesses, ← List.append_assoc, accessesAfter_append hbefore, accessesAfter, if_pos rfl,
    accessesAfter_of_not_mem hbehind, firstName_append member hstop, firstName_of_isValid hmember,
    List.nil_append, lastName_append hends, lastName_of_isValid hholder]

theorem plain_nil : Plain [] := rfl

theorem plain_cons {c : Char} : Plain (c :: s) ↔ isPlainChar c ∧ Plain s := by
  simp only [Plain, List.all_cons, Bool.and_eq_true]

theorem plain_append : Plain (s ++ t) ↔ Plain s ∧ Plain t := by
  simp only [Plain, List.all_append, Bool.and_eq_true]

theorem Plain.not_mem (h : Plain s) (c : Char) (hc : isPlainChar c = false) : c ∉ s := by
  intro hmem
  rw [List.all_eq_true.1 h c hmem] at hc
  exact Bool.noConfusion hc

theorem Plain.isLine (h : Plain s) : IsLine s :=
  ⟨h.not_mem '\n' rfl, fun hc => h.not_mem '\r' rfl (List.mem_of_getLast? hc)⟩

theorem memberAccesses_of_plain (h : Plain s) : memberAccesses s = [] :=
  accessesAfter_of_not_mem (h.not_mem '.' rfl)

theorem isPlainChar_of_isPart {c : Char} (h : Identifier.isPart c) : isPlainChar c := by
  simp only [isPlainChar, Bool.and_eq_true, bne_iff_ne]
  refine ⟨⟨?_, ?_⟩, ?_⟩
  all_goals
    rintro rfl
    exact absurd h (by decide)

theorem plain_of_isValid (h : Identifier.isValid s) : Plain s :=
  List.all_eq_true.2 fun c hc => isPlainChar_of_isPart (Identifier.all_isPart_of_isValid h c hc)

theorem plain_join {separator : Text} {parts : List Text} (hs : Plain separator)
    (h : ∀ part ∈ parts, Plain part) : Plain (join separator parts) := by
  induction parts with
  | nil => exact plain_nil
  | cons part parts ih =>
    obtain ⟨hpart, hparts⟩ := List.forall_mem_cons.1 h
    cases parts with
    | nil => exact hpart
    | cons next parts => exact plain_append.2 ⟨plain_append.2 ⟨hpart, hs⟩, ih hparts⟩

theorem isLine_append (hs : '\n' ∉ s) (ht : IsLine t) (ne : t ≠ []) : IsLine (s ++ t) := by
  have hlast := List.getLast?_eq_some_getLast ne
  refine ⟨fun h => (List.mem_append.1 h).elim hs ht.1, ?_⟩
  rw [List.getLast?_append, hlast, Option.some_or, ← hlast]
  exact ht.2

theorem lines_append_newline (h : IsLine l) : lines (l ++ '\n' :: s) = l :: lines s := by
  rw [lines_append s h.1, dropReturn, if_neg h.2]

/-- Lines are read back from the text that they make. -/
theorem lines_unlines (h : ∀ l ∈ ls, IsLine l) : lines (unlines ls) = ls := by
  induction ls with
  | nil => rw [unlines_nil, lines_nil]
  | cons l ls ih =>
    obtain ⟨hl, hls⟩ := List.forall_mem_cons.1 h
    rw [unlines_cons, lines_append_newline hl, ih hls]

end CallTracer.Text
