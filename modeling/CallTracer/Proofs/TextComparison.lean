import CallTracer.Comparison
import CallTracer.Proofs.BestAlignment
import Mathlib.Data.List.Forall2
/-! A comparison of two texts succeeds exactly if they are equal, and what it prints is a smallest
script of changes that leads from the lines of one to those of the other. -/
namespace CallTracer.Comparison
open Change

def isBreak (c : Char) : Bool := c == '\n' || c == '\r'

/-- The end of a line before what follows it. A carriage return takes a newline behind it along. -/
inductive IsEnd : Text → Text → Prop
  | newline {later : Text} : IsEnd ['\n'] later
  | returnNewline {later : Text} : IsEnd ['\r', '\n'] later
  | loneReturn {later : Text} (alone : later.head? ≠ some '\n') : IsEnd ['\r'] later

/-- The lines of a text, with their ends. Only the last may lack one, unless it is empty. -/
inductive AreLines : List Text → Prop
  | nil : AreLines []
  | unended {body : Text} (plain : ∀ c ∈ body, isBreak c = false) (nonempty : body ≠ []) :
      AreLines [body]
  | ended {body ending : Text} {lines : List Text} (plain : ∀ c ∈ body, isBreak c = false)
      (isEnd : IsEnd ending lines.flatten) (rest : AreLines lines) :
      AreLines ((body ++ ending) :: lines)

/-- A line that is printed on a line of its own: a newline is added if it has no end. -/
inductive Completed : Text → Text → Prop
  | ended (body : Text) {last : Char} (isEnd : isBreak last) :
      Completed (body ++ [last]) (body ++ [last])
  | unended {l : Text} (noEnd : ∀ last ∈ l.getLast?, isBreak last = false) :
      Completed l (l ++ ['\n'])

/-- What is printed for a change. -/
inductive IsShown : Change Text → Text → Prop
  | kept {l shown : Text} (h : Completed l shown) : IsShown (.kept l) (" | ".toList ++ shown)
  | removed {l shown : Text} (h : Completed l shown) : IsShown (.removed l) ("-| ".toList ++ shown)
  | added {l shown : Text} (h : Completed l shown) : IsShown (.added l) ("+| ".toList ++ shown)

/-- What changes are printed as: each as it is shown, and one more newline if one of them changes
something. -/
def IsPrinted (cs : List (Change Text)) (printed : Text) : Prop :=
  ∃ shown extra, List.Forall₂ IsShown cs shown ∧ printed = shown.flatten ++ extra ∧
    (extra = ['\n'] ↔ ∃ c ∈ cs, c.isKept = false) ∧ (extra = [] ↔ ∀ c ∈ cs, c.isKept)

/-- A smallest script of changes from the lines of one text to those of another: it keeps as many as
there are in a longest common subsequence. -/
structure IsScript (left right : Text) (cs : List (Change Text)) : Prop where
  leftLines : lefts cs = pieces left
  rightLines : rights cs = pieces right
  longest : IsGreatest {n | ∃ ls : List Text, ls.Sublist (pieces left) ∧
    ls.Sublist (pieces right) ∧ ls.length = n} (keptCount cs)

/-- A smallest script in the order in which it is printed. -/
structure IsDiff (left right : Text) (cs : List (Change Text)) : Prop extends
    IsScript left right cs where
  leftText : (lefts cs).flatten = left
  rightText : (rights cs).flatten = right
  removalsFirst : RemovalsFirst cs
  printed : IsPrinted cs (print cs)

variable {c : Char} {body ending later l shown left right : Text} {ls : List Text}
  {cs : List (Change Text)}

section Lines

theorem pieces_plain (hc : isBreak c = false) (s : Text) :
    pieces (c :: s) = (c :: (pieces s).headD []) :: (pieces s).tail := by
  simp only [isBreak, Bool.or_eq_false_iff, beq_eq_false_iff_ne] at hc
  rw [pieces, if_neg (not_or.2 hc)]
  · cases pieces s <;> rfl
  · rintro s rfl
    exact absurd rfl hc.2

theorem pieces_end (h : IsEnd ending later) :
    pieces (ending ++ later) = ending :: pieces later := by
  cases h with
  | newline =>
    rw [List.singleton_append, pieces, if_pos (.inl rfl)]
    simp
  | returnNewline => rw [List.cons_append, List.singleton_append, pieces]
  | loneReturn alone =>
    rw [List.singleton_append, pieces, if_pos (.inr rfl)]
    rintro s - rfl
    exact alone rfl

theorem pieces_append (plain : ∀ c ∈ body, isBreak c = false) (h : pieces later = l :: ls) :
    pieces (body ++ later) = (body ++ l) :: ls := by
  induction body with
  | nil => exact h
  | cons c body ih =>
    obtain ⟨hc, hbody⟩ := List.forall_mem_cons.1 plain
    rw [List.cons_append, pieces_plain hc, ih hbody, List.headD_cons, List.tail_cons,
      List.cons_append]

theorem pieces_of_plain (plain : ∀ c ∈ body, isBreak c = false) (nonempty : body ≠ []) :
    pieces body = [body] := by
  obtain ⟨front, c, rfl⟩ := (List.eq_nil_or_concat' body).resolve_left nonempty
  obtain ⟨hfront, hc⟩ := List.forall_mem_append.1 plain
  have hlast : pieces [c] = [[c]] := by
    rw [pieces_plain (hc c (by simp)), pieces, List.headD_nil, List.tail_nil]
  exact pieces_append hfront hlast

theorem pieces_flatten (h : AreLines ls) : pieces ls.flatten = ls := by
  induction h with
  | nil => rw [List.flatten_nil, pieces]
  | unended plain nonempty => rw [List.flatten_singleton, pieces_of_plain plain nonempty]
  | ended plain isEnd rest ih =>
    rw [List.flatten_cons, List.append_assoc, pieces_append plain (pieces_end isEnd), ih]

theorem areLines_pieces (s : Text) : AreLines (pieces s) := by
  fun_induction pieces s with
  | case1 => exact .nil
  | case2 s ih => exact .ended (List.forall_mem_nil _) .returnNewline ih
  | case3 c s halone hc ih =>
    rcases hc with rfl | rfl
    · exact .ended (List.forall_mem_nil _) .newline ih
    · refine .ended (List.forall_mem_nil _) (.loneReturn fun h => ?_) ih
      rw [flatten_pieces] at h
      obtain ⟨t, rfl⟩ := List.head?_eq_some_iff.1 h
      exact halone t rfl rfl
  | case4 c s _ hc _ =>
    exact .unended (by simpa [isBreak] using hc) (by simp)
  | case5 c s _ hc l ls hpieces ih =>
    have hplain : isBreak c = false := by simpa [isBreak] using hc
    rw [hpieces] at ih
    cases ih with
    | unended plain _ => exact .unended (List.forall_mem_cons.2 ⟨hplain, plain⟩) (by simp)
    | ended plain isEnd rest => exact .ended (List.forall_mem_cons.2 ⟨hplain, plain⟩) isEnd rest

/-- A text has one division into lines. -/
theorem pieces_eq_iff : pieces left = ls ↔ AreLines ls ∧ ls.flatten = left := by
  constructor
  · rintro rfl
    exact ⟨areLines_pieces left, flatten_pieces left⟩
  · rintro ⟨hlines, rfl⟩
    exact pieces_flatten hlines

end Lines

section Printing

theorem completed (l : Text) : Completed l (l ++ if hasEnd l then [] else ['\n']) := by
  split
  · rename_i h
    have hne : l ≠ [] := by
      rintro rfl
      cases h
    obtain ⟨body, last, rfl⟩ := (List.eq_nil_or_concat' l).resolve_left hne
    rw [List.append_nil]
    exact .ended body (by simpa [hasEnd, isBreak] using h)
  · rename_i h
    refine .unended fun last hlast => ?_
    rw [Option.mem_def] at hlast
    simpa [hasEnd, isBreak, hlast] using h

theorem isShown_printChange (c : Change Text) : IsShown c (printChange c) := by
  rw [printChange, List.append_assoc]
  cases c with
  | kept l => exact .kept (completed l)
  | removed l => exact .removed (completed l)
  | added l => exact .added (completed l)

theorem differs_eq_false_iff : differs cs = false ↔ ∀ c ∈ cs, c.isKept := by
  simp [differs]

theorem isPrinted_print (cs : List (Change Text)) : IsPrinted cs (print cs) := by
  have hshown : List.Forall₂ IsShown cs (cs.map printChange) :=
    List.forall₂_map_right_iff.2 (List.forall₂_same.2 fun c _ => isShown_printChange c)
  refine ⟨cs.map printChange, if differs cs then ['\n'] else [], hshown, ?_, ?_, ?_⟩
  · rw [print, List.flatMap_def]
  · simp [differs]
  · simp [differs]

end Printing

section Scripts

theorem isScript_of_le (hleft : lefts cs = pieces left) (hright : rights cs = pieces right)
    (hle : ∀ ls : List Text, ls.Sublist (pieces left) → ls.Sublist (pieces right) →
      ls.length ≤ keptCount cs) : IsScript left right cs := by
  refine ⟨hleft, hright, ?_, ?_⟩
  · obtain ⟨ls, hls, hrs, hlength⟩ := exists_common cs
    exact ⟨ls, hleft ▸ hls, hright ▸ hrs, hlength⟩
  · rintro n ⟨ls, hls, hrs, rfl⟩
    exact hle ls hls hrs

theorem isScript_find (left right : Text) :
    IsScript left right (Alignment.find (pieces left) (pieces right)).changes := by
  rw [Alignment.find_eq_best]
  obtain ⟨hleft, hright, hcount⟩ := Alignment.aligns_best (pieces left) (pieces right)
  refine isScript_of_le hleft hright fun ls hls hrs => ?_
  rw [hcount]
  exact Alignment.length_le_kept_best hls hrs

theorem IsScript.isDiff (h : IsScript left right cs) :
    IsDiff left right (Change.removalsFirst [] cs) := by
  have hleft : lefts (Change.removalsFirst [] cs) = pieces left :=
    (lefts_removalsFirst lefts_nil cs).trans h.leftLines
  have hright : rights (Change.removalsFirst [] cs) = pieces right :=
    (rights_removalsFirst [] cs).trans h.rightLines
  refine ⟨⟨hleft, hright, ?_⟩, ?_, ?_, removalsFirst_spec lefts_nil cs, isPrinted_print _⟩
  · rw [keptCount_removalsFirst]
    exact h.longest
  · rw [hleft, flatten_pieces]
  · rw [hright, flatten_pieces]

/-- A smallest script changes something exactly if the texts differ. -/
theorem IsDiff.differs_eq_false_iff (h : IsDiff left right cs) :
    differs cs = false ↔ left = right := by
  rw [Comparison.differs_eq_false_iff]
  constructor
  · intro hkept
    rw [← h.leftText, ← h.rightText, lefts_eq_rights_of_isKept hkept]
  · rintro rfl
    -- The text is a common subsequence itself, so there is room for nothing but kept lines.
    have hsides := length_sides cs
    rw [h.leftLines, h.rightLines] at hsides
    have hall := h.longest.2 ⟨pieces left, .refl _, .refl _, rfl⟩
    have hcount : keptCount cs ≤ cs.length := List.countP_le_length
    exact List.countP_eq_length.1 (show keptCount cs = cs.length by omega)

end Scripts

theorem check_eq (left right : Text) :
    check left right = if left = right then .ok () else .error .differentTexts := by
  have hdiffers := (isScript_find left right).isDiff.differs_eq_false_iff
  rw [check, changes]
  by_cases h : left = right
  · rw [if_pos h, hdiffers.2 h]
    rfl
  · rw [if_neg h, if_pos (eq_true_of_ne_false (mt hdiffers.1 h))]

/-- What a comparison of two texts comes to. It succeeds exactly if they are equal. It prints a
smallest script from the lines of one to those of the other, with the removals of every changed
region first and a newline behind it if anything is changed; the same holds of any other smallest
script. A text has one division into lines, whatever their ends. -/
theorem compare_exact (left right : Text) :
    (check left right = .ok () ↔ left = right) ∧
    (check left right = .error .differentTexts ↔ left ≠ right) ∧
    IsDiff left right (changes left right) ∧
    (∀ script, IsScript left right script → IsDiff left right (Change.removalsFirst [] script) ∧
      (differs (Change.removalsFirst [] script) = false ↔ left = right)) ∧
    ∀ text ls, pieces text = ls ↔ AreLines ls ∧ ls.flatten = text := by
  refine ⟨?_, ?_, (isScript_find left right).isDiff,
    fun script h => ⟨h.isDiff, h.isDiff.differs_eq_false_iff⟩, fun text ls => pieces_eq_iff⟩
  · rw [check_eq]
    split <;> simp [*]
  · rw [check_eq]
    split <;> simp [*]

/-- All three kinds of line ends; a line without one differs from the same line with one. -/
theorem compare_exact_mixed_ends :
    let left := "x\r\ny\rz".toList
    let right := "x\r\nz\nw".toList
    let script := (Alignment.find (pieces left) (pieces right)).changes
    print (changes left right) = " | x\r\n-| y\r-| z\n+| z\n+| w\n\n".toList ∧
      left ≠ right ∧ check left right = .error .differentTexts ∧
      IsScript left right script ∧ IsDiff left right (Change.removalsFirst [] script) := by
  intro left right script
  obtain ⟨-, herror, -, hscript, -⟩ := compare_exact left right
  have hne : left ≠ right := by decide
  have hsmallest : IsScript left right script := isScript_find left right
  exact ⟨by decide +kernel, hne, herror.2 hne, hsmallest, (hscript script hsmallest).1⟩

end CallTracer.Comparison
