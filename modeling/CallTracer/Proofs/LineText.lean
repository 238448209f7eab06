import CallTracer.Text
import Mathlib.Data.List.TakeWhile
/-! Texts as lines: a text is a last line, or a line, a newline and a further text. The lines are
the parts between the newlines but for carriage returns and a last empty part, neither of which
shows in the words of a line or in the line without blanks around it. -/
namespace CallTracer.Text

variable {s t : Text} {c separator : Char}

/-- Induction on the parts of a text between the occurrences of a character. -/
@[elab_as_elim] theorem induction_parts (separator : Char) {motive : Text → Prop}
    (last : ∀ s, separator ∉ s → motive s)
    (part : ∀ s t, separator ∉ s → motive t → motive (s ++ separator :: t)) (s : Text) :
    motive s := by
  by_cases h : separator ∈ s
  · obtain ⟨l, t, hs, hl⟩ := List.eq_append_cons_of_mem h
    rw [hs]
    exact part l t hl (induction_parts separator last part t)
  · exact last s h
termination_by s.length
decreasing_by
  rw [hs, List.length_append, List.length_cons]
  omega

/-- Induction on the lines of a text. -/
@[elab_as_elim] theorem induction_lines {motive : Text → Prop}
    (last : ∀ s, '\n' ∉ s → motive s)
    (line : ∀ s t, '\n' ∉ s → motive t → motive (s ++ '\n' :: t)) (s : Text) : motive s :=
  induction_parts '\n' last line s

theorem takeWhile_append_of_not_mem (t : Text) (h : c ∉ s) :
    (s ++ c :: t).takeWhile (· != c) = s ∧ (s ++ c :: t).dropWhile (· != c) = c :: t := by
  have hne : ∀ d ∈ s, (d != c) = true := fun d hd => by
    rw [bne_iff_ne]
    rintro rfl
    exact h hd
  rw [List.takeWhile_append_of_pos hne, List.dropWhile_append_of_pos hne]
  simp

theorem lines_append (t : Text) (h : '\n' ∉ s) :
    lines (s ++ '\n' :: t) = dropReturn s :: lines t := by
  obtain ⟨htake, hdrop⟩ := takeWhile_append_of_not_mem t h
  obtain ⟨c, cs, hcs⟩ := List.exists_cons_of_ne_nil (l := s ++ '\n' :: t) (by simp)
  rw [hcs] at htake hdrop ⊢
  rw [lines, htake]
  split
  · rename_i hnil
    rw [hdrop] at hnil
    cases hnil
  · rename_i rest hrest
    rw [hdrop] at hrest
    cases hrest
    rfl

theorem lines_of_not_mem (h : '\n' ∉ s) (ne : s ≠ []) : lines s = [s] := by
  obtain ⟨c, cs, rfl⟩ := List.exists_cons_of_ne_nil ne
  have hdrop : (c :: cs).dropWhile (· != '\n') = [] := by
    rw [List.dropWhile_eq_nil_iff]
    intro d hd
    rw [bne_iff_ne]
    rintro rfl
    exact h hd
  rw [lines]
  split
  · rfl
  · rename_i hcons
    rw [hdrop] at hcons
    cases hcons

theorem split_append (t : Text) (h : separator ∉ s) :
    split separator (s ++ separator :: t) = s :: split separator t := by
  induction s with
  | nil => simp [split]
  | cons c s ih =>
    obtain ⟨hc, hs⟩ := not_or.1 (mt List.mem_cons.2 h)
    rw [List.cons_append, split, if_neg (Ne.symm hc), ih hs]

theorem split_of_not_mem (h : separator ∉ s) : split separator s = [s] := by
  induction s with
  | nil => rfl
  | cons c s ih =>
    obtain ⟨hc, hs⟩ := not_or.1 (mt List.mem_cons.2 h)
    rw [split, if_neg (Ne.symm hc), ih hs]

/-- The first word of a text is what stands before the next blank, if there is anything. -/
theorem head?_words (s : Text) : (words s).head? =
    if trimStart s = [] then none else some ((trimStart s).takeWhile (!isBlank ·)) := by
  rw [words]
  split
  · rename_i hnil
    rw [if_pos hnil]
    rfl
  · rename_i c cs hcons
    have hc : isBlank c = false := by
      have := List.head?_dropWhile_not isBlank s
      rw [trimStart] at hcons
      simpa [hcons] using this
    rw [hcons, if_neg (List.cons_ne_nil c cs)]
    simp [hc]

theorem trimStart_append (s t : Text) :
    trimStart (s ++ t) = if trimStart s = [] then trimStart t else trimStart s ++ t := by
  simp only [trimStart, List.dropWhile_append, List.isEmpty_iff]
  rfl

theorem trimEnd_append (s t : Text) :
    trimEnd (s ++ t) = if trimEnd t = [] then trimEnd s else s ++ trimEnd t := by
  simp only [trimEnd, List.reverse_append, List.dropWhile_append, List.isEmpty_iff,
    List.reverse_eq_nil_iff]
  split <;> simp

theorem trim_append_blank (s : Text) (hc : isBlank c) : trim (s ++ [c]) = trim s := by
  have hblank : trimStart [c] = [] ∧ trimEnd [c] = [] := by simp [trimStart, trimEnd, hc]
  unfold trim
  rw [trimStart_append, hblank.1]
  split
  · rename_i hs
    rw [hs]
  · rw [trimEnd_append, if_pos hblank.2]

theorem takeWhile_append_stop {p : Char → Bool} (hc : p c = false) (s t : Text) :
    (s ++ c :: t).takeWhile p = s.takeWhile p := by
  induction s with
  | nil => simp [hc]
  | cons d s ih => simp [List.takeWhile_cons, ih]

theorem head?_words_append_blank (s : Text) (hc : isBlank c) :
    (words (s ++ [c])).head? = (words s).head? := by
  have hblank : trimStart [c] = [] := by simp [trimStart, hc]
  rw [head?_words, head?_words, trimStart_append, hblank]
  by_cases hs : trimStart s = []
  · simp [hs]
  · rw [if_neg hs, if_neg hs, if_neg (by simp), takeWhile_append_stop (by simp [hc])]

theorem trimStart_cut (opening rest : Text) :
    trimStart (opening ++ '(' :: rest) = trimStart opening ++ '(' :: rest := by
  have hopen : trimStart ('(' :: rest) = '(' :: rest := by
    rw [trimStart, List.dropWhile_cons_of_neg (by decide)]
  rw [trimStart_append, hopen]
  split
  · rename_i hblank
    rw [hblank, List.nil_append]
  · rfl

/-- The first word of a text stands before the first parenthesis, if none is in it. -/
theorem head?_words_opening {word : Text} (hword : '(' ∉ word) (opening rest : Text)
    (h : (words (opening ++ '(' :: rest)).head? = some word) :
    (words opening).head? = some word := by
  have hopen : isBlank '(' = false := by decide
  have hcons : trimStart opening ++ '(' :: rest ≠ [] := by simp
  rw [head?_words, trimStart_cut, if_neg hcons, List.takeWhile_append] at h
  split at h
  · rw [Option.some.injEq] at h
    refine absurd ?_ hword
    rw [← h]
    simp [hopen]
  · rename_i hlength
    have ne : trimStart opening ≠ [] := by
      intro hnil
      simp [hnil] at hlength
    rw [head?_words, if_neg ne, h]

theorem dropReturn_append (s : Text) : dropReturn s = s ∨ dropReturn s ++ ['\r'] = s := by
  unfold dropReturn
  split
  · rename_i h
    obtain ⟨l, rfl⟩ := List.getLast?_eq_some_iff.1 h
    exact .inr (by rw [List.dropLast_concat])
  · exact .inl rfl

end CallTracer.Text
