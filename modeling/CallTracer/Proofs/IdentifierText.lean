import CallTracer.Identifier
/-! The characters of identifiers, by their numbers, and what can therefore not occur in one. -/
namespace CallTracer.Identifier

variable {c : Char} {n : Text}

theorem isUpper_iff : c.isUpper ↔ 65 ≤ c.toNat ∧ c.toNat ≤ 90 := by
  change decide ('A'.val ≤ c.val ∧ c.val ≤ 'Z'.val) = true ↔ _
  rw [decide_eq_true_iff]
  exact Iff.rfl

theorem isLower_iff : c.isLower ↔ 97 ≤ c.toNat ∧ c.toNat ≤ 122 := by
  change (decide ('a'.val ≤ c.val) && decide (c.val ≤ 'z'.val)) = true ↔ _
  rw [Bool.and_eq_true, decide_eq_true_iff, decide_eq_true_iff]
  exact Iff.rfl

theorem isDigit_iff : c.isDigit ↔ 48 ≤ c.toNat ∧ c.toNat ≤ 57 := by
  change (decide ('0'.val ≤ c.val) && decide (c.val ≤ '9'.val)) = true ↔ _
  rw [Bool.and_eq_true, decide_eq_true_iff, decide_eq_true_iff]
  exact Iff.rfl

theorem isStart_iff : isStart c ↔
    (65 ≤ c.toNat ∧ c.toNat ≤ 90) ∨ (97 ≤ c.toNat ∧ c.toNat ≤ 122) ∨ c.toNat = 95 := by
  have hscore : c = '_' ↔ c.toNat = 95 := Char.toNat_inj.symm
  change (c.isUpper || c.isLower || c == '_') = true ↔ _
  rw [Bool.or_eq_true, Bool.or_eq_true, beq_iff_eq, isUpper_iff, isLower_iff, hscore, or_assoc]

theorem isPart_iff : isPart c ↔ isStart c ∨ (48 ≤ c.toNat ∧ c.toNat ≤ 57) := by
  change (c.isAlpha || c.isDigit || c == '_') = true ↔ (c.isAlpha || c == '_') = true ∨ _
  rw [Bool.or_eq_true, Bool.or_eq_true, Bool.or_eq_true, isDigit_iff, or_right_comm]

theorem isBlank_of_isPart (h : isPart c) : Text.isBlank c = false := by
  rw [isPart_iff, isStart_iff] at h
  simp only [Text.isBlank, Bool.or_eq_false_iff, Bool.and_eq_false_imp, decide_eq_true_eq,
    decide_eq_false_iff_not, beq_eq_false_iff_ne]
  omega

theorem isPart_of_isBlank (h : Text.isBlank c) : isPart c = false :=
  eq_false_of_ne_true fun hc => by simp [isBlank_of_isPart hc] at h

theorem isPart_of_isDigit (h : c.isDigit) : isPart c :=
  isPart_iff.2 (.inr (isDigit_iff.1 h))

theorem isStart_or_isDigit (h : isPart c) : isStart c ∨ c.isDigit :=
  (isPart_iff.1 h).imp_right isDigit_iff.2

theorem toNat_lt_of_isPart (h : isPart c) : c.toNat < 0x80 := by
  rw [isPart_iff, isStart_iff] at h
  omega

/-- The upper case of a character of a name is one of a name too. -/
theorem isPart_toUpper (h : isPart c) : isPart c.toUpper := by
  have hall : ∀ k < 0x80, isPart (Char.ofNat k) → isPart (Char.ofNat k).toUpper := by decide
  have hc := hall c.toNat (toNat_lt_of_isPart h)
  rw [Char.ofNat_toNat] at hc
  exact hc h

theorem all_isPart_of_isValid (h : isValid n) : ∀ c ∈ n, isPart c := by
  cases n with
  | nil => simp
  | cons a n =>
    simp only [isValid_cons, Bool.and_eq_true, List.all_eq_true] at h
    intro c hc
    rcases List.mem_cons.1 hc with rfl | hc
    · exact isPart_of_isStart h.1
    · exact h.2 c hc

theorem not_mem_of_isPart (h : ∀ d ∈ n, isPart d) (hc : isPart c = false) : c ∉ n := by
  intro hm
  rw [h c hm] at hc
  exact Bool.noConfusion hc

theorem not_mem_of_isValid (h : isValid n) (hc : isPart c = false) : c ∉ n :=
  not_mem_of_isPart (all_isPart_of_isValid h) hc

theorem ne_nil_of_isValid (h : isValid n) : n ≠ [] := by
  rintro rfl
  exact Bool.noConfusion h

theorem exists_cons_of_isValid (h : isValid n) : ∃ c m, n = c :: m ∧ isPart c := by
  obtain ⟨c, m, rfl⟩ := List.exists_cons_of_ne_nil (ne_nil_of_isValid h)
  exact ⟨c, m, rfl, all_isPart_of_isValid h c (.head m)⟩

end CallTracer.Identifier
