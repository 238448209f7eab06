import CallTracer.Report
/-! Outcomes that are values: when a composed computation has one. -/
namespace CallTracer.Outcome

variable {ε ε' α β : Type}

@[simp] theorem bind_ok (a : α) (f : α → Except ε β) : (Except.ok a >>= f) = f a := rfl

@[simp] theorem bind_error (e : ε) (f : α → Except ε β) :
    ((Except.error e : Except ε α) >>= f) = .error e := rfl

@[simp] theorem map_ok (f : α → β) (a : α) : (Except.ok a : Except ε α).map f = .ok (f a) := rfl

@[simp] theorem map_error (f : α → β) (e : ε) :
    (Except.error e : Except ε α).map f = .error e := rfl

@[simp] theorem mapError_ok (f : ε → ε') (a : α) :
    (Except.ok a : Except ε α).mapError f = .ok a := rfl

@[simp] theorem mapError_error (f : ε → ε') (e : ε) :
    (Except.error e : Except ε α).mapError f = .error (f e) := rfl

theorem bind_eq_ok_iff {x : Except ε α} {f : α → Except ε β} {b : β} :
    (x >>= f) = .ok b ↔ ∃ a, x = .ok a ∧ f a = .ok b := by
  cases x <;> simp

theorem bind_eq_error_iff {x : Except ε α} {f : α → Except ε β} {e : ε} :
    (x >>= f) = .error e ↔ x = .error e ∨ ∃ a, x = .ok a ∧ f a = .error e := by
  cases x <;> simp

theorem bind_value_eq_error_iff {x : Except ε α} {f : α → β} {e : ε} :
    (x >>= fun a => .ok (f a)) = .error e ↔ x = .error e := by
  cases x <;> simp

theorem map_eq_ok_iff {x : Except ε α} {f : α → β} {b : β} :
    x.map f = .ok b ↔ ∃ a, x = .ok a ∧ f a = b := by
  cases x <;> simp

theorem mapError_eq_ok_iff {x : Except ε α} {f : ε → ε'} {a : α} :
    x.mapError f = .ok a ↔ x = .ok a := by
  cases x <;> simp

theorem map_eq_error_iff {x : Except ε α} {f : α → β} {e : ε} :
    x.map f = .error e ↔ x = .error e := by
  cases x <;> simp

theorem mapError_eq_error_iff {x : Except ε α} {f : ε → ε'} {e : ε'} :
    x.mapError f = .error e ↔ ∃ d, x = .error d ∧ f d = e := by
  cases x <;> simp

/-- A fold fails at a member up to which it succeeds. -/
theorem foldlM_eq_error_iff {f : β → α → Except ε β} {l : List α} {b : β} {e : ε} :
    l.foldlM f b = .error e ↔ ∃ before a after state,
      l = before ++ a :: after ∧ before.foldlM f b = .ok state ∧ f state a = .error e := by
  induction l generalizing b with
  | nil => simp [pure, Except.pure]
  | cons d l ih =>
    rw [List.foldlM_cons, bind_eq_error_iff]
    constructor
    · rintro (h | ⟨next, hnext, h⟩)
      · exact ⟨[], d, l, b, rfl, rfl, h⟩
      · obtain ⟨before, a, after, state, rfl, hstate, ha⟩ := ih.1 h
        exact ⟨d :: before, a, after, state, rfl,
          by rw [List.foldlM_cons, hnext, bind_ok, hstate], ha⟩
    · rintro ⟨before, a, after, state, hl, hstate, ha⟩
      cases before with
      | nil =>
        cases hl
        cases hstate
        exact .inl ha
      | cons c before =>
        cases hl
        rw [List.foldlM_cons] at hstate
        obtain ⟨next, hnext, hstate⟩ := bind_eq_ok_iff.1 hstate
        exact .inr ⟨next, hnext, ih.2 ⟨before, a, after, state, rfl, hstate, ha⟩⟩

/-- So does a map. -/
theorem mapM_eq_error_iff {f : α → Except ε β} {l : List α} {e : ε} :
    l.mapM f = .error e ↔ ∃ before a after values,
      l = before ++ a :: after ∧ before.mapM f = .ok values ∧ f a = .error e := by
  induction l with
  | nil => simp [pure, Except.pure]
  | cons d l ih =>
    have hpure : ∀ {b : β} {bs : List β} {e : ε}, (pure (b :: bs) : Except ε _) ≠ .error e := by
      intro b bs e h
      cases h
    simp only [List.mapM_cons, bind_eq_error_iff, hpure, and_false, exists_false, or_false]
    constructor
    · rintro (h | ⟨b, hb, h⟩)
      · exact ⟨[], d, l, [], rfl, rfl, h⟩
      · obtain ⟨before, a, after, values, rfl, hvalues, ha⟩ := ih.1 h
        refine ⟨d :: before, a, after, b :: values, rfl, ?_, ha⟩
        rw [List.mapM_cons, hb, bind_ok, hvalues]
        rfl
    · rintro ⟨before, a, after, values, hl, hvalues, ha⟩
      cases before with
      | nil =>
        cases hl
        exact .inl ha
      | cons c before =>
        cases hl
        rw [List.mapM_cons] at hvalues
        obtain ⟨b, hb, hvalues⟩ := bind_eq_ok_iff.1 hvalues
        obtain ⟨bs, hbs, -⟩ := bind_eq_ok_iff.1 hvalues
        exact .inr ⟨b, hb, ih.2 ⟨before, a, after, bs, rfl, hbs, ha⟩⟩

theorem exists_ok_of_any {x : Except ε α} {p : α → Bool} (h : x.toOption.any p) :
    ∃ a, x = .ok a ∧ p a := by
  cases x with
  | error e => cases h
  | ok a => exact ⟨a, rfl, h⟩

end CallTracer.Outcome

namespace CallTracer.Report

theorem outcome_foldlM {α β : Type} (f : β → α → Report β) (l : List α) (b : β) :
    (l.foldlM f b).outcome = l.foldlM (fun b a => (f b a).outcome) b := by
  induction l generalizing b with
  | nil => rfl
  | cons a l ih =>
    rw [List.foldlM_cons, List.foldlM_cons, outcome_bind]
    exact bind_congr ih

theorem outcome_mapM {α β : Type} (f : α → Report β) (l : List α) :
    (l.mapM f).outcome = l.mapM fun a => (f a).outcome := by
  induction l with
  | nil => rfl
  | cons a l ih =>
    rw [List.mapM_cons, List.mapM_cons, outcome_bind]
    refine bind_congr fun b => ?_
    rw [outcome_bind, ih]
    rfl

/-- Only the values that a computation can have count for what follows it. -/
theorem bind_congr_of_ok {α β : Type} {x : Report α} {f g : α → Report β}
    (h : ∀ a, x.outcome = .ok a → f a = g a) : x >>= f = x >>= g := by
  obtain ⟨records, outcome⟩ := x
  cases outcome with
  | error e => rfl
  | ok a =>
    simp only [bind, h a rfl]

end CallTracer.Report
