import CallTracer.Sorting
import CallTracer.Text
/-! The order of texts: the first place where two differ decides, by the numbers of the characters,
and a text comes after its own beginnings. The bytes of UTF-8 give the same order. -/
namespace CallTracer.Text

def before : Text → Text → Bool
  | _, [] => false
  | [], _ :: _ => true
  | a :: s, b :: t => a.toNat < b.toNat || (a.toNat == b.toNat && before s t)

/-- Whether a text comes no later than another. -/
def atMost (s t : Text) : Bool := !before t s

@[simp] theorem not_before_nil (s : Text) : before s [] = false := by
  cases s <;> rfl

theorem before_cons {a b : Char} {s t : Text} :
    before (a :: s) (b :: t) ↔ a.toNat < b.toNat ∨ (a.toNat = b.toNat ∧ before s t) := by
  simp [before]

@[simp] theorem before_irrefl (s : Text) : before s s = false := by
  induction s with
  | nil => rfl
  | cons a s ih => simp [before, ih]

theorem before_trans {s t u : Text} (hst : before s t) (htu : before t u) : before s u := by
  induction u generalizing s t with
  | nil => simp at htu
  | cons c u ih =>
    cases t with
    | nil => simp at hst
    | cons b t =>
      cases s with
      | nil => rfl
      | cons a s =>
        rw [before_cons] at *
        rcases hst with h | ⟨h, hs⟩ <;> rcases htu with h' | ⟨h', ht⟩
        · exact .inl (by omega)
        · exact .inl (by omega)
        · exact .inl (by omega)
        · exact .inr ⟨by omega, ih hs ht⟩

theorem before_asymm {s t : Text} (h : before s t) : before t s = false := by
  cases hts : before t s with
  | false => rfl
  | true => exact absurd (before_trans h hts) (by simp)

/-- Of two different texts one comes before the other. -/
theorem before_trichotomy (s t : Text) : before s t ∨ s = t ∨ before t s := by
  induction s generalizing t with
  | nil => cases t with
    | nil => exact .inr (.inl rfl)
    | cons => exact .inl rfl
  | cons a s ih =>
    cases t with
    | nil => exact .inr (.inr rfl)
    | cons b t =>
      simp only [before_cons, List.cons.injEq]
      rcases Nat.lt_trichotomy a.toNat b.toNat with h | h | h
      · exact .inl (.inl h)
      · have hab : a = b := Char.toNat_inj.1 h
        rcases ih t with hs | rfl | hs
        · exact .inl (.inr ⟨h, hs⟩)
        · exact .inr (.inl ⟨hab, rfl⟩)
        · exact .inr (.inr (.inr ⟨h.symm, hs⟩))
      · exact .inr (.inr (.inl h))

theorem atMost_iff {s t : Text} : atMost s t ↔ before s t ∨ s = t := by
  rw [atMost, Bool.not_eq_true']
  constructor
  · intro h
    rcases before_trichotomy s t with hs | hs | hs
    · exact .inl hs
    · exact .inr hs
    · rw [h] at hs
      exact absurd hs (by decide)
  · rintro (h | rfl)
    · exact before_asymm h
    · exact before_irrefl s

theorem atMost_trans {s t u : Text} (hst : atMost s t) (htu : atMost t u) : atMost s u := by
  rw [atMost_iff] at *
  rcases hst with h | rfl
  · rcases htu with h' | rfl
    · exact .inl (before_trans h h')
    · exact .inl h
  · exact htu

theorem atMost_antisymm {s t : Text} (hst : atMost s t) (hts : atMost t s) : s = t := by
  rcases atMost_iff.1 hst with h | h
  · rw [atMost, h] at hts
    exact Bool.noConfusion hts
  · exact h

theorem atMost_total (s t : Text) : atMost s t ∨ atMost t s := by
  simp only [atMost_iff]
  rcases before_trichotomy s t with h | h | h
  · exact .inl (.inl h)
  · exact .inl (.inr h)
  · exact .inr (.inl h)

theorem sort_eq_of_perm {ss ts : List Text} (h : ss.Perm ts)
    (hts : ts.Pairwise fun s t => atMost s t) : Sorting.sort atMost ss = ts :=
  @Sorting.sort_eq_of_perm _ atMost (fun _ _ _ => atMost_trans) atMost_total
    (fun _ _ => atMost_antisymm) _ _ h hts

theorem sort_congr {ss ts : List Text} (h : ss.Perm ts) :
    Sorting.sort atMost ss = Sorting.sort atMost ts :=
  @Sorting.sort_congr _ atMost (fun _ _ _ => atMost_trans) atMost_total
    (fun _ _ => atMost_antisymm) _ _ h

theorem filter_sort (p : Text → Bool) (ss : List Text) :
    (Sorting.sort atMost ss).filter p = Sorting.sort atMost (ss.filter p) :=
  @Sorting.filter_sort _ atMost (fun _ _ _ => atMost_trans) atMost_total
    (fun _ _ => atMost_antisymm) p ss

end CallTracer.Text
