/-! Sorting by insertion, for a test that tells whether one item may stand before another. -/
namespace CallTracer.Sorting

variable {α : Type}

/-- Puts an item in front of the first one that it may stand before. -/
def place (le : α → α → Bool) (a : α) : List α → List α
  | [] => [a]
  | b :: l => if le a b then a :: b :: l else b :: place le a l

def sort (le : α → α → Bool) (l : List α) : List α := l.foldr (place le) []

theorem perm_place (le : α → α → Bool) (a : α) (l : List α) :
    (place le a l).Perm (a :: l) := by
  induction l with
  | nil => exact .refl _
  | cons b l ih =>
    rw [place]
    split
    · exact .refl _
    · exact (ih.cons b).trans (.swap a b l)

theorem perm_sort (le : α → α → Bool) (l : List α) : (sort le l).Perm l := by
  induction l with
  | nil => exact .refl _
  | cons a l ih => exact (perm_place le a _).trans (ih.cons a)

theorem pairwise_place {le : α → α → Bool} (trans : ∀ a b c, le a b → le b c → le a c)
    (total : ∀ a b, le a b ∨ le b a) (a : α) {l : List α} (h : l.Pairwise fun b c => le b c) :
    (place le a l).Pairwise fun b c => le b c := by
  induction l with
  | nil => simp [place]
  | cons b l ih =>
    obtain ⟨hb, hl⟩ := List.pairwise_cons.1 h
    rw [place]
    split
    · rename_i hab
      refine List.pairwise_cons.2 ⟨fun c hc => ?_, h⟩
      rcases List.mem_cons.1 hc with rfl | hc
      · exact hab
      · exact trans a b c hab (hb c hc)
    · rename_i hab
      refine List.pairwise_cons.2 ⟨fun c hc => ?_, ih hl⟩
      rcases List.mem_cons.1 ((perm_place le a l).mem_iff.1 hc) with rfl | hc
      · exact (total c b).resolve_left hab
      · exact hb c hc

theorem pairwise_sort {le : α → α → Bool} (trans : ∀ a b c, le a b → le b c → le a c)
    (total : ∀ a b, le a b ∨ le b a) (l : List α) :
    (sort le l).Pairwise fun b c => le b c := by
  induction l with
  | nil => exact .nil
  | cons a l ih => exact pairwise_place trans total a ih

/-- Items have one sorted order, whatever order they come in, if no two different ones may each
stand before the other. -/
theorem sort_eq_of_perm {le : α → α → Bool} (trans : ∀ a b c, le a b → le b c → le a c)
    (total : ∀ a b, le a b ∨ le b a) (antisymm : ∀ a b, le a b → le b a → a = b) {l m : List α}
    (hperm : l.Perm m) (hm : m.Pairwise fun a b => le a b) : sort le l = m :=
  List.Perm.eq_of_pairwise (fun a b _ _ => antisymm a b) (pairwise_sort trans total l) hm
    ((perm_sort le l).trans hperm)

theorem sort_congr {le : α → α → Bool} (trans : ∀ a b c, le a b → le b c → le a c)
    (total : ∀ a b, le a b ∨ le b a) (antisymm : ∀ a b, le a b → le b a → a = b) {l m : List α}
    (hperm : l.Perm m) : sort le l = sort le m :=
  sort_eq_of_perm trans total antisymm (hperm.trans (perm_sort le m).symm)
    (pairwise_sort trans total m)

/-- Sorting and leaving items out can be done in either order. -/
theorem filter_sort {le : α → α → Bool} (trans : ∀ a b c, le a b → le b c → le a c)
    (total : ∀ a b, le a b ∨ le b a) (antisymm : ∀ a b, le a b → le b a → a = b) (p : α → Bool)
    (l : List α) : (sort le l).filter p = sort le (l.filter p) :=
  (sort_eq_of_perm trans total antisymm ((perm_sort le l).filter p).symm
    ((pairwise_sort trans total l).filter p)).symm

end CallTracer.Sorting
