import CallTracer.Alignment
import Mathlib.Data.List.Basic
import Mathlib.Order.Bounds.Defs
/-! The best alignment of two lists leads from one to the other and keeps a longest common
subsequence of them. Moving the removals of every region to its front changes neither. -/
namespace CallTracer

namespace Change

variable {α : Type} {a b : α} {cs pending : List (Change α)}

/-- The list that changes lead from. -/
def lefts (cs : List (Change α)) : List α := cs.filterMap left?

/-- The list that changes lead to. -/
def rights (cs : List (Change α)) : List α := cs.filterMap right?

/-- How many items changes keep. -/
def keptCount (cs : List (Change α)) : Nat := cs.countP isKept

/-- Between kept items the removals stand before the additions. -/
def RemovalsFirst (cs : List (Change α)) : Prop :=
  ∀ earlier b between a later, cs = earlier ++ added b :: (between ++ removed a :: later) →
    ∃ c ∈ between, c.isKept

@[simp] theorem lefts_nil : lefts ([] : List (Change α)) = [] := rfl

@[simp] theorem lefts_kept : lefts (kept a :: cs) = a :: lefts cs := rfl

@[simp] theorem lefts_removed : lefts (removed a :: cs) = a :: lefts cs := rfl

@[simp] theorem lefts_added : lefts (added a :: cs) = lefts cs := rfl

@[simp] theorem lefts_append (cs ds : List (Change α)) : lefts (cs ++ ds) = lefts cs ++ lefts ds :=
  List.filterMap_append

@[simp] theorem rights_nil : rights ([] : List (Change α)) = [] := rfl

@[simp] theorem rights_kept : rights (kept a :: cs) = a :: rights cs := rfl

@[simp] theorem rights_removed : rights (removed a :: cs) = rights cs := rfl

@[simp] theorem rights_added : rights (added a :: cs) = a :: rights cs := rfl

@[simp] theorem rights_append (cs ds : List (Change α)) :
    rights (cs ++ ds) = rights cs ++ rights ds :=
  List.filterMap_append

@[simp] theorem keptCount_nil : keptCount ([] : List (Change α)) = 0 := rfl

@[simp] theorem keptCount_kept : keptCount (kept a :: cs) = keptCount cs + 1 :=
  List.countP_cons_of_pos rfl

@[simp] theorem keptCount_removed : keptCount (removed a :: cs) = keptCount cs :=
  List.countP_cons_of_neg Bool.false_ne_true

@[simp] theorem keptCount_added : keptCount (added a :: cs) = keptCount cs :=
  List.countP_cons_of_neg Bool.false_ne_true

/-- A kept item is on both sides, any other on one. -/
theorem length_sides (cs : List (Change α)) :
    (lefts cs).length + (rights cs).length = cs.length + keptCount cs := by
  induction cs with
  | nil => rfl
  | cons c cs ih =>
    cases c with
    | kept | removed | added =>
      simp only [lefts_kept, rights_kept, keptCount_kept, lefts_removed, rights_removed,
        keptCount_removed, lefts_added, rights_added, keptCount_added, List.length_cons]
      omega

/-- What is kept is in order on both sides. -/
theorem exists_common (cs : List (Change α)) :
    ∃ l : List α, l.Sublist (lefts cs) ∧ l.Sublist (rights cs) ∧ l.length = keptCount cs := by
  induction cs with
  | nil => exact ⟨[], .slnil, .slnil, rfl⟩
  | cons c cs ih =>
    obtain ⟨l, hleft, hright, hlength⟩ := ih
    cases c with
    | kept a => exact ⟨a :: l, hleft.cons_cons a, hright.cons_cons a, by simp [hlength]⟩
    | removed a => exact ⟨l, hleft.cons a, hright, by simp [hlength]⟩
    | added a => exact ⟨l, hleft, hright.cons a, by simp [hlength]⟩

theorem lefts_eq_rights_of_isKept (h : ∀ c ∈ cs, c.isKept) : lefts cs = rights cs := by
  refine List.filterMap_congr fun c hc => ?_
  cases c with
  | kept a => rfl
  | removed a => cases h _ hc
  | added a => cases h _ hc

theorem perm_removalsFirst (pending cs : List (Change α)) :
    (removalsFirst pending cs).Perm (pending ++ cs) := by
  induction cs generalizing pending with
  | nil => rw [removalsFirst, List.append_nil]
  | cons c cs ih =>
    cases c with
    | kept a => exact ((ih []).cons (kept a)).append_left pending
    | removed a => exact ((ih pending).cons (removed a)).trans List.perm_middle.symm
    | added a => simpa [removalsFirst] using ih (pending ++ [added a])

theorem keptCount_removalsFirst (cs : List (Change α)) :
    keptCount (removalsFirst [] cs) = keptCount cs :=
  (perm_removalsFirst [] cs).countP_eq isKept

theorem rights_removalsFirst (pending cs : List (Change α)) :
    rights (removalsFirst pending cs) = rights pending ++ rights cs := by
  induction cs generalizing pending with
  | nil => simp [removalsFirst]
  | cons c cs ih => cases c <;> simp [removalsFirst, ih]

/-- Only additions are put off, which have nothing on the left. -/
theorem lefts_removalsFirst (hpending : lefts pending = []) (cs : List (Change α)) :
    lefts (removalsFirst pending cs) = lefts cs := by
  induction cs generalizing pending with
  | nil => exact hpending
  | cons c cs ih =>
    cases c with
    | kept a => simp [removalsFirst, ih lefts_nil, hpending]
    | removed a => simp [removalsFirst, ih hpending]
    | added a => simp [removalsFirst, ih, hpending]

theorem removed_not_mem (hpending : lefts pending = []) (a : α) : removed a ∉ pending := by
  intro h
  have hmem : a ∈ lefts pending := List.mem_filterMap.2 ⟨_, h, rfl⟩
  rw [hpending] at hmem
  cases hmem

theorem RemovalsFirst.of_lefts_eq_nil (h : lefts cs = []) : RemovalsFirst cs := by
  rintro earlier b between a later rfl
  exact absurd (by simp) (removed_not_mem h a)

theorem RemovalsFirst.removed_cons (h : RemovalsFirst cs) (d : α) :
    RemovalsFirst (removed d :: cs) := by
  intro earlier b between a later hcs
  cases earlier with
  | nil => cases hcs
  | cons e earlier => exact h earlier b between a later (List.cons_eq_cons.1 hcs).2

/-- A kept item parts what stands before it from what stands behind it. -/
theorem RemovalsFirst.append_kept (hpending : lefts pending = []) (h : RemovalsFirst cs) (d : α) :
    RemovalsFirst (pending ++ kept d :: cs) := by
  intro earlier b between a later hcs
  rcases List.append_eq_append_iff.1 hcs with ⟨front, -, hrest⟩ | ⟨front, rfl, hrest⟩
  · -- The addition stands behind the kept item.
    cases front with
    | nil => cases hrest
    | cons e front => exact h front b between a later (List.cons_eq_cons.1 hrest).2
  · -- The addition stands before it, where there are no removals.
    cases front with
    | nil => cases hrest
    | cons e front =>
      have hremoval := removed_not_mem hpending a
      rcases List.append_eq_append_iff.1 (List.cons_eq_cons.1 hrest).2 with
        ⟨last, rfl, hlast⟩ | ⟨last, rfl, hlast⟩
      · cases last with
        | nil => cases hlast
        | cons c last =>
          obtain ⟨rfl, -⟩ := List.cons_eq_cons.1 hlast
          exact absurd (by simp) hremoval
      · cases last with
        | nil => cases hlast
        | cons c last =>
          obtain ⟨rfl, -⟩ := List.cons_eq_cons.1 hlast
          exact ⟨kept d, by simp, rfl⟩

theorem removalsFirst_spec (hpending : lefts pending = []) (cs : List (Change α)) :
    RemovalsFirst (removalsFirst pending cs) := by
  induction cs generalizing pending with
  | nil => exact .of_lefts_eq_nil hpending
  | cons c cs ih =>
    cases c with
    | kept a => exact .append_kept hpending (ih lefts_nil) a
    | removed a => exact (ih hpending).removed_cons a
    | added a => exact ih (by simp [hpending])

end Change

namespace Alignment

variable {α : Type} {s t l : List α} {x y : Alignment α}

/-- An alignment of one list with another. -/
structure Aligns (s t : List α) (x : Alignment α) : Prop where
  left : Change.lefts x.changes = s
  right : Change.rights x.changes = t
  count : Change.keptCount x.changes = x.kept

theorem aligns_nil : Aligns [] [] (nil : Alignment α) := ⟨rfl, rfl, rfl⟩

theorem Aligns.keep (h : Aligns s t x) (a : α) : Aligns (a :: s) (a :: t) (x.keep a) :=
  ⟨congrArg (a :: ·) h.left, congrArg (a :: ·) h.right,
    Change.keptCount_kept.trans (congrArg (· + 1) h.count)⟩

theorem Aligns.remove (h : Aligns s t x) (a : α) : Aligns (a :: s) t (x.remove a) :=
  ⟨congrArg (a :: ·) h.left, h.right, Change.keptCount_removed.trans h.count⟩

theorem Aligns.add (h : Aligns s t x) (b : α) : Aligns s (b :: t) (x.add b) :=
  ⟨h.left, congrArg (b :: ·) h.right, Change.keptCount_added.trans h.count⟩

theorem Aligns.better (hx : Aligns s t x) (hy : Aligns s t y) : Aligns s t (better x y) := by
  rw [Alignment.better]
  split
  · exact hx
  · exact hy

theorem aligns_foldr_add (t : List α) : Aligns [] t (t.foldr add nil) := by
  induction t with
  | nil => exact aligns_nil
  | cons b t ih => exact ih.add b

theorem aligns_foldr_remove (s : List α) : Aligns s [] (s.foldr remove nil) := by
  induction s with
  | nil => exact aligns_nil
  | cons a s ih => exact ih.remove a

theorem kept_better (x y : Alignment α) : (better x y).kept = max x.kept y.kept := by
  rw [better]
  split <;> omega

variable [DecidableEq α]

theorem aligns_best (s t : List α) : Aligns s t (best s t) := by
  fun_induction best s t with
  | case1 t => exact aligns_foldr_add t
  | case2 s => exact aligns_foldr_remove s
  | case3 s b t ih => exact ih.keep b
  | case4 a s b t hab ihs iht => exact (ihs.remove a).better (iht.add b)

/-- Nothing that is in order on both sides is longer than what is kept. -/
theorem length_le_kept_best (hs : l.Sublist s) (ht : l.Sublist t) :
    l.length ≤ (best s t).kept := by
  fun_induction best s t generalizing l with
  | case1 t => simp [List.sublist_nil.1 hs]
  | case2 s => simp [List.sublist_nil.1 ht]
  | case3 s b t ih =>
    have htail := ih hs.tail ht.tail
    simp only [keep, List.length_tail] at htail ⊢
    omega
  | case4 a s b t hab ihs iht =>
    simp only [kept_better, remove, add]
    rcases List.sublist_cons_iff.1 hs with hs' | ⟨r, rfl, -⟩
    · have h := ihs hs' ht
      omega
    · rcases List.sublist_cons_iff.1 ht with ht' | ⟨q, hq, -⟩
      · have h := iht hs ht'
        omega
      · exact absurd (List.cons_eq_cons.1 hq).1 hab

/-- A row begins with the alignment with the whole list and goes on with the row of what follows its
first item. -/
theorem row_cons (s : List α) (b : α) (t : List α) :
    row s (b :: t) = find s (b :: t) :: row s t := by
  induction s with
  | nil => rfl
  | cons a s ih =>
    have hrow : ∀ u, row (a :: s) u = nextRow a u (row s u) := fun u => rfl
    rw [find, hrow, hrow, ih]
    rfl

theorem find_cons_cons (a b : α) (s t : List α) : find (a :: s) (b :: t) =
    if a = b then (find s t).keep a
      else better ((find s (b :: t)).remove a) ((find (a :: s) t).add b) := by
  change (nextRow a (b :: t) (row s (b :: t))).headD nil = _
  rw [row_cons]
  rfl

theorem find_nil_left (t : List α) : find [] t = t.foldr add nil := by
  induction t with
  | nil => rfl
  | cons b t ih => exact congrArg (add b) ih

theorem find_nil_right (s : List α) : find s [] = s.foldr remove nil := by
  induction s with
  | nil => rfl
  | cons a s ih => exact congrArg (remove a) ih

/-- What is found row by row is the best alignment. -/
theorem find_eq_best (s t : List α) : find s t = best s t := by
  fun_induction best s t with
  | case1 t => exact find_nil_left t
  | case2 s => exact find_nil_right s
  | case3 s b t ih => rw [find_cons_cons, if_pos rfl, ih]
  | case4 a s b t hab ihs iht => rw [find_cons_cons, if_neg hab, ihs, iht]

end Alignment
end CallTracer
