import CallTracer.EditDistance
import Mathlib.Order.Bounds.Defs
/-! The edit distance of two texts is the least number of edits that lead from one to the other,
whatever the order in which they are made and wherever in the text. -/
namespace CallTracer.EditDistance

/-- One edit: a character is inserted, removed, or replaced by another. -/
inductive Edit : Text → Text → Prop
  | insert (s : Text) (a : Char) (t : Text) : Edit (s ++ t) (s ++ a :: t)
  | remove (s : Text) (a : Char) (t : Text) : Edit (s ++ a :: t) (s ++ t)
  | replace (s : Text) (a b : Char) (t : Text) : Edit (s ++ a :: t) (s ++ b :: t)

/-- A number of edits, one after the other. -/
inductive Edits : Nat → Text → Text → Prop
  | done (s : Text) : Edits 0 s s
  | edit {n : Nat} {s t u : Text} (first : Edit s t) (rest : Edits n t u) : Edits (n + 1) s u

/-- A row begins with the distance from the whole text and goes on with the row of what follows its
first character. -/
theorem row_cons (s : Text) (b : Char) (t : Text) :
    row s (b :: t) = distance s (b :: t) :: row s t := by
  induction s with
  | nil => rfl
  | cons a s ih =>
    have hrow : ∀ u, row (a :: s) u = nextRow a u (row s u) := fun u => rfl
    rw [distance, hrow, hrow, ih]
    rfl

@[simp] theorem distance_nil_left (t : Text) : distance [] t = t.length := by
  cases t <;> rfl

@[simp] theorem distance_nil_right (s : Text) : distance s [] = s.length := by
  induction s with
  | nil => rfl
  | cons a s ih => exact congrArg (· + 1) ih

theorem distance_cons_cons (a b : Char) (s t : Text) : distance (a :: s) (b :: t) =
    min (distance s (b :: t) + 1)
      (min (distance (a :: s) t + 1) (distance s t + if a = b then 0 else 1)) := by
  change (nextRow a (b :: t) (row s (b :: t))).headD 0 = _
  rw [row_cons]
  rfl

section

variable {n k : Nat} {s t u : Text}

theorem Edit.cons (a : Char) (h : Edit s t) : Edit (a :: s) (a :: t) := by
  cases h with
  | insert s b t => exact .insert (a :: s) b t
  | remove s b t => exact .remove (a :: s) b t
  | replace s b c t => exact .replace (a :: s) b c t

theorem Edits.cons (a : Char) (h : Edits n s t) : Edits n (a :: s) (a :: t) := by
  induction h with
  | done s => exact .done (a :: s)
  | edit first rest ih => exact .edit (first.cons a) ih

theorem Edits.insert (b : Char) (h : Edits n s t) : Edits (n + 1) s (b :: t) :=
  .edit (.insert [] b s) (h.cons b)

theorem Edits.remove (a : Char) (h : Edits n s t) : Edits (n + 1) (a :: s) t :=
  .edit (.remove [] a s) h

theorem Edits.replace (a b : Char) (h : Edits n s t) : Edits (n + 1) (a :: s) (b :: t) :=
  .edit (.replace [] a b s) (h.cons b)

/-- Some edits lead from one text to the other, as many as their distance. -/
theorem edits_distance (s t : Text) : Edits (distance s t) s t := by
  induction s generalizing t with
  | nil =>
    induction t with
    | nil => exact .done []
    | cons b t ih => simpa using ih.insert b
  | cons a s ih =>
    induction t with
    | nil => simpa using (ih []).remove a
    | cons b t iht =>
      have hchoice : distance (a :: s) (b :: t) = distance s (b :: t) + 1 ∨
          distance (a :: s) (b :: t) = distance (a :: s) t + 1 ∨
          distance (a :: s) (b :: t) = distance s t + if a = b then 0 else 1 := by
        rw [distance_cons_cons]
        omega
      rcases hchoice with h | h | h
      · exact h ▸ (ih (b :: t)).remove a
      · exact h ▸ iht.insert b
      · rw [h]
        split
        · rename_i hab
          exact hab ▸ (ih t).cons a
        · exact (ih t).replace a b

theorem distance_cons_right_le (s t : Text) (b : Char) :
    distance s (b :: t) ≤ distance s t + 1 := by
  cases s with
  | nil => simp
  | cons a s =>
    rw [distance_cons_cons]
    omega

theorem distance_cons_left_le (a : Char) (s t : Text) :
    distance (a :: s) t ≤ distance s t + 1 := by
  cases t with
  | nil => simp
  | cons b t =>
    rw [distance_cons_cons]
    omega

theorem distance_le_cons_left (a : Char) (s t : Text) :
    distance s t ≤ distance (a :: s) t + 1 := by
  induction t with
  | nil =>
    simp only [distance_nil_right, List.length_cons]
    omega
  | cons b t ih =>
    have hright := distance_cons_right_le s t b
    rw [distance_cons_cons]
    omega

theorem distance_replace_le (a b : Char) (s t : Text) :
    distance (a :: s) t ≤ distance (b :: s) t + 1 := by
  induction t with
  | nil => simp
  | cons c t ih =>
    rw [distance_cons_cons, distance_cons_cons]
    split <;> omega

/-- What a change of a text can do to its distances is not more with another character in front. -/
theorem distance_cons_le_of_le (a : Char) (h : ∀ u, distance s u ≤ distance t u + k) (u : Text) :
    distance (a :: s) u ≤ distance (a :: t) u + k := by
  induction u with
  | nil => simpa [Nat.add_right_comm] using h []
  | cons c u ih =>
    have hwhole := h (c :: u)
    have hrest := h u
    rw [distance_cons_cons, distance_cons_cons]
    omega

theorem distance_append_le_of_le (p : Text) (h : ∀ u, distance s u ≤ distance t u + k) (u : Text) :
    distance (p ++ s) u ≤ distance (p ++ t) u + k := by
  induction p generalizing u with
  | nil => exact h u
  | cons a p ih => exact distance_cons_le_of_le a ih u

/-- One edit brings a text nearer to any other by one at most. -/
theorem Edit.distance_le (h : Edit s t) (u : Text) : distance s u ≤ distance t u + 1 := by
  cases h with
  | insert p a t => exact distance_append_le_of_le p (distance_le_cons_left a t) u
  | remove p a t => exact distance_append_le_of_le p (distance_cons_left_le a t) u
  | replace p a b t => exact distance_append_le_of_le p (distance_replace_le a b t) u

theorem distance_self (s : Text) : distance s s = 0 := by
  induction s with
  | nil => rfl
  | cons a s ih =>
    rw [distance_cons_cons, ih]
    simp

/-- No edits that lead from one text to the other are fewer than their distance. -/
theorem Edits.distance_le (h : Edits n s t) : distance s t ≤ n := by
  induction h with
  | done s => exact Nat.le_of_eq (distance_self s)
  | edit first rest ih => exact Nat.le_trans (first.distance_le _) (Nat.add_le_add_right ih 1)

theorem isLeast_distance (s t : Text) : IsLeast {n | Edits n s t} (distance s t) :=
  ⟨edits_distance s t, fun _ h => h.distance_le⟩

theorem distance_eq_zero_iff : distance s t = 0 ↔ s = t := by
  constructor
  · intro h
    have hedits := edits_distance s t
    rw [h] at hedits
    cases hedits with
    | done => rfl
  · rintro rfl
    exact distance_self s

end

end CallTracer.EditDistance
