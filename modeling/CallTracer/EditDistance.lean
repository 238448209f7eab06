import CallTracer.Text
/-! The edit distance of two texts, computed row by row. -/
namespace CallTracer.EditDistance

/-- The distances from the empty text to every suffix of a text, the longest first. -/
def firstRow : Text → List Nat
  | [] => [0]
  | _ :: t => (t.length + 1) :: firstRow t

/-- The distances from `a :: s` to every suffix of a text, from those of `s`: a character is
removed, inserted, or put in the place of another. -/
def nextRow (a : Char) : Text → List Nat → List Nat
  | b :: t, d :: ds =>
    let row := nextRow a t ds
    min (d + 1) (min (row.headD 0 + 1) (ds.headD 0 + if a = b then 0 else 1)) :: row
  | _, ds => [ds.headD 0 + 1]

/-- The distances from one text to every suffix of another. -/
def row (s t : Text) : List Nat := s.foldr (fun a => nextRow a t) (firstRow t)

/-- How many characters have to be inserted, removed or replaced to turn one text into the
other. -/
def distance (s t : Text) : Nat := (row s t).headD 0

@[simp] theorem length_firstRow (t : Text) : (firstRow t).length = t.length + 1 := by
  induction t with
  | nil => rfl
  | cons b t ih => simp [firstRow, ih]

theorem length_nextRow (a : Char) (t : Text) (ds : List Nat) (h : ds.length = t.length + 1) :
    (nextRow a t ds).length = t.length + 1 := by
  induction t generalizing ds with
  | nil =>
    cases ds with
    | nil => simp at h
    | cons d ds => rfl
  | cons b t ih =>
    cases ds with
    | nil => simp at h
    | cons d ds =>
      simp only [List.length_cons, Nat.add_right_cancel_iff] at h
      simp [nextRow, ih ds h]

@[simp] theorem length_row (s t : Text) : (row s t).length = t.length + 1 := by
  induction s with
  | nil => simp [row]
  | cons a s ih => exact length_nextRow a t _ ih

example : distance "kitten".toList "sitting".toList = 3 := by decide
example : distance [] "abc".toList = 3 := by decide

end CallTracer.EditDistance
