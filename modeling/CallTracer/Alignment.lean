import CallTracer.Text
/-! Alignments of two lists that keep as many items as possible. -/
namespace CallTracer

/-- A step from one list to another. -/
inductive Change (α : Type)
  | kept (a : α)
  | removed (a : α)
  | added (a : α)
  deriving DecidableEq, Repr

/-- Changes in order, with the number of items they keep. -/
structure Alignment (α : Type) where
  kept : Nat
  changes : List (Change α)
  deriving DecidableEq, Repr

namespace Alignment

variable {α : Type}

def nil : Alignment α := ⟨0, []⟩

def keep (a : α) (x : Alignment α) : Alignment α := ⟨x.kept + 1, .kept a :: x.changes⟩

def remove (a : α) (x : Alignment α) : Alignment α := ⟨x.kept, .removed a :: x.changes⟩

def add (a : α) (x : Alignment α) : Alignment α := ⟨x.kept, .added a :: x.changes⟩

/-- The one that keeps more, the first if they keep the same. -/
def better (x y : Alignment α) : Alignment α := if y.kept ≤ x.kept then x else y

variable [DecidableEq α]

/-- The best alignment of two lists. Equal first items are kept, else one of them goes. -/
def best : List α → List α → Alignment α
  | [], t => t.foldr add nil
  | s, [] => s.foldr remove nil
  | a :: s, b :: t =>
    if a = b then (best s t).keep a
    else better ((best s (b :: t)).remove a) ((best (a :: s) t).add b)
termination_by s t => s.length + t.length

/-- The best alignments of the empty list with every suffix of another, the longest first. -/
def firstRow : List α → List (Alignment α)
  | [] => [nil]
  | b :: t =>
    let row := firstRow t
    (row.headD nil).add b :: row

/-- The best alignments of `a :: s` with every suffix of a list, from those of `s`. -/
def nextRow (a : α) : List α → List (Alignment α) → List (Alignment α)
  | b :: t, x :: xs =>
    let row := nextRow a t xs
    (if a = b then (xs.headD nil).keep a
      else better (x.remove a) ((row.headD nil).add b)) :: row
  | _, xs => [(xs.headD nil).remove a]

/-- The best alignments of a list with every suffix of another. -/
def row (s t : List α) : List (Alignment α) := s.foldr (fun a => nextRow a t) (firstRow t)

/-- The best alignment, found row by row. -/
def find (s t : List α) : Alignment α := (row s t).headD nil

end Alignment

namespace Change

variable {α : Type}

def isKept : Change α → Bool
  | kept _ => true
  | _ => false

/-- The item that a change takes from the list on the left. -/
def left? : Change α → Option α
  | kept a | removed a => some a
  | added _ => none

/-- The item that a change gives to the list on the right. -/
def right? : Change α → Option α
  | kept a | added a => some a
  | removed _ => none

/-- Moves the removals of every region between kept items before its additions, of which `pending`
have been met. -/
def removalsFirst (pending : List (Change α)) : List (Change α) → List (Change α)
  | [] => pending
  | .kept a :: cs => pending ++ .kept a :: removalsFirst [] cs
  | .removed a :: cs => .removed a :: removalsFirst pending cs
  | .added a :: cs => removalsFirst (pending ++ [.added a]) cs

end Change
end CallTracer
