import CallTracer.Text
/-! Values in the order in which they were added, with access by name. -/
namespace CallTracer

/-- The values in order, and for each name the position of its value. -/
structure Registry (α : Type) where
  values : Array α
  positions : List (Text × Nat)

namespace Registry

variable {α : Type}

def empty : Registry α := ⟨#[], []⟩

def position? (r : Registry α) (name : Text) : Option Nat := r.positions.lookup name

def contains (r : Registry α) (name : Text) : Bool := (r.position? name).isSome

def get? (r : Registry α) (name : Text) : Option α := r.position? name >>= (r.values[·]?)

def size (r : Registry α) : Nat := r.values.size

def toList (r : Registry α) : List α := r.values.toList

/-- Adds a value under a new name; a name that is taken keeps its value, and there is no result. -/
def insert? (r : Registry α) (name : Text) (value : α) : Option (Registry α) :=
  if r.contains name then none
  else some ⟨r.values.push value, (name, r.values.size) :: r.positions⟩

/-- Adds a value unless its name is taken. -/
def insert (r : Registry α) (name : Text) (value : α) : Registry α :=
  (r.insert? name value).getD r

@[simp] theorem toList_empty : (empty : Registry α).toList = [] := rfl

@[simp] theorem contains_empty (name : Text) : (empty : Registry α).contains name = false := rfl

@[simp] theorem size_eq_length (r : Registry α) : r.size = r.toList.length := by
  simp [size, toList]

theorem insert?_of_contains {r : Registry α} {name : Text} (h : r.contains name) (v : α) :
    r.insert? name v = none := by
  simp [insert?, h]

theorem isSome_insert? (r : Registry α) (name : Text) (v : α) :
    (r.insert? name v).isSome = !r.contains name := by
  unfold insert?
  cases r.contains name <;> rfl

theorem insert_of_contains {r : Registry α} {name : Text} (h : r.contains name) (v : α) :
    r.insert name v = r := by
  rw [insert, insert?_of_contains h, Option.getD_none]

theorem insert?_of_not_contains {r : Registry α} {name : Text} (h : r.contains name = false)
    (v : α) : ∃ q, r.insert? name v = some q ∧ q.toList = r.toList ++ [v] ∧
      ∀ n, q.contains n = (n == name || r.contains n) := by
  refine ⟨_, by simp [insert?, h]; rfl, by simp [toList], fun n => ?_⟩
  simp only [contains, position?, List.lookup_cons]
  cases n == name <;> simp

end Registry
end CallTracer
