import CallTracer.Identifier
import CallTracer.Report
import CallTracer.Text.Order
/-! The functions selected for tracing, and their reading from a function list. -/
namespace CallTracer

/-- Names in strictly ascending order. -/
structure Selection where
  names : List Text
  ascending : names.Pairwise fun m n => m.before n

namespace Selection

def empty : Selection := ⟨[], .nil⟩

/-- The place of a name among ascending ones; a name that is there is not added again. -/
def insertName (name : Text) : List Text → List Text
  | [] => [name]
  | n :: ns =>
    if name.before n then name :: n :: ns
    else if name = n then n :: ns
    else n :: insertName name ns

@[simp] theorem mem_insertName {m name : Text} {ns : List Text} :
    m ∈ insertName name ns ↔ m = name ∨ m ∈ ns := by
  induction ns with
  | nil => simp [insertName]
  | cons n ns ih =>
    rw [insertName]
    split
    · simp
    · split
      · simp_all
      · simp only [List.mem_cons, ih]
        exact or_left_comm

theorem pairwise_insertName {name : Text} {ns : List Text}
    (h : ns.Pairwise fun m n => m.before n) :
    (insertName name ns).Pairwise fun m n => m.before n := by
  induction ns with
  | nil => simp [insertName]
  | cons n ns ih =>
    obtain ⟨hn, hns⟩ := List.pairwise_cons.1 h
    rw [insertName]
    split
    · rename_i hlt
      refine List.pairwise_cons.2 ⟨fun m hm => ?_, h⟩
      rcases List.mem_cons.1 hm with rfl | hm
      · exact hlt
      · exact Text.before_trans hlt (hn m hm)
    · split
      · exact h
      · rename_i hlt hne
        refine List.pairwise_cons.2 ⟨fun m hm => ?_, ih hns⟩
        rcases mem_insertName.1 hm with rfl | hm
        · exact ((Text.before_trichotomy n m).resolve_right (by simp [hlt, Ne.symm hne]))
        · exact hn m hm

def insert (s : Selection) (name : Text) : Selection :=
  ⟨insertName name s.names, pairwise_insertName s.ascending⟩

def contains (s : Selection) (name : Text) : Bool := s.names.contains name

def size (s : Selection) : Nat := s.names.length

@[simp] theorem names_empty : empty.names = [] := rfl

@[simp] theorem mem_names_insert {s : Selection} {m name : Text} :
    m ∈ (s.insert name).names ↔ m = name ∨ m ∈ s.names := mem_insertName

@[simp] theorem contains_iff {s : Selection} {name : Text} :
    s.contains name ↔ name ∈ s.names := by
  simp [contains]

/-- Reads one line of a function list: a line whose first word begins with `//` is a comment, of any
other the last word is the name of a function. -/
def readLine (number : Nat) (line : Text) : Except Failure (Option Text) :=
  match (Text.words line).getLast? with
  | none => .error (.blankLine number)
  | some name =>
    if "//".toList.isPrefixOf (Text.trimStart line) then .ok none
    else if Identifier.isValid name then .ok (some name)
    else .error (.invalidName number name)

def repeatedText (name : Text) (number : Nat) : Text :=
  Text.inQuotes name ++ " is listed more than once (line ".toList ++ Text.ofNat number ++ [')']

/-- Adds the names of the lines from the one with the given number on. -/
def readLines (s : Selection) (number : Nat) : List Text → Report Selection
  | [] => pure s
  | line :: lines => do
    match ← Report.ofExcept (readLine number line) with
    | none => readLines s (number + 1) lines
    | some name =>
      if s.contains name then
        Report.note .debug .functionList (repeatedText name number)
        readLines s (number + 1) lines
      else readLines (s.insert name) (number + 1) lines

/-- The selection that a function list describes. -/
def read (list : Text) : Report Selection := readLines empty 1 (Text.lines list)

end Selection
end CallTracer
