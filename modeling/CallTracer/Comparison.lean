import CallTracer.Alignment
import CallTracer.Report
/-! Comparing two texts line by line, and the log of a check that fails. -/
namespace CallTracer.Comparison

/-- The lines of a text, each with its end: a newline, a carriage return, or the two together, the
return first. -/
def pieces : Text → List Text
  | [] => []
  | '\r' :: '\n' :: cs => ['\r', '\n'] :: pieces cs
  | c :: cs =>
    if c = '\n' ∨ c = '\r' then [c] :: pieces cs
    else match pieces cs with
      | [] => [[c]]
      | line :: lines => (c :: line) :: lines

/-- The changes that lead from one text to the other, as few as possible, with the removals of every
changed region first. -/
def changes (left right : Text) : List (Change Text) :=
  Change.removalsFirst [] (Alignment.find (pieces left) (pieces right)).changes

def differs (cs : List (Change Text)) : Bool := cs.any (!·.isKept)

def label : Change Text → Text
  | .kept _ => " | ".toList
  | .removed _ => "-| ".toList
  | .added _ => "+| ".toList

def line : Change Text → Text
  | .kept l | .removed l | .added l => l

def hasEnd (line : Text) : Bool :=
  line.getLast? = some '\n' || line.getLast? = some '\r'

/-- A line with its label; a newline is added if the line has no end. -/
def printChange (c : Change Text) : Text :=
  label c ++ line c ++ if hasEnd (line c) then [] else ['\n']

/-- All lines, and one empty line if the texts differ. -/
def print (cs : List (Change Text)) : Text :=
  cs.flatMap printChange ++ if differs cs then ['\n'] else []

/-- The failure of a check that two texts are equal. -/
def check (left right : Text) : Except Failure Unit :=
  if differs (changes left right) then .error .differentTexts else .ok ()

/-- Logs why a check failed. -/
def logged (outcome : Except Failure Unit) : Report Unit :=
  match outcome with
  | .ok () => ⟨[], .ok ()⟩
  | .error f => ⟨(f.lines []).map (⟨.error, .checks, ·⟩), .error f⟩

theorem flatten_pieces (s : Text) : (pieces s).flatten = s := by
  fun_induction pieces s with
  | case1 => rfl
  | case2 cs ih => simp [ih]
  | case3 c cs _ _ ih => simp [ih]
  | case4 c cs _ _ h ih =>
    rw [h] at ih
    simpa using ih
  | case5 c cs _ _ line lines h ih =>
    rw [h] at ih
    simpa using ih

end CallTracer.Comparison
