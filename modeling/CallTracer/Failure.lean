import CallTracer.Config.Reader
import CallTracer.Declaration.Fault
import CallTracer.FileFault
/-! Why a run fails: a chain of failures, each the cause of the one before it, with one wording for
each kind. -/
namespace CallTracer

inductive TableKind
  | hook
  | loader
  deriving DecidableEq, Repr

def TableKind.name : TableKind → Text
  | hook => "hook".toList
  | loader => "loader".toList

/-- The three stages of a generation run. -/
inductive Stage
  | input
  | types
  | output
  deriving DecidableEq, Repr

def Stage.failureMessage : Stage → Text
  | input => "Error reading the function list or header".toList
  | types => "Error resolving types".toList
  | output => "Error generating tracer".toList

inductive Failure
  /-- A stage of the run failed. -/
  | stage (stage : Stage) (cause : Failure)
  /-- An input file could not be read. -/
  | inputFile (path : Text) (fault : FileFault)
  | blankLine (line : Nat)
  | invalidName (line : Nat) (name : Text)
  | declarationOnLine (line : Nat) (cause : Failure)
  | declaredTwice (name : Text)
  | declaration (fault : Declaration.Fault)
  /-- A function has a type that could not be resolved. -/
  | function (name : Text) (cause : Failure)
  | resultType (cause : Failure)
  | parameter (name : Text) (cause : Failure)
  | unknownType (spelling : Text)
  | stub (name : Text) (cause : Failure)
  | table (kind : TableKind) (cause : Failure)
  | formatting
  /-- An artifact could not be written to a file. -/
  | outputFile (path : Text) (fault : FileFault)
  /-- The trace source could not be written to standard output. -/
  | standardOutput (fault : FileFault)
  | configRead (path : Text) (cause : Failure)
  | configWrite (path : Text) (fault : FileFault)
  | config (fault : Config.Fault)
  | system (fault : FileFault)
  /-- The place in the program where a failure arose, which has no text of its own. -/
  | place
  /-- Two texts that had to be equal are not. -/
  | differentTexts
  | other (message : Text)
  | otherBecause (message : Text) (cause : Failure)
  deriving DecidableEq, Repr

namespace Failure

def message : Failure → Text
  | stage s _ => s.failureMessage
  | inputFile path _ => "Could not read ".toList ++ Text.inQuotes path
  | blankLine line => "Line ".toList ++ Text.ofNat line ++ " of the function list is blank".toList
  | invalidName line name =>
    Text.inQuotes name ++ " on line ".toList ++ Text.ofNat line ++
      " of the function list is not a valid function name".toList
  | declarationOnLine line _ => "Could not parse declaration on line ".toList ++ Text.ofNat line
  | declaredTwice name =>
    "Function ".toList ++ Text.inQuotes name ++ " is declared more than once".toList
  | declaration fault => fault.message
  | function name _ => "Failed to translate function ".toList ++ Text.inQuotes name
  | resultType _ => "Failed to translate return type".toList
  | parameter name _ => "Failed to translate argument ".toList ++ Text.inQuotes name
  | unknownType spelling => "Unknown type ".toList ++ Text.inQuotes spelling
  | stub name _ => "Failed to generate function ".toList ++ Text.inQuotes name
  | table kind _ => "Failed to generate ".toList ++ kind.name ++ " table".toList
  | formatting => "String formatting error while generating".toList
  | outputFile path _ => "Failed to write ".toList ++ Text.inQuotes path
  | standardOutput _ => "Failed to write ".toList ++ Text.inQuotes "<stdout>".toList
  | configRead path _ => "Could not read config ".toList ++ Text.inQuotes path
  | configWrite path _ => "Could not write config ".toList ++ Text.inQuotes path
  | config fault => fault.message
  | system fault => fault.message
  | place => []
  | differentTexts => "Comparison failed".toList
  | other message | otherBecause message _ => message

def cause? : Failure → Option Failure
  | stage _ c | declarationOnLine _ c | function _ c | resultType c | parameter _ c | stub _ c
  | table _ c | configRead _ c | otherBecause _ c => some c
  | inputFile _ f | outputFile _ f | standardOutput f | configWrite _ f => some (system f)
  | blankLine _ | unknownType _ => some place
  | formatting => some (other "an error occurred when formatting an argument".toList)
  | _ => none

/-- The causes of a failure, the nearest first. -/
def causes : Failure → List Failure
  | stage _ c | declarationOnLine _ c | function _ c | resultType c | parameter _ c | stub _ c
  | table _ c | configRead _ c | otherBecause _ c => c :: causes c
  | inputFile _ f | outputFile _ f | standardOutput f | configWrite _ f => [system f]
  | blankLine _ | unknownType _ => [place]
  | formatting => [other "an error occurred when formatting an argument".toList]
  | _ => []

/-- Whether the failure belongs to the resolution of types. -/
def isResolution : Failure → Bool
  | function .. | resultType _ | parameter .. | unknownType _ => true
  | _ => false

/-- Whether the failure is an unknown type, or has one below it with nothing but failures of
resolution between. -/
def isUnknownType : Failure → Bool
  | unknownType _ => true
  | function _ c | resultType c | parameter _ c => c.isUnknownType
  | _ => false

/-- The spelling of that unknown type. -/
def unknownType? : Failure → Option Text
  | unknownType spelling => some spelling
  | function _ c | resultType c | parameter _ c => c.unknownType?
  | _ => none

/-- The spelling of the unknown type for which a whole run failed. -/
def unknownTypeOfRun? : Failure → Option Text
  | stage .types c => c.unknownType?
  | _ => none

/-- How a failure is told: its message, then its causes. The place of a failure is shown in the
words given for it. -/
def lines (place : Text) (f : Failure) : List Text :=
  f.message :: f.causes.map fun c =>
    "  because: ".toList ++ if c = .place then place else c.message

/-- The causes are found by asking for one cause after the other. -/
theorem causes_eq (f : Failure) :
    f.causes = match f.cause? with
      | none => []
      | some c => c :: c.causes := by
  cases f <;> rfl

end Failure
end CallTracer
