import CallTracer.KnownType
import CallTracer.Registry
import CallTracer.Report
import CallTracer.Signature
import CallTracer.Sorting
import CallTracer.Suggestion
/-! The traced functions: signatures in which every type is one of the catalogue. -/
namespace CallTracer

structure TracedParameter where
  name : Text
  type : KnownType
  deriving DecidableEq, Repr

/-- The expression that is printed for a parameter. -/
def TracedParameter.value (p : TracedParameter) : Text := p.type.conversion.apply p.name

def TracedParameter.describe (p : TracedParameter) : Text :=
  p.name ++ ": ".toList ++ p.type.spelling

structure TracedFunction where
  name : Text
  result : KnownType
  parameters : List TracedParameter
  deriving DecidableEq, Repr

namespace TracedFunction

def returnsVoid (f : TracedFunction) : Bool := f.result.isVoid

def describe (f : TracedFunction) : Text :=
  "TracedFunction ".toList ++ f.name ++ '(' ::
    Text.join ", ".toList (f.parameters.map TracedParameter.describe) ++ ") -> ".toList ++
    f.result.spelling

end TracedFunction

/-- The traced functions in the order of their declarations. -/
abbrev Api := Registry TracedFunction

namespace Api

/-- How many spellings are proposed for an unknown one. -/
def proposals : Nat := 3

/-- What is logged about an unknown type: the spellings that could have been meant. -/
def unknownTypeTexts (spelling : Text) : List Text :=
  ("Unknown type: ".toList ++ Text.inQuotes spelling) :: "Did you mean one of:".toList ::
    (Suggestion.closest spelling proposals).map ("  ".toList ++ Text.inQuotes ·)

def logUnknown (spelling : Text) : Report Unit :=
  ⟨(unknownTypeTexts spelling).map (⟨.error, .typeLookup, ·⟩), .ok ()⟩

def resolveType (spelling : Text) : Report KnownType :=
  match KnownType.ofSpelling? spelling with
  | some t => pure t
  | none => do
    logUnknown spelling
    Report.fail (.unknownType spelling)

def resolveParameter (p : Parameter) : Report TracedParameter := do
  let type ← (resolveType p.type).wrap (.parameter p.name)
  return ⟨p.name, type⟩

/-- Resolves the result, then the parameters in order; the first unknown type decides. -/
def resolveFunction (s : Signature) : Report TracedFunction := do
  let result ← (resolveType s.result).wrap .resultType
  let parameters ← s.parameters.mapM resolveParameter
  return ⟨s.name, result, parameters⟩

def addFunction (api : Api) (s : Signature) : Report Api := do
  let f ← (resolveFunction s).wrap (.function s.name)
  Report.note .debug .types f.describe
  return api.insert f.name f

/-- Resolves every signature, in order. -/
def resolve (signatures : Registry Signature) : Report Api :=
  signatures.toList.foldlM addFunction Registry.empty

/-- The names of the functions in ascending order. -/
def sortedNames (api : Api) : List Text :=
  Sorting.sort Text.atMost (api.toList.map TracedFunction.name)

def describe (api : Api) : Text := Text.unlines (api.toList.map TracedFunction.describe)

/-- How a value of a type is printed. -/
def formatFor (spelling : Text) : Report Text := do
  return (← resolveType spelling).directive.text

/-- The expression that is printed for a parameter of a type. -/
def valueFor (spelling name : Text) : Report Text := do
  return (← resolveType spelling).conversion.apply name

end Api
end CallTracer
