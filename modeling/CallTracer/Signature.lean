import CallTracer.Token
/-! Signatures of functions, with types in their canonical spelling. -/
namespace CallTracer

structure Parameter where
  type : Text
  name : Text
  deriving DecidableEq, Repr

def Parameter.print (p : Parameter) : Text := p.type ++ ' ' :: p.name

/-- A function as a header declares it. The result is empty if no type stands before the name. -/
structure Signature where
  name : Text
  result : Text
  parameters : List Parameter
  deriving DecidableEq, Repr

namespace Signature

def returnsVoid (s : Signature) : Bool := s.result.isEmpty || s.result == "void".toList

/-- A signature's text: `result name(parameters)`, where a missing result is `void`. -/
def print (s : Signature) : Text :=
  (if s.result.isEmpty then "void".toList else s.result) ++ ' ' :: s.name ++
    '(' :: Text.join ", ".toList (s.parameters.map Parameter.print) ++ [')']

end Signature
end CallTracer
