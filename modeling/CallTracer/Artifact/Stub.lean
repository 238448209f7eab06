import CallTracer.Api
import CallTracer.Config
/-! Stubs: functions of the generated source that announce a call, forward it to the real function
and check the error state. -/
namespace CallTracer

/-- The saved copy of the real functions, to which stubs forward. -/
def apiHook : Text := "apiHook".toList

/-- The function that asks for the error state. Every stub calls it, so it is never hooked. -/
def errorQuery : Text := "glGetError".toList

/-- The statement by which a stub checks the error state. -/
def checkStatement : Text :=
  "assert(".toList ++ apiHook ++ '.' :: errorQuery ++ "() == GL_NO_ERROR);".toList

/-- A call of a real function. -/
structure Call where
  function : Text
  arguments : List Text
  deriving DecidableEq, Repr

def Call.print (c : Call) : Text :=
  apiHook ++ '.' :: c.function ++ '(' :: Text.join ", ".toList c.arguments ++ [')']

/-- The statements of a stub; `keep` puts the result of a call into a new variable. -/
inductive Statement
  | announce (function : Text) (parameters : List TracedParameter)
  | forward (call : Call)
  | keep (type name : Text) (call : Call)
  | check
  | giveBack (name : Text)
  deriving DecidableEq, Repr

namespace Statement

/-- The format of an announcement, as one or more string literals. -/
def format (function : Text) (parameters : List TracedParameter) : Text :=
  if parameters.isEmpty then '"' :: function ++ "()\\n\"".toList
  else '"' :: function ++ "(\" \"".toList ++
    Text.join ", ".toList (parameters.map (·.type.directive.text)) ++ ")\\n\"".toList

def print : Statement → Text
  | announce function parameters =>
    "printf(".toList ++
      Text.join ", ".toList (format function parameters :: parameters.map TracedParameter.value) ++
      ");".toList
  | forward call => call.print ++ [';']
  | keep type name call => type ++ " const ".toList ++ name ++ " = ".toList ++ call.print ++ [';']
  | check => checkStatement
  | giveBack name => "return ".toList ++ name ++ [';']

end Statement

structure Stub where
  result : Text
  symbol : Text
  parameters : List TracedParameter
  body : List Statement
  deriving DecidableEq, Repr

namespace Stub

/-- The variable that keeps the result of the forwarded call. -/
def resultName : Text := ['r']

def call (f : TracedFunction) : Call := ⟨f.name, f.parameters.map TracedParameter.name⟩

def resultType (f : TracedFunction) : Text :=
  if f.returnsVoid then "void".toList else f.result.spelling

def bodyOf (f : TracedFunction) : List Statement :=
  .announce f.name f.parameters ::
    if f.returnsVoid then [.forward (call f), .check]
    else [.keep (resultType f) resultName (call f), .check, .giveBack resultName]

def ofFunction (naming : Naming) (f : TracedFunction) : Stub :=
  ⟨resultType f, naming.stubPrefix ++ f.name, f.parameters, bodyOf f⟩

/-- The line that a stub begins with. -/
def opening (s : Stub) : Text :=
  s.result ++ ' ' :: s.symbol ++ '(' ::
    Text.join ", ".toList (s.parameters.map fun p => p.type.spelling ++ ' ' :: p.name) ++ [')']

def print (s : Stub) : Text :=
  Text.unlines (s.opening :: "\x7b".toList :: s.body.map (fun b => '\t' :: b.print) ++
    ["\x7d".toList, []])

end Stub
end CallTracer
