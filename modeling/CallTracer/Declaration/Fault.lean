import CallTracer.Token
/-! Why a text is not a declaration of a function. -/
namespace CallTracer.Declaration

/-- What is wrong with the tokens of a declaration. -/
inductive Malformation
  | noParameterList
  | noName
  | voidNotAlone
  | incompleteParameter
  | emptyParameter
  | unexpectedToken
  | notClosed
  | trailingTokens
  deriving DecidableEq, Repr

def Malformation.message : Malformation → Text
  | noParameterList => "expected '(' after the function name".toList
  | noName => "missing function name".toList
  | voidNotAlone => "'void' must be the only parameter".toList
  | incompleteParameter => "parameter is missing a type or a name".toList
  | emptyParameter => "empty parameter".toList
  | unexpectedToken => "unexpected token in the parameter list".toList
  | notClosed => "missing ')'".toList
  | trailingTokens => "unexpected tokens after the parameter list".toList

/-- Why a text is no declaration. -/
inductive Fault
  | badCharacter (bad : BadCharacter)
  | missingMarker (marker : Text)
  | malformed (source : Text) (reason : Malformation)
  deriving DecidableEq, Repr

def Fault.message : Fault → Text
  | badCharacter bad =>
    "Unexpected character '".toList ++ bad.char :: "' at column ".toList ++ Text.ofNat bad.column
  | missingMarker marker =>
    "Declaration does not start with the linkage marker ".toList ++ Text.inQuotes marker
  | malformed source reason =>
    "Malformed declaration ".toList ++ Text.inQuotes source ++ ": ".toList ++ reason.message

end CallTracer.Declaration
