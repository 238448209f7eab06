import CallTracer.Declaration.Fault
import CallTracer.Signature
/-! Reading a declaration: a linkage marker, result type, name and parameter list. The head, up to
the first parenthesis, is read before the rest, so that what follows the name need not be valid
until it is asked for. -/
namespace CallTracer.Declaration

/-- The words of a head that belong neither to the result type nor to the name. -/
def decorations : List Text :=
  ["APIENTRY", "APIENTRYP", "GLAPIENTRY", "WINAPI", "__stdcall", "__cdecl", "extern",
    "KHRONOS_APICALL", "KHRONOS_APIENTRY"].map String.toList

def isDecoration : Token → Bool
  | .name s => decorations.contains s
  | _ => false

/-- A declaration whose head is read. `opening` is the text before the first parenthesis and `rest`
the text behind it. -/
structure Head where
  name : Text
  result : Text
  opening : Text
  rest : Text
  deriving DecidableEq, Repr

/-- The text that the head was read from. -/
def Head.source (h : Head) : Text := h.opening ++ '(' :: h.rest

/-- Reads the tokens of a head: the marker, then names and stars, of which the last is the name of
the function. -/
def headOfTokens (source marker : Text) (ts : List Token) : Except Fault (Text × Text) :=
  match ts with
  | .name m :: ts =>
    if m ≠ marker then .error (.missingMarker marker)
    else if !ts.all Token.isTypePart then .error (.malformed source .noParameterList)
    else
      let parts := ts.filter (!isDecoration ·)
      match parts.getLast? with
      | some (.name name) => .ok (name, Token.spell parts.dropLast)
      | _ => .error (.malformed source .noName)
  | _ => .error (.missingMarker marker)

def readHead (source marker : Text) : Except Fault Head :=
  match source.dropWhile (· != '(') with
  | [] => .error (.malformed source .noParameterList)
  | _ :: rest => do
    let opening := source.takeWhile (· != '(')
    let ts ← (Token.read opening).mapError .badCharacter
    let (name, result) ← headOfTokens source marker ts
    return ⟨name, result, opening, rest⟩

/-- A parameter from its tokens: a type, then a name. -/
def parameterOfTokens (ts : List Token) : Except Malformation Parameter :=
  match ts.getLast? with
  | none => .error .emptyParameter
  | some (.name name) =>
    if ts.dropLast.isEmpty then .error .incompleteParameter
    else .ok ⟨Token.spell ts.dropLast, name⟩
  | some _ => .error .incompleteParameter

/-- Reads parameters up to the closing parenthesis, of which there is at least one unless the only
thing found is `void`. `first` tells whether none stands before. -/
def readParameters (first : Bool) (ts : List Token) :
    Except Malformation (List Parameter × List Token) :=
  let run := ts.takeWhile Token.isTypePart
  if run = [.name "void".toList] then
    match first, ts.dropWhile Token.isTypePart with
    | true, .rightParen :: rest => .ok ([], rest)
    | _, _ => .error .voidNotAlone
  else match parameterOfTokens run with
    | .error m => .error m
    | .ok p =>
      match _h : ts.dropWhile Token.isTypePart with
      | .comma :: rest => (readParameters false rest).map fun r => (p :: r.1, r.2)
      | .rightParen :: rest => .ok ([p], rest)
      | [] => .error .notClosed
      | _ => .error .unexpectedToken
termination_by ts.length
decreasing_by
  have := Text.length_dropWhile_le Token.isTypePart ts
  rw [_h, List.length_cons] at this
  omega

/-- Reads a parameter list, its closing parenthesis and what may follow it: a semicolon. -/
def parametersOfTokens (ts : List Token) : Except Malformation (List Parameter) := do
  let (parameters, rest) ← match ts with
    | .rightParen :: rest => .ok ([], rest)
    | _ => readParameters true ts
  match rest with
  | [] | [.semicolon] => return parameters
  | _ => .error .trailingTokens

/-- Reads the rest of a declaration. Columns count from the start of the whole text. -/
def Head.finish (h : Head) : Except Fault Signature := do
  let ts ← (Token.readFrom (h.opening.length + 2) h.rest).mapError .badCharacter
  let parameters ← (parametersOfTokens ts).mapError (.malformed h.source)
  return ⟨h.name, h.result, parameters⟩

def read (source marker : Text) : Except Fault Signature := do
  (← readHead source marker).finish

example : (read "GLAPI const GLubyte *APIENTRY glGetStringi (GLenum name, GLuint index);".toList
      "GLAPI".toList).map Signature.print =
    .ok "const GLubyte* glGetStringi(GLenum name, GLuint index)".toList := by cbv
example : read "GLAPI void glFoo (GLint x,)".toList "GLAPI".toList =
    .error (.malformed "GLAPI void glFoo (GLint x,)".toList .emptyParameter) := by cbv

end CallTracer.Declaration
