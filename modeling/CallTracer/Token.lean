import CallTracer.Identifier
/-! Tokens of a C function declaration, their reading from a text and the canonical spelling of the
types they form. -/
namespace CallTracer

inductive Token
  | name (text : Text)
  | star
  | leftParen
  | rightParen
  | comma
  | semicolon
  deriving DecidableEq, Repr

/-- A character that starts no token, and its column counted in characters from one. -/
structure BadCharacter where
  char : Char
  column : Nat
  deriving DecidableEq, Repr

namespace Token

def text : Token → Text
  | .name s => s
  | .star => ['*']
  | .leftParen => ['(']
  | .rightParen => [')']
  | .comma => [',']
  | .semicolon => [';']

def name? : Token → Option Text
  | .name s => some s
  | _ => none

/-- The tokens that types and names are made of. -/
def isTypePart : Token → Bool
  | .name _ | .star => true
  | _ => false

def ofPunctuation? : Char → Option Token
  | '*' => some .star
  | '(' => some .leftParen
  | ')' => some .rightParen
  | ',' => some .comma
  | ';' => some .semicolon
  | _ => none

/-- The tokens of a text whose first character stands in the given column. Blanks separate names
and are otherwise skipped; a name is as long as it can be. -/
def readFrom (column : Nat) : Text → Except BadCharacter (List Token)
  | [] => .ok []
  | c :: cs =>
    if Text.isBlank c then readFrom (column + 1) cs
    else match ofPunctuation? c with
      | some t => (readFrom (column + 1) cs).map (t :: ·)
      | none =>
        if Identifier.isStart c then
          let rest := cs.takeWhile Identifier.isPart
          (readFrom (column + 1 + rest.length) (cs.dropWhile Identifier.isPart)).map
            (.name (c :: rest) :: ·)
        else .error ⟨c, column⟩
termination_by s => s.length
decreasing_by
  · simp
  · simp
  · have := Text.length_dropWhile_le Identifier.isPart cs
    simp only [List.length_cons]
    omega

def read (source : Text) : Except BadCharacter (List Token) := readFrom 1 source

/-- Spells tokens after something that is already written if `started` holds: a star joins what
stands before it, any other token is set off from it by one space. -/
def spellAfter (started : Bool) : List Token → Text
  | [] => []
  | .star :: ts => '*' :: spellAfter true ts
  | t :: ts =>
    if started then ' ' :: t.text ++ spellAfter true ts
    else t.text ++ spellAfter (!t.text.isEmpty) ts

/-- The canonical spelling of a type, such as `const GLchar* const*`. -/
def spell (ts : List Token) : Text := spellAfter false ts

@[simp] theorem readFrom_nil (column : Nat) : readFrom column [] = .ok [] := by
  rw [readFrom]

@[simp] theorem spell_nil : spell [] = [] := rfl

example : (read "GLAPI void(GLint x);".toList).map spell =
    .ok "GLAPI void ( GLint x ) ;".toList := by cbv
example : read "a [2]".toList = .error ⟨'[', 3⟩ := by cbv
example : spell [.name "const".toList, .name "GLchar".toList, .star, .name "const".toList, .star] =
    "const GLchar* const*".toList := by decide

end Token
end CallTracer
