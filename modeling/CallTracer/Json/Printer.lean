import CallTracer.Json.Lexeme
/-! The printed form of JSON strings and of objects whose members are strings or null. -/
namespace CallTracer.Json

/-- A digit below sixteen. -/
def hexDigit (n : Nat) : Char :=
  if n < 10 then Char.ofNat ('0'.toNat + n) else Char.ofNat ('a'.toNat + (n - 10))

/-- A quote, a backslash and the control characters are escaped, nothing else is. -/
def escapeChar (c : Char) : Text :=
  match c with
  | '"' => "\\\"".toList
  | '\\' => "\\\\".toList
  | '\x08' => "\\b".toList
  | '\x0c' => "\\f".toList
  | '\n' => "\\n".toList
  | '\r' => "\\r".toList
  | '\t' => "\\t".toList
  | c =>
    if c.toNat < 0x20 then "\\u00".toList ++ [hexDigit (c.toNat / 16), hexDigit (c.toNat % 16)]
    else [c]

def printString (s : Text) : Text := Text.inQuotes (s.flatMap escapeChar)

def printValue : Option Text → Text
  | none => "null".toList
  | some s => printString s

def printMember (member : Text × Option Text) : Text :=
  "  ".toList ++ printString member.1 ++ ": ".toList ++ printValue member.2

/-- One member a line, indented by two. -/
def printObject (members : List (Text × Option Text)) : Text :=
  "\x7b\n".toList ++ Text.join ",\n".toList (members.map printMember) ++ "\n\x7d".toList

@[simp] theorem hexDigit?_hexDigit {n : Nat} (h : n < 16) : hexDigit? (hexDigit n) = some n := by
  have : ∀ k : Fin 16, hexDigit? (hexDigit k.val) = some k.val := by decide
  exact this ⟨n, h⟩

example : printString "a\"\x01é".toList = "\"a\\\"\\u0001é\"".toList := by decide

end CallTracer.Json
