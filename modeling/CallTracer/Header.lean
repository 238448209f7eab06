import CallTracer.Declaration
import CallTracer.Registry
import CallTracer.Selection
/-! The signatures of the selected functions, taken from the declarations of a header. -/
namespace CallTracer.Header

/-- The lines of a header that are declarations, with their numbers and without blanks around them:
those whose first word is the marker. -/
def declarations (marker header : Text) : List (Nat × Text) :=
  ((Text.lines header).zipIdx 1).filterMap fun (line, number) =>
    if (Text.words line).head? = some marker then some (number, Text.trim line) else none

/-- A fault of a declaration, with the line it stands on. -/
def located {α : Type} (number : Nat) (x : Except Declaration.Fault α) : Report α :=
  .ofExcept (x.mapError fun fault => .declarationOnLine number (.declaration fault))

/-- Reads a declaration to its end if its name is selected, and adds its signature. -/
def addDeclaration (marker : Text) (selection : Selection) (found : Registry Signature)
    (declaration : Nat × Text) : Report (Registry Signature) := do
  let head ← located declaration.1 (Declaration.readHead declaration.2 marker)
  if selection.contains head.name then
    let signature ← located declaration.1 head.finish
    Report.note .debug .header signature.print
    match found.insert? signature.name signature with
    | some found => return found
    | none => Report.fail (.declaredTwice signature.name)
  else return found

def foundText (declared wrapped : Nat) : Text :=
  "found ".toList ++ Text.ofNat declared ++ " declarations, ".toList ++ Text.ofNat wrapped ++
    " of them wrapped".toList

/-- The signatures of the selected functions in the order of their declarations. -/
def signatures (header marker : Text) (selection : Selection) : Report (Registry Signature) := do
  let lines := declarations marker header
  let found ← lines.foldlM (addDeclaration marker selection) Registry.empty
  Report.note .info .header (foundText lines.length found.size)
  return found

end CallTracer.Header
