import CallTracer.Selection
import CallTracer.Text.Uppercase
/-! The fields of the interface: one function pointer for each selected name. -/
namespace CallTracer

/-- The name that the headers give to the type of pointers to a function. -/
def pointerType (name : Text) : Text := "PFN".toList ++ Text.upper name ++ "PROC".toList

structure ApiStruct where
  fields : List Text
  deriving DecidableEq, Repr

namespace ApiStruct

def ofSelection (s : Selection) : ApiStruct := ⟨s.names⟩

/-- How many tabs set a name off from its type: the fewer the longer the type, but at least one. -/
def tabs (name : Text) : Nat := max 1 (17 - Text.byteLength (pointerType name) / 3)

def fieldLine (name : Text) : Text :=
  '\t' :: pointerType name ++ List.replicate (tabs name) '\t' ++ name ++ [';']

def print (s : ApiStruct) : Text := Text.unlines (s.fields.map fieldLine)

theorem tabs_pos (name : Text) : 1 ≤ tabs name := Nat.le_max_left ..

example : fieldLine "glClear".toList =
    "\tPFNGLCLEARPROC\t\t\t\t\t\t\t\t\t\t\t\t\tglClear;".toList := by decide +kernel

end ApiStruct
end CallTracer
