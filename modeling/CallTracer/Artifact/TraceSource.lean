import CallTracer.Artifact.Table
import CallTracer.Selection
/-! The trace source: a preamble, the stubs in the order of their declarations and the two
tables. -/
namespace CallTracer

structure TraceSource where
  /-- The type of the interface. -/
  apiType : Text
  stubs : List Stub
  hookTable : Table
  loaderTable : Table
  deriving DecidableEq, Repr

namespace TraceSource

def preamble (apiType : Text) : Text :=
  Text.unlines [
    "#include <string>".toList,
    "#include <inttypes.h>".toList,
    [],
    "namespace".toList,
    "\x7b".toList,
    '\t' :: apiType ++ ' ' :: apiHook ++ [';'],
    "\x7d // namespace".toList,
    [],
    "using PFNGETGLPROC = void* (const char*);".toList,
    [],
    "#define ".toList ++ enumToString ++ "( en ) Enum2String( en ).c_str()".toList,
    "extern std::string Enum2String( GLenum e );".toList,
    []]

def ofApi (naming : Naming) (api : Api) : TraceSource where
  apiType := naming.apiType
  stubs := api.toList.map (Stub.ofFunction naming)
  hookTable := Table.hook naming api.sortedNames
  loaderTable := Table.loader naming api.sortedNames

def print (t : TraceSource) : Text :=
  preamble t.apiType ++ t.stubs.flatMap Stub.print ++ t.hookTable.print ++ t.loaderTable.print

/-- The selected names that no declaration was found for. -/
def undeclared (api : Api) (selection : Selection) : List Text :=
  selection.names.filter (!api.contains ·)

def undeclaredText (name : Text) : Text :=
  name ++ " is in the function list but was not declared in the header".toList

def countText (count : Nat) : Text :=
  "generated ".toList ++ Text.ofNat count ++ " stubs".toList

/-- The trace source of the traced functions, with a warning for each name without declaration. -/
def generate (naming : Naming) (api : Api) (selection : Selection) : Report TraceSource :=
  ⟨(undeclared api selection).map (⟨.warn, .artifacts, undeclaredText ·⟩) ++
    [⟨.info, .artifacts, countText api.size⟩], .ok (ofApi naming api)⟩

end TraceSource
end CallTracer
