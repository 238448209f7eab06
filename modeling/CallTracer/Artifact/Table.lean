import CallTracer.Artifact.Stub
/-! The two tables of the generated source: one hooks the stubs in, the other loads the real
functions by their names. -/
namespace CallTracer

/-- A function of the generated source with one line for each entry. -/
structure Table where
  /-- The definition of the macro that entries use. -/
  definition : Text
  opening : Text
  /-- The statements before the entries. -/
  preparation : List Text
  /-- The macro of the entries. -/
  entryMacro : Text
  entries : List Text
  deriving DecidableEq, Repr

namespace Table

def entryLine (t : Table) (name : Text) : Text := '\t' :: t.entryMacro ++ '(' :: name ++ ");".toList

def print (t : Table) : Text :=
  Text.unlines ([t.definition, [], t.opening, "\x7b".toList] ++ t.preparation.map ('\t' :: ·) ++
    t.entries.map t.entryLine ++ ["\x7d".toList, []])

/-- Points every entry of the interface at its stub, after the real ones are saved. -/
def hook (naming : Naming) (names : List Text) : Table where
  definition := "#define INJECT(S) api->S = &".toList ++ naming.stubPrefix ++ "##S;".toList
  opening := "void ".toList ++ naming.injectFunction ++ '(' :: naming.apiType ++ "* api)".toList
  preparation := [apiHook ++ " = *api;".toList]
  entryMacro := "INJECT".toList
  entries := names.filter (· != errorQuery)

/-- Fills every entry of the interface by a search for its name. -/
def loader (naming : Naming) (names : List Text) : Table where
  definition :=
    "#define LOAD_GL_FUNC(func) api->func = ( decltype(api->func) )GetGLProc(#func);".toList
  opening := "void ".toList ++ naming.loaderFunction ++ '(' :: naming.apiType ++
    "* api, PFNGETGLPROC GetGLProc)".toList
  preparation := []
  entryMacro := "LOAD_GL_FUNC".toList
  entries := names

end Table
end CallTracer
