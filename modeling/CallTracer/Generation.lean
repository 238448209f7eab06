import CallTracer.Artifact.ApiStruct
import CallTracer.Artifact.TraceSource
import CallTracer.Header
/-! A generation run over texts: from a function list and a header to the two artifacts. -/
namespace CallTracer

structure Artifacts where
  traceSource : TraceSource
  apiStruct : ApiStruct
  deriving DecidableEq, Repr

namespace Artifacts

def wrappingText (count : Nat) : Text :=
  "wrapping ".toList ++ Text.ofNat count ++ " functions".toList

/-- The artifacts for signatures that are already read. -/
def ofSignatures (selection : Selection) (signatures : Registry Signature) (naming : Naming) :
    Report Artifacts := do
  Report.note .debug .generation (wrappingText selection.size)
  let api ← (Api.resolve signatures).wrap (.stage .types)
  let traceSource ← (TraceSource.generate naming api selection).wrap (.stage .output)
  return ⟨traceSource, .ofSelection selection⟩

/-- The artifacts for the texts of a function list and a header; either both or none. -/
def generate (list header : Text) (options : Options) : Report Artifacts := do
  let selection ← (Selection.read list).wrap (.stage .input)
  let signatures ← (Header.signatures header options.marker selection).wrap (.stage .input)
  ofSignatures selection signatures options.naming

end Artifacts
end CallTracer
