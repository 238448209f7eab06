import CallTracer.Config.Printer
import CallTracer.Generation
import CallTracer.Host
/-! Generation runs over files: the inputs are read from where the settings say, and the artifacts
are written to where they say. -/
namespace CallTracer

variable {m : Type → Type} [Monad m]

/-- The text of an input file. -/
def readInput (host : Host m) (path : Text) : Run m Text :=
  .ask (host.read path) (.inputFile path)

/-- The selection that the function list in a file describes. -/
def Selection.load (host : Host m) (path : Text) : Run m Selection := do
  let list ← readInput host path
  .ofReport (Selection.read list)

/-- The signatures of the selected functions from the header in a file. -/
def Header.load (host : Host m) (path marker : Text) (selection : Selection) :
    Run m (Registry Signature) := do
  let header ← readInput host path
  .ofReport (Header.signatures header marker selection)

namespace Config

/-- The configuration in a file. -/
def load (host : Host m) (path : Text) : Run m Config := do
  let text ← .ask (host.read path) .system
  .ofReport (.ofExcept ((read text).mapError .config))

/-- Writes a configuration to a file. -/
def save (host : Host m) (path : Text) (c : Config) : Run m Unit :=
  .ask (host.write path c.print) .system

end Config

/-- The same run with a failure wrapped into another. -/
def Run.wrap {α : Type} (f : Failure → Failure) (x : Run m α) : Run m α :=
  show m (Report α) from do
    return (← show m (Report α) from x).wrap f

namespace Artifacts

/-- The artifacts for the inputs that a configuration names. The function list is read and
understood before the header is read. -/
def load (host : Host m) (c : Config) : Run m Artifacts := do
  let selection ← (Selection.load host c.functionList).wrap (.stage .input)
  let signatures ← (Header.load host c.header c.options.marker selection).wrap (.stage .input)
  .ofReport (ofSignatures selection signatures c.options.naming)

def wroteText (path : Text) : Text := "wrote ".toList ++ path

/-- Writes an artifact to a file. -/
def writeFile (host : Host m) (path text : Text) : Run m Unit := do
  (Run.ask (host.write path text) (.outputFile path)).wrap (.stage .output)
  Run.note .info .artifacts (wroteText path)

def printedText : Text := "wrote trace source to stdout".toList

/-- Puts the trace source on standard output. -/
def printTrace (host : Host m) (text : Text) : Run m Unit := do
  Run.ask (host.print text) .standardOutput
  Run.note .info .generation printedText

/-- Puts the trace source where a configuration wants it: into a file, or on standard output. -/
def saveTrace (host : Host m) (c : Config) (text : Text) : Run m Unit :=
  match c.traceOutput with
  | some path => writeFile host path text
  | none => printTrace host text

/-- Writes the trace source, then the struct; the struct is not touched if the trace source cannot
be written. -/
def saveTexts (host : Host m) (c : Config) (traceSource apiStruct : Text) : Run m Unit := do
  saveTrace host c traceSource
  writeFile host c.structOutput apiStruct

def save (host : Host m) (a : Artifacts) (c : Config) : Run m Unit :=
  saveTexts host c a.traceSource.print a.apiStruct.print

end Artifacts
end CallTracer
