import CallTracer.CommandLine.Execution
/-! The program. -/
namespace CallTracer.Main

/-- The fault that a number of the operating system stands for. -/
def faultOfCode? : UInt32 → Option FileFault
  | 2 => some .notFound
  | 20 => some .notDirectory
  | 21 => some .isDirectory
  | 28 => some .noSpace
  | 36 => some .nameTooLong
  | _ => none

def faultOf (e : IO.Error) : FileFault :=
  let known? := match e with
    | .noFileOrDirectory _ code _ | .inappropriateType _ code _ | .resourceExhausted _ code _
    | .invalidArgument _ code _ | .noSuchThing _ code _ | .otherError code _ => faultOfCode? code
    | _ => none
  known?.getD (.other (toString e).toList)

def attempt (x : IO Unit) : IO (Except FileFault Unit) := do
  try x; return .ok () catch e => return .error (faultOf e)

def readText (path : Text) : IO (Except FileFault Text) := do
  if path.contains '\x00' then return .error .zeroInName
  try
    let file ← IO.FS.Handle.mk (String.ofList path) .read
    match String.fromUTF8? (← file.readBinToEnd) with
    | some s => return .ok s.toList
    | none => return .error .notText
  catch e => return .error (faultOf e)

def putText (out : IO.FS.Stream) (text : Text) : IO Unit := do
  out.putStr (String.ofList text)
  out.flush

def writeText (path text : Text) : IO (Except FileFault Unit) := do
  if path.contains '\x00' then return .error .zeroInName
  attempt do
    let file ← IO.FS.Handle.mk (String.ofList path) .write
    putText (.ofHandle file) text

def printText (text : Text) : IO (Except FileFault Unit) :=
  attempt do putText (← IO.getStdout) text

def host : Host IO := ⟨readText, writeText, printText⟩

end CallTracer.Main

def main (args : List String) : IO UInt32 := do
  let logFilter ← IO.getEnv "RUST_LOG"
  let backtrace ← IO.getEnv "RUST_BACKTRACE"
  let exit ← CallTracer.CommandLine.run CallTracer.Main.host
    ⟨logFilter.map String.toList, backtrace == some "1"⟩ (args.map String.toList)
  IO.eprint (String.ofList exit.errors)
  return exit.status.toUInt32
