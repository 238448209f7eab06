import CallTracer.CommandLine.Arguments
import CallTracer.FileRun
/-! What the command line does with its arguments. -/
namespace CallTracer.CommandLine

variable {m : Type → Type} [Monad m]

/-- What the command line takes from its environment. -/
structure Environment where
  /-- The filter of the log, in place of the one that the arguments choose. -/
  logFilter : Option Text
  /-- Whether the places where failures arose are shown. -/
  showPlaces : Bool
  deriving DecidableEq, Repr

/-- The status with which a process ends and what it puts on standard error. -/
structure Exit where
  status : Nat
  errors : Text
  deriving DecidableEq, Repr

/-- The settings of a run: those of the configuration file, if there is one, under those that the
arguments give. -/
def Arguments.settings (a : Arguments) (host : Host m) : Run m Config := do
  let c ← match a.config with
    | some path => (Config.load host path).wrap (.configRead path)
    | none => pure Config.standard
  return a.override c

theorem Arguments.settings_eq (a : Arguments) (host : Host m) :
    a.settings host = (match a.config with
      | some path => (Config.load host path).wrap (.configRead path)
      | none => pure Config.standard) >>= fun c => pure (a.override c) := by
  unfold settings
  cases a.config <;> rfl

def wroteConfigText (path : Text) : Text := "wrote default config to ".toList ++ path

/-- Writes the standard configuration. -/
def saveStandard (host : Host m) (path : Text) : Run m Unit := do
  Run.ask (host.write path Config.standard.print) (.configWrite path)
  Run.note .info .commandLine (wroteConfigText path)

/-- Nothing is written unless the artifacts could be generated. A request for the standard
configuration is all that is done. -/
def execute (host : Host m) (a : Arguments) : Run m Unit := do
  match a.standardConfig with
  | some path => saveStandard host path
  | none =>
    let c ← a.settings host
    let artifacts ← Artifacts.load host c
    artifacts.save host c

/-- The text for the place where a failure arose. -/
def placeText (env : Environment) : Text :=
  if env.showPlaces then "Backtrace:".toList else []

/-- The records of a report, with those that tell its failure. -/
def recordsOf {α : Type} (env : Environment) (r : Report α) : List Log.Record :=
  match r.outcome with
  | .ok _ => r.records
  | .error f => r.records ++ (f.lines (placeText env)).map (⟨.error, .commandLine, ·⟩)

/-- The specification of the log filter. -/
def filterText (env : Environment) (a : Arguments) : Text :=
  env.logFilter.getD ((a.verbosity.getD .warn).name)

/-- The end of a run: status 255 if it failed, and the records that the filter lets through. -/
def exitOf {α : Type} (env : Environment) (a : Arguments) (r : Report α) : Exit :=
  let (filter, complaints) := Log.Filter.read (filterText env a)
  { status := match r.outcome with
      | .ok _ => 0
      | .error _ => 255
    errors := Text.unlines (complaints ++
      ((recordsOf env r).filter filter.shows).map Log.Record.line) }

def usageText : Text :=
  Text.unlines [
    "Usage: gltrace-gen [OPTIONS] [CONFIG]".toList,
    [],
    "  CONFIG                           JSON config file, overridden by the options".toList,
    "  -f, --funcs-list <PATH>          list of functions to wrap, one per line".toList,
    "      --header <PATH>              header containing the API declarations".toList,
    "  -o, --output <PATH>              where to write the trace source".toList,
    "  -a, --api-struct-output <PATH>   where to write the API struct fields".toList,
    "  -l, --linkage-marker <TOKEN>     token that starts every declaration line".toList,
    "  -v, --verbosity <LEVEL>          trace, debug, info, warn or error".toList,
    "      --write-default-config <PATH>  write the default config and exit".toList,
    "  -h, --help                       show this help".toList]

def run (host : Host m) (env : Environment) (arguments : List Text) : m Exit := do
  match read arguments with
  | .help =>
    let _ ← host.print usageText
    return ⟨0, []⟩
  | .misuse => return ⟨2, usageText⟩
  | .run a =>
    let r ← show m (Report Unit) from execute host a
    return exitOf env a r

end CallTracer.CommandLine
