import CallTracer.Config
import CallTracer.Log
/-! The arguments of the command line. -/
namespace CallTracer.CommandLine

/-- What the arguments say; what they leave out is `none`. -/
structure Arguments where
  config : Option Text
  functionList : Option Text
  header : Option Text
  output : Option Text
  structOutput : Option Text
  marker : Option Text
  verbosity : Option Log.Level
  standardConfig : Option Text
  deriving DecidableEq, Repr

def Arguments.empty : Arguments := ⟨none, none, none, none, none, none, none, none⟩

/-- The options that take a value. -/
inductive Switch
  | functionList
  | header
  | output
  | structOutput
  | marker
  | verbosity
  | standardConfig
  deriving DecidableEq, Repr

namespace Switch

def all : List Switch :=
  [functionList, header, output, structOutput, marker, verbosity, standardConfig]

def long : Switch → Text
  | functionList => "funcs-list".toList
  | header => "header".toList
  | output => "output".toList
  | structOutput => "api-struct-output".toList
  | marker => "linkage-marker".toList
  | verbosity => "verbosity".toList
  | standardConfig => "write-default-config".toList

def short? : Switch → Option Char
  | functionList => some 'f'
  | output => some 'o'
  | structOutput => some 'a'
  | marker => some 'l'
  | verbosity => some 'v'
  | header | standardConfig => none

def ofLong? (name : Text) : Option Switch := all.find? (·.long = name)

def ofShort? (c : Char) : Option Switch := all.find? (·.short? = some c)

@[simp] theorem ofLong?_long (s : Switch) : ofLong? s.long = some s := by cases s <;> decide

end Switch

/-- A path that an argument gives may not be empty. -/
def path? (value : Text) : Option Text := if value.isEmpty then none else some value

namespace Arguments

/-- Takes the value of an option, in place of an earlier one; `none` if it is no value for it. -/
def set? (a : Arguments) (value : Text) : Switch → Option Arguments
  | .functionList => (path? value).map fun p => { a with functionList := some p }
  | .header => (path? value).map fun p => { a with header := some p }
  | .output => (path? value).map fun p => { a with output := some p }
  | .structOutput => (path? value).map fun p => { a with structOutput := some p }
  | .marker => some { a with marker := some value }
  | .verbosity =>
    (Log.Level.all.find? (·.name = value)).map fun l => { a with verbosity := some l }
  | .standardConfig => (path? value).map fun p => { a with standardConfig := some p }

/-- Takes the one argument that is no option. -/
def setConfig? (a : Arguments) (value : Text) : Option Arguments :=
  match a.config with
  | some _ => none
  | none => (path? value).map fun p => { a with config := some p }

end Arguments

/-- What is asked for: a run, the help, or something that is not understood. -/
inductive Request
  | run (arguments : Arguments)
  | help
  | misuse
  deriving DecidableEq, Repr

/-- An argument by its form: `--name` and `-n` may have a value in the same argument. -/
inductive Form
  | separator
  | long (name : Text) (value : Option Text)
  | short (name : Char) (value : Option Text)
  | plain (value : Text)
  deriving DecidableEq, Repr

def formOf : Text → Form
  | '-' :: '-' :: [] => .separator
  | '-' :: '-' :: body =>
    match body.dropWhile (· != '=') with
    | [] => .long body none
    | _ :: value => .long (body.takeWhile (· != '=')) (some value)
  | '-' :: c :: [] => .short c none
  | '-' :: c :: '=' :: value => .short c (some value)
  | '-' :: c :: value => .short c (some value)
  | value => .plain value

/-- Whether an argument can be the value of the option before it. -/
def isValue : Text → Bool
  | '-' :: _ :: _ => false
  | _ => true

/-- What has been read of the arguments. `pending` is the option whose value the next argument has
to be, `lacking` are the options that had no value when they were last given, and `plain` tells that
no more options follow. -/
structure Progress where
  arguments : Arguments
  pending : Option Switch
  lacking : List Switch
  plain : Bool

namespace Progress

def start : Progress := ⟨.empty, none, [], false⟩

/-- Takes the value of an option. -/
def setValue (p : Progress) (s : Switch) (value : Text) : Except Request Progress :=
  match p.arguments.set? value s with
  | some a => .ok { p with
      arguments := a, pending := none, lacking := p.lacking.filter (· != s) }
  | none => .error .misuse

/-- Takes an option, with its value if that is part of the argument. -/
def takeSwitch (p : Progress) (s : Option Switch) (value : Option Text) :
    Except Request Progress :=
  match s, value with
  | none, _ => .error .misuse
  | some s, none => .ok { p with pending := some s }
  | some s, some v => p.setValue s v

def takePlain (p : Progress) (value : Text) : Except Request Progress :=
  match p.arguments.setConfig? value with
  | some a => .ok { p with arguments := a }
  | none => .error .misuse

/-- Takes an argument that is not the value of the option before it. -/
def takeForm (p : Progress) : Form → Except Request Progress
  | .separator => .ok { p with plain := true }
  | .long name value =>
    if name = "help".toList then .error (if value.isSome then .misuse else .help)
    else p.takeSwitch (Switch.ofLong? name) value
  | .short name value =>
    if name = 'h' then .error .help else p.takeSwitch (Switch.ofShort? name) value
  | .plain value => p.takePlain value

/-- Takes the next argument. An answer that needs no more of them is an error. -/
def take (p : Progress) (argument : Text) : Except Request Progress :=
  if p.plain then p.takePlain argument
  else match p.pending with
    | none => p.takeForm (formOf argument)
    | some s =>
      if isValue argument then p.setValue s argument
      else takeForm { p with pending := none, lacking := s :: p.lacking } (formOf argument)

/-- The answer when all arguments are taken. An option without value is a misuse, unless it is given
again with one. -/
def finish (p : Progress) : Request :=
  if p.lacking.isEmpty && p.pending.isNone then .run p.arguments else .misuse

end Progress

/-- Reads the arguments from left to right; the first that asks for help or is not understood
decides, and only then an option that lacks its value. -/
def read (arguments : List Text) : Request :=
  match arguments.foldlM Progress.take .start with
  | .ok p => p.finish
  | .error r => r

/-- The values that the arguments give to fields of a configuration. -/
def Arguments.override? (a : Arguments) : Config.Field → Option Text
  | .functionList => a.functionList
  | .header => a.header
  | .traceOutput => a.output
  | .structOutput => a.structOutput
  | .marker => a.marker
  | _ => none

/-- The configuration with the fields that the arguments give. -/
def Arguments.override (a : Arguments) (c : Config) : Config :=
  Config.Field.all.foldl (fun c f => ((a.override? f).map (c.put f)).getD c) c

example : read ["-oT.h".toList, "--header=h".toList, "c.json".toList] =
    .run { Arguments.empty with
      output := some "T.h".toList, header := some "h".toList, config := some "c.json".toList } := by
  decide
example : read ["-o".toList, "-h".toList] = .help := by decide
example : read ["-o".toList, "--".toList, "T.h".toList] = .misuse := by decide
example : read ["-o".toList, "-oT.h".toList] =
    .run { Arguments.empty with output := some "T.h".toList } := by decide

end CallTracer.CommandLine
