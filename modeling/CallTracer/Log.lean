import CallTracer.Text
/-! Log records and the filters that choose which of them are shown. -/
namespace CallTracer.Log

/-- From the gravest to the least important. -/
inductive Level
  | error
  | warn
  | info
  | debug
  | trace
  deriving DecidableEq, Repr

namespace Level

def all : List Level := [error, warn, info, debug, trace]

def rank : Level → Nat
  | error => 1
  | warn => 2
  | info => 3
  | debug => 4
  | trace => 5

def label : Level → Text
  | error => "ERROR".toList
  | warn => "WARN".toList
  | info => "INFO".toList
  | debug => "DEBUG".toList
  | trace => "TRACE".toList

def name : Level → Text
  | error => "error".toList
  | warn => "warn".toList
  | info => "info".toList
  | debug => "debug".toList
  | trace => "trace".toList

end Level

/-- The part of the program that a record comes from. -/
inductive Origin
  | functionList
  | header
  | types
  | typeLookup
  | artifacts
  | generation
  | commandLine
  | checks
  deriving DecidableEq, Repr

/-- The name by which a filter selects the records of one origin. -/
def Origin.target : Origin → Text
  | functionList => "gltrace_extract::wrap_set".toList
  | header => "gltrace_extract".toList
  | types => "gltrace_translate".toList
  | typeLookup => "gltrace_translate::function".toList
  | artifacts => "gltrace_write".toList
  | generation => "gltrace".toList
  | commandLine => "gltrace_gen".toList
  | checks => "gltrace_util".toList

structure Record where
  level : Level
  origin : Origin
  text : Text
  deriving DecidableEq, Repr

/-- The line that shows a record: its level and its text. -/
def Record.line (r : Record) : Text := r.level.label ++ ' ' :: r.text

/-- How much of the records of one target, or of all targets, is shown: those of rank at most
`limit`. -/
structure Directive where
  target : Option Text
  limit : Nat
  deriving DecidableEq, Repr

/-- The directives in force. One that names a target speaks for the targets its name begins. -/
structure Filter where
  directives : List Directive
  deriving DecidableEq, Repr

namespace Directive

def governs (d : Directive) (target : Text) : Bool :=
  match d.target with
  | none => true
  | some name => name.isPrefixOf target

def width (d : Directive) : Nat := (d.target.getD []).length

end Directive

namespace Filter

/-- Of the directives that govern a target the one with the longest name speaks for it. -/
def governing? (f : Filter) (target : Text) : Option Directive :=
  f.directives.foldl (fun best d =>
    if d.governs target then
      match best with
      | none => some d
      | some b => if b.width ≤ d.width then some d else some b
    else best) none

def shows (f : Filter) (r : Record) : Bool :=
  match f.governing? r.origin.target with
  | none => false
  | some d => r.level.rank ≤ d.limit

/-- The rank up to which a level's word, or `off`, lets records through; case is ignored. -/
def limit? (word : Text) : Option Nat :=
  let lower := word.map Char.toLower
  if lower = "off".toList then some 0
  else (Level.all.find? (·.name = lower)).map Level.rank

/-- A directive in place of the earlier one for the same target, if there is one. -/
def assign (d : Directive) (ds : List Directive) : List Directive :=
  ds.filter (·.target != d.target) ++ [d]

/-- One part of a specification: a level for all targets, a target, or a target and its level. A
part that is none of these is answered by the piece of it that is at fault. -/
def directive (part : Text) : Except Text Directive :=
  match Text.split '=' part with
  | [word] =>
    match limit? word with
    | some limit => .ok ⟨none, limit⟩
    | none => .ok ⟨some word, Level.trace.rank⟩
  | [name, word] =>
    let word := Text.trim word
    if word.isEmpty then .ok ⟨some name, Level.trace.rank⟩
    else match limit? word with
      | some limit => .ok ⟨some name, limit⟩
      | none => .error word
  | _ => .error part

def complaint (piece remark : Text) : Text :=
  "warning: invalid logging spec '".toList ++ piece ++ "', ignoring it".toList ++ remark

/-- Reads the parts in order and collects a complaint about each that cannot be read. -/
def readParts (ds : List Directive) : List Text → List Directive × List Text
  | [] => (ds, [])
  | part :: parts =>
    let part := Text.trim part
    if part.isEmpty then readParts ds parts
    else match directive part with
      | .ok d => readParts (assign d ds) parts
      | .error piece =>
        let rest := readParts ds parts
        (rest.1, complaint piece [] :: rest.2)

/-- Without a directive only errors are shown. -/
def ofDirectives (ds : List Directive) : Filter :=
  ⟨if ds.isEmpty then [⟨none, Level.error.rank⟩] else ds⟩

/-- The filter that a specification describes, with the complaints about it: parts between commas,
of which what follows a slash is no part. -/
def read (specification : Text) : Filter × List Text :=
  if specification.count '/' ≤ 1 then
    let found := readParts [] (Text.split ',' (specification.takeWhile (· != '/')))
    (ofDirectives found.1, found.2)
  else
    (ofDirectives [], [complaint specification " (too many '/'s)".toList])

example : (read "warn".toList).1.shows ⟨.info, .header, []⟩ = false := by decide
example :
    (read "gltrace_extract=debug,warn".toList).1.shows ⟨.debug, .functionList, []⟩ = true := by
  decide

end Filter
end CallTracer.Log
