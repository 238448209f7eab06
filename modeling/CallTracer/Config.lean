import CallTracer.Text
/-! The settings of a generation run: where its inputs and outputs are and how it names things. -/
namespace CallTracer

/-- The names given to generated symbols. -/
structure Naming where
  stubPrefix : Text
  apiType : Text
  injectFunction : Text
  loaderFunction : Text
  deriving DecidableEq, Repr

def Naming.standard : Naming where
  stubPrefix := "GLTracer_".toList
  apiType := "GL4API".toList
  injectFunction := "InjectAPITracer4".toList
  loaderFunction := "GetAPI4".toList

/-- What controls a generation besides its two inputs. -/
structure Options where
  marker : Text
  naming : Naming
  deriving DecidableEq, Repr

def Options.standard : Options := ⟨"GLAPI".toList, .standard⟩

/-- The trace source goes to standard output when no file is named for it. -/
structure Config where
  functionList : Text
  header : Text
  traceOutput : Option Text
  structOutput : Text
  options : Options
  deriving DecidableEq, Repr

namespace Config

def standard : Config where
  functionList := "funcs_list.txt".toList
  header := "glcorearb.h".toList
  traceOutput := none
  structOutput := "GLAPI.h".toList
  options := .standard

inductive Field
  | functionList
  | header
  | traceOutput
  | structOutput
  | marker
  | stubPrefix
  | apiType
  | injectFunction
  | loaderFunction
  deriving DecidableEq, Repr

namespace Field

/-- In the order of a configuration file. -/
def all : List Field :=
  [functionList, header, traceOutput, structOutput, marker, stubPrefix, apiType, injectFunction,
    loaderFunction]

def key : Field → Text
  | functionList => "funcs_list".toList
  | header => "header".toList
  | traceOutput => "trace_output".toList
  | structOutput => "api_struct_output".toList
  | marker => "linkage_marker".toList
  | stubPrefix => "stub_prefix".toList
  | apiType => "api_type".toList
  | injectFunction => "inject_function".toList
  | loaderFunction => "loader_function".toList

def ofKey? (key : Text) : Option Field := all.find? (·.key = key)

/-- Whether the field names a file. -/
def isPath : Field → Bool
  | functionList | header | traceOutput | structOutput => true
  | _ => false

/-- Whether the field may be null. -/
def isOptional : Field → Bool
  | traceOutput => true
  | _ => false

theorem mem_all (f : Field) : f ∈ all := by cases f <;> decide

theorem nodup_all : all.Nodup := by decide

@[simp] theorem ofKey?_key (f : Field) : ofKey? f.key = some f := by cases f <;> decide

end Field

def get (c : Config) : Field → Option Text
  | .functionList => some c.functionList
  | .header => some c.header
  | .traceOutput => c.traceOutput
  | .structOutput => some c.structOutput
  | .marker => some c.options.marker
  | .stubPrefix => some c.options.naming.stubPrefix
  | .apiType => some c.options.naming.apiType
  | .injectFunction => some c.options.naming.injectFunction
  | .loaderFunction => some c.options.naming.loaderFunction

/-- Sets a field to a text. -/
def put (c : Config) : Field → Text → Config
  | .functionList, t => { c with functionList := t }
  | .header, t => { c with header := t }
  | .traceOutput, t => { c with traceOutput := some t }
  | .structOutput, t => { c with structOutput := t }
  | .marker, t => { c with options.marker := t }
  | .stubPrefix, t => { c with options.naming.stubPrefix := t }
  | .apiType, t => { c with options.naming.apiType := t }
  | .injectFunction, t => { c with options.naming.injectFunction := t }
  | .loaderFunction, t => { c with options.naming.loaderFunction := t }

/-- Sets a field to a text or to null, which leaves fields that cannot be null as they are. -/
def set (c : Config) (f : Field) : Option Text → Config
  | some t => c.put f t
  | none => if f = .traceOutput then { c with traceOutput := none } else c

theorem get_put (c : Config) (f g : Field) (t : Text) :
    (c.put f t).get g = if f = g then some t else c.get g := by
  cases f <;> cases g <;> rfl

/-- A configuration is known by its fields. -/
theorem ext_get {c d : Config} (h : ∀ f, c.get f = d.get f) : c = d := by
  obtain ⟨a, b, o, s, ⟨m, ⟨p, t, i, l⟩⟩⟩ := c
  obtain ⟨a', b', o', s', ⟨m', ⟨p', t', i', l'⟩⟩⟩ := d
  have h₁ := h .functionList
  have h₂ := h .header
  have h₃ := h .traceOutput
  have h₄ := h .structOutput
  have h₅ := h .marker
  have h₆ := h .stubPrefix
  have h₇ := h .apiType
  have h₈ := h .injectFunction
  have h₉ := h .loaderFunction
  simp_all [get]

end Config
end CallTracer
