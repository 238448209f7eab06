import CallTracer.Proofs.GenerationSuccess
/-! The order of the lines of a header: it decides neither whether a generation succeeds nor what
the tables and the fields are, only the order of the stubs. -/
namespace CallTracer
open Outcome

namespace Header

variable {marker header header' : Text} {selection : Selection}

theorem Traceable.of_perm (h : (Text.lines header).Perm (Text.lines header'))
    (ht : Traceable marker selection header) : Traceable marker selection header' := by
  have hselected : (selected marker selection header).Perm (selected marker selection header') := by
    rw [selected_eq, selected_eq]
    exact h.filterMap _
  constructor
  · intro line hline
    exact ht.readable line ((h.filterMap _).mem_iff.2 hline)
  · exact (hselected.map Signature.name).nodup_iff.1 ht.distinct
  · intro s hs
    exact ht.known s (hselected.mem_iff.2 hs)

/-- The stub that a line of a header gets, if it declares a selected function of known types. -/
def stub? (options : Options) (selection : Selection) (line : Text) : Option Stub :=
  (((declared? options.marker line).bind (selected? options.marker selection)).bind
    Api.traced?).map (Stub.ofFunction options.naming)

theorem functions_eq (marker : Text) (selection : Selection) (header : Text) :
    functions marker selection header = (Text.lines header).filterMap fun line =>
      ((declared? marker line).bind (selected? marker selection)).bind Api.traced? := by
  rw [functions, selected_eq, List.filterMap_filterMap]

theorem stubs_eq (options : Options) (selection : Selection) (header : Text) :
    (functions options.marker selection header).map (Stub.ofFunction options.naming) =
      (Text.lines header).filterMap (stub? options selection) := by
  rw [functions_eq, List.map_filterMap]
  rfl

end Header

namespace Artifacts

/-- Artifacts for two headers that agree but for the order of the stubs, which is in each that of
the lines of its header. -/
structure SameButOrder (options : Options) (selection : Selection) (header header' : Text)
    (a a' : Artifacts) : Prop where
  preamble : TraceSource.preamble a'.traceSource.apiType =
    TraceSource.preamble a.traceSource.apiType
  hookTable : a'.traceSource.hookTable = a.traceSource.hookTable
  loaderTable : a'.traceSource.loaderTable = a.traceSource.loaderTable
  apiStruct : a'.apiStruct = a.apiStruct
  stubs : a.traceSource.stubs = (Text.lines header).filterMap (Header.stub? options selection)
  stubs' : a'.traceSource.stubs = (Text.lines header').filterMap (Header.stub? options selection)
  perm : a.traceSource.stubs.Perm a'.traceSource.stubs

theorem sameButOrder_ofFunctions (options : Options) (selection : Selection)
    {header header' : Text} (h : (Text.lines header).Perm (Text.lines header')) :
    SameButOrder options selection header header'
      (ofFunctions options.naming selection
        (Header.functions options.marker selection header))
      (ofFunctions options.naming selection
        (Header.functions options.marker selection header')) := by
  have hfunctions : (Header.functions options.marker selection header).Perm
      (Header.functions options.marker selection header') := by
    rw [Header.functions_eq, Header.functions_eq]
    exact h.filterMap _
  have hnames := Text.sort_congr (hfunctions.map TracedFunction.name)
  exact {
    preamble := rfl
    hookTable := by simp only [ofFunctions, hnames]
    loaderTable := by simp only [ofFunctions, hnames]
    apiStruct := rfl
    stubs := Header.stubs_eq options selection header
    stubs' := Header.stubs_eq options selection header'
    perm := hfunctions.map _ }

theorem exists_generate_of_perm {list header header' : Text} {options : Options}
    (h : (Text.lines header).Perm (Text.lines header'))
    (ha : ∃ a, (generate list header options).outcome = .ok a) :
    ∃ a', (generate list header' options).outcome = .ok a' := by
  simp only [generate_eq_ok_iff] at ha ⊢
  obtain ⟨_, selection, hl, ht, -⟩ := ha
  exact ⟨_, selection, hl, ht.of_perm h, rfl⟩

/-- Two headers of the same lines in different orders: a generation succeeds on both or on neither,
and if it does, only the stubs are in different orders, those of the lines. -/
theorem generate_perm {list header header' : Text} (options : Options)
    (h : (Text.lines header).Perm (Text.lines header')) :
    ((∃ a, (generate list header options).outcome = .ok a) ↔
        ∃ a', (generate list header' options).outcome = .ok a') ∧
      ∀ a a', (generate list header options).outcome = .ok a →
        (generate list header' options).outcome = .ok a' → ∃ selection,
          (Selection.read list).outcome = .ok selection ∧
            SameButOrder options selection header header' a a' := by
  constructor
  · exact ⟨exists_generate_of_perm h, exists_generate_of_perm h.symm⟩
  · intro a a' ha ha'
    obtain ⟨selection, hl, -, rfl⟩ := generate_eq_ok_iff.1 ha
    obtain ⟨selection', hl', -, rfl⟩ := generate_eq_ok_iff.1 ha'
    rw [hl] at hl'
    cases hl'
    exact ⟨selection, hl, sameButOrder_ofFunctions options selection h⟩

/-- Two functions in both orders, around a line that is no declaration. -/
theorem generate_perm_two_functions :
    let list := "glClear\nglFlush\n".toList
    let header :=
      "GLAPI void glFlush (void);\n// one\nGLAPI void glClear (GLbitfield mask);".toList
    let header' :=
      "GLAPI void glClear (GLbitfield mask);\r\nGLAPI void glFlush (void);\n// one\n".toList
    ∃ a a', (generate list header .standard).outcome = .ok a ∧
      (generate list header' .standard).outcome = .ok a' ∧
      a.traceSource.stubs.map Stub.symbol = ["GLTracer_glFlush".toList, "GLTracer_glClear".toList] ∧
      ∃ selection, (Selection.read list).outcome = .ok selection ∧
        SameButOrder .standard selection header header' a a' := by
  intro list header header'
  have hlines : (Text.lines header).Perm (Text.lines header') := by decide +kernel
  have hsymbols : (generate list header .standard).outcome.toOption.any
      (·.traceSource.stubs.map Stub.symbol =
        ["GLTracer_glFlush".toList, "GLTracer_glClear".toList]) = true := by decide +kernel
  have hperm := @generate_perm list header header' .standard hlines
  obtain ⟨a, ha, hnames⟩ := exists_ok_of_any hsymbols
  obtain ⟨a', ha'⟩ := hperm.1.1 ⟨a, ha⟩
  exact ⟨a, a', ha, ha', of_decide_eq_true hnames, hperm.2 a a' ha ha'⟩

end Artifacts
end CallTracer
