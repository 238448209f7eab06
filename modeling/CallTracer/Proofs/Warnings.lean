import CallTracer.Proofs.GenerationSuccess
import Mathlib.Data.List.Count
/-! What a generation warns of. A selected name is either declared and then traced, or it is warned
of, and nothing else is; no stage before the artifacts warns of anything. -/
namespace CallTracer
open Outcome

namespace Report

variable {α β : Type} {x : Report α}

/-- The warnings that a computation logged, in order. -/
def warnings (x : Report α) : List Log.Record := x.records.filter (·.level = .warn)

/-- Whether a computation warns of nothing. -/
def Quiet (x : Report α) : Prop := ∀ r ∈ x.records, r.level ≠ .warn

theorem Quiet.warnings_eq_nil (h : x.Quiet) : x.warnings = [] := by
  rw [warnings, List.filter_eq_nil_iff]
  intro r hr
  simpa using h r hr

theorem quiet_pure (a : α) : (pure a : Report α).Quiet := List.forall_mem_nil _

theorem quiet_fail (f : Failure) : (fail f : Report α).Quiet := List.forall_mem_nil _

theorem quiet_ofExcept (y : Except Failure α) : (ofExcept y).Quiet := List.forall_mem_nil _

theorem quiet_note {level : Log.Level} (h : level ≠ .warn) (origin : Log.Origin) (text : Text) :
    (note level origin text).Quiet := List.forall_mem_singleton.2 h

theorem Quiet.wrap (h : x.Quiet) (f : Failure → Failure) : (x.wrap f).Quiet := h

theorem Quiet.bind {f : α → Report β} (h : x.Quiet) (hf : ∀ a, (f a).Quiet) :
    (x >>= f).Quiet := by
  cases hx : x.outcome with
  | error e =>
    unfold Quiet
    rwa [records_bind_error hx]
  | ok a =>
    unfold Quiet
    rw [records_bind_ok hx]
    exact List.forall_mem_append.2 ⟨h, hf a⟩

theorem quiet_foldlM {f : β → α → Report β} (hf : ∀ b a, (f b a).Quiet) (l : List α) (b : β) :
    (l.foldlM f b).Quiet := by
  induction l generalizing b with
  | nil => exact quiet_pure b
  | cons a l ih =>
    rw [List.foldlM_cons]
    exact (hf b a).bind ih

theorem quiet_mapM {f : α → Report β} (hf : ∀ a, (f a).Quiet) (l : List α) :
    (l.mapM f).Quiet := by
  induction l with
  | nil => exact quiet_pure []
  | cons a l ih =>
    rw [List.mapM_cons]
    exact (hf a).bind fun b => ih.bind fun bs => quiet_pure (b :: bs)

/-- What comes behind a computation that succeeds without a warning gives all the warnings. -/
theorem Quiet.warnings_bind {a : α} (h : x.Quiet) (hx : x.outcome = .ok a) (f : α → Report β) :
    (x >>= f).warnings = (f a).warnings := by
  have hnil := h.warnings_eq_nil
  unfold warnings at hnil ⊢
  rw [records_bind_ok hx, List.filter_append, hnil, List.nil_append]

end Report

open Report

theorem Selection.quiet_readLines (s : Selection) (number : Nat) (lines : List Text) :
    (readLines s number lines).Quiet := by
  induction lines generalizing s number with
  | nil => exact quiet_pure s
  | cons line lines ih =>
    rw [readLines]
    refine (quiet_ofExcept _).bind fun name? => ?_
    cases name? with
    | none => exact ih s (number + 1)
    | some name =>
      dsimp only
      split
      · exact (quiet_note (by decide) _ _).bind fun _ => ih s (number + 1)
      · exact ih (s.insert name) (number + 1)

namespace Header

variable {marker : Text} {selection : Selection}

theorem quiet_addDeclaration (marker : Text) (selection : Selection) (found : Registry Signature)
    (d : Nat × Text) : (addDeclaration marker selection found d).Quiet := by
  refine (quiet_ofExcept _).bind fun head => ?_
  split
  · refine (quiet_ofExcept _).bind fun s => (quiet_note (by decide) _ _).bind fun _ => ?_
    split
    · exact quiet_pure _
    · exact quiet_fail _
  · exact quiet_pure found

theorem quiet_signatures (header marker : Text) (selection : Selection) :
    (signatures header marker selection).Quiet :=
  (quiet_foldlM (quiet_addDeclaration marker selection) _ _).bind fun found =>
    (quiet_note (by decide) _ _).bind fun _ => quiet_pure found

/-- The name that a line declares, as far as its head can be read. -/
def declaredName? (marker line : Text) : Option Text :=
  (Declaration.readHead line marker).toOption.map Declaration.Head.name

/-- The declarations of a header that declare a name. -/
def declaring (marker header name : Text) : List (Nat × Text) :=
  (declarations marker header).filter (declaredName? marker ·.2 = some name)

/-- A line that can be read gives a selected name one signature if it declares it, else none. -/
theorem count_selected? {line name : Text} (h : Readable marker selection line)
    (hname : name ∈ selection.names) :
    ((selected? marker selection line).toList.map Signature.name).count name =
      if declaredName? marker line = some name then 1 else 0 := by
  obtain ⟨head, hread, hfinish⟩ := h
  have hdeclared : declaredName? marker line = some head.name := by
    rw [declaredName?, hread]
    rfl
  simp only [selected?_of_readHead hread, hdeclared, Option.some.injEq]
  by_cases hc : selection.contains head.name
  · obtain ⟨s, hs⟩ := hfinish (Selection.contains_iff.1 hc)
    rw [if_pos hc, hs, ← name_of_finish hs]
    simp [Except.toOption, List.count_singleton]
  · have hne : head.name ≠ name := by
      rintro rfl
      exact hc (Selection.contains_iff.2 hname)
    rw [if_neg hc, if_neg hne]
    rfl

/-- In a header that can be read, a selected name is declared as often as signatures bear it. -/
theorem length_declaring {header name : Text}
    (h : ∀ d ∈ declarations marker header, Readable marker selection d.2)
    (hname : name ∈ selection.names) : (declaring marker header name).length =
      ((selected marker selection header).map Signature.name).count name := by
  unfold declaring selected
  generalize declarations marker header = ds at h ⊢
  induction ds with
  | nil => rfl
  | cons d ds ih =>
    obtain ⟨hd, hds⟩ := List.forall_mem_cons.1 h
    have hcount := count_selected? hd hname
    have hcons : (d :: ds).filterMap (selected? marker selection ·.2) =
        (selected? marker selection d.2).toList ++
          ds.filterMap (selected? marker selection ·.2) := by
      cases hs : selected? marker selection d.2 <;> simp [hs]
    rw [hcons, List.map_append, List.count_append, hcount, ← ih hds, List.filter_cons]
    split
    · rename_i hdeclared
      rw [if_pos (of_decide_eq_true hdeclared), List.length_cons, Nat.add_comm]
    · rename_i hdeclared
      rw [if_neg (by simpa using hdeclared), Nat.zero_add]

end Header

namespace Api

theorem quiet_resolveType (spelling : Text) : (resolveType spelling).Quiet := by
  unfold resolveType
  split
  · exact quiet_pure _
  · refine Quiet.bind ?_ fun _ => quiet_fail _
    exact List.forall_mem_map.2 fun _ _ => Log.Level.noConfusion

theorem quiet_resolveParameter (p : Parameter) : (resolveParameter p).Quiet :=
  ((quiet_resolveType p.type).wrap _).bind fun _ => quiet_pure _

theorem quiet_addFunction (api : Api) (s : Signature) : (addFunction api s).Quiet := by
  have hfunction : (resolveFunction s).Quiet := ((quiet_resolveType s.result).wrap _).bind
    fun _ => (quiet_mapM quiet_resolveParameter s.parameters).bind fun _ => quiet_pure _
  exact (hfunction.wrap _).bind fun _ => (quiet_note (by decide) _ _).bind fun _ => quiet_pure _

theorem quiet_resolve (signatures : Registry Signature) : (resolve signatures).Quiet :=
  quiet_foldlM quiet_addFunction signatures.toList Registry.empty

end Api

namespace TraceSource

/-- The warning of a selected name without declaration. -/
def warning (name : Text) : Log.Record := ⟨.warn, .artifacts, undeclaredText name⟩

theorem warning_injective : Function.Injective warning := by
  intro m n h
  exact List.append_cancel_right (congrArg Log.Record.text h)

theorem warnings_generate (naming : Naming) (api : Api) (selection : Selection) :
    (generate naming api selection).warnings = (undeclared api selection).map warning := by
  have hall : ((undeclared api selection).map warning).filter (·.level = .warn) =
      (undeclared api selection).map warning :=
    List.filter_eq_self.2 (List.forall_mem_map.2 fun _ _ => rfl)
  unfold generate Report.warnings
  rw [List.filter_append]
  refine (congrArg (· ++ _) hall).trans ?_
  exact List.append_nil _

end TraceSource

/-- What is undeclared is what is selected and not traced, in ascending order. -/
theorem TraceSource.mem_undeclared {api : Api} {selection : Selection} {n : Text}
    (h : api.Holds (api.toList.map Api.entry)) : n ∈ undeclared api selection ↔
      n ∈ selection.names ∧ n ∉ api.toList.map TracedFunction.name := by
  rw [undeclared, List.mem_filter, Bool.not_eq_true', ← Bool.not_eq_true, h.contains_iff_of_keys,
    List.mem_map]

namespace Artifacts

variable {list header : Text} {options : Options} {a : Artifacts} {l : Layout} {n : Text}

/-- A name that is declared once, has one stub and one entry of the loader table in a trace source,
and is not warned of. -/
structure Traced (header : Text) (options : Options) (l : Layout) (warnings : List Log.Record)
    (n : Text) : Prop where
  declared : (Header.declaring options.marker header n).length = 1
  stub : l.stubbed.count n = 1
  loaded : l.loaded.count n = 1
  unwarned : warnings.count (TraceSource.warning n) = 0

/-- A name that no line declares, without stub and entry of the loader table in a trace source, and
that is warned of once. -/
structure Missing (header : Text) (options : Options) (l : Layout) (warnings : List Log.Record)
    (n : Text) : Prop where
  undeclared : Header.declaring options.marker header n = []
  stubless : l.stubbed.count n = 0
  unloaded : l.loaded.count n = 0
  warned : warnings.count (TraceSource.warning n) = 1

theorem Traced.not_missing {warnings : List Log.Record}
    (h : Traced header options l warnings n) : ¬Missing header options l warnings n := by
  intro hm
  have := h.declared
  rw [hm.undeclared] at this
  cases this

theorem warnings_of_generate {selection : Selection} {signatures : Registry Signature} {api : Api}
    (hl : (Selection.read list).outcome = .ok selection)
    (hs : (Header.signatures header options.marker selection).outcome = .ok signatures)
    (hr : (Api.resolve signatures).outcome = .ok api) :
    (generate list header options).warnings =
      (TraceSource.undeclared api selection).map TraceSource.warning := by
  have hlist : ((Selection.read list).wrap (.stage .input)).Quiet :=
    Selection.quiet_readLines _ _ _
  have hheader := (Header.quiet_signatures header options.marker selection).wrap (.stage .input)
  have hresolve := (Api.quiet_resolve signatures).wrap (.stage .types)
  unfold generate ofSignatures
  rw [hlist.warnings_bind (by rw [Report.outcome_wrap, hl]; rfl),
    hheader.warnings_bind (by rw [Report.outcome_wrap, hs]; rfl),
    (quiet_note (by decide) _ _).warnings_bind rfl,
    hresolve.warnings_bind (by rw [Report.outcome_wrap, hr]; rfl),
    ← TraceSource.warnings_generate options.naming api selection]
  unfold Report.warnings
  rw [Report.records_bind_ok rfl]
  exact congrArg _ (List.append_nil _)

section

variable {selected declared warned : List Text}
  (hc : Consistent options.naming selected declared l a)
  (hd : (Header.declaring options.marker header n).length = declared.count n)

include hc hd

theorem Consistent.traced (hn : n ∈ declared) (hm : n ∉ warned) :
    Traced header options l (warned.map TraceSource.warning) n := by
  have hone : declared.count n = 1 := List.count_eq_one_of_mem hc.declared_nodup hn
  constructor
  · rw [hd, hone]
  · rw [hc.stubbed, hone]
  · exact List.count_eq_one_of_mem hc.loaded_ascending.nodup ((hc.loaded n).2 hn)
  · rw [List.count_map_of_injective _ _ TraceSource.warning_injective, List.count_eq_zero]
    exact hm

theorem Consistent.missing (hn : n ∉ declared) (hm : n ∈ warned) (hnodup : warned.Nodup) :
    Missing header options l (warned.map TraceSource.warning) n := by
  have hzero : declared.count n = 0 := List.count_eq_zero.2 hn
  constructor
  · rw [← List.length_eq_zero_iff, hd, hzero]
  · rw [hc.stubbed, hzero]
  · rw [List.count_eq_zero, hc.loaded]
    exact hn
  · rw [List.count_map_of_injective _ _ TraceSource.warning_injective]
    exact List.count_eq_one_of_mem hnodup hm

end

/-- Whenever a generation succeeds, each selected name is either traced in the text of the trace
source or missing. The missing names are warned of in ascending order, and there is no other
warning. -/
theorem traced_or_missing_of_generate (h : (generate list header options).outcome = .ok a) :
    ∃ selection missing l, (Selection.read list).outcome = .ok selection ∧
      (generate list header options).warnings = missing.map TraceSource.warning ∧
      Text.Ascending missing ∧
      (∀ n, n ∈ missing ↔ n ∈ selection.names ∧ Header.declaring options.marker header n = []) ∧
      IsTraceSource options.naming l a.traceSource.print ∧
      ∀ n ∈ selection.names,
        Xor (Traced header options l (generate list header options).warnings n)
          (Missing header options l (generate list header options).warnings n) := by
  obtain ⟨selection, signatures, api, hl, hs, hr, rfl⟩ := parts_of_generate h
  have hconsistent := consistent_of_parts options.naming hl hs hr
  obtain ⟨hholds, hsame⟩ := Api.signature_of_resolve (Header.nodup_of_signatures hs) hr
  have hnames : api.toList.map TracedFunction.name = signatures.toList.map Signature.name := by
    rw [← hsame, List.map_map]
    rfl
  have hreadable := (Header.exists_signatures_iff.1 ⟨signatures, hs⟩).1
  have hdeclaring : ∀ n ∈ selection.names, (Header.declaring options.marker header n).length =
      (signatures.toList.map Signature.name).count n := fun n hn => by
    rw [Header.length_declaring hreadable hn, Header.toList_of_signatures hs]
  have hmissing : ∀ n, n ∈ TraceSource.undeclared api selection ↔
      n ∈ selection.names ∧ n ∉ signatures.toList.map Signature.name := fun n => by
    rw [TraceSource.mem_undeclared hholds, hnames]
  have hascending : Text.Ascending (TraceSource.undeclared api selection) :=
    Text.ascending_iff.2 (selection.ascending.filter _)
  rw [warnings_of_generate hl hs hr]
  refine ⟨selection, _, _, hl, rfl, hascending, fun n => ?_, hconsistent.source, fun n hn => ?_⟩
  · rw [hmissing]
    refine and_congr_right fun hn => ?_
    rw [← List.length_eq_zero_iff, hdeclaring n hn, List.count_eq_zero]
  · by_cases hD : n ∈ signatures.toList.map Signature.name
    · have htraced := hconsistent.traced (hdeclaring n hn) hD
        fun hm => ((hmissing n).1 hm).2 hD
      exact .inl ⟨htraced, htraced.not_missing⟩
    · have hwarned := hconsistent.missing (hdeclaring n hn) hD ((hmissing n).2 ⟨hn, hD⟩)
        hascending.nodup
      exact .inr ⟨hwarned, fun htraced => htraced.not_missing hwarned⟩

/-- One of three selected names is declared, and the other two are warned of, not in the order of
the list. -/
theorem traced_or_missing_of_generate_one_of_three :
    let list := "glZap\nglClear\n// core\nglAbsent\nglClear\n".toList
    let header := "GLAPI void glFlush (void);\nGLAPI void glClear (GLbitfield mask);\n".toList
    ∃ a, (generate list header .standard).outcome = .ok a ∧
      (generate list header .standard).warnings =
        ["glAbsent".toList, "glZap".toList].map TraceSource.warning ∧
      Options.standard.naming.Legible ∧
      Text.entries "LOAD_GL_FUNC".toList (Text.lines a.traceSource.print) = ["glClear".toList] ∧
      ∃ selection missing l, (Selection.read list).outcome = .ok selection ∧
        (generate list header .standard).warnings = missing.map TraceSource.warning ∧
        Text.Ascending missing ∧
        (∀ n, n ∈ missing ↔
          n ∈ selection.names ∧ Header.declaring Options.standard.marker header n = []) ∧
        IsTraceSource Options.standard.naming l a.traceSource.print ∧
        ∀ n ∈ selection.names,
          Xor (Traced header .standard l (generate list header .standard).warnings n)
            (Missing header .standard l (generate list header .standard).warnings n) := by
  intro list header
  have hloaded : (generate list header .standard).outcome.toOption.any (fun a =>
      Text.entries "LOAD_GL_FUNC".toList (Text.lines a.traceSource.print) =
        ["glClear".toList]) = true := by decide +kernel
  obtain ⟨a, ha, hloaded⟩ := exists_ok_of_any hloaded
  exact ⟨a, ha, by decide +kernel, Naming.legible_standard, of_decide_eq_true hloaded,
    traced_or_missing_of_generate ha⟩

end Artifacts

end CallTracer
