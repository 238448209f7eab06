import CallTracer.Generation
import CallTracer.Proofs.ByteOrder
import CallTracer.Proofs.FieldLines
import CallTracer.Proofs.TraceReading
import Mathlib.Data.List.Nodup
/-! The stubs, the two tables and the fields of one generation agree about the functions, as what is
read back from the texts of the two artifacts. -/
namespace CallTracer
open Outcome

namespace Api

variable {api : Api}

theorem mem_sortedNames {n : Text} :
    n ∈ api.sortedNames ↔ n ∈ api.toList.map TracedFunction.name :=
  (Sorting.perm_sort _ _).mem_iff

theorem ascending_sortedNames (h : (api.toList.map TracedFunction.name).Nodup) :
    Text.Ascending api.sortedNames := by
  have hsorted : api.sortedNames.Pairwise fun s t => Text.atMost s t :=
    @Sorting.pairwise_sort _ Text.atMost (fun _ _ _ => Text.atMost_trans) Text.atMost_total _
  have hnodup : api.sortedNames.Nodup := (Sorting.perm_sort _ _).nodup_iff.2 h
  refine Text.ascending_iff.2 ((hsorted.and hnodup).imp ?_)
  rintro s t ⟨hst, hne⟩
  exact (Text.atMost_iff.1 hst).resolve_right hne

end Api

namespace Artifacts

variable {naming : Naming} {selected declared : List Text} {l : Layout} {a : Artifacts}

/-- What the texts of the artifacts tell, for the selected names and the names of the declarations
in their order. -/
structure Consistent (naming : Naming) (selected declared : List Text) (l : Layout)
    (a : Artifacts) : Prop where
  declared_nodup : declared.Nodup
  declared_subset : declared ⊆ selected
  source : IsTraceSource naming l a.traceSource.print
  stubbed : l.stubbed = declared
  hooked : ∀ n, n ∈ l.hooked ↔ n ∈ declared ∧ n ≠ errorQuery
  loaded : ∀ n, n ∈ l.loaded ↔ n ∈ declared
  fields : ApiStruct.namesOn a.apiStruct.print = selected
  hooked_ascending : Text.Ascending l.hooked
  loaded_ascending : Text.Ascending l.loaded
  fields_ascending : Text.Ascending selected

/-- Every name that one part uses is defined once in the part that has to define it; only the query
of the error state can be without definition. -/
structure Linked (l : Layout) (a : Artifacts) : Prop where
  hooked_stub : ∀ n ∈ l.hooked, l.stubbed.count n = 1
  hooked_field : ∀ n ∈ l.hooked, (ApiStruct.namesOn a.apiStruct.print).count n = 1
  loaded_field : ∀ n ∈ l.loaded, (ApiStruct.namesOn a.apiStruct.print).count n = 1
  accessed : ∀ s ∈ l.stubs, ∀ holder member,
    (holder, member) ∈ Text.memberAccesses (Text.unlines (Text.lastBlock s.2)) →
      holder = apiHook ∧ (member = errorQuery ∨
        (ApiStruct.namesOn a.apiStruct.print).count member = 1 ∧ l.loaded.count member = 1)

theorem Consistent.linked (h : Consistent naming selected declared l a) : Linked l a := by
  have hfield : ∀ n ∈ declared, (ApiStruct.namesOn a.apiStruct.print).count n = 1 := fun n hn => by
    rw [h.fields]
    exact List.count_eq_one_of_mem h.fields_ascending.nodup (h.declared_subset hn)
  constructor
  case hooked_stub =>
    intro n hn
    rw [h.stubbed]
    exact List.count_eq_one_of_mem h.declared_nodup ((h.hooked n).1 hn).1
  case hooked_field => exact fun n hn => hfield n ((h.hooked n).1 hn).1
  case loaded_field => exact fun n hn => hfield n ((h.loaded n).1 hn)
  case accessed =>
    intro s hs holder member hmem
    have hn : s.1 ∈ declared := h.stubbed ▸ List.mem_map_of_mem hs
    rw [(h.source.stubs s hs).accesses] at hmem
    simp only [List.mem_cons, List.not_mem_nil, or_false, Prod.mk.injEq] at hmem
    rcases hmem with ⟨rfl, rfl⟩ | ⟨rfl, rfl⟩
    · refine ⟨rfl, .inr ⟨hfield _ hn, ?_⟩⟩
      exact List.count_eq_one_of_mem h.loaded_ascending.nodup ((h.loaded _).2 hn)
    · exact ⟨rfl, .inl rfl⟩

theorem parts_of_generate {list header : Text} {options : Options}
    (h : (generate list header options).outcome = .ok a) : ∃ selection signatures api,
      (Selection.read list).outcome = .ok selection ∧
      (Header.signatures header options.marker selection).outcome = .ok signatures ∧
      (Api.resolve signatures).outcome = .ok api ∧
      ⟨TraceSource.ofApi options.naming api, .ofSelection selection⟩ = a := by
  unfold generate ofSignatures TraceSource.generate at h
  simp only [Report.outcome_bind, Report.outcome_wrap, bind_eq_ok_iff, mapError_eq_ok_iff,
    Report.outcome_note, Report.outcome_pure, Except.ok.injEq] at h
  obtain ⟨selection, hselection, signatures, hsignatures, -, -, api, hapi, _, rfl, hparts⟩ := h
  exact ⟨selection, signatures, api, hselection, hsignatures, hapi, hparts⟩

theorem outcome_generate_of_parts {list header : Text} {options : Options} {selection : Selection}
    {signatures : Registry Signature} {api : Api}
    (hl : (Selection.read list).outcome = .ok selection)
    (hs : (Header.signatures header options.marker selection).outcome = .ok signatures)
    (hr : (Api.resolve signatures).outcome = .ok api) :
    (generate list header options).outcome =
      .ok ⟨TraceSource.ofApi options.naming api, .ofSelection selection⟩ := by
  unfold generate ofSignatures TraceSource.generate
  simp only [Report.outcome_bind, Report.outcome_wrap, Report.outcome_note, Report.outcome_pure, hl,
    hs, hr, mapError_ok, bind_ok]

/-- What the trace source of some functions holds. -/
def layoutOf (naming : Naming) (api : Api) : Layout where
  stubs := api.toList.map fun f => (f.name, (Stub.ofFunction naming f).print)
  hooked := api.sortedNames.filter (· != errorQuery)
  loaded := api.sortedNames

theorem consistent_of_parts (naming : Naming) {list header marker : Text} {selection : Selection}
    {signatures : Registry Signature} {api : Api}
    (hl : (Selection.read list).outcome = .ok selection)
    (hs : (Header.signatures header marker selection).outcome = .ok signatures)
    (hr : (Api.resolve signatures).outcome = .ok api) :
    Consistent naming selection.names (signatures.toList.map Signature.name) (layoutOf naming api)
      ⟨TraceSource.ofApi naming api, .ofSelection selection⟩ := by
  have hnodup := Header.nodup_of_signatures hs
  obtain ⟨-, hsame⟩ := Api.signature_of_resolve hnodup hr
  have hnames : signatures.toList.map Signature.name = api.toList.map TracedFunction.name := by
    rw [← hsame, List.map_map]
    rfl
  have hnamed : ∀ f ∈ api.toList, f.Named := fun f hf =>
    TracedFunction.named_of_signature (Api.wellFormed_of_resolve hs hr hf).2
  have hascending : Text.Ascending api.sortedNames := Api.ascending_sortedNames (hnames ▸ hnodup)
  have hmem : ∀ n, n ∈ api.sortedNames ↔ n ∈ signatures.toList.map Signature.name := fun n =>
    hnames ▸ Api.mem_sortedNames
  have hvalid : ∀ n ∈ api.sortedNames, Identifier.isValid n := fun n hn => by
    obtain ⟨f, hf, rfl⟩ := List.mem_map.1 (Api.mem_sortedNames.1 hn)
    exact (hnamed f hf).function
  exact {
    declared_nodup := hnodup
    declared_subset := by
      intro n hn
      obtain ⟨s, hs', rfl⟩ := List.mem_map.1 hn
      exact (Header.read_of_mem_signatures hs hs').2
    source := TraceSource.isTraceSource_print naming hnamed hvalid
    stubbed := by
      rw [hnames, Layout.stubbed, layoutOf, List.map_map]
      rfl
    hooked := fun n => by rw [layoutOf, List.mem_filter, bne_iff_ne, hmem]
    loaded := hmem
    fields := (ApiStruct.encodes_print fun n hn => Selection.isValid_of_mem_names hl hn).names
    hooked_ascending := hascending.filter _
    loaded_ascending := hascending
    fields_ascending := Text.ascending_iff.2 selection.ascending }

/-- Whenever a generation yields artifacts, their texts are consistent with the selected names and
the declared ones, and nothing that a stub, a table or a field uses is missing from another, but for
the query of the error state. -/
theorem consistent_of_generate {list header : Text} {options : Options}
    (h : (generate list header options).outcome = .ok a) : ∃ selection signatures l,
      (Selection.read list).outcome = .ok selection ∧
      (Header.signatures header options.marker selection).outcome = .ok signatures ∧
      Consistent options.naming selection.names (signatures.toList.map Signature.name) l a ∧
      Linked l a := by
  obtain ⟨selection, signatures, api, hselection, hsignatures, hapi, rfl⟩ := parts_of_generate h
  have hconsistent := consistent_of_parts options.naming hselection hsignatures hapi
  exact ⟨selection, signatures, _, hselection, hsignatures, hconsistent, hconsistent.linked⟩

/-- Two declared functions in the order of the header, with no field for the query of the error
state that their stubs make. The standard names let both tables be read back from the whole text. -/
theorem consistent_of_generate_two_functions :
    let list := "glFlush\nglClear\nglFinish\n".toList
    let header := "GLAPI void glFlush (void);\nGLAPI void glClear (GLbitfield mask);\n".toList
    ∃ a, (generate list header .standard).outcome = .ok a ∧
      errorQuery ∉ ApiStruct.namesOn a.apiStruct.print ∧ Options.standard.naming.Legible ∧
      Text.entries "INJECT".toList (Text.lines a.traceSource.print) =
        ["glClear".toList, "glFlush".toList] ∧
      ∃ selection signatures l, (Selection.read list).outcome = .ok selection ∧
        (Header.signatures header Options.standard.marker selection).outcome = .ok signatures ∧
        Consistent Options.standard.naming selection.names
          (signatures.toList.map Signature.name) l a ∧
        Linked l a := by
  intro list header
  have htexts : (generate list header .standard).outcome.toOption.any (fun a =>
      errorQuery ∉ ApiStruct.namesOn a.apiStruct.print ∧
        Text.entries "INJECT".toList (Text.lines a.traceSource.print) =
          ["glClear".toList, "glFlush".toList]) = true := by decide +kernel
  obtain ⟨a, ha, htexts⟩ := exists_ok_of_any htexts
  obtain ⟨hquery, hentries⟩ := of_decide_eq_true htexts
  exact ⟨a, ha, hquery, Naming.legible_standard, hentries, consistent_of_generate ha⟩

end Artifacts
end CallTracer
