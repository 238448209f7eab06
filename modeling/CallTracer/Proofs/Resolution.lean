import CallTracer.Api
import CallTracer.Proofs.Canonical
import CallTracer.Proofs.HeaderScan
/-! What the resolution of types yields: traced functions that stand for the given signatures. -/
namespace CallTracer
open Outcome

theorem KnownType.isVoid_eq (t : KnownType) :
    t.isVoid = (t.spelling.isEmpty || t.spelling == "void".toList) := by
  have h : ∀ u ∈ all, u.isVoid = (u.spelling.isEmpty || u.spelling == "void".toList) := by
    decide +kernel
  exact h t (mem_all t)

/-- The parameter that a traced one stands for. -/
def TracedParameter.parameter (p : TracedParameter) : Parameter := ⟨p.type.spelling, p.name⟩

/-- The signature that a traced function stands for. -/
def TracedFunction.signature (f : TracedFunction) : Signature :=
  ⟨f.name, f.result.spelling, f.parameters.map TracedParameter.parameter⟩

@[simp] theorem TracedFunction.signature_name (f : TracedFunction) :
    f.signature.name = f.name := rfl

theorem TracedFunction.signature_returnsVoid (f : TracedFunction) :
    f.signature.returnsVoid = f.returnsVoid := f.result.isVoid_eq.symm

namespace Api

variable {spelling : Text} {t : KnownType} {p : Parameter} {q : TracedParameter}
  {ps : List Parameter} {qs : List TracedParameter} {s : Signature} {f : TracedFunction}
  {api next : Api}

theorem resolveType_eq_ok_iff :
    (resolveType spelling).outcome = .ok t ↔ t.spelling = spelling := by
  unfold resolveType
  split
  · rename_i u hu
    rw [← KnownType.spelling_of_ofSpelling? hu]
    constructor
    · intro h
      cases h
      rfl
    · intro h
      rw [KnownType.spelling_injective h]
      rfl
  · rename_i hnone
    constructor
    · intro h
      cases h
    · rintro rfl
      rw [KnownType.ofSpelling?_spelling] at hnone
      cases hnone

theorem resolveParameter_eq_ok_iff :
    (resolveParameter p).outcome = .ok q ↔ q.parameter = p := by
  unfold resolveParameter
  rw [Report.outcome_bind, bind_eq_ok_iff]
  simp only [Report.outcome_wrap, mapError_eq_ok_iff, resolveType_eq_ok_iff]
  constructor
  · rintro ⟨t, ht, h⟩
    cases h
    rw [TracedParameter.parameter, ht]
  · rintro rfl
    exact ⟨q.type, rfl, rfl⟩

theorem resolveParameters_eq_ok_iff :
    (ps.mapM resolveParameter).outcome = .ok qs ↔ qs.map TracedParameter.parameter = ps := by
  induction ps generalizing qs with
  | nil => cases qs <;> simp
  | cons p ps ih =>
    rw [List.mapM_cons]
    simp only [Report.outcome_bind, bind_eq_ok_iff, resolveParameter_eq_ok_iff, ih,
      Report.outcome_pure, Except.ok.injEq, List.map_eq_cons_iff]
    constructor
    · rintro ⟨q, rfl, qs, rfl, rfl⟩
      exact ⟨q, qs, rfl, rfl, rfl⟩
    · rintro ⟨q, qs, rfl, rfl, rfl⟩
      exact ⟨q, rfl, qs, rfl, rfl⟩

/-- A signature is resolved to the traced function that stands for it, and to no other. -/
theorem resolveFunction_eq_ok_iff :
    (resolveFunction s).outcome = .ok f ↔ f.signature = s := by
  unfold resolveFunction
  simp only [Report.outcome_bind, bind_eq_ok_iff, Report.outcome_wrap, mapError_eq_ok_iff,
    resolveType_eq_ok_iff, resolveParameters_eq_ok_iff, Report.outcome_pure, Except.ok.injEq]
  constructor
  · rintro ⟨t, ht, qs, hqs, rfl⟩
    simp only [TracedFunction.signature, ht, hqs]
  · rintro rfl
    exact ⟨f.result, rfl, f.parameters, rfl, rfl⟩

theorem addFunction_eq_ok_iff : (addFunction api s).outcome = .ok next ↔
    ∃ f : TracedFunction, f.signature = s ∧ api.insert f.name f = next := by
  unfold addFunction
  simp only [Report.outcome_bind, bind_eq_ok_iff, Report.outcome_wrap, mapError_eq_ok_iff,
    resolveFunction_eq_ok_iff, Report.outcome_note, bind_ok, Report.outcome_pure, Except.ok.injEq]

/-- A traced function under its name. -/
def entry (f : TracedFunction) : Text × TracedFunction := (f.name, f)

/-- Resolving further signatures, whose names are new, adds the functions that stand for them. -/
theorem holds_of_foldlM {ss : List Signature} {before : List TracedFunction}
    (h : api.Holds (before.map entry))
    (hnodup : ((before.map TracedFunction.signature ++ ss).map Signature.name).Nodup)
    (hnext : ss.foldlM (fun api s => (addFunction api s).outcome) api = .ok next) :
    ∃ fs : List TracedFunction, fs.map TracedFunction.signature = ss ∧
      next.Holds ((before ++ fs).map entry) := by
  induction ss generalizing api before with
  | nil =>
    cases hnext
    exact ⟨[], rfl, by simpa using h⟩
  | cons s ss ih =>
    rw [List.foldlM_cons] at hnext
    obtain ⟨added, hadded, hnext⟩ := bind_eq_ok_iff.1 hnext
    obtain ⟨f, rfl, rfl⟩ := addFunction_eq_ok_iff.1 hadded
    have hfresh : f.name ∉ (before.map entry).map Prod.fst := by
      simp only [List.map_append, List.map_cons, List.nodup_append] at hnodup
      intro hm
      simp only [entry, List.map_map, List.mem_map, Function.comp_apply] at hm
      obtain ⟨g, hg, hname⟩ := hm
      refine hnodup.2.2 g.name ?_ f.name (.head _) hname
      simp only [List.map_map, List.mem_map]
      exact ⟨g, hg, rfl⟩
    have hstep : (api.insert f.name f).Holds ((before ++ [f]).map entry) := by
      simpa [entry] using h.insert f hfresh
    obtain ⟨fs, rfl, hfs⟩ := ih hstep (by simpa using hnodup) hnext
    exact ⟨f :: fs, rfl, by simpa using hfs⟩

/-- Resolution that succeeds yields the functions that stand for the signatures, in their order. -/
theorem signature_of_resolve {signatures : Registry Signature}
    (hnodup : (signatures.toList.map Signature.name).Nodup)
    (h : (resolve signatures).outcome = .ok api) :
    api.Holds (api.toList.map entry) ∧
      api.toList.map TracedFunction.signature = signatures.toList := by
  rw [resolve, Report.outcome_foldlM] at h
  obtain ⟨fs, hfs, hholds⟩ :=
    holds_of_foldlM (Registry.holds_empty_map entry) (by simpa using hnodup) h
  have hlist : api.toList = fs := by
    simpa [entry, Function.comp_def] using hholds.values
  rw [hlist]
  exact ⟨hholds, hfs⟩

theorem exists_foldlM_iff {ss : List Signature} {api : Api} :
    (∃ next, ss.foldlM (fun api s => (addFunction api s).outcome) api = .ok next) ↔
      ∀ s ∈ ss, ∃ f : TracedFunction, f.signature = s := by
  induction ss generalizing api with
  | nil => simp [pure, Except.pure]
  | cons s ss ih =>
    simp only [List.foldlM_cons, bind_eq_ok_iff, addFunction_eq_ok_iff, List.forall_mem_cons]
    constructor
    · rintro ⟨next, -, ⟨f, hf, rfl⟩, hnext⟩
      exact ⟨⟨f, hf⟩, ih.1 ⟨next, hnext⟩⟩
    · rintro ⟨⟨f, hf⟩, hall⟩
      obtain ⟨next, hnext⟩ := ih.2 hall
      exact ⟨next, _, ⟨f, hf, rfl⟩, hnext⟩

/-- Resolution fails only for a signature that no traced function stands for. -/
theorem exists_resolve_iff {signatures : Registry Signature} :
    (∃ api, (resolve signatures).outcome = .ok api) ↔
      ∀ s ∈ signatures.toList, ∃ f : TracedFunction, f.signature = s := by
  rw [resolve, Report.outcome_foldlM]
  exact exists_foldlM_iff

/-- The traced function that stands for a signature, if there is one. -/
def traced? (s : Signature) : Option TracedFunction := (resolveFunction s).outcome.toOption

theorem traced?_eq_some_iff : traced? s = some f ↔ f.signature = s := by
  rw [← resolveFunction_eq_ok_iff, traced?]
  cases (resolveFunction s).outcome <;> simp [Except.toOption]

theorem traced?_signature (f : TracedFunction) : traced? f.signature = some f :=
  traced?_eq_some_iff.2 rfl

theorem toList_of_resolve {signatures : Registry Signature}
    (hnodup : (signatures.toList.map Signature.name).Nodup)
    (h : (resolve signatures).outcome = .ok api) :
    api.toList = signatures.toList.filterMap traced? := by
  obtain ⟨-, hsame⟩ := signature_of_resolve hnodup h
  have hid : traced? ∘ TracedFunction.signature = some := funext traced?_signature
  rw [← hsame, List.filterMap_map, hid, List.filterMap_some]

/-- What the signatures of a header resolve to stands for well-formed signatures. -/
theorem wellFormed_of_resolve {header marker : Text} {selection : Selection}
    {signatures : Registry Signature}
    (hs : (Header.signatures header marker selection).outcome = .ok signatures)
    (hr : (resolve signatures).outcome = .ok api) (hf : f ∈ api.toList) :
    Identifier.isValid marker ∧ f.signature.WellFormed := by
  obtain ⟨-, hsame⟩ := signature_of_resolve (Header.nodup_of_signatures hs) hr
  have hmem : f.signature ∈ signatures.toList := hsame ▸ List.mem_map_of_mem hf
  obtain ⟨⟨line, hline⟩, -⟩ := Header.read_of_mem_signatures hs hmem
  exact Declaration.wellFormed_of_read hline

end Api
end CallTracer
