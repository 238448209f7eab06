import CallTracer.Proofs.Resolution
import Mathlib.Data.List.Forall2
/-! What the resolution of types comes to: a traced function for every signature, or the failure of
the first type, in the order of the declarations, that the catalogue does not have. -/
namespace CallTracer
open Outcome

/-- Whether a type of the catalogue is spelled so. -/
def KnownType.Spells (spelling : Text) : Prop := ∃ t : KnownType, t.spelling = spelling

/-- A signature of types of the catalogue. -/
structure Signature.Known (s : Signature) : Prop where
  result : KnownType.Spells s.result
  parameters : ∀ p ∈ s.parameters, KnownType.Spells p.type

/-- The first type of a signature that is not in the catalogue, and the failure that tells of it. -/
inductive Signature.FirstUnknown (s : Signature) : Text → Failure → Prop
  | result (unknown : ¬KnownType.Spells s.result) :
    FirstUnknown s s.result (.resultType (.unknownType s.result))
  | parameter {before after : List Parameter} {p : Parameter} (result : KnownType.Spells s.result)
    (parts : s.parameters = before ++ p :: after)
    (known : ∀ q ∈ before, KnownType.Spells q.type) (unknown : ¬KnownType.Spells p.type) :
    FirstUnknown s p.type (.parameter p.name (.unknownType p.type))

/-- The first signature with a type that is not in the catalogue, and the failure that tells of
it. -/
inductive Signature.Unresolved (ss : List Signature) : Text → Failure → Prop
  | intro {before after : List Signature} {s : Signature} {spelling : Text} {cause : Failure}
    (parts : ss = before ++ s :: after) (known : ∀ t ∈ before, t.Known)
    (first : s.FirstUnknown spelling cause) : Unresolved ss spelling (.function s.name cause)

/-- A traced function with the names and the types of a signature. -/
structure Signature.Traces (s : Signature) (f : TracedFunction) : Prop where
  name : f.name = s.name
  result : f.result.spelling = s.result
  parameters : List.Forall₂ (fun p q => q.name = p.name ∧ q.type.spelling = p.type) s.parameters
    f.parameters
  returnsVoid : f.returnsVoid = s.returnsVoid

namespace Api
open Signature

variable {spelling : Text} {p : Parameter} {ps : List Parameter} {s : Signature}
  {ss : List Signature} {e : Failure} {api : Api}

theorem exists_parameters_iff : (∃ qs : List TracedParameter,
    qs.map TracedParameter.parameter = ps) ↔ ∀ p ∈ ps, KnownType.Spells p.type := by
  induction ps with
  | nil => simp
  | cons p ps ih =>
    rw [List.forall_mem_cons, ← ih]
    constructor
    · rintro ⟨qs, hqs⟩
      obtain ⟨q, qs, rfl, rfl, htail⟩ := List.map_eq_cons_iff.1 hqs
      exact ⟨⟨q.type, rfl⟩, qs, htail⟩
    · rintro ⟨⟨t, ht⟩, qs, rfl⟩
      refine ⟨⟨p.name, t⟩ :: qs, ?_⟩
      rw [List.map_cons, TracedParameter.parameter, ht]

theorem exists_signature_iff : (∃ f : TracedFunction, f.signature = s) ↔ s.Known := by
  constructor
  · rintro ⟨f, rfl⟩
    exact ⟨⟨f.result, rfl⟩, exists_parameters_iff.1 ⟨f.parameters, rfl⟩⟩
  · rintro ⟨⟨t, ht⟩, hparameters⟩
    obtain ⟨qs, hqs⟩ := exists_parameters_iff.2 hparameters
    refine ⟨⟨s.name, t, qs⟩, ?_⟩
    rw [TracedFunction.signature, ht, hqs]

theorem traces_signature (f : TracedFunction) : f.signature.Traces f := by
  refine ⟨rfl, rfl, ?_, f.signature_returnsVoid.symm⟩
  rw [TracedFunction.signature, List.forall₂_map_left_iff, List.forall₂_same]
  exact fun q _ => ⟨rfl, rfl⟩

theorem resolveType_eq_error_iff : (resolveType spelling).outcome = .error e ↔
    ¬KnownType.Spells spelling ∧ e = .unknownType spelling := by
  cases hs : KnownType.ofSpelling? spelling with
  | some t =>
    have hspells : KnownType.Spells spelling := ⟨t, KnownType.spelling_of_ofSpelling? hs⟩
    simp [resolveType, hs, hspells]
  | none =>
    have hunknown : ¬KnownType.Spells spelling := by
      rintro ⟨t, rfl⟩
      rw [KnownType.ofSpelling?_spelling] at hs
      cases hs
    simp [resolveType, hs, hunknown, logUnknown, eq_comm]

theorem resolveParameter_eq_error_iff : (resolveParameter p).outcome = .error e ↔
    ¬KnownType.Spells p.type ∧ e = .parameter p.name (.unknownType p.type) := by
  unfold resolveParameter
  simp only [Report.outcome_bind, Report.outcome_wrap, Report.outcome_pure, bind_value_eq_error_iff,
    mapError_eq_error_iff, resolveType_eq_error_iff]
  constructor
  · rintro ⟨_, ⟨hunknown, rfl⟩, rfl⟩
    exact ⟨hunknown, rfl⟩
  · rintro ⟨hunknown, rfl⟩
    exact ⟨_, ⟨hunknown, rfl⟩, rfl⟩

theorem resolveParameters_eq_error_iff : (ps.mapM resolveParameter).outcome = .error e ↔
    ∃ before p after, ps = before ++ p :: after ∧ (∀ q ∈ before, KnownType.Spells q.type) ∧
      ¬KnownType.Spells p.type ∧ e = .parameter p.name (.unknownType p.type) := by
  rw [Report.outcome_mapM, mapM_eq_error_iff]
  simp only [← Report.outcome_mapM, resolveParameters_eq_ok_iff, resolveParameter_eq_error_iff,
    ← exists_parameters_iff]
  constructor
  · rintro ⟨before, p, after, qs, hps, hqs, herror⟩
    exact ⟨before, p, after, hps, ⟨qs, hqs⟩, herror⟩
  · rintro ⟨before, p, after, hps, ⟨qs, hqs⟩, herror⟩
    exact ⟨before, p, after, qs, hps, hqs, herror⟩

theorem resolveFunction_eq_error_iff :
    (resolveFunction s).outcome = .error e ↔ ∃ spelling, s.FirstUnknown spelling e := by
  unfold resolveFunction
  rw [Report.outcome_bind, bind_eq_error_iff]
  simp only [Report.outcome_bind, Report.outcome_wrap, Report.outcome_pure, bind_value_eq_error_iff,
    mapError_eq_error_iff, mapError_eq_ok_iff, resolveType_eq_error_iff, resolveType_eq_ok_iff,
    resolveParameters_eq_error_iff]
  constructor
  · rintro (⟨_, ⟨hunknown, rfl⟩, rfl⟩ | ⟨t, ht, before, p, after, hps, hbefore, hp, rfl⟩)
    · exact ⟨_, .result hunknown⟩
    · exact ⟨_, .parameter ⟨t, ht⟩ hps hbefore hp⟩
  · rintro ⟨spelling, hunknown | ⟨⟨t, ht⟩, hps, hbefore, hp⟩⟩
    · exact .inl ⟨_, ⟨hunknown, rfl⟩, rfl⟩
    · exact .inr ⟨t, ht, _, _, _, hps, hbefore, hp, rfl⟩

theorem addFunction_eq_error_iff : (addFunction api s).outcome = .error e ↔
    ∃ spelling cause, s.FirstUnknown spelling cause ∧ e = .function s.name cause := by
  unfold addFunction
  simp only [Report.outcome_bind, Report.outcome_wrap, Report.outcome_pure, Report.outcome_note,
    bind_ok, bind_value_eq_error_iff, mapError_eq_error_iff, resolveFunction_eq_error_iff]
  constructor
  · rintro ⟨cause, ⟨spelling, hfirst⟩, rfl⟩
    exact ⟨spelling, cause, hfirst, rfl⟩
  · rintro ⟨spelling, cause, hfirst, rfl⟩
    exact ⟨cause, ⟨spelling, hfirst⟩, rfl⟩

theorem resolve_eq_error_iff {signatures : Registry Signature} :
    (resolve signatures).outcome = .error e ↔
      ∃ spelling, Unresolved signatures.toList spelling e := by
  have hknown : ∀ {ss : List Signature}, (∃ api, ss.foldlM
      (fun api s => (addFunction api s).outcome) Registry.empty = .ok api) ↔
        ∀ s ∈ ss, s.Known := by
    intro ss
    simp only [exists_foldlM_iff, exists_signature_iff]
  rw [resolve, Report.outcome_foldlM, foldlM_eq_error_iff]
  simp only [addFunction_eq_error_iff]
  constructor
  · rintro ⟨before, s, after, api, hss, hapi, spelling, cause, hfirst, rfl⟩
    exact ⟨spelling, .intro hss (hknown.1 ⟨api, hapi⟩) hfirst⟩
  · rintro ⟨spelling, hss, hbefore, hfirst⟩
    obtain ⟨api, hapi⟩ := hknown.2 hbefore
    exact ⟨_, _, _, api, hss, hapi, spelling, _, hfirst, rfl⟩

theorem unknownType?_of_unresolved (h : Unresolved ss spelling e) :
    e.isUnknownType ∧ e.unknownType? = some spelling ∧
      (Failure.stage .types e).unknownTypeOfRun? = some spelling := by
  obtain ⟨-, -, hfirst⟩ := h
  cases hfirst <;> exact ⟨rfl, rfl, rfl⟩

/-- What the resolution of the signatures of a header comes to. It succeeds exactly if all their
types are in the catalogue, with one traced function for each signature in their order, under their
names; otherwise its failure is that of the first unknown type, and its spelling is found in it. -/
theorem resolve_exact {header marker : Text} {selection : Selection}
    {signatures : Registry Signature}
    (hs : (Header.signatures header marker selection).outcome = .ok signatures) :
    ((∃ api, (resolve signatures).outcome = .ok api) ↔ ∀ s ∈ signatures.toList, s.Known) ∧
    (∀ api, (resolve signatures).outcome = .ok api →
      api.size = signatures.size ∧ List.Forall₂ Traces signatures.toList api.toList ∧
        (∀ name, api.contains name ↔ ∃ f ∈ api.toList, f.name = name) ∧
        ∀ name f, api.get? name = some f ↔ f ∈ api.toList ∧ f.name = name) ∧
    ∀ e, (resolve signatures).outcome = .error e ↔
      ∃ spelling, Unresolved signatures.toList spelling e ∧ e.isUnknownType ∧
        e.unknownType? = some spelling ∧
        (Failure.stage .types e).unknownTypeOfRun? = some spelling := by
  refine ⟨?_, fun api hapi => ?_, fun e => resolve_eq_error_iff.trans
    (exists_congr fun spelling => (and_iff_left_of_imp unknownType?_of_unresolved).symm)⟩
  · simp only [exists_resolve_iff, exists_signature_iff]
  · obtain ⟨hholds, hsame⟩ := signature_of_resolve (Header.nodup_of_signatures hs) hapi
    refine ⟨?_, ?_, fun name => hholds.contains_iff_of_keys,
      fun name f => hholds.get?_iff_of_keys⟩
    · rw [Registry.size_eq_length, Registry.size_eq_length, ← hsame, List.length_map]
    · rw [← hsame, List.forall₂_map_left_iff, List.forall₂_same]
      exact fun f _ => traces_signature f

/-- The second parameter of the second function is the first unknown type of three. -/
theorem resolve_exact_second_parameter :
    let header := "GLAPI void glClear (GLbitfield mask);\n".toList ++
      "GLAPI void glAttach (GLuint a, GLhandleARB b, GLfixed c);\n".toList ++
      "GLAPI GLhandleARB glMake (void);\n".toList
    let selection := ((Selection.empty.insert "glClear".toList).insert "glAttach".toList).insert
      "glMake".toList
    let e := Failure.function "glAttach".toList
      (.parameter "b".toList (.unknownType "GLhandleARB".toList))
    ∃ signatures, (Header.signatures header "GLAPI".toList selection).outcome = .ok signatures ∧
      (resolve signatures).outcome = .error e ∧
      ∃ spelling, Unresolved signatures.toList spelling e ∧ e.isUnknownType ∧
        e.unknownType? = some spelling ∧
        (Failure.stage .types e).unknownTypeOfRun? = some spelling := by
  intro header selection e
  have hfails : (Header.signatures header "GLAPI".toList selection >>= resolve).outcome.map
      Registry.toList = .error e := by decide +kernel
  have hread : (Header.signatures header "GLAPI".toList selection).outcome.toOption.any
      (·.size = 3) = true := by decide +kernel
  obtain ⟨signatures, hs, -⟩ := exists_ok_of_any hread
  rw [map_eq_error_iff, Report.outcome_bind, hs, bind_ok] at hfails
  exact ⟨signatures, hs, hfails, ((resolve_exact hs).2.2 e).1 hfails⟩

end Api
end CallTracer
