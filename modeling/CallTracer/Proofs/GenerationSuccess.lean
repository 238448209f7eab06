import CallTracer.Proofs.Consistency
import CallTracer.Proofs.FunctionList
import CallTracer.Proofs.HeaderLines
import Mathlib.Data.List.Forall2
/-! When a generation succeeds, and with what: neither depends on the order in which failures would
be met. The artifacts are a function of the traced functions in the order of their declarations. -/
namespace CallTracer
open Outcome

namespace Header

/-- The traced functions of a header in the order of their declarations. -/
def functions (marker : Text) (selection : Selection) (header : Text) : List TracedFunction :=
  (selected marker selection header).filterMap Api.traced?

/-- A header of which everything that is selected can be traced. -/
structure Traceable (marker : Text) (selection : Selection) (header : Text) : Prop where
  readable : ∀ line ∈ (Text.lines header).filterMap (declared? marker),
    Readable marker selection line
  distinct : ((selected marker selection header).map Signature.name).Nodup
  known : ∀ s ∈ selected marker selection header, ∃ f : TracedFunction, f.signature = s

theorem exists_resolved_iff {header marker : Text} {selection : Selection} :
    (∃ signatures api, (Header.signatures header marker selection).outcome = .ok signatures ∧
      (Api.resolve signatures).outcome = .ok api) ↔ Traceable marker selection header := by
  have hlines : (∀ d ∈ declarations marker header, Readable marker selection d.2) ↔
      ∀ line ∈ (Text.lines header).filterMap (declared? marker),
        Readable marker selection line := by
    rw [← map_snd_declarations, List.forall_mem_map]
  constructor
  · rintro ⟨signatures, api, hs, hr⟩
    obtain ⟨hreadable, hdistinct⟩ := exists_signatures_iff.1 ⟨signatures, hs⟩
    refine ⟨hlines.1 hreadable, hdistinct, ?_⟩
    rw [← toList_of_signatures hs]
    exact Api.exists_resolve_iff.1 ⟨api, hr⟩
  · rintro ⟨hreadable, hdistinct, hknown⟩
    obtain ⟨signatures, hs⟩ := exists_signatures_iff.2 ⟨hlines.2 hreadable, hdistinct⟩
    obtain ⟨api, hr⟩ := Api.exists_resolve_iff.2 ((toList_of_signatures hs).symm ▸ hknown)
    exact ⟨signatures, api, hs, hr⟩

theorem functions_of_resolve {header marker : Text} {selection : Selection}
    {signatures : Registry Signature} {api : Api}
    (hs : (Header.signatures header marker selection).outcome = .ok signatures)
    (hr : (Api.resolve signatures).outcome = .ok api) :
    api.toList = functions marker selection header := by
  rw [Api.toList_of_resolve (nodup_of_signatures hs) hr, toList_of_signatures hs, functions]

end Header

namespace Artifacts

/-- The artifacts of some traced functions. -/
def ofFunctions (naming : Naming) (selection : Selection) (fs : List TracedFunction) : Artifacts :=
  let names := Sorting.sort Text.atMost (fs.map TracedFunction.name)
  ⟨⟨naming.apiType, fs.map (Stub.ofFunction naming), .hook naming names, .loader naming names⟩,
    .ofSelection selection⟩

/-- A generation succeeds exactly if its list can be read and everything that the list selects in
the header can be traced. -/
theorem generate_eq_ok_iff {list header : Text} {options : Options} {a : Artifacts} :
    (generate list header options).outcome = .ok a ↔ ∃ selection,
      (Selection.read list).outcome = .ok selection ∧
        Header.Traceable options.marker selection header ∧
        ofFunctions options.naming selection (Header.functions options.marker selection header) =
          a := by
  constructor
  · intro h
    obtain ⟨selection, signatures, api, hl, hs, hr, rfl⟩ := parts_of_generate h
    refine ⟨selection, hl, Header.exists_resolved_iff.1 ⟨signatures, api, hs, hr⟩, ?_⟩
    rw [← Header.functions_of_resolve hs hr]
    rfl
  · rintro ⟨selection, hl, htraceable, rfl⟩
    obtain ⟨signatures, api, hs, hr⟩ := Header.exists_resolved_iff.2 htraceable
    rw [outcome_generate_of_parts hl hs hr, ← Header.functions_of_resolve hs hr]
    rfl

/-- What the stub of every function has to do with the signature that the function stands for, the
stubs of a generation have to do with the selected signatures of the header. -/
theorem forall₂_stubs_of_generate {list header : Text} {options : Options} {a : Artifacts}
    {R : Signature → Stub → Prop} (h : (generate list header options).outcome = .ok a)
    (hR : ∀ f : TracedFunction, f.signature.WellFormed →
      R f.signature (Stub.ofFunction options.naming f)) :
    ∃ selection, (Selection.read list).outcome = .ok selection ∧
      List.Forall₂ R (Header.selected options.marker selection header) a.traceSource.stubs := by
  obtain ⟨selection, signatures, api, hl, hs, hr, rfl⟩ := parts_of_generate h
  obtain ⟨-, hsame⟩ := Api.signature_of_resolve (Header.nodup_of_signatures hs) hr
  refine ⟨selection, hl, ?_⟩
  rw [← Header.toList_of_signatures hs, ← hsame]
  refine List.forall₂_map_left_iff.2 (List.forall₂_map_right_iff.2 (List.forall₂_same.2 ?_))
  exact fun f hf => hR f (Api.wellFormed_of_resolve hs hr hf).2

end Artifacts
end CallTracer
