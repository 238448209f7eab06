import CallTracer.Proofs.StubText
import Mathlib.Data.List.Forall2
/-! Every stub is a wrapper of the declaration that it was made for. -/
namespace CallTracer

namespace Identifier

theorem isValid_append {m n : Text} (hm : isValid m) (hn : isValid n) : isValid (m ++ n) := by
  cases m with
  | nil => exact hn
  | cons c m =>
    simp only [isValid_cons, Bool.and_eq_true, List.all_eq_true] at hm
    simp only [List.cons_append, isValid_cons, Bool.and_eq_true, List.all_eq_true]
    exact ⟨hm.1, List.forall_mem_append.2 ⟨hm.2, all_isPart_of_isValid hn⟩⟩

end Identifier

namespace Signature

/-- A prefix that no decoration has keeps a signature well-formed. -/
theorem WellFormed.renamed {s : Signature} (h : s.WellFormed) {stubPrefix : Text}
    (hvalid : Identifier.isValid stubPrefix)
    (hplain : ∀ d ∈ Declaration.decorations, ¬stubPrefix <+: d) :
    (s.renamed stubPrefix).WellFormed := by
  refine ⟨Identifier.isValid_append hvalid h.name_valid, fun hmem => ?_, h.result_spelled,
    h.parameters⟩
  exact hplain _ hmem (List.prefix_append _ _)

end Signature

/-- What the stub of a traced function has to do with the signature it was declared with. Behind
its first line there is one call of the function itself and then the check of the error state, and
with the standard naming its first line is a declaration again. -/
structure Wraps (marker : Text) (s : Signature) (f : TracedFunction) : Prop where
  text : ∀ naming, (Stub.ofFunction naming f).print =
    Text.unlines ((s.renamed naming.stubPrefix).print ::
      s.wrapping (Statement.announce f.name f.parameters).print)
  firstLine : ∀ naming, '\n' ∉ naming.stubPrefix →
    (Text.lines (Stub.ofFunction naming f).print).head? =
      some (s.renamed naming.stubPrefix).print
  accesses : Text.memberAccesses (Text.unlines
    (s.wrapping (Statement.announce f.name f.parameters).print)) =
      [(apiHook, s.name), (apiHook, errorQuery)]
  reread : ∀ line ∈ (Text.lines (Stub.ofFunction .standard f).print).head?,
    Declaration.read (marker ++ ' ' :: line) marker = .ok ⟨"GLTracer_".toList ++ s.name,
      if s.result.isEmpty then "void".toList else s.result, s.parameters⟩

theorem wraps_signature {marker : Text} {f : TracedFunction} (hm : Identifier.isValid marker)
    (h : f.signature.WellFormed) : Wraps marker f.signature f := by
  have hnamed := TracedFunction.named_of_signature h
  have hstandard : (f.signature.renamed Naming.standard.stubPrefix).WellFormed :=
    h.renamed (by decide) (by decide)
  constructor
  · intro naming
    rw [Stub.print_eq, Stub.opening_eq, Stub.block_eq]
  · exact fun naming hn => Stub.head?_lines_print hn hnamed
  · exact Signature.memberAccesses_wrapping hnamed
  · intro line hline
    rw [Stub.head?_lines_print (by decide) hnamed, Option.mem_some] at hline
    rw [← hline]
    have := Declaration.read_print hm hstandard (.inl rfl)
    rw [List.append_nil] at this
    exact this

/-- Whatever is selected from whatever header, the functions that the signatures resolve to have
stubs that wrap these signatures, in their order. -/
theorem wraps_of_resolve {header marker : Text} {selection : Selection}
    {signatures : Registry Signature} {api : Api}
    (hs : (Header.signatures header marker selection).outcome = .ok signatures)
    (hr : (Api.resolve signatures).outcome = .ok api) :
    List.Forall₂ (Wraps marker) signatures.toList api.toList := by
  obtain ⟨-, hsame⟩ := Api.signature_of_resolve (Header.nodup_of_signatures hs) hr
  rw [← hsame, List.forall₂_map_left_iff, List.forall₂_same]
  intro f hf
  obtain ⟨hm, hwell⟩ := Api.wellFormed_of_resolve hs hr hf
  exact wraps_signature hm hwell

/-- A function with a result and one whose result is missing. -/
theorem wraps_of_resolve_missing_result :
    let header :=
      "GLAPI GLsync glFenceSync (GLenum condition, GLbitfield flags);\nGLAPI glFlush (void);".toList
    let selection := (Selection.empty.insert "glFlush".toList).insert "glFenceSync".toList
    ∃ signatures api, (Header.signatures header "GLAPI".toList selection).outcome = .ok signatures ∧
      (Api.resolve signatures).outcome = .ok api ∧ api.toList.length = 2 ∧
      List.Forall₂ (Wraps "GLAPI".toList) signatures.toList api.toList := by
  intro header selection
  have htwo : (Header.signatures header "GLAPI".toList selection >>=
      Api.resolve).outcome.toOption.any (·.toList.length = 2) = true := by decide +kernel
  rw [Report.outcome_bind] at htwo
  cases hs : (Header.signatures header "GLAPI".toList selection).outcome with
  | error e =>
    rw [hs] at htwo
    cases htwo
  | ok signatures =>
    rw [hs, Outcome.bind_ok] at htwo
    cases hr : (Api.resolve signatures).outcome with
    | error e =>
      rw [hr] at htwo
      cases htwo
    | ok api =>
      rw [hr] at htwo
      exact ⟨signatures, api, rfl, hr, of_decide_eq_true htwo, wraps_of_resolve hs hr⟩

end CallTracer
