import CallTracer.Proofs.GenerationSuccess
/-! Fewer selected names: what is generated for them is the part of what is generated for more, and
no failure is met that the larger selection does not meet. -/
namespace CallTracer
open Outcome

namespace Header

variable {marker header line : Text} {s s' : Selection}

theorem Readable.of_subset (hsub : s.names ⊆ s'.names) (h : Readable marker s' line) :
    Readable marker s line := by
  obtain ⟨head, hread, hfinish⟩ := h
  refine ⟨head, hread, ?_⟩
  intro hname
  exact hfinish (hsub hname)

/-- The smaller selection finds, in line order, what the larger one finds, but for the names that it
lacks. -/
theorem selected_of_subset (hsub : s.names ⊆ s'.names) (marker header : Text) :
    selected marker s header = (selected marker s' header).filter (s.contains ·.name) := by
  have hboth : ∀ n, (s'.contains n && s.contains n) = s.contains n := by
    intro n
    rw [Bool.and_eq_right_iff_imp, Selection.contains_iff, Selection.contains_iff]
    apply hsub
  rw [selected, selected, List.filter_filterMap]
  simp only [selected?, Option.filter_filter, hboth]

theorem Traceable.of_subset (hsub : s.names ⊆ s'.names) (h : Traceable marker s' header) :
    Traceable marker s header := by
  have hsublist : (selected marker s header).Sublist (selected marker s' header) := by
    rw [selected_of_subset hsub]
    exact List.filter_sublist
  constructor
  · intro line hline
    exact (h.readable line hline).of_subset hsub
  · exact (hsublist.map Signature.name).nodup h.distinct
  · intro sig hsig
    exact h.known sig (hsublist.mem hsig)

theorem functions_of_subset (hsub : s.names ⊆ s'.names) (marker header : Text) :
    functions marker s header = (functions marker s' header).filter (s.contains ·.name) := by
  rw [functions, functions, selected_of_subset hsub, List.filterMap_filter, List.filter_filterMap]
  congr 1
  funext sig
  cases h : Api.traced? sig with
  | none => simp
  | some f =>
    have hname : f.name = sig.name := by rw [← Api.traced?_eq_some_iff.1 h]; rfl
    simp [Option.filter_some, hname]

end Header

/-- The entries that bear selected names. -/
def Table.restrict (t : Table) (s : Selection) : Table :=
  { t with entries := t.entries.filter s.contains }

namespace Artifacts

/-- The artifacts without the stubs, entries and fields of names that are not selected; a stub bears
the name of its function behind the prefix. -/
def restrict (naming : Naming) (s : Selection) (a : Artifacts) : Artifacts where
  traceSource :=
    { a.traceSource with
      stubs := a.traceSource.stubs.filter
        fun stub => stub.symbol ∈ s.names.map (naming.stubPrefix ++ ·)
      hookTable := a.traceSource.hookTable.restrict s
      loaderTable := a.traceSource.loaderTable.restrict s }
  apiStruct := ⟨a.apiStruct.fields.filter s.contains⟩

theorem restrict_ofFunctions {s s' : Selection} (hsub : s.names ⊆ s'.names) (naming : Naming)
    (fs : List TracedFunction) : (ofFunctions naming s' fs).restrict naming s =
      ofFunctions naming s (fs.filter (s.contains ·.name)) := by
  have hnames : (fs.filter (s.contains ·.name)).map TracedFunction.name =
      (fs.map TracedFunction.name).filter s.contains := by
    rw [List.filter_map]
    rfl
  have hstubs : (fs.map (Stub.ofFunction naming)).filter
        (fun stub => stub.symbol ∈ s.names.map (naming.stubPrefix ++ ·)) =
      (fs.filter (s.contains ·.name)).map (Stub.ofFunction naming) := by
    rw [List.filter_map]
    refine congrArg _ (List.filter_congr fun f _ => ?_)
    simp [Stub.ofFunction, Selection.contains]
  have hfields : s'.names.filter s.contains = s.names := by
    refine congrArg Selection.names
      (Selection.ext_mem (s := ⟨s'.names.filter s.contains, s'.ascending.filter _⟩) fun n => ?_)
    rw [List.mem_filter, Selection.contains_iff]
    exact and_iff_right_of_imp fun hn => hsub hn
  unfold ofFunctions restrict Table.restrict Table.hook Table.loader ApiStruct.ofSelection
  simp only [hstubs, hfields, hnames, Text.filter_sort, List.filter_filter, Bool.and_comm]

/-- Restricting the selection restricts the artifacts and changes nothing else. -/
theorem generate_of_subset {list list' header : Text} {options : Options} {s s' : Selection}
    {a' : Artifacts} (hl : (Selection.read list).outcome = .ok s)
    (hl' : (Selection.read list').outcome = .ok s') (hsub : s.names ⊆ s'.names)
    (h : (generate list' header options).outcome = .ok a') :
    (generate list header options).outcome = .ok (a'.restrict options.naming s) := by
  obtain ⟨selection, hselection, htraceable, rfl⟩ := generate_eq_ok_iff.1 h
  rw [hl'] at hselection
  cases hselection
  refine generate_eq_ok_iff.2 ⟨s, hl, htraceable.of_subset hsub, ?_⟩
  rw [restrict_ofFunctions hsub, Header.functions_of_subset hsub]

/-- Three functions and two of them; the query of the error state is loaded and not hooked. -/
theorem generate_of_subset_two_of_three :
    let list := "glGetError\nglClear\n".toList
    let list' := "glClear\nglFlush\nglGetError\n".toList
    let header := "GLAPI void glFlush (void);\nGLAPI GLenum glGetError (void);\n".toList ++
      "GLAPI void glClear (GLbitfield mask);\n".toList
    ∃ s s' a', (Selection.read list).outcome = .ok s ∧ (Selection.read list').outcome = .ok s' ∧
      s.names ⊆ s'.names ∧ (generate list' header .standard).outcome = .ok a' ∧
      a'.traceSource.loaderTable.entries.length = 3 ∧
      (generate list header .standard).outcome = .ok (a'.restrict .standard s) ∧
      (a'.restrict .standard s).traceSource.hookTable.entries = ["glClear".toList] := by
  intro list list' header
  have hread : (Selection.read list).outcome.toOption.any (·.size = 2) ∧
      (Selection.read list').outcome.toOption.any (·.size = 3) := by decide +kernel
  have hlisted : Selection.listed list ⊆ Selection.listed list' := by decide +kernel
  have hloaded : (generate list' header .standard).outcome.toOption.any
      (·.traceSource.loaderTable.entries.length = 3) = true := by decide +kernel
  have hhooked : (generate list header .standard).outcome.toOption.any
      (·.traceSource.hookTable.entries = ["glClear".toList]) = true := by decide +kernel
  obtain ⟨s, hl, -⟩ := exists_ok_of_any hread.1
  obtain ⟨s', hl', -⟩ := exists_ok_of_any hread.2
  obtain ⟨a', h, hthree⟩ := exists_ok_of_any hloaded
  have hsub : s.names ⊆ s'.names := fun n hn =>
    (Selection.mem_names_of_read hl').2 (hlisted ((Selection.mem_names_of_read hl).1 hn))
  have hrestricted := generate_of_subset hl hl' hsub h
  rw [hrestricted] at hhooked
  exact ⟨s, s', a', hl, hl', hsub, h, of_decide_eq_true hthree, hrestricted,
    of_decide_eq_true hhooked⟩

end Artifacts
end CallTracer
