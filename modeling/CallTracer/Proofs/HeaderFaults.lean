import CallTracer.Proofs.HeaderLines
/-! What a scan of a header comes to: the signatures of its selected declarations, or the fault of
the first declaration that cannot be read or repeats a name. -/
namespace CallTracer.Header
open Outcome

variable {header marker line name : Text} {selection : Selection} {found : Registry Signature}
  {d : Nat × Text} {ds earlier : List (Nat × Text)} {s : Signature} {e : Failure} {number : Nat}

/-- Declarations that a scan goes over without a fault: they can be read as far as is needed, and
no two selected ones have the same name. -/
structure Scannable (marker : Text) (selection : Selection) (ds : List (Nat × Text)) : Prop where
  readable : ∀ d ∈ ds, Readable marker selection d.2
  distinct : ((ds.filterMap (selected? marker selection ·.2)).map Signature.name).Nodup

/-- How a declaration stops a scan that has gone over earlier ones. -/
inductive Stops (marker : Text) (selection : Selection) (earlier : List (Nat × Text)) :
    Nat × Text → Failure → Prop
  | head {number : Nat} {line : Text} {fault : Declaration.Fault}
    (h : Declaration.readHead line marker = .error fault) :
    Stops marker selection earlier (number, line)
      (.declarationOnLine number (.declaration fault))
  | parameters {number : Nat} {line : Text} {head : Declaration.Head} {fault : Declaration.Fault}
    (isHead : Declaration.readHead line marker = .ok head)
    (isSelected : head.name ∈ selection.names) (h : head.finish = .error fault) :
    Stops marker selection earlier (number, line)
      (.declarationOnLine number (.declaration fault))
  | repeated {d d' : Nat × Text} {s s' : Signature}
    (isSelected : selected? marker selection d.2 = some s) (isEarlier : d' ∈ earlier)
    (isSelected' : selected? marker selection d'.2 = some s') (same : s'.name = s.name) :
    Stops marker selection earlier d (.declaredTwice s.name)

theorem located_eq_error_iff {α : Type} {x : Except Declaration.Fault α} :
    (located number x).outcome = .error e ↔
      ∃ fault, x = .error fault ∧ .declarationOnLine number (.declaration fault) = e :=
  mapError_eq_error_iff

theorem selected?_of_finish {head : Declaration.Head}
    (hhead : Declaration.readHead line marker = .ok head) (hname : head.name ∈ selection.names)
    (hs : head.finish = .ok s) : selected? marker selection line = some s := by
  rw [selected?_of_readHead hhead, if_pos (Selection.contains_iff.2 hname), hs]
  rfl

section

variable (h : found.Holds ((earlier.filterMap (selected? marker selection ·.2)).map entry))

include h

theorem contains_iff_exists_earlier : found.contains name ↔
    ∃ d ∈ earlier, ∃ s, selected? marker selection d.2 = some s ∧ s.name = name := by
  rw [h.contains_iff_of_keys]
  constructor
  · rintro ⟨s, hs, hname⟩
    obtain ⟨d, hd, hs⟩ := List.mem_filterMap.1 hs
    exact ⟨d, hd, s, hs, hname⟩
  · rintro ⟨d, hd, s, hs, hname⟩
    exact ⟨s, List.mem_filterMap.2 ⟨d, hd, hs⟩, hname⟩

/-- A step of the scan that fails is a declaration that stops it. -/
theorem stops_of_addDeclaration
    (herror : (addDeclaration marker selection found d).outcome = .error e) :
    Stops marker selection earlier d e := by
  obtain ⟨number, line⟩ := d
  unfold addDeclaration at herror
  rw [Report.outcome_bind, bind_eq_error_iff] at herror
  rcases herror with herror | ⟨head, hhead, herror⟩
  · obtain ⟨fault, hfault, rfl⟩ := located_eq_error_iff.1 herror
    exact .head hfault
  rw [located_eq_ok_iff] at hhead
  split at herror
  · rename_i hname
    rw [Selection.contains_iff] at hname
    rw [Report.outcome_bind, bind_eq_error_iff] at herror
    rcases herror with herror | ⟨s, hs, herror⟩
    · obtain ⟨fault, hfault, rfl⟩ := located_eq_error_iff.1 herror
      exact .parameters hhead hname hfault
    rw [located_eq_ok_iff] at hs
    rw [Report.outcome_bind, Report.outcome_note, bind_ok] at herror
    have htaken : found.contains s.name := by
      by_contra hfresh
      obtain ⟨next, hnext, -⟩ := Registry.insert?_of_not_contains (eq_false_of_ne_true hfresh) s
      rw [hnext] at herror
      cases herror
    rw [Registry.insert?_of_contains htaken] at herror
    cases herror
    obtain ⟨d', hd', s', hs', hsame⟩ := (contains_iff_exists_earlier h).1 htaken
    exact .repeated (selected?_of_finish hhead hname hs) hd' hs' hsame
  · cases herror

theorem addDeclaration_of_stops (hstops : Stops marker selection earlier d e) :
    (addDeclaration marker selection found d).outcome = .error e := by
  unfold addDeclaration
  cases hstops with
  | head hfault => rw [Report.outcome_bind, located_eq_error_iff.2 ⟨_, hfault, rfl⟩, bind_error]
  | parameters hhead hname hfault =>
    rw [Report.outcome_bind, located_eq_ok_iff.2 hhead, bind_ok,
      if_pos (Selection.contains_iff.2 hname), Report.outcome_bind,
      located_eq_error_iff.2 ⟨_, hfault, rfl⟩, bind_error]
  | @repeated d d' s s' hselected hd' hs' hsame =>
    obtain ⟨hread, hname⟩ := selected?_eq_some_iff.1 hselected
    obtain ⟨head, hhead, hs⟩ := Declaration.read_eq_ok_iff.1 hread
    rw [name_of_finish hs, ← Selection.contains_iff] at hname
    have htaken : found.contains s.name :=
      (contains_iff_exists_earlier h).2 ⟨d', hd', s', hs', hsame⟩
    simp only [Report.outcome_bind, located_eq_ok_iff.2 hhead, bind_ok, if_pos hname,
      located_eq_ok_iff.2 hs, Report.outcome_note, Registry.insert?_of_contains htaken,
      Report.outcome_fail]

end

/-- Before anything is found nothing is taken: the scan goes over exactly what is scannable. -/
theorem exists_scan_iff : (∃ next, ds.foldlM
    (fun r d => (addDeclaration marker selection r d).outcome) Registry.empty = .ok next) ↔
      Scannable marker selection ds := by
  rw [exists_foldlM_iff (Registry.holds_empty_map entry)]
  exact ⟨fun h => ⟨h.1, h.2⟩, fun h => ⟨h.1, h.2⟩⟩

theorem signatures_eq_error_iff : (signatures header marker selection).outcome = .error e ↔
    ∃ earlier d later, declarations marker header = earlier ++ d :: later ∧
      Scannable marker selection earlier ∧ Stops marker selection earlier d e := by
  unfold signatures
  simp only [Report.outcome_bind, Report.outcome_foldlM, Report.outcome_note, bind_ok,
    Report.outcome_pure]
  rw [bind_value_eq_error_iff, foldlM_eq_error_iff]
  constructor
  · rintro ⟨earlier, d, later, found, hds, hfound, herror⟩
    exact ⟨earlier, d, later, hds, exists_scan_iff.1 ⟨found, hfound⟩,
      stops_of_addDeclaration (holds_of_foldlM (Registry.holds_empty_map entry) hfound) herror⟩
  · rintro ⟨earlier, d, later, hds, hscan, hstops⟩
    obtain ⟨found, hfound⟩ := exists_scan_iff.2 hscan
    exact ⟨earlier, d, later, found, hds, hfound,
      addDeclaration_of_stops (holds_of_foldlM (Registry.holds_empty_map entry) hfound) hstops⟩

/-- What a scan comes to. It goes over the lines that begin with the marker. It succeeds exactly if
they are without a fault, with the signatures of the selected ones in line order, each under its
name; otherwise its failure is that of the first line that stops it. -/
theorem signatures_exact (header marker : Text) (selection : Selection) :
    AreDeclarations marker header (declarations marker header) ∧
    ((∃ found, (signatures header marker selection).outcome = .ok found) ↔
      Scannable marker selection (declarations marker header)) ∧
    (∀ found, (signatures header marker selection).outcome = .ok found →
      found.toList = selected marker selection header ∧
        ∀ name s, found.get? name = some s ↔
          s ∈ selected marker selection header ∧ s.name = name) ∧
    ∀ e, (signatures header marker selection).outcome = .error e ↔
      ∃ earlier d later, declarations marker header = earlier ++ d :: later ∧
        Scannable marker selection earlier ∧ Stops marker selection earlier d e := by
  refine ⟨areDeclarations marker header, ?_, fun found hfound => ?_,
    fun e => signatures_eq_error_iff⟩
  · rw [exists_signatures_iff]
    exact ⟨fun h => ⟨h.1, h.2⟩, fun h => ⟨h.1, h.2⟩⟩
  · exact ⟨toList_of_signatures hfound, fun name s => (holds_of_signatures hfound).get?_iff_of_keys⟩

/-- A comment, a declaration that is not selected and need not be readable to its end, and a
declaration that is repeated before one that cannot be read. -/
theorem signatures_exact_repeated :
    let header := "// GL\nGLAPI void glFoo (GLint, );\n".toList ++
      "GLAPI void glClear (GLbitfield mask);\n\n  GLAPI void glClear (void);\nGLAPI glBar;\n".toList
    let selection := Selection.empty.insert "glClear".toList
    (signatures header "GLAPI".toList selection).outcome =
        .error (.declaredTwice "glClear".toList) ∧
      ∃ earlier d later, declarations "GLAPI".toList header = earlier ++ d :: later ∧
        Scannable "GLAPI".toList selection earlier ∧
        Stops "GLAPI".toList selection earlier d (.declaredTwice "glClear".toList) := by
  intro header selection
  have hfails : (signatures header "GLAPI".toList selection).outcome.map (fun _ => ()) =
      .error (.declaredTwice "glClear".toList) := by decide +kernel
  rw [map_eq_error_iff] at hfails
  exact ⟨hfails, ((signatures_exact header "GLAPI".toList selection).2.2.2 _).1 hfails⟩

end CallTracer.Header
