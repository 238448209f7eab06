import CallTracer.Header
import CallTracer.Proofs.Canonical
import CallTracer.Proofs.RegistryEntries
/-! What a scan of a header finds: the signatures of its selected declarations, in line order. -/
namespace CallTracer.Header
open Outcome

variable {header marker : Text} {selection : Selection} {found next : Registry Signature}
  {declaration : Nat × Text} {s : Signature}

/-- The signature of a line that declares a selected function. -/
def selected? (marker : Text) (selection : Selection) (line : Text) : Option Signature :=
  (Declaration.read line marker).toOption.filter (selection.contains ·.name)

/-- The signatures of the selected declarations in line order. -/
def selected (marker : Text) (selection : Selection) (header : Text) : List Signature :=
  (declarations marker header).filterMap (selected? marker selection ·.2)

/-- A signature under its name. -/
def entry (s : Signature) : Text × Signature := (s.name, s)

theorem located_eq_ok_iff {α : Type} {number : Nat} {x : Except Declaration.Fault α} {a : α} :
    (located number x).outcome = .ok a ↔ x = .ok a := mapError_eq_ok_iff

theorem selected?_eq_some_iff {line : Text} : selected? marker selection line = some s ↔
    Declaration.read line marker = .ok s ∧ s.name ∈ selection.names := by
  unfold selected?
  cases Declaration.read line marker <;> simp [Except.toOption]

theorem name_of_finish {head : Declaration.Head} (h : head.finish = .ok s) :
    s.name = head.name := by
  obtain ⟨-, -, ps, -, rfl⟩ := Declaration.finish_eq_ok_iff.1 h
  rfl

theorem selected?_of_readHead {line : Text} {head : Declaration.Head}
    (h : Declaration.readHead line marker = .ok head) :
    selected? marker selection line =
      if selection.contains head.name then head.finish.toOption else none := by
  unfold selected? Declaration.read
  rw [h, bind_ok]
  cases hf : head.finish with
  | error e => simp [Except.toOption]
  | ok s => simp [Except.toOption, Option.filter_some, name_of_finish hf]

/-- What the reading of one declaration does to what was found before it. -/
theorem addDeclaration_eq_ok
    (h : (addDeclaration marker selection found declaration).outcome = .ok next) :
    (selected? marker selection declaration.2 = none ∧ next = found) ∨
      ∃ s, selected? marker selection declaration.2 = some s ∧
        found.insert? s.name s = some next := by
  unfold addDeclaration at h
  rw [Report.outcome_bind] at h
  obtain ⟨head, hhead, h⟩ := bind_eq_ok_iff.1 h
  rw [selected?_of_readHead (located_eq_ok_iff.1 hhead)]
  split at h
  · rename_i hselected
    rw [Report.outcome_bind] at h
    obtain ⟨s, hs, h⟩ := bind_eq_ok_iff.1 h
    rw [Report.outcome_bind, Report.outcome_note, bind_ok] at h
    refine .inr ⟨s, by rw [if_pos hselected, located_eq_ok_iff.1 hs]; rfl, ?_⟩
    split at h
    · rename_i hinsert
      cases h
      exact hinsert
    · cases h
  · rename_i hselected
    cases h
    exact .inl ⟨if_neg hselected, rfl⟩

/-- One step of the scan keeps the registry a list of what was found, in line order. -/
theorem holds_of_addDeclaration {before : List Signature}
    (h : found.Holds (before.map entry))
    (hnext : (addDeclaration marker selection found declaration).outcome = .ok next) :
    next.Holds ((before ++ (selected? marker selection declaration.2).toList).map entry) := by
  rcases addDeclaration_eq_ok hnext with ⟨hnone, rfl⟩ | ⟨s, hs, hinsert⟩
  · simpa [hnone] using h
  · simpa [hs, entry] using (h.insert?_eq_some hinsert).2

theorem holds_of_foldlM {ds : List (Nat × Text)} {before : List Signature}
    (h : found.Holds (before.map entry))
    (hnext : ds.foldlM (fun r d => (addDeclaration marker selection r d).outcome) found =
      .ok next) :
    next.Holds ((before ++ ds.filterMap (selected? marker selection ·.2)).map entry) := by
  induction ds generalizing found before with
  | nil =>
    cases hnext
    simpa using h
  | cons d ds ih =>
    rw [List.foldlM_cons] at hnext
    obtain ⟨r, hr, hnext⟩ := bind_eq_ok_iff.1 hnext
    have := ih (holds_of_addDeclaration h hr) hnext
    cases hs : selected? marker selection d.2 <;> simpa [hs] using this

/-- A scan that succeeds finds exactly the selected declarations, under different names. -/
theorem holds_of_signatures (h : (signatures header marker selection).outcome = .ok found) :
    found.Holds ((selected marker selection header).map entry) := by
  unfold signatures at h
  simp only [Report.outcome_bind, Report.outcome_foldlM, Report.outcome_note, bind_ok] at h
  obtain ⟨r, hr, h⟩ := bind_eq_ok_iff.1 h
  cases h
  exact holds_of_foldlM (Registry.holds_empty_map entry) hr

theorem toList_of_signatures (h : (signatures header marker selection).outcome = .ok found) :
    found.toList = selected marker selection header := by
  simpa [entry, Function.comp_def] using (holds_of_signatures h).values

theorem nodup_of_signatures (h : (signatures header marker selection).outcome = .ok found) :
    (found.toList.map Signature.name).Nodup := by
  rw [toList_of_signatures h]
  simpa [entry, Function.comp_def] using (holds_of_signatures h).nodup

/-- Every signature that is found was read from a line and bears a selected name. -/
theorem read_of_mem_signatures (h : (signatures header marker selection).outcome = .ok found)
    (hs : s ∈ found.toList) :
    (∃ line, Declaration.read line marker = .ok s) ∧ s.name ∈ selection.names := by
  rw [toList_of_signatures h] at hs
  obtain ⟨d, -, hd⟩ := List.mem_filterMap.1 hs
  obtain ⟨hread, hname⟩ := selected?_eq_some_iff.1 hd
  exact ⟨⟨d.2, hread⟩, hname⟩

/-- A declaration of a name that is not selected leaves what was found as it is. -/
theorem addDeclaration_of_not_selected {head : Declaration.Head}
    (hread : Declaration.readHead declaration.2 marker = .ok head)
    (hname : head.name ∉ selection.names) :
    addDeclaration marker selection found declaration = pure found := by
  have hc : ¬selection.contains head.name = true := fun hc => hname (Selection.contains_iff.1 hc)
  have hhead : located declaration.1 (.ok head) = pure head := rfl
  rw [addDeclaration, hread, hhead, pure_bind, if_neg hc]

/-- A line that stops no scan by what it says: its head can be read, and the rest of it too if its
name is selected. -/
def Readable (marker : Text) (selection : Selection) (line : Text) : Prop :=
  ∃ head, Declaration.readHead line marker = .ok head ∧
    (head.name ∈ selection.names → ∃ s, head.finish = .ok s)

theorem readable_of_addDeclaration
    (h : (addDeclaration marker selection found declaration).outcome = .ok next) :
    Readable marker selection declaration.2 := by
  unfold addDeclaration at h
  rw [Report.outcome_bind] at h
  obtain ⟨head, hhead, h⟩ := bind_eq_ok_iff.1 h
  refine ⟨head, located_eq_ok_iff.1 hhead, fun hname => ?_⟩
  rw [if_pos (Selection.contains_iff.2 hname), Report.outcome_bind] at h
  obtain ⟨s, hs, -⟩ := bind_eq_ok_iff.1 h
  exact ⟨s, located_eq_ok_iff.1 hs⟩

theorem outcome_addDeclaration_of_finish {head : Declaration.Head}
    (hread : Declaration.readHead declaration.2 marker = .ok head)
    (hname : head.name ∈ selection.names) (hs : head.finish = .ok s)
    (hnext : found.insert? s.name s = some next) :
    (addDeclaration marker selection found declaration).outcome = .ok next := by
  unfold addDeclaration
  simp only [Report.outcome_bind, located_eq_ok_iff.2 hread, bind_ok,
    if_pos (Selection.contains_iff.2 hname), located_eq_ok_iff.2 hs, Report.outcome_note, hnext]
  rfl

/-- A step succeeds on a readable line that declares no name a second time. -/
theorem exists_addDeclaration_iff :
    (∃ next, (addDeclaration marker selection found declaration).outcome = .ok next) ↔
      Readable marker selection declaration.2 ∧
        ∀ s, selected? marker selection declaration.2 = some s → ¬found.contains s.name := by
  constructor
  · rintro ⟨next, hnext⟩
    refine ⟨readable_of_addDeclaration hnext, fun s hs => ?_⟩
    rcases addDeclaration_eq_ok hnext with ⟨hnone, -⟩ | ⟨s', hs', hinsert⟩
    · rw [hnone] at hs
      cases hs
    · rw [hs'] at hs
      cases hs
      intro hc
      rw [Registry.insert?_of_contains hc] at hinsert
      cases hinsert
  · rintro ⟨⟨head, hread, hfinish⟩, hfresh⟩
    by_cases hname : head.name ∈ selection.names
    · obtain ⟨s, hs⟩ := hfinish hname
      have hselected : selected? marker selection declaration.2 = some s := by
        rw [selected?_of_readHead hread, if_pos (Selection.contains_iff.2 hname), hs]
        rfl
      obtain ⟨next, hnext, -⟩ :=
        Registry.insert?_of_not_contains (eq_false_of_ne_true (hfresh s hselected)) s
      exact ⟨next, outcome_addDeclaration_of_finish hread hname hs hnext⟩
    · exact ⟨found, by rw [addDeclaration_of_not_selected hread hname, Report.outcome_pure]⟩

/-- The scan goes on to the end exactly if every line is readable and no name comes twice, also
among those found before. -/
theorem exists_foldlM_iff {ds : List (Nat × Text)} {before : List Signature}
    (h : found.Holds (before.map entry)) :
    (∃ next, ds.foldlM (fun r d => (addDeclaration marker selection r d).outcome) found =
        .ok next) ↔
      (∀ d ∈ ds, Readable marker selection d.2) ∧
        ((before ++ ds.filterMap (selected? marker selection ·.2)).map Signature.name).Nodup := by
  have hentries : ∀ ss : List Signature, (ss.map entry).map Prod.fst = ss.map Signature.name :=
    fun ss => List.map_map
  -- `before` is what the registry holds where `ds` begins; each step moves a signature into it.
  induction ds generalizing found before with
  | nil => simpa [pure, Except.pure] using hentries before ▸ h.nodup
  | cons d ds ih =>
    have hcons : before ++ (d :: ds).filterMap (selected? marker selection ·.2) =
        before ++ (selected? marker selection d.2).toList ++
          ds.filterMap (selected? marker selection ·.2) := by
      cases hs : selected? marker selection d.2 <;> simp [hs]
    simp only [List.foldlM_cons, bind_eq_ok_iff, List.forall_mem_cons, hcons]
    constructor
    · rintro ⟨next, r, hr, hnext⟩
      obtain ⟨hall, hnodup⟩ := (ih (holds_of_addDeclaration h hr)).1 ⟨next, hnext⟩
      exact ⟨⟨readable_of_addDeclaration hr, hall⟩, hnodup⟩
    · rintro ⟨⟨hd, hall⟩, hnodup⟩
      have hfresh : ∀ s, selected? marker selection d.2 = some s → ¬found.contains s.name := by
        intro s hs hc
        rw [h.contains_iff, hentries] at hc
        rw [hs, List.append_assoc, List.map_append, List.nodup_append] at hnodup
        exact hnodup.2.2 s.name hc s.name (by simp) rfl
      obtain ⟨r, hr⟩ := exists_addDeclaration_iff.2 ⟨hd, hfresh⟩
      obtain ⟨next, hnext⟩ := (ih (holds_of_addDeclaration h hr)).2 ⟨hall, hnodup⟩
      exact ⟨next, r, hr, hnext⟩

/-- A scan succeeds exactly if it can read every declaration and the selected ones have different
names. -/
theorem exists_signatures_iff :
    (∃ found, (signatures header marker selection).outcome = .ok found) ↔
      (∀ d ∈ declarations marker header, Readable marker selection d.2) ∧
        ((selected marker selection header).map Signature.name).Nodup := by
  refine Iff.trans ?_ (exists_foldlM_iff (Registry.holds_empty_map entry))
  unfold signatures
  simp only [Report.outcome_bind, Report.outcome_foldlM, Report.outcome_note, bind_ok,
    bind_eq_ok_iff, Report.outcome_pure, Except.ok.injEq, exists_eq_right]

end CallTracer.Header
