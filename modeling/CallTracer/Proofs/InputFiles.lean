import CallTracer.Proofs.Containment
/-! A generation over files is one over their texts. The function list is read and understood before
the header is asked for, which decides what is reported when more than one thing is wrong. -/
namespace CallTracer
open Outcome

namespace FileTree

variable {t : FileTree} {path text : Text}

theorem toUTF8_of_fromUTF8? {bytes : ByteArray} {s : String} (h : String.fromUTF8? bytes = some s) :
    s.toUTF8 = bytes := by
  unfold String.fromUTF8? at h
  split at h
  · cases h
    rfl
  · cases h

/-- A text is read from a file exactly if the bytes of the file are its own in UTF-8. -/
theorem read_eq_ok_iff : t.read path = .ok text ↔
    t.bytes? path = some (String.ofList text).toUTF8 := by
  constructor
  · intro h
    rw [read] at h
    split at h
    · cases h
    · cases h
    · cases h
    · cases h
    · rename_i l hpath
      cases h
      rw [bytes?, hpath]
      rfl
    · rename_i l bytes hpath
      split at h
      · rename_i s hs
        cases h
        rw [bytes?, hpath, String.ofList_toList, toUTF8_of_fromUTF8? hs]
      · cases h
  · intro h
    rw [bytes?] at h
    split at h
    · rename_i l bytes hpath
      cases h
      exact read_of_resolve hpath
    · rename_i l hpath
      have hempty : text = [] := by simpa using congrArg ByteArray.size (Option.some.inj h).symm
      rw [read, hpath, hempty]
    · cases h

end FileTree

namespace Report

variable {α β : Type} {x : Report α}

theorem bind_of_ok {a : α} (h : x.outcome = .ok a) (f : α → Report β) :
    x >>= f = ⟨x.records ++ (f a).records, (f a).outcome⟩ :=
  ext (records_bind_ok h f) (by rw [outcome_bind, h, bind_ok])

theorem bind_of_error {e : Failure} (h : x.outcome = .error e) (f : α → Report β) :
    x >>= f = ⟨x.records, .error e⟩ :=
  ext (records_bind_error h f) (by rw [outcome_bind, h, bind_error])

end Report

section Runs

variable {m : Type → Type} [Monad m] [LawfulMonad m] {α β : Type}

/-- How a run goes on after a report, when it does not need the host any more. -/
theorem Run.rest_ofReport (r : Report α) (f : α → Report β) :
    (match r.outcome with
      | .error e => pure ⟨r.records, .error e⟩
      | .ok a => do
        let q ← (Run.ofReport (f a) : m (Report β))
        return ⟨r.records ++ q.records, q.outcome⟩ : m (Report β)) = pure (r >>= f) := by
  cases h : r.outcome with
  | error e => rw [Report.bind_of_error h]
  | ok a =>
    rw [Report.bind_of_ok h]
    exact pure_bind _ _

theorem World.read_bind (path : Text) (f : Except FileFault Text → StateM World β) (w : World) :
    (World.host.read path >>= f) w = f (w.tree.read path) w := rfl

/-- An input is read, then understood; what goes wrong belongs to the stage of the inputs. -/
theorem readInput_bind_wrap (host : Host m) (path : Text) (f : Text → Report α)
    (g : Failure → Failure) :
    (readInput host path >>= fun text => Run.ofReport (f text)).wrap g =
      (do
        match ← host.read path with
        | .ok text => return (f text).wrap g
        | .error fault => return .fail (g (.inputFile path fault)) : m (Report α)) := by
  simp only [readInput, Run.ask, Run.wrap, bind, bind_assoc]
  refine bind_congr fun text => ?_
  cases text with
  | ok text => simp [Run.ofReport, pure]
  | error fault => simp [Report.fail, Report.wrap]

end Runs

namespace Artifacts

/-- What a generation comes to by what its inputs are read as. That the header cannot be read is
noticed only when the function list is in order. -/
def ofReads (c : Config) : Except FileFault Text → Except FileFault Text → Report Artifacts
  | .ok list, .ok header => generate list header c.options
  | .ok list, .error fault => do
    let _ ← (Selection.read list).wrap (.stage .input)
    .fail (.stage .input (.inputFile c.header fault))
  | .error fault, _ => .fail (.stage .input (.inputFile c.functionList fault))

/-- Wherever the files are: the header is asked for only when the function list could be read and is
in order. -/
theorem load_eq {m : Type → Type} [Monad m] [LawfulMonad m] (host : Host m) (c : Config) :
    load host c = (do
      match ← host.read c.functionList with
      | .error fault => return .fail (.stage .input (.inputFile c.functionList fault))
      | .ok list =>
        match (Selection.read list).outcome with
        | .error e => return ⟨(Selection.read list).records, .error (.stage .input e)⟩
        | .ok _ => return ofReads c (.ok list) (← host.read c.header) : m (Report Artifacts)) := by
  have hselection := readInput_bind_wrap host c.functionList Selection.read (.stage .input)
  have hheader := fun selection => readInput_bind_wrap host c.header
    (Header.signatures · c.options.marker selection) (.stage .input)
  simp only [load, Selection.load, Header.load, hselection, hheader]
  simp only [bind, bind_assoc]
  refine bind_congr fun list => ?_
  cases list with
  | error fault =>
    rw [pure_bind]
    rfl
  | ok list =>
    simp only [pure_bind, Report.outcome_wrap, Report.records_wrap]
    cases hlist : (Selection.read list).outcome with
    | error e => rfl
    | ok selection =>
      have hread : ((Selection.read list).wrap (.stage .input)).outcome = .ok selection := by
        rw [Report.outcome_wrap, hlist, mapError_ok]
      simp only [mapError_ok]
      refine bind_congr fun header => ?_
      cases header with
      | error fault =>
        rw [pure_bind, ofReads, Report.bind_of_ok hread]
        exact pure_bind _ _
      | ok header =>
        rw [pure_bind, ofReads, generate, Report.bind_of_ok hread]
        exact (congrArg (· >>= _) (Run.rest_ofReport _ _)).trans (pure_bind _ _)

variable {w : World} {c : Config} {list : Text} {fault : FileFault} {e : Failure}

theorem ofReads_of_selection_error (h : (Selection.read list).outcome = .error e)
    (header : Except FileFault Text) :
    ofReads c (.ok list) header = ⟨(Selection.read list).records, .error (.stage .input e)⟩ := by
  have hread : ((Selection.read list).wrap (.stage .input)).outcome = .error (.stage .input e) := by
    rw [Report.outcome_wrap, h, mapError_error]
  cases header with
  | ok header => rw [ofReads, generate, Report.bind_of_error hread, Report.records_wrap]
  | error fault => rw [ofReads, Report.bind_of_error hread, Report.records_wrap]

theorem reportIn_load (w : World) (c : Config) : (load World.host c).reportIn w =
    ofReads c (w.tree.read c.functionList) (w.tree.read c.header) := by
  rw [Run.reportIn, load_eq, World.read_bind]
  cases w.tree.read c.functionList with
  | error fault => rfl
  | ok list =>
    cases hselection : (Selection.read list).outcome with
    | error e =>
      rw [ofReads_of_selection_error hselection]
      simp only [hselection]
      rfl
    | ok selection =>
      simp only [hselection]
      rfl

theorem outcome_ofReads_of_header_error {selection : Selection}
    (h : (Selection.read list).outcome = .ok selection) :
    (ofReads c (.ok list) (.error fault)).outcome =
      .error (.stage .input (.inputFile c.header fault)) := by
  simp only [ofReads, Report.outcome_bind, Report.outcome_wrap, Report.outcome_fail, h, mapError_ok,
    bind_ok]

theorem exists_reads_of_ok {a : Artifacts} {lists headers : Except FileFault Text}
    (h : (ofReads c lists headers).outcome = .ok a) :
    ∃ list header, lists = .ok list ∧ headers = .ok header := by
  cases lists with
  | error fault => cases h
  | ok list =>
    cases headers with
    | ok header => exact ⟨list, header, rfl, rfl⟩
    | error fault =>
      cases hselection : (Selection.read list).outcome with
      | ok selection =>
        rw [outcome_ofReads_of_header_error hselection] at h
        cases h
      | error e =>
        rw [ofReads_of_selection_error hselection] at h
        cases h

/-- A generation over files agrees with one over texts, whatever is in the file system and in the
configuration. With two files that are text it is the generation from their texts, the records
included. A function list that cannot be read is reported before anything else, and a fault in it
before a header that cannot be read. It never succeeds without both texts, it never fails for a
reason of the outputs, and it changes nothing. -/
theorem load_agrees (w : World) (c : Config) :
    let report := (load World.host c).reportIn w
    (∀ list header, w.tree.read c.functionList = .ok list → w.tree.read c.header = .ok header →
      report = generate list header c.options) ∧
    (∀ fault, w.tree.read c.functionList = .error fault →
      report = .fail (.stage .input (.inputFile c.functionList fault))) ∧
    (∀ list fault, w.tree.read c.functionList = .ok list → w.tree.read c.header = .error fault →
      (∀ e, (Selection.read list).outcome = .error e →
        report.outcome = .error (.stage .input e)) ∧
      ∀ selection, (Selection.read list).outcome = .ok selection →
        report.outcome = .error (.stage .input (.inputFile c.header fault))) ∧
    (∀ a, report.outcome = .ok a → ∃ list header,
      w.tree.read c.functionList = .ok list ∧ w.tree.read c.header = .ok header) ∧
    (∀ path fault cause, report.outcome ≠ .error (.outputFile path fault) ∧
      report.outcome ≠ .error (.standardOutput fault) ∧
      report.outcome ≠ .error (.stage .output cause)) ∧
    (load World.host c).after w = w ∧
    ∀ path text, w.tree.read path = .ok text ↔
      w.tree.bytes? path = some (String.ofList text).toUTF8 := by
  intro report
  have hreport : report = ofReads c (w.tree.read c.functionList) (w.tree.read c.header) :=
    reportIn_load w c
  have hprecedes : ∀ e, report.outcome = .error e → e.precedesWriting :=
    fun e h => precedesWriting_of_load h
  refine ⟨fun list header hlist hheader => ?_, fun fault hlist => ?_,
    fun list fault hlist hheader => ⟨fun e he => ?_, fun selection hselection => ?_⟩,
    fun a ha => ?_, fun path fault cause => ⟨fun h => ?_, fun h => ?_, fun h => ?_⟩,
    passive_load c w, fun path text => FileTree.read_eq_ok_iff⟩
  · rw [hreport, hlist, hheader, ofReads]
  · rw [hreport, hlist, ofReads]
  · rw [hreport, hlist, ofReads_of_selection_error he]
  · rw [hreport, hlist, hheader, outcome_ofReads_of_header_error hselection]
  · rw [hreport] at ha
    exact exists_reads_of_ok ha
  · cases hprecedes _ h
  · cases hprecedes _ h
  · cases hprecedes _ h

/-- A function list in order and a header that is not UTF-8. -/
theorem load_agrees_header_not_text :
    let tree := (FileTree.initial.put ["work".toList, "funcs_list.txt".toList]
      (.file "glClear\n".toUTF8)).put ["work".toList, "glcorearb.h".toList]
        (.file ⟨#[0xC3, 0x28]⟩)
    let w : World := { World.initial with tree }
    w.tree.read "funcs_list.txt".toList = .ok "glClear\n".toList ∧
      w.tree.read "glcorearb.h".toList = .error .notText ∧
      ((load World.host .standard).reportIn w).outcome =
        .error (.stage .input (.inputFile "glcorearb.h".toList .notText)) := by
  intro tree w
  have hlist : w.tree.read "funcs_list.txt".toList = .ok "glClear\n".toList := by decide +kernel
  have hheader : w.tree.read "glcorearb.h".toList = .error .notText := by decide +kernel
  have hread : (Selection.read "glClear\n".toList).outcome.toOption.any
      (·.names = ["glClear".toList]) = true := by decide +kernel
  obtain ⟨selection, hselection, -⟩ := exists_ok_of_any hread
  exact ⟨hlist, hheader, ((load_agrees w .standard).2.2.1 _ _ hlist hheader).2 _ hselection⟩

end Artifacts
end CallTracer
