import CallTracer.Generation
import CallTracer.Proofs.ByteOrder
import CallTracer.Proofs.Outcome
/-! What a function list selects: the names that its lines list, whatever else stands on them and in
whatever order and number they come. Nothing else of the list reaches a generation. -/
namespace CallTracer
open Outcome

namespace Selection

variable {s t : Selection} {n : Text} {number : Nat} {line : Text} {name? : Option Text}

/-- The name that a line lists: its last word, unless its first word begins with `//`. -/
def listed? (line : Text) : Option Text :=
  if "//".toList.isPrefixOf (Text.trimStart line) then none else (Text.words line).getLast?

/-- The names that a function list lists, in the order of its lines. -/
def listed (list : Text) : List Text := (Text.lines list).filterMap listed?

theorem ascending_names (s : Selection) : Text.Ascending s.names :=
  Text.ascending_iff.2 s.ascending

/-- A selection is known by its names. -/
theorem ext_mem (h : ∀ n, n ∈ s.names ↔ n ∈ t.names) : s = t := by
  have hperm : s.names.Perm t.names :=
    (List.perm_ext_iff_of_nodup s.ascending_names.nodup t.ascending_names.nodup).2 h
  have hnames : s.names = t.names :=
    hperm.eq_of_pairwise (fun a b _ _ hab hba => by simp [Text.before_asymm hab] at hba)
      s.ascending t.ascending
  cases s
  cases t
  cases hnames
  rfl

/-- A name that is there already is not added again. -/
theorem insert_of_contains (h : s.contains n) : s.insert n = s := by
  apply ext_mem
  intro m
  rw [mem_names_insert]
  apply or_iff_right_of_imp
  rintro rfl
  exact contains_iff.1 h

/-- The selection with the name that a line lists, if it lists one. -/
def addListed (s : Selection) (name? : Option Text) : Selection := name?.elim s s.insert

theorem mem_names_addListed : n ∈ (s.addListed name?).names ↔ n ∈ s.names ∨ name? = some n := by
  cases name? with
  | none => simp [addListed]
  | some name => rw [addListed, Option.elim, mem_names_insert, or_comm, Option.some.injEq, eq_comm]

theorem listed?_of_readLine (h : readLine number line = .ok name?) : listed? line = name? := by
  unfold readLine at h
  unfold listed?
  split at h
  · cases h
  · rename_i name hlast
    rw [hlast]
    split at h
    · rename_i hcomment
      rw [if_pos hcomment]
      cases h
      rfl
    · rename_i hcomment
      rw [if_neg hcomment]
      split at h <;> cases h
      rfl

/-- One line is read, then the others into the selection with its name. -/
theorem outcome_readLines_cons (s : Selection) (number : Nat) (line : Text) (lines : List Text) :
    (readLines s number (line :: lines)).outcome = readLine number line >>= fun name? =>
      (readLines (s.addListed name?) (number + 1) lines).outcome := by
  rw [readLines, Report.outcome_bind]
  refine bind_congr fun name? => ?_
  cases name? with
  | none => rfl
  | some name =>
    by_cases hc : s.contains name
    · have hadd : s.addListed (some name) = s := insert_of_contains hc
      simp only [if_pos hc, Report.outcome_bind, Report.outcome_note, bind_ok, hadd]
    · simp only [if_neg hc]
      rfl

theorem mem_names_of_readLines {lines : List Text}
    (h : (readLines s number lines).outcome = .ok t) :
    n ∈ t.names ↔ n ∈ s.names ∨ n ∈ lines.filterMap listed? := by
  induction lines generalizing s number with
  | nil =>
    rw [readLines, Report.outcome_pure] at h
    cases h
    simp
  | cons line lines ih =>
    rw [outcome_readLines_cons] at h
    obtain ⟨name?, hline, h⟩ := bind_eq_ok_iff.1 h
    rw [ih h, mem_names_addListed, or_assoc, ← listed?_of_readLine hline]
    cases hl : listed? line <;> simp [hl, eq_comm]

/-- What is read from a function list are the names that it lists. -/
theorem mem_names_of_read {list : Text} (h : (read list).outcome = .ok s) :
    n ∈ s.names ↔ n ∈ listed list :=
  (mem_names_of_readLines h).trans (or_iff_right List.not_mem_nil)

end Selection

namespace Artifacts

/-- A generation after its function list is read. -/
def ofHeader (header : Text) (options : Options) (selection : Selection) : Report Artifacts := do
  let signatures ← (Header.signatures header options.marker selection).wrap (.stage .input)
  ofSignatures selection signatures options.naming

theorem generate_eq (list header : Text) (options : Options) :
    generate list header options =
      (Selection.read list).wrap (.stage .input) >>= ofHeader header options := rfl

/-- Of a function list that can be read only the names matter: another list of the same names, with
repetitions, comments and annotations of its own and in its own order, has the same outcome, and
everything that is logged after the lists are read is the same too. -/
theorem generate_of_same_names {list list' : Text} {s s' : Selection}
    (h : (Selection.read list).outcome = .ok s) (h' : (Selection.read list').outcome = .ok s')
    (hsame : ∀ n, n ∈ Selection.listed list ↔ n ∈ Selection.listed list') (header : Text)
    (options : Options) :
    (generate list header options).outcome = (generate list' header options).outcome ∧
      ∃ later, (generate list header options).records = (Selection.read list).records ++ later ∧
        (generate list' header options).records = (Selection.read list').records ++ later := by
  obtain rfl : s = s' := Selection.ext_mem fun n => by
    rw [Selection.mem_names_of_read h, Selection.mem_names_of_read h', hsame]
  have hw : ∀ l, (Selection.read l).outcome = .ok s →
      ((Selection.read l).wrap (.stage .input)).outcome = .ok s := fun l hl => by
    rw [Report.outcome_wrap, hl, mapError_ok]
  constructor
  · rw [generate_eq, generate_eq, Report.outcome_bind, Report.outcome_bind, hw list h, hw list' h']
  · refine ⟨(ofHeader header options s).records, ?_, ?_⟩
    · exact Report.records_bind_ok (hw list h) _
    · exact Report.records_bind_ok (hw list' h') _

/-- Two names, in one list alone on their lines and in the other in another order, behind
annotations, with a comment and one of them twice, which is logged. -/
theorem generate_of_same_names_annotated :
    let list := "glClear\nglFlush\n".toList
    let list' := "// core\n1.0 glFlush\r\n + glClear\nglFlush".toList
    let header := "GLAPI void glFlush (void);\nGLAPI void glClear (GLmask mask);\n".toList
    (Selection.read list).records = [] ∧ (Selection.read list').records.length = 1 ∧
      (generate list header .standard).outcome = (generate list' header .standard).outcome ∧
      ∃ later, (generate list header .standard).records =
          (Selection.read list).records ++ later ∧
        (generate list' header .standard).records = (Selection.read list').records ++ later := by
  intro list list' header
  have hread : (Selection.read list).outcome.toOption.any (·.size = 2) ∧
      (Selection.read list').outcome.toOption.any (·.size = 2) := by decide +kernel
  have hsame : Selection.listed list = ["glClear".toList, "glFlush".toList] ∧
      Selection.listed list' = ["glFlush".toList, "glClear".toList, "glFlush".toList] := by
    decide +kernel
  obtain ⟨s, h, -⟩ := exists_ok_of_any hread.1
  obtain ⟨s', h', -⟩ := exists_ok_of_any hread.2
  refine ⟨by decide +kernel, by decide +kernel, generate_of_same_names h h' (fun n => ?_) header
    .standard⟩
  rw [hsame.1, hsame.2]
  grind

end Artifacts
end CallTracer
