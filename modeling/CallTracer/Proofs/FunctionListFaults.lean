import CallTracer.Proofs.FunctionList
import CallTracer.Proofs.Respacing
import Mathlib.Data.Finset.Card
/-! What the reading of a function list comes to: the selection of the names on its lines, or the
fault of the first line that has none or an invalid one. -/
namespace CallTracer
open Outcome

/-- What can be kept of names instead of a selection: their set, and each name in the place where it
came first. -/
structure Intake where
  members : Finset Text
  arrived : List Text

namespace Intake

def add (i : Intake) (name : Text) : Intake :=
  if name ∈ i.members then i else ⟨insert name i.members, i.arrived ++ [name]⟩

def ofNames (names : List Text) : Intake := names.foldl add ⟨∅, []⟩

variable {i : Intake} {names before : List Text}

/-- The set and the sequence hold the same names, which are the given ones. -/
structure Holds (i : Intake) (names : List Text) : Prop where
  mem_members : ∀ n, n ∈ i.members ↔ n ∈ names
  mem_arrived : ∀ n, n ∈ i.arrived ↔ n ∈ names
  nodup : i.arrived.Nodup

theorem Holds.add (h : i.Holds names) (name : Text) : (i.add name).Holds (names ++ [name]) := by
  unfold Intake.add
  split
  · rename_i hname
    have hmem : ∀ n, n ∈ names ++ [name] ↔ n ∈ names := by
      intro n
      rw [List.mem_append, List.mem_singleton]
      apply or_iff_left_of_imp
      rintro rfl
      exact (h.mem_members n).1 hname
    constructor
    · intro n
      rw [hmem, h.mem_members]
    · intro n
      rw [hmem, h.mem_arrived]
    · exact h.nodup
  · rename_i hname
    constructor
    · intro n
      rw [Finset.mem_insert, h.mem_members, List.mem_append, List.mem_singleton, or_comm]
    · intro n
      rw [List.mem_append, List.mem_append, h.mem_arrived]
    · rw [h.mem_members, ← h.mem_arrived] at hname
      rw [List.nodup_append]
      refine ⟨h.nodup, List.nodup_singleton name, fun m hm n hn => ?_⟩
      rintro rfl
      rw [List.mem_singleton.1 hn] at hm
      exact hname hm

theorem Holds.foldl (h : i.Holds before) (names : List Text) :
    (names.foldl Intake.add i).Holds (before ++ names) := by
  induction names generalizing i before with
  | nil => simpa using h
  | cons name names ih => simpa using ih (h.add name)

theorem holds_ofNames (names : List Text) : (ofNames names).Holds names := by
  have hempty : (⟨∅, []⟩ : Intake).Holds [] := ⟨by simp, by simp, .nil⟩
  exact hempty.foldl names

end Intake

namespace Selection

variable {s t : Selection} {n name : Text} {number : Nat} {line : Text} {lines : List Text}
  {name? : Option Text} {e : Failure}

/-- A comment is a line whose first word begins with two slashes. -/
def IsComment (line : Text) : Prop :=
  ∃ word, (Text.words line).head? = some word ∧ "//".toList <+: word

/-- The name on a line is the last word of one that is no comment. -/
def Lists (line name : Text) : Prop :=
  ¬IsComment line ∧ (Text.words line).getLast? = some name

/-- A line without fault: it is not blank, and a comment or one with the name of a function. -/
structure Sound (line : Text) : Prop where
  notBlank : ¬∀ c ∈ line, Text.isBlank c
  named : ¬IsComment line → ∃ name, (Text.words line).getLast? = some name ∧
    Identifier.isValid name

/-- How a line of the given number is at fault. -/
inductive Faulty (number : Nat) (line : Text) : Failure → Prop
  | blank (h : ∀ c ∈ line, Text.isBlank c) : Faulty number line (.blankLine number)
  | invalid {name : Text} (lists : Lists line name) (h : ¬Identifier.isValid name) :
    Faulty number line (.invalidName number name)

theorem isPrefixOf_trimStart_iff :
    "//".toList.isPrefixOf (Text.trimStart line) ↔ IsComment line := by
  have hslashes : ∀ c ∈ "//".toList, !Text.isBlank c := List.all_eq_true.1 (by decide)
  rw [Text.isPrefixOf_trimStart (by decide) hslashes, Option.any_eq_true]
  simp only [List.isPrefixOf_iff_prefix]
  rfl

theorem listed?_eq_some_iff : listed? line = some name ↔ Lists line name := by
  unfold listed? Lists
  rw [← isPrefixOf_trimStart_iff]
  split
  · rename_i hcomment
    exact ⟨nofun, fun h => absurd hcomment h.1⟩
  · rename_i hcomment
    exact (and_iff_right hcomment).symm

theorem mem_listed_iff {list : Text} :
    n ∈ listed list ↔ ∃ line ∈ Text.lines list, Lists line n := by
  simp only [listed, List.mem_filterMap, listed?_eq_some_iff]

theorem getLast?_words_eq_none_iff :
    (Text.words line).getLast? = none ↔ ∀ c ∈ line, Text.isBlank c := by
  rw [List.getLast?_eq_none_iff, Text.words_eq_nil_iff]

theorem readLine_eq_error_iff : readLine number line = .error e ↔ Faulty number line e := by
  unfold readLine
  constructor
  · intro h
    split at h
    · rename_i hnone
      cases h
      exact .blank (getLast?_words_eq_none_iff.1 hnone)
    · rename_i name hlast
      split at h
      · cases h
      · rename_i hcomment
        split at h
        · cases h
        · rename_i hvalid
          cases h
          exact .invalid ⟨mt isPrefixOf_trimStart_iff.2 hcomment, hlast⟩ hvalid
  · intro h
    cases h with
    | blank h => rw [getLast?_words_eq_none_iff.2 h]
    | invalid lists h =>
      simp only [lists.2, if_neg (mt isPrefixOf_trimStart_iff.1 lists.1), if_neg h]

theorem sound_iff (number : Nat) : Sound line ↔ ∀ e, ¬Faulty number line e := by
  constructor
  · rintro ⟨notBlank, named⟩ e (h | ⟨lists, h⟩)
    · exact notBlank h
    · obtain ⟨name, hlast, hvalid⟩ := named lists.1
      rw [lists.2, Option.some.injEq] at hlast
      rw [hlast] at h
      exact h hvalid
  · intro h
    have notBlank : ¬∀ c ∈ line, Text.isBlank c := fun hblank => h _ (.blank hblank)
    refine ⟨notBlank, fun hcomment => ?_⟩
    obtain ⟨name, hlast⟩ := Option.ne_none_iff_exists'.1 (mt getLast?_words_eq_none_iff.1 notBlank)
    refine ⟨name, hlast, ?_⟩
    by_contra hvalid
    exact h _ (.invalid ⟨hcomment, hlast⟩ hvalid)

/-- A line is read exactly if it is without fault. -/
theorem exists_readLine_iff (number : Nat) :
    (∃ name?, readLine number line = .ok name?) ↔ Sound line := by
  simp only [sound_iff number, ← readLine_eq_error_iff]
  cases readLine number line <;> simp

theorem exists_readLines_iff :
    (∃ t, (readLines s number lines).outcome = .ok t) ↔ ∀ line ∈ lines, Sound line := by
  induction lines generalizing s number with
  | nil => simp [readLines]
  | cons line lines ih =>
    rw [List.forall_mem_cons, ← exists_readLine_iff number]
    simp only [outcome_readLines_cons, bind_eq_ok_iff]
    constructor
    · rintro ⟨t, name?, hline, ht⟩
      exact ⟨⟨name?, hline⟩, ih.1 ⟨t, ht⟩⟩
    · rintro ⟨⟨name?, hline⟩, hlines⟩
      obtain ⟨t, ht⟩ := ih.2 hlines
      exact ⟨t, name?, hline, ht⟩

/-- Reading fails at the first line with a fault, in the line's number. -/
theorem readLines_eq_error_iff : (readLines s number lines).outcome = .error e ↔
    ∃ earlier line later, lines = earlier ++ line :: later ∧ (∀ l ∈ earlier, Sound l) ∧
      Faulty (earlier.length + number) line e := by
  induction lines generalizing s number with
  | nil => simp [readLines]
  | cons line lines ih =>
    rw [outcome_readLines_cons, bind_eq_error_iff, readLine_eq_error_iff]
    constructor
    · rintro (h | ⟨name?, hline, h⟩)
      · refine ⟨[], line, lines, rfl, List.forall_mem_nil _, ?_⟩
        rwa [List.length_nil, Nat.zero_add]
      · obtain ⟨earlier, l, later, rfl, hsound, hfault⟩ := ih.1 h
        refine ⟨line :: earlier, l, later, rfl, List.forall_mem_cons.2 ⟨?_, hsound⟩, ?_⟩
        · exact (exists_readLine_iff number).1 ⟨name?, hline⟩
        · rwa [List.length_cons, Nat.add_assoc, Nat.add_comm 1]
    · rintro ⟨earlier, l, later, hlines, hsound, hfault⟩
      cases earlier with
      | nil =>
        cases hlines
        rw [List.length_nil, Nat.zero_add] at hfault
        exact .inl hfault
      | cons k earlier =>
        cases hlines
        obtain ⟨hk, hearlier⟩ := List.forall_mem_cons.1 hsound
        obtain ⟨name?, hline⟩ := (exists_readLine_iff number).2 hk
        rw [List.length_cons, Nat.add_assoc, Nat.add_comm 1] at hfault
        exact .inr ⟨name?, hline, ih.2 ⟨earlier, l, later, rfl, hearlier, hfault⟩⟩

/-- A selection of exactly the names on the lines of a list. It is the same as the sorted sequence
of their first arrivals, and holds what their set holds. -/
structure Selects (list : Text) (s : Selection) : Prop where
  ascending : Text.Ascending s.names
  mem_iff : ∀ n, n ∈ s.names ↔ ∃ line ∈ Text.lines list, Lists line n
  size : s.size = (listed list).toFinset.card
  contains_iff : ∀ x, s.contains x ↔ x ∈ s.names
  sorted : s.names = Sorting.sort Text.atMost (Intake.ofNames (listed list)).arrived
  member : ∀ x, s.contains x ↔ x ∈ (Intake.ofNames (listed list)).members

theorem sort_arrived {names : List Text} (h : ∀ n, n ∈ s.names ↔ n ∈ names) :
    Sorting.sort Text.atMost (Intake.ofNames names).arrived = s.names := by
  have hintake := Intake.holds_ofNames names
  have hperm : (Intake.ofNames names).arrived.Perm s.names := by
    rw [List.perm_ext_iff_of_nodup hintake.nodup s.ascending_names.nodup]
    intro n
    rw [hintake.mem_arrived, h]
  have hnames : s.names.Pairwise fun m n => Text.atMost m n :=
    s.ascending.imp fun hmn => Text.atMost_iff.2 (.inl hmn)
  exact Text.sort_eq_of_perm hperm hnames

theorem selects_of_read {list : Text} (h : (read list).outcome = .ok s) : Selects list s := by
  have hmem : ∀ n, n ∈ s.names ↔ n ∈ listed list := fun n => mem_names_of_read h
  have hintake := Intake.holds_ofNames (listed list)
  constructor
  · exact s.ascending_names
  · intro n
    rw [hmem, mem_listed_iff]
  · rw [size, ← List.toFinset_card_of_nodup s.ascending_names.nodup]
    congr 1
    ext n
    rw [List.mem_toFinset, List.mem_toFinset, hmem]
  · intro x
    exact contains_iff
  · exact (sort_arrived hmem).symm
  · intro x
    rw [contains_iff, hmem, hintake.mem_members]

/-- What a function list comes to. It is read exactly if no line is blank and every line but the
comments ends with a valid name, and then selects these names; otherwise the failure is that of the
first line at fault, with its number. -/
theorem names_exact (list : Text) :
    ((∃ s, (read list).outcome = .ok s) ↔ ∀ line ∈ Text.lines list, Sound line) ∧
    (∀ s, (read list).outcome = .ok s → Selects list s) ∧
    ∀ e, (read list).outcome = .error e ↔ ∃ earlier line later,
      Text.lines list = earlier ++ line :: later ∧ (∀ l ∈ earlier, Sound l) ∧
        Faulty (earlier.length + 1) line e :=
  ⟨exists_readLines_iff, fun _ => selects_of_read, fun _ => readLines_eq_error_iff⟩

/-- A comment, annotations, a repeated name, line ends of both kinds and a wide blank. -/
theorem names_exact_annotated :
    let list := "// core\n1.0 glFlush\r\n\u2003glClear\nglFlush".toList
    ∃ s, (read list).outcome = .ok s ∧ s.names = ["glClear".toList, "glFlush".toList] ∧
      Selects list s := by
  intro list
  have hread : (read list).outcome.toOption.any
      (·.names = ["glClear".toList, "glFlush".toList]) := by decide +kernel
  obtain ⟨s, hs, hnames⟩ := exists_ok_of_any hread
  exact ⟨s, hs, of_decide_eq_true hnames, (names_exact list).2.1 s hs⟩

end Selection
end CallTracer
