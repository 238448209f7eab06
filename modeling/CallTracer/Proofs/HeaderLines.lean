import CallTracer.Proofs.HeaderScan
import CallTracer.Proofs.LineText
import Mathlib.Data.List.Forall2
/-! The declarations of a header, line by line. Whether a line is one is seen from its first word,
and the line ends and blanks around it do not count. -/
namespace CallTracer.Header

variable {header marker line : Text} {selection : Selection}

/-- What a line declares, without the blanks around it, if its first word is the marker. -/
def declared? (marker line : Text) : Option Text :=
  if (Text.words line).head? = some marker then some (Text.trim line) else none

/-- A line with its number as a declaration, if it is one. -/
def numbered? (marker : Text) (line : Text × Nat) : Option (Nat × Text) :=
  (declared? marker line.1).map (line.2, ·)

@[simp] theorem declared?_nil : declared? marker [] = none := by simp [declared?]

@[simp] theorem declared?_dropReturn : declared? marker (Text.dropReturn line) =
    declared? marker line := by
  have hreturn : Text.isBlank '\r' := by decide
  rcases Text.dropReturn_append line with h | h
  · rw [h]
  · conv => rhs; rw [← h]
    rw [declared?, declared?, Text.head?_words_append_blank _ hreturn,
      Text.trim_append_blank _ hreturn]

theorem declarations_eq (marker header : Text) :
    declarations marker header = ((Text.lines header).zipIdx 1).filterMap (numbered? marker) := by
  refine congrFun (congrArg List.filterMap (funext fun p => ?_)) _
  by_cases h : (Text.words p.1).head? = some marker <;> simp [numbered?, declared?, h]

/-- The lines of a header whose first word is the marker, in order, without the blanks around them
and with their numbers, of which one is the first. -/
structure AreDeclarations (marker header : Text) (ds : List (Nat × Text)) : Prop where
  mem_iff : ∀ number s, (number, s) ∈ ds ↔ ∃ i line, number = i + 1 ∧
    (Text.lines header)[i]? = some line ∧ (Text.words line).head? = some marker ∧
      Text.trim line = s
  ascending : ds.Pairwise (·.1 < ·.1)

theorem numbered?_eq_some_iff {number n : Nat} {s : Text} :
    numbered? marker (line, n) = some (number, s) ↔
      (Text.words line).head? = some marker ∧ Text.trim line = s ∧ n = number := by
  by_cases h : (Text.words line).head? = some marker <;> simp [numbered?, declared?, h, and_comm]

theorem areDeclarations (marker header : Text) :
    AreDeclarations marker header (declarations marker header) where
  mem_iff number s := by
    rw [declarations_eq, List.mem_filterMap]
    constructor
    · rintro ⟨⟨line, n⟩, hline, hnumbered⟩
      obtain ⟨hword, htrim, rfl⟩ := numbered?_eq_some_iff.1 hnumbered
      obtain ⟨hn, hline⟩ := List.mem_zipIdx_iff_le_and_getElem?_sub.1 hline
      exact ⟨n - 1, line, (Nat.sub_add_cancel hn).symm, hline, hword, htrim⟩
    · rintro ⟨i, line, rfl, hline, hword, htrim⟩
      refine ⟨(line, 1 + i), List.mk_add_mem_zipIdx_iff_getElem?.2 hline, ?_⟩
      exact numbered?_eq_some_iff.2 ⟨hword, htrim, Nat.add_comm 1 i⟩
  ascending := by
    have hnumbers : (((Text.lines header).zipIdx 1).map Prod.snd).Pairwise (· < ·) := by
      rw [List.zipIdx_map_snd]
      exact List.pairwise_lt_range'
    rw [declarations_eq]
    refine (List.pairwise_map.1 hnumbers).filterMap _ fun a a' hlt d hd d' hd' => ?_
    obtain ⟨-, -, hnumber⟩ := numbered?_eq_some_iff.1 hd
    obtain ⟨-, -, hnumber'⟩ := numbered?_eq_some_iff.1 hd'
    rwa [← hnumber, ← hnumber']

/-- Lines that correspond in what they declare have corresponding declarations. -/
theorem forall₂_numbered {R : Nat × Text → Nat × Text → Prop} {lines lines' : List Text}
    (h : List.Forall₂ (fun l l' => Option.Rel (fun d d' => ∀ number, R (number, d) (number, d'))
      (declared? marker l) (declared? marker l')) lines lines') (number : Nat) :
    List.Forall₂ R ((lines.zipIdx number).filterMap (numbered? marker))
      ((lines'.zipIdx number).filterMap (numbered? marker)) := by
  have hmap : ∀ {x y : Option Text} (number : Nat),
      Option.Rel (fun d d' => ∀ number, R (number, d) (number, d')) x y →
        Option.Rel R (x.map (number, ·)) (y.map (number, ·))
    | _, _, number, .some hR => .some (hR number)
    | _, _, _, .none => .none
  have hzip : List.Forall₂
      (fun line line' => Option.Rel R (numbered? marker line) (numbered? marker line'))
      (lines.zipIdx number) (lines'.zipIdx number) := by
    induction h generalizing number with
    | nil => exact .nil
    | cons hline _ ih =>
      rw [List.zipIdx_cons, List.zipIdx_cons]
      exact .cons (hmap number hline) (ih (number + 1))
  exact List.rel_filterMap (fun _ _ hline => hline) hzip

theorem map_snd_declarations (marker header : Text) :
    (declarations marker header).map Prod.snd =
      (Text.lines header).filterMap (declared? marker) := by
  have hlines := List.zipIdx_map_fst 1 (Text.lines header)
  rw [declarations_eq, List.map_filterMap]
  conv => rhs; rw [← hlines, List.filterMap_map]
  simp [numbered?, Function.comp_def]

theorem selected_eq (marker : Text) (selection : Selection) (header : Text) :
    selected marker selection header =
      (Text.lines header).filterMap fun line =>
        (declared? marker line).bind (selected? marker selection) := by
  rw [← List.filterMap_filterMap, ← map_snd_declarations, List.filterMap_map]
  rfl

/-- It is enough to cut a header at its newlines. -/
theorem declarations_eq_split (marker header : Text) :
    declarations marker header =
      ((Text.split '\n' header).zipIdx 1).filterMap (numbered? marker) := by
  rw [declarations_eq]
  generalize 1 = number
  induction header using Text.induction_lines generalizing number with
  | last s hs =>
    rw [Text.split_of_not_mem hs]
    by_cases ne : s = []
    · simp [ne, numbered?]
    · rw [Text.lines_of_not_mem hs ne]
  | line s t hs ih =>
    rw [Text.lines_append t hs, Text.split_append t hs, List.zipIdx_cons, List.zipIdx_cons,
      List.filterMap_cons, List.filterMap_cons, ih]
    simp [numbered?]

end CallTracer.Header
