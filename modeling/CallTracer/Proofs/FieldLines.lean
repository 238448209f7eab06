import CallTracer.Artifact.ApiStruct
import CallTracer.Proofs.DeclaredNames
import CallTracer.Proofs.MemberAccess
import Mathlib.Data.List.Forall2
/-! The fields of the interface as a text. There is one line for each selected name, from which it
can be read back: so the text tells which names are selected, also where two of them differ in
nothing but the case of their letters. -/
namespace CallTracer

namespace Identifier

variable {n : Text}

/-- The characters of a name are single bytes. -/
theorem byteLength_of_isPart (h : ∀ c ∈ n, isPart c) : Text.byteLength n = n.length := by
  induction n with
  | nil => rfl
  | cons c n ih =>
    obtain ⟨hc, hn⟩ := List.forall_mem_cons.1 h
    have hsize : c.utf8Size = 1 :=
      Char.utf8Size_eq_one_iff.2 (UInt32.le_iff_toNat_le.2 (Nat.le_of_lt_succ
        (toNat_lt_of_isPart hc)))
    rw [Text.byteLength, hsize, ih hn, List.length_cons, Nat.add_comm]

theorem upper_of_isPart (h : ∀ c ∈ n, isPart c) : Text.upper n = n.map Char.toUpper := by
  induction n with
  | nil => rfl
  | cons c n ih =>
    obtain ⟨hc, hn⟩ := List.forall_mem_cons.1 h
    rw [Text.upper, List.flatMap_cons, Text.upperChar_of_ascii (toNat_lt_of_isPart hc),
      ← Text.upper, ih hn]
    rfl

end Identifier

namespace ApiStruct

variable {s t : Selection} {m n name : Text}

/-- What stands behind the last tab of a text. -/
def behindLastTab (s : Text) : Text := (s.reverse.takeWhile (· != '\t')).reverse

/-- The name on the line of a field: what stands between the last tab and the semicolon. -/
def nameOn (line : Text) : Text := (behindLastTab line).takeWhile (· != ';')

/-- The names on the lines of a text. -/
def namesOn (text : Text) : List Text := (Text.lines text).map nameOn

/-- The line of the field of a name. There are as many tabs before the name as the difference of the
integers says, which is negative for a long name, but at least one. -/
structure IsField (name : Text) (tabs : Nat) (line : Text) : Prop where
  text : line = '\t' :: ("PFN".toList ++ name.map Char.toUpper ++ "PROC".toList) ++
    List.replicate tabs '\t' ++ name ++ [';']
  padding : (tabs : Int) = max 1 (17 - ((name.length : Int) + 7) / 3)
  one_le : 1 ≤ tabs
  le_fifteen : tabs ≤ 15

/-- A text with one field for each name of a selection, in their order, which tells the names. -/
structure Encodes (s : Selection) (text : Text) : Prop where
  ascending : Text.Ascending s.names
  fields : List.Forall₂ (fun name line => IsField name (tabs name) line) s.names (Text.lines text)
  ended : text = Text.unlines (Text.lines text)
  names : namesOn text = s.names

theorem behindLastTab_append (s : Text) (h : '\t' ∉ n) : behindLastTab (s ++ '\t' :: n) = n := by
  have hn : '\t' ∉ n.reverse := mt List.mem_reverse.1 h
  rw [behindLastTab, List.reverse_append, List.reverse_cons, List.append_assoc,
    List.singleton_append, (Text.takeWhile_append_of_not_mem s.reverse hn).1, List.reverse_reverse]

/-- Whatever stands before the tabs, a name without tabs and semicolons is read back. -/
theorem nameOn_append (s : Text) {k : Nat} (hk : 1 ≤ k) (htab : '\t' ∉ n) (hend : ';' ∉ n) :
    nameOn (s ++ List.replicate k '\t' ++ n ++ [';']) = n := by
  obtain ⟨k, rfl⟩ := Nat.exists_eq_add_of_le' hk
  have hbehind : '\t' ∉ n ++ [';'] := by simpa using htab
  have hsplit : s ++ List.replicate (k + 1) '\t' ++ n ++ [';'] =
      (s ++ List.replicate k '\t') ++ '\t' :: (n ++ [';']) := by
    rw [List.replicate_succ']
    simp
  rw [nameOn, hsplit, behindLastTab_append _ hbehind, (Text.takeWhile_append_of_not_mem [] hend).1]

theorem byteLength_pointerType (name : Text) :
    Text.byteLength (pointerType name) = Text.byteLength (Text.upper name) + 7 := by
  have hfix : Text.byteLength "PFN".toList = 3 ∧ Text.byteLength "PROC".toList = 4 := by decide
  rw [pointerType, Text.byteLength_append, Text.byteLength_append, hfix.1, hfix.2]
  omega

/-- The longest padding is that of the shortest type. -/
theorem tabs_le (name : Text) : tabs name ≤ 15 := by
  rw [tabs, byteLength_pointerType]
  omega

section

variable (h : Identifier.isValid name)

include h

theorem pointerType_of_isValid :
    pointerType name = "PFN".toList ++ name.map Char.toUpper ++ "PROC".toList := by
  rw [pointerType, Identifier.upper_of_isPart (Identifier.all_isPart_of_isValid h)]

theorem isPart_pointerType : ∀ c ∈ pointerType name, Identifier.isPart c := by
  have hfix : ∀ c ∈ "PFN".toList ++ "PROC".toList, Identifier.isPart c :=
    List.all_eq_true.1 (by decide)
  intro c hc
  rw [pointerType_of_isValid h, List.mem_append, List.mem_append, List.mem_map] at hc
  rcases hc with (hc | ⟨a, ha, rfl⟩) | hc
  · exact hfix c (List.mem_append_left _ hc)
  · exact Identifier.isPart_toUpper (Identifier.all_isPart_of_isValid h a ha)
  · exact hfix c (List.mem_append_right _ hc)

theorem tabs_of_isValid : tabs name = max 1 (17 - (name.length + 7) / 3) := by
  have hlength : (pointerType name).length = name.length + 7 := by
    rw [pointerType_of_isValid h]
    simp
  rw [tabs, Identifier.byteLength_of_isPart (isPart_pointerType h), hlength]

theorem isField_fieldLine : IsField name (tabs name) (fieldLine name) := by
  refine ⟨?_, ?_, tabs_pos name, tabs_le name⟩
  · rw [fieldLine, pointerType_of_isValid h]
  · rw [tabs_of_isValid h]
    omega

/-- A field stands on one line. -/
theorem isLine_fieldLine : Text.IsLine (fieldLine name) := by
  have htype : Text.Plain (pointerType name) :=
    List.all_eq_true.2 fun c hc => Text.isPlainChar_of_isPart (isPart_pointerType h c hc)
  have htabs : Text.Plain (List.replicate (tabs name) '\t') :=
    List.all_eq_true.2 fun c hc => by rw [List.eq_of_mem_replicate hc]; rfl
  have hline : Text.Plain (['\t'] ++ pointerType name ++ List.replicate (tabs name) '\t' ++ name ++
      [';']) := by
    simp only [Text.plain_append]
    exact ⟨⟨⟨⟨rfl, htype⟩, htabs⟩, Text.plain_of_isValid h⟩, rfl⟩
  exact hline.isLine

theorem nameOn_fieldLine : nameOn (fieldLine name) = name :=
  nameOn_append _ (tabs_pos name) (Identifier.not_mem_of_isValid h rfl)
    (Identifier.not_mem_of_isValid h rfl)

end

theorem tabs_antitone (hm : Identifier.isValid m) (hn : Identifier.isValid n)
    (h : m.length ≤ n.length) : tabs n ≤ tabs m := by
  rw [tabs_of_isValid hm, tabs_of_isValid hn]
  omega

theorem lines_print (h : ∀ n ∈ s.names, Identifier.isValid n) :
    Text.lines (ofSelection s).print = s.names.map fieldLine := by
  apply Text.lines_unlines
  rw [List.forall_mem_map]
  exact fun n hn => isLine_fieldLine (h n hn)

theorem encodes_print (h : ∀ n ∈ s.names, Identifier.isValid n) :
    Encodes s (ofSelection s).print := by
  have hlines := lines_print h
  refine ⟨s.ascending_names, ?_, ?_, ?_⟩
  · rw [hlines, List.forall₂_map_right_iff, List.forall₂_same]
    exact fun n hn => isField_fieldLine (h n hn)
  · rw [hlines]
    rfl
  · have hread : ∀ n ∈ s.names, (nameOn ∘ fieldLine) n = id n := fun n hn =>
      nameOn_fieldLine (h n hn)
    rw [namesOn, hlines, List.map_map, List.map_congr_left hread, List.map_id]

theorem Encodes.unique {text : Text} (hs : Encodes s text) (ht : Encodes t text) : s = t :=
  Selection.ext_mem fun n => by rw [← hs.names, ht.names]

/-- The text of the fields tells which names are selected: every one has its line, at its place
among the ascending names, a longer one has no more tabs before it than a shorter one, and no two
selections have the same text. -/
theorem encodes_of_read {list : Text} (h : (Selection.read list).outcome = .ok s) :
    Encodes s (ofSelection s).print ∧
      (∀ m n, Selection.Listable m → Selection.Listable n → m.length ≤ n.length →
        tabs n ≤ tabs m) ∧
      ∀ list' t, (Selection.read list').outcome = .ok t →
        (ofSelection t).print = (ofSelection s).print → t = s := by
  have hs := encodes_print fun n hn => Selection.isValid_of_mem_names h hn
  refine ⟨hs, fun m n hm hn => ?_, fun list' t ht heq => ?_⟩
  · exact tabs_antitone (Selection.listable_iff.1 hm) (Selection.listable_iff.1 hn)
  · have ht := encodes_print fun n hn => Selection.isValid_of_mem_names ht hn
    rw [heq] at ht
    exact ht.unique hs

/-- Two names that differ in the case of a letter only, with the same type, and one so long that the
padding before it would be negative. -/
theorem encodes_of_read_same_type :
    let long := "gl".toList ++ List.replicate 60 'X'
    let names := ["glA".toList, long, "gla".toList]
    pointerType "glA".toList = pointerType "gla".toList ∧ tabs long = 1 ∧
      ∃ s, (Selection.read (Text.unlines names)).outcome = .ok s ∧ s.names = names ∧
        Encodes s (ofSelection s).print ∧
        (∀ m n, Selection.Listable m → Selection.Listable n → m.length ≤ n.length →
          tabs n ≤ tabs m) ∧
        ∀ list' t, (Selection.read list').outcome = .ok t →
          (ofSelection t).print = (ofSelection s).print → t = s := by
  intro long names
  have hread : (Selection.read (Text.unlines names)).outcome.toOption.any
      (·.names = names) = true := by decide +kernel
  obtain ⟨s, hs, hnames⟩ := Outcome.exists_ok_of_any hread
  exact ⟨by decide +kernel, by decide +kernel, s, hs, of_decide_eq_true hnames,
    encodes_of_read hs⟩

end ApiStruct
end CallTracer
