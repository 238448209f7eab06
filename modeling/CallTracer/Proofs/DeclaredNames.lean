import CallTracer.Proofs.FunctionListFaults
import CallTracer.Proofs.HeaderScan
/-! The names that a function list can list and those that declarations can declare. They are read in
two ways, as the last words of lines and as tokens, and are the same but for the decorations, which
a declaration passes over. -/
namespace CallTracer
open Outcome

namespace Text

variable {n : Text}

/-- An identifier is a text of one line and one word. -/
theorem words_of_isValid (h : Identifier.isValid n) : words n = [n] := by
  obtain ⟨c, m, rfl, hc⟩ := Identifier.exists_cons_of_isValid h
  have hm : ∀ d ∈ m, (!isBlank d) = true := by
    intro d hd
    rw [Identifier.isBlank_of_isPart (Identifier.all_isPart_of_isValid h d (.tail c hd))]
    rfl
  rw [words_of_not_blank (Identifier.isBlank_of_isPart hc), List.takeWhile_eq_self_iff.2 hm,
    List.dropWhile_eq_nil_iff.2 hm, words_nil]

theorem lines_of_isValid (h : Identifier.isValid n) : lines n = [n] :=
  lines_of_not_mem (Identifier.not_mem_of_isValid h (by decide)) (Identifier.ne_nil_of_isValid h)

end Text

namespace Selection

variable {s : Selection} {name : Text}

theorem lists_of_isValid (h : Identifier.isValid name) {n : Text} : Lists name n ↔ n = name := by
  have hcomment : ¬IsComment name := by
    rintro ⟨word, hword, hslashes⟩
    rw [Text.words_of_isValid h, List.head?_cons, Option.some.injEq] at hword
    rw [← hword] at hslashes
    exact Identifier.not_mem_of_isValid h (by decide) (hslashes.mem (.head _))
  rw [Lists, and_iff_right hcomment, Text.words_of_isValid h, List.getLast?_singleton,
    Option.some.injEq, eq_comm]

/-- A list of one line that is an identifier selects it alone. -/
theorem read_of_isValid (h : Identifier.isValid name) :
    (read name).outcome = .ok (empty.insert name) := by
  have hsound : ∀ line ∈ Text.lines name, Sound line := by
    rw [Text.lines_of_isValid h, List.forall_mem_singleton]
    have hlists : Lists name name := (lists_of_isValid h).2 rfl
    refine ⟨fun hblank => ?_, fun _ => ⟨name, hlists.2, h⟩⟩
    rw [← Text.words_eq_nil_iff, Text.words_of_isValid h] at hblank
    cases hblank
  obtain ⟨s, hs⟩ : ∃ s, (read name).outcome = .ok s := exists_readLines_iff.2 hsound
  rw [hs, Except.ok.injEq]
  apply ext_mem
  intro n
  rw [mem_names_of_read hs, mem_listed_iff, Text.lines_of_isValid h]
  simp [lists_of_isValid h]

/-- Every selected name is an identifier. -/
theorem isValid_of_mem_names {list : Text} (hs : (read list).outcome = .ok s)
    (hname : name ∈ s.names) : Identifier.isValid name := by
  rw [mem_names_of_read hs, mem_listed_iff] at hname
  obtain ⟨line, hline, hcomment, hlast⟩ := hname
  obtain ⟨n, hn, hvalid⟩ := (exists_readLines_iff.1 ⟨s, hs⟩ line hline).named hcomment
  rw [hlast, Option.some.injEq] at hn
  rwa [hn]

/-- The names that a function list can list. -/
def Listable (name : Text) : Prop :=
  ∃ list s, (read list).outcome = .ok s ∧ name ∈ s.names

theorem listable_iff : Listable name ↔ Identifier.isValid name := by
  constructor
  · rintro ⟨list, s, hs, hname⟩
    exact isValid_of_mem_names hs hname
  · intro h
    exact ⟨name, _, read_of_isValid h, mem_names_insert.2 (.inl rfl)⟩

end Selection

namespace Token

/-- Names with single spaces between them are read back. -/
theorem read_join_space {ns : List Text} (h : ∀ n ∈ ns, Identifier.isValid n) :
    read (Text.join [' '] ns) = .ok (ns.map .name) := by
  induction ns with
  | nil => exact readFrom_nil 1
  | cons n ns ih =>
    obtain ⟨hn, hns⟩ := List.forall_mem_cons.1 h
    cases ns with
    | nil => exact read_name hn
    | cons m ns =>
      have hjoin : Text.join [' '] (n :: m :: ns) = n ++ ' ' :: Text.join [' '] (m :: ns) := by
        simp [Text.join]
      rw [hjoin]
      exact Declaration.read_space (read_name hn) (ih hns)

theorem not_mem_of_read {s : Text} {ts : List Token} (hts : read s = .ok ts)
    (h : .leftParen ∉ ts) : '(' ∉ s := by
  intro hcut
  obtain ⟨before, behind, rfl, -⟩ := List.eq_append_cons_of_mem hcut
  obtain ⟨us, vs, -, -, rfl⟩ := read_cut_iff.1 hts
  exact h (by simp)

end Token

namespace Declaration

variable {ts result : List Token} {source marker name opening : Text} {head : Head}
  {before between behind : List Text}

/-- The names that a declaration can have. -/
def Declarable (name : Text) : Prop :=
  ∃ source marker head, readHead source marker = .ok head ∧ head.name = name

/-- The words of a head without a star, with the words that stand around the type and the name. -/
def headWords (marker name : Text) (before between behind : List Text) : List Text :=
  marker :: before ++ "void".toList :: between ++ name :: behind

/-- The name of a declaration is one of the tokens of its head that are no decorations. -/
theorem name_of_readHead (h : readHead source marker = .ok head) :
    Identifier.isValid head.name ∧ head.name ∉ decorations := by
  obtain ⟨-, -, ts, hts, hof⟩ := readHead_eq_ok_iff.1 h
  obtain ⟨us, type, rfl, isHead, -⟩ := headOfTokens_eq_ok_iff.1 hof
  have hmem : .name head.name ∈ us.filter (!isDecoration ·) := by simp [isHead.parts]
  obtain ⟨hname, hplain⟩ := List.mem_filter.1 hmem
  refine ⟨Token.isValid_of_mem_readFrom hts _ (.tail _ hname), ?_⟩
  simpa [isDecoration] using hplain

theorem readHead_of_isHead (hts : Token.read opening = .ok (.name marker :: ts))
    (isHead : IsHead ts name result) (rest : Text) :
    readHead (opening ++ '(' :: rest) marker =
      .ok ⟨name, Token.spell result, opening, rest⟩ := by
  have hopen : '(' ∉ opening := by
    refine Token.not_mem_of_read hts fun hmem => ?_
    rcases List.mem_cons.1 hmem with hmem | hmem
    · cases hmem
    · exact Bool.noConfusion (isHead.run _ hmem)
  exact readHead_eq_ok_iff.2
    ⟨rfl, hopen, _, hts, headOfTokens_eq_ok_iff.2 ⟨ts, result, rfl, isHead, rfl⟩⟩

/-- Decorations can stand anywhere in a head. -/
theorem isHead_of_decorated (hname : name ∉ decorations)
    (h : ∀ d ∈ before ++ between ++ behind, d ∈ decorations) :
    IsHead ((before ++ "void".toList :: between ++ name :: behind).map .name) name
      [.name "void".toList] := by
  have hstruck : ∀ ds : List Text, (∀ d ∈ ds, d ∈ decorations) →
      (ds.map Token.name).filter (!isDecoration ·) = [] := by
    intro ds hds
    simpa [isDecoration] using hds
  have hvoid : isDecoration (.name "void".toList) = false := by decide
  have hplain : isDecoration (.name name) = false := by simpa [isDecoration] using hname
  simp only [List.forall_mem_append] at h
  constructor
  · intro t ht
    obtain ⟨n, -, rfl⟩ := List.mem_map.1 ht
    rfl
  · rw [List.map_append, List.map_append, List.map_cons, List.map_cons, List.filter_append,
      List.filter_append, List.filter_cons_of_pos (by rw [hvoid]; rfl),
      List.filter_cons_of_pos (by rw [hplain]; rfl), hstruck _ h.1.1, hstruck _ h.1.2,
      hstruck _ h.2]
    rfl

theorem isValid_of_mem_decorations {d : Text} (h : d ∈ decorations) : Identifier.isValid d := by
  have hall : ∀ d ∈ decorations, Identifier.isValid d := by decide
  exact hall d h

/-- A head of these words, however they are spaced, declares the name. -/
theorem readHead_headWords (hname : name ∉ decorations)
    (h : ∀ d ∈ before ++ between ++ behind, d ∈ decorations)
    (hts : Token.read opening = .ok ((headWords marker name before between behind).map .name))
    (rest : Text) :
    readHead (opening ++ '(' :: rest) marker = .ok ⟨name, "void".toList, opening, rest⟩ :=
  readHead_of_isHead hts (isHead_of_decorated hname h) rest

theorem read_headWords (hmarker : Identifier.isValid marker) (hname : Identifier.isValid name)
    (h : ∀ d ∈ before ++ between ++ behind, d ∈ decorations) :
    let words := headWords marker name before between behind
    Token.read (Text.join [' '] words) = .ok (words.map .name) := by
  have hvoid : Identifier.isValid "void".toList := by decide
  have hall : ∀ {ds : List Text}, (∀ d ∈ ds, d ∈ decorations) → ∀ d ∈ ds, Identifier.isValid d :=
    fun hds d hd => isValid_of_mem_decorations (hds d hd)
  simp only [List.forall_mem_append] at h
  apply Token.read_join_space
  simp only [headWords, List.forall_mem_append, List.forall_mem_cons]
  exact ⟨⟨⟨hmarker, hall h.1.1⟩, hvoid, hall h.1.2⟩, hname, hall h.2⟩

theorem declarable_iff : Declarable name ↔ Selection.Listable name ∧ name ∉ decorations := by
  rw [Selection.listable_iff]
  constructor
  · rintro ⟨source, marker, head, hhead, rfl⟩
    exact name_of_readHead hhead
  · rintro ⟨hvalid, hname⟩
    have hmarker : Identifier.isValid "GLAPI".toList := by decide
    have hnone : ∀ d ∈ ([] : List Text) ++ [] ++ [], d ∈ decorations := by simp
    have hts := read_headWords hmarker hvalid hnone
    exact ⟨_, _, _, readHead_headWords hname hnone hts [], rfl⟩

/-- Nothing that is found in a header has the name of a decoration, even if this is selected. -/
theorem ne_of_mem_signatures {header : Text} {selection : Selection} {found : Registry Signature}
    {s : Signature} (h : (Header.signatures header marker selection).outcome = .ok found)
    (hs : s ∈ found.toList) (hname : name ∈ decorations) : s.name ≠ name := by
  rintro rfl
  obtain ⟨⟨line, hline⟩, -⟩ := Header.read_of_mem_signatures h hs
  exact (wellFormed_of_read hline).2.name_plain hname

/-- The names that a function list can list are those that a header can declare, but for the
decorations. What is declared can be listed alone; what is listed and is no decoration is declared
by any marker, `void` and it, wherever decorations stand behind the marker and however all these are
spaced; and decorations can be listed, but are found in no header. -/
theorem names_agree :
    (∀ name, Declarable name ↔ Selection.Listable name ∧ name ∉ decorations) ∧
    (∀ source marker head, readHead source marker = .ok head →
      (∃ s, (Selection.read head.name).outcome = .ok s ∧ s.names = [head.name]) ∧
        head.name ∉ decorations) ∧
    (∀ list s, (Selection.read list).outcome = .ok s → ∀ name ∈ s.names, name ∉ decorations →
      ∀ marker, Identifier.isValid marker → ∀ before between behind : List Text,
        (∀ d ∈ before ++ between ++ behind, d ∈ decorations) →
          let words := headWords marker name before between behind
          Token.read (Text.join [' '] words) = .ok (words.map .name) ∧
          ∀ opening, Token.read opening = .ok (words.map .name) → ∀ rest,
            readHead (opening ++ '(' :: rest) marker =
              .ok ⟨name, "void".toList, opening, rest⟩) ∧
    ∀ name ∈ decorations, Selection.Listable name ∧
      ∀ header marker selection found,
        (Header.signatures header marker selection).outcome = .ok found →
          found.get? name = none ∧ ∀ s ∈ found.toList, s.name ≠ name := by
  refine ⟨fun name => declarable_iff, fun source marker head h => ?_,
    fun list s hs name hmem hname marker hmarker before between behind h => ?_,
    fun name hname => ⟨?_, fun header marker selection found hfound => ?_⟩⟩
  · obtain ⟨hvalid, hname⟩ := name_of_readHead h
    exact ⟨⟨_, Selection.read_of_isValid hvalid, rfl⟩, hname⟩
  · exact ⟨read_headWords hmarker (Selection.isValid_of_mem_names hs hmem) h,
      fun opening hts rest => readHead_headWords hname h hts rest⟩
  · exact Selection.listable_iff.2 (isValid_of_mem_decorations hname)
  · have hne : ∀ s ∈ found.toList, s.name ≠ name := fun s hs => ne_of_mem_signatures hfound hs hname
    refine ⟨?_, hne⟩
    rw [Option.eq_none_iff_forall_ne_some]
    intro s hs
    rw [(Header.holds_of_signatures hfound).get?_iff_of_keys, ← Header.toList_of_signatures hfound]
      at hs
    exact hne s hs.1 hs.2

/-- A name and a decoration on one list, the name among three more decorations with blanks of two
kinds, and a declaration whose name would be the other decoration if it were none. -/
theorem names_agree_decorated :
    let list := "2 APIENTRYP\nglFlush".toList
    let opening := "GLAPI extern  void\tAPIENTRY glFlush WINAPI".toList
    let head : Head := ⟨"glFlush".toList, "void".toList, opening, "void);".toList⟩
    let selection := Selection.empty.insert "APIENTRYP".toList
    (∃ s, (Selection.read list).outcome = .ok s ∧ s.names = ["APIENTRYP".toList, "glFlush".toList]) ∧
      readHead (opening ++ '(' :: "void);".toList) "GLAPI".toList = .ok head ∧
      (∃ s, (Selection.read "glFlush".toList).outcome = .ok s ∧ s.names = ["glFlush".toList]) ∧
      ∃ found, (Header.signatures "GLAPI void APIENTRYP (void);".toList "GLAPI".toList
        selection).outcome = .ok found ∧ found.get? "APIENTRYP".toList = none := by
  intro list opening head selection
  obtain ⟨-, hlisted, hdeclared, hdecorations⟩ := names_agree
  have hlist : (Selection.read list).outcome.toOption.any
      (·.names = ["APIENTRYP".toList, "glFlush".toList]) := by decide +kernel
  obtain ⟨s, hs, hnames⟩ := exists_ok_of_any hlist
  have hnames := of_decide_eq_true hnames
  have hmem : "glFlush".toList ∈ s.names := by simp [hnames]
  have hwords : Token.read opening = .ok ((headWords "GLAPI".toList "glFlush".toList
      ["extern".toList] ["APIENTRY".toList] ["WINAPI".toList]).map .name) := by decide +kernel
  have hhead : readHead (opening ++ '(' :: "void);".toList) "GLAPI".toList = .ok head :=
    (hdeclared list s hs "glFlush".toList hmem (by decide) "GLAPI".toList (by decide) _ _ _
      (by decide)).2 opening hwords _
  have hfinds : (Header.signatures "GLAPI void APIENTRYP (void);".toList "GLAPI".toList
      selection).outcome.toOption.any fun _ => true := by decide +kernel
  obtain ⟨found, hfound, -⟩ := exists_ok_of_any hfinds
  have hnone := ((hdecorations "APIENTRYP".toList (by decide)).2 _ _ _ found hfound).1
  exact ⟨⟨s, hs, hnames⟩, hhead, (hlisted _ _ head hhead).1, found, hfound, hnone⟩

end Declaration
end CallTracer
