import CallTracer.Proofs.Grammar
/-! The signatures that declarations have, and that printing one and reading it again gives it
back: the printed text is a normal form of the declaration. -/
namespace CallTracer
open Outcome Declaration

/-- The tokens of a type: names and stars. -/
def IsTypeTokens (ts : List Token) : Prop := ∀ u ∈ ts, u.isTypePart ∧ u.isValid

/-- The parameters that declarations have. -/
structure Parameter.WellFormed (p : Parameter) : Prop where
  name_valid : Identifier.isValid p.name
  type_spelled : ∃ ts, ts ≠ [] ∧ IsTypeTokens ts ∧ p.type = Token.spell ts

theorem Parameter.WellFormed.type_ne_nil {p : Parameter} (h : p.WellFormed) : p.type ≠ [] := by
  obtain ⟨ts, ne, htype, hspell⟩ := h.type_spelled
  intro hnil
  have hread := Token.read_spell htype
  rw [← hspell, hnil, Token.read, Token.readFrom_nil] at hread
  exact ne (Except.ok.inj hread).symm

namespace Signature

/-- The signatures that declarations have. -/
structure WellFormed (s : Signature) : Prop where
  name_valid : Identifier.isValid s.name
  name_plain : s.name ∉ decorations
  result_spelled : ∃ ts, IsTypeTokens ts ∧ (∀ u ∈ ts, isDecoration u = false) ∧
    s.result = Token.spell ts
  parameters : ∀ p ∈ s.parameters, p.WellFormed

/-- The signature with a missing result written out. -/
def normal (s : Signature) : Signature :=
  { s with result := if s.result.isEmpty then "void".toList else s.result }

@[simp] theorem normal_returnsVoid (s : Signature) : s.normal.returnsVoid = s.returnsVoid := by
  by_cases h : s.result.isEmpty
  · simp [normal, returnsVoid, h]
  · simp [normal, returnsVoid, h]

@[simp] theorem normal_print (s : Signature) : s.normal.print = s.print := by
  by_cases h : s.result.isEmpty
  · simp [normal, print, h]
  · simp [normal, print, h]

end Signature

namespace Declaration

variable {ts us : List Token} {p : Parameter} {ps : List Parameter} {s : Signature}
  {source marker : Text}

theorem IsParameter.wellFormed (h : IsParameter ts p) (valid : ∀ u ∈ ts, u.isValid) :
    p.WellFormed := by
  obtain ⟨run, ne, name⟩ := h
  rename_i type
  refine ⟨valid (.name name) (by simp), type, ne, fun u hu => ⟨run u hu, ?_⟩, rfl⟩
  exact valid u (List.mem_append_left _ hu)

theorem AreParameters.wellFormed (h : AreParameters ts ps) (valid : ∀ u ∈ ts, u.isValid) :
    ∀ p ∈ ps, p.WellFormed := by
  induction h with
  | last h =>
    intro p hp
    rw [List.mem_singleton.1 hp]
    exact h.wellFormed valid
  | more h tail ih =>
    refine List.forall_mem_cons.2 ⟨h.wellFormed fun u hu => valid u (by simp [hu]), ?_⟩
    exact ih fun u hu => valid u (by simp [hu])

theorem IsParameterList.wellFormed (h : IsParameterList ts ps) (valid : ∀ u ∈ ts, u.isValid) :
    ∀ p ∈ ps, p.WellFormed := by
  cases h with
  | empty => simp
  | void => simp
  | parameters h => exact h.wellFormed valid

theorem Declares.wellFormed (h : Declares marker ts s) (valid : ∀ u ∈ ts, u.isValid) :
    Identifier.isValid marker ∧ s.WellFormed := by
  obtain ⟨⟨run, parts⟩, isList, -⟩ := h
  rename_i head parameters ending result name ps
  have hpart : ∀ u ∈ result ++ [.name name], u ∈ head ∧ isDecoration u = false := by
    intro u hu
    rw [← parts] at hu
    simpa using hu
  have hname := hpart (.name name) (by simp)
  refine ⟨valid (.name marker) (by simp), valid (.name name) (by simp [hname.1]), ?_,
    ⟨result, ?_, ?_, rfl⟩, isList.wellFormed fun u hu => valid u (by simp [hu])⟩
  · simpa [isDecoration] using hname.2
  · intro u hu
    have := (hpart u (by simp [hu])).1
    exact ⟨run u this, valid u (by simp [this])⟩
  · exact fun u hu => (hpart u (by simp [hu])).2

/-- What a declaration declares is well-formed, and its marker is an identifier. -/
theorem wellFormed_of_read (h : read source marker = .ok s) :
    Identifier.isValid marker ∧ s.WellFormed := by
  obtain ⟨ts, hts, hd⟩ := declares_of_read h
  exact hd.wellFormed (Token.isValid_of_mem_readFrom hts)

/-- A space sets off what is read next. -/
theorem read_space {s t : Text} (hs : Token.read s = .ok ts) (ht : Token.read t = .ok us) :
    Token.read (s ++ ' ' :: t) = .ok (ts ++ us) :=
  Token.read_append rfl hs ((Token.read_blank_cons rfl).2 ht)

theorem read_parameter (h : p.WellFormed) :
    ∃ ts, IsParameter ts p ∧ Token.read p.print = .ok ts := by
  obtain ⟨valid, ts, ne, htype, hspell⟩ := h
  cases p with
  | mk type name =>
    cases hspell
    refine ⟨ts ++ [.name name], .intro (fun u hu => (htype u hu).1) ne name, ?_⟩
    exact read_space (Token.read_spell htype) (Token.read_name valid)

theorem read_parameters (ne : ps ≠ []) (h : ∀ p ∈ ps, p.WellFormed) :
    ∃ ts, AreParameters ts ps ∧
      Token.read (Text.join ", ".toList (ps.map Parameter.print)) = .ok ts := by
  induction ps with
  | nil => exact absurd rfl ne
  | cons p ps ih =>
    obtain ⟨hp, hps⟩ := List.forall_mem_cons.1 h
    obtain ⟨ts, hts, hread⟩ := read_parameter hp
    cases ps with
    | nil => exact ⟨ts, .last hts, hread⟩
    | cons q ps =>
      obtain ⟨us, hus, hreads⟩ := ih (List.cons_ne_nil q ps) hps
      refine ⟨ts ++ .comma :: us, .more hts hus, ?_⟩
      have htail : Token.read (", ".toList ++ Text.join ", ".toList ((q :: ps).map Parameter.print))
          = .ok (.comma :: us) :=
        Token.read_punctuation_cons rfl rfl ((Token.read_blank_cons rfl).2 hreads)
      have := Token.read_append rfl hread htail
      simpa [Text.join] using this

theorem read_parameterList (h : ∀ p ∈ ps, p.WellFormed) :
    ∃ ts, IsParameterList ts ps ∧
      Token.read (Text.join ", ".toList (ps.map Parameter.print)) = .ok ts := by
  by_cases ne : ps = []
  · subst ne
    exact ⟨[], .empty, Token.readFrom_nil 1⟩
  · obtain ⟨ts, hts, hread⟩ := read_parameters ne h
    exact ⟨ts, .parameters hts, hread⟩

/-- The tokens of a result type, with a missing one written out. -/
theorem exists_result (h : s.WellFormed) : ∃ ts, IsTypeTokens ts ∧
    (∀ u ∈ ts, isDecoration u = false) ∧ s.normal.result = Token.spell ts := by
  by_cases he : s.result.isEmpty
  · refine ⟨[.name "void".toList], ?_, ?_, if_pos he⟩
    · exact List.forall_mem_singleton.2 (by decide)
    · exact List.forall_mem_singleton.2 (by decide)
  · obtain ⟨ts, htype, hplain, hspell⟩ := h.result_spelled
    exact ⟨ts, htype, hplain, (if_neg he).trans hspell⟩

theorem isHead_of_plain {name : Text} (htype : IsTypeTokens ts)
    (hplain : ∀ u ∈ ts, isDecoration u = false) (hname : name ∉ decorations) :
    IsHead (ts ++ [.name name]) name ts := by
  have hn : isDecoration (.name name) = false := by simpa [isDecoration] using hname
  constructor
  · intro u hu
    rcases List.mem_append.1 hu with hu | hu
    · exact (htype u hu).1
    · cases List.mem_singleton.1 hu
      rfl
  · rw [List.filter_eq_self]
    intro u hu
    rcases List.mem_append.1 hu with hu | hu
    · simp [hplain u hu]
    · simp [List.mem_singleton.1 hu, hn]

/-- A printed signature behind its marker is a declaration of it. -/
theorem read_print (hm : Identifier.isValid marker) (h : s.WellFormed) {ending : Text}
    (hending : ending = [] ∨ ending = [';']) :
    read (marker ++ ' ' :: s.print ++ ending) marker = .ok s.normal := by
  obtain ⟨result, htype, hplain, hspell⟩ := exists_result h
  obtain ⟨parameters, isList, hparameters⟩ := read_parameterList h.parameters
  have hhead : Token.read (marker ++ ' ' :: (Token.spell result ++ ' ' :: s.name)) =
      .ok ([.name marker] ++ (result ++ [.name s.name])) :=
    read_space (Token.read_name hm)
      (read_space (Token.read_spell htype) (Token.read_name h.name_valid))
  obtain ⟨close, hclose, isEnding⟩ : ∃ close, Token.read (')' :: ending) =
      .ok (.rightParen :: close) ∧ (close = [] ∨ close = [.semicolon]) := by
    rcases hending with rfl | rfl
    · exact ⟨[], Token.read_punctuation_cons rfl rfl (Token.readFrom_nil 1), .inl rfl⟩
    · exact ⟨[.semicolon], Token.read_punctuation_cons rfl rfl
        (Token.read_punctuation_cons rfl rfl (Token.readFrom_nil 1)), .inr rfl⟩
  have htokens := Token.read_cut_iff.2 ⟨_, _, hhead, Token.read_append rfl hparameters hclose, rfl⟩
  have hdeclares : Declares marker _ _ :=
    .intro (isHead_of_plain htype hplain h.name_plain) isList isEnding
  have htext : marker ++ ' ' :: s.print ++ ending =
      marker ++ ' ' :: (Token.spell result ++ ' ' :: s.name) ++
        '(' :: (Text.join ", ".toList (s.parameters.map Parameter.print) ++ ')' :: ending) := by
    rw [← hspell]
    simp [Signature.print, Signature.normal]
  have hnormal : s.normal = ⟨s.name, Token.spell result, s.parameters⟩ := by
    rw [← hspell]
    rfl
  rw [htext, hnormal]
  refine read_of_declares htokens ?_
  simpa using hdeclares

/-- Printing what a declaration declares and reading it again behind the same marker loses nothing
but the absence of a result, which is printed as `void`; so the printed text is a normal form. -/
theorem read_print_of_read (h : read source marker = .ok s) (ending : Text)
    (hending : ending = [] ∨ ending = [';']) :
    ∃ t, read (marker ++ ' ' :: s.print ++ ending) marker = .ok t ∧
      t.name = s.name ∧ t.parameters = s.parameters ∧
      t.result = (if s.result.isEmpty then "void".toList else s.result) ∧
      t.returnsVoid = s.returnsVoid ∧ t.print = s.print := by
  obtain ⟨hm, hs⟩ := wellFormed_of_read h
  exact ⟨s.normal, read_print hm hs hending, rfl, rfl, rfl, s.normal_returnsVoid, s.normal_print⟩

/-- A missing result, a decoration behind the marker and a named parameter of type `void`. -/
theorem read_print_of_read_missing_result :
    let s : Signature := ⟨"glF".toList, [], [⟨"void".toList, "x".toList⟩]⟩
    read "extern  APIENTRY glF(void x);".toList "extern".toList = .ok s ∧
      ∃ t, read ("extern".toList ++ ' ' :: s.print ++ [';']) "extern".toList = .ok t ∧
        t.name = s.name ∧ t.parameters = s.parameters ∧
        t.result = (if s.result.isEmpty then "void".toList else s.result) ∧
        t.returnsVoid = s.returnsVoid ∧ t.print = s.print := by
  have h : read "extern  APIENTRY glF(void x);".toList "extern".toList =
      .ok ⟨"glF".toList, [], [⟨"void".toList, "x".toList⟩]⟩ := by decide +kernel
  exact ⟨h, read_print_of_read h [';'] (.inr rfl)⟩

end Declaration
end CallTracer
