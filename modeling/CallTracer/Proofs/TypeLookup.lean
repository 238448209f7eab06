import CallTracer.KnownType
import CallTracer.Proofs.Canonical
import Mathlib.Data.List.Forall2
/-! The catalogue finds types by their tokens. Declarations are compared with it as texts, but both
sides are canonical: a type is found, however it is spaced, exactly if its tokens are those of a
spelling of the catalogue. -/
namespace CallTracer
open Outcome

namespace KnownType

variable {ts : List Token} {t : KnownType} {spelling : Text}

/-- Whether a spelling is found as the types whose own spellings have the given tokens. -/
def FoundBy (spelling : Text) (ts : List Token) : Prop :=
  ∀ t, ofSpelling? spelling = some t ↔ Token.read t.spelling = .ok ts

theorem ofSpelling?_eq_some_iff : ofSpelling? spelling = some t ↔ t.spelling = spelling := by
  constructor
  · exact spelling_of_ofSpelling?
  · rintro rfl
    exact ofSpelling?_spelling t

/-- Whether a spelling is the canonical one of the names and stars that are read from it. -/
def isCanonical (spelling : Text) : Bool :=
  (Token.read spelling).toOption.any fun ts =>
    ts.all (fun u => u.isTypePart && u.isValid) && Token.spell ts == spelling

theorem isCanonical_spelling (t : KnownType) : isCanonical t.spelling := by
  have hall : ∀ u ∈ all, isCanonical u.spelling := by decide +kernel
  exact hall t (mem_all t)

theorem exists_tokens (t : KnownType) :
    ∃ ts, IsTypeTokens ts ∧ t.spelling = Token.spell ts ∧ Token.read t.spelling = .ok ts := by
  obtain ⟨ts, hread, hts⟩ := exists_ok_of_any t.isCanonical_spelling
  simp only [Bool.and_eq_true, List.all_eq_true, beq_iff_eq] at hts
  exact ⟨ts, hts.1, hts.2.symm, hread⟩

/-- Of two types with the same tokens the spellings are the same too. -/
theorem foundBy_spell (h : IsTypeTokens ts) : FoundBy (Token.spell ts) ts := by
  intro t
  rw [ofSpelling?_eq_some_iff]
  constructor
  · intro hspelling
    rw [hspelling, Token.read_spell h]
  · intro hread
    obtain ⟨us, -, hspelling, hus⟩ := t.exists_tokens
    rw [hread, Except.ok.injEq] at hus
    rw [hspelling, hus]

end KnownType

namespace Declaration

/-- The tokens of a declaration by what they stand for: those between the marker and the
parenthesis, of these the type of the result and the name, and for each parameter its type and its
name. -/
structure Parts where
  head : List Token
  result : List Token
  name : Text
  parameters : List (List Token × Text)

/-- The tokens of parameters with commas between them. -/
def listed (parameters : List (List Token × Text)) : List Token :=
  List.intercalate [.comma] (parameters.map fun p => p.1 ++ [.name p.2])

/-- The parameters of a signature, from the tokens of their types. -/
def spelled (parameters : List (List Token × Text)) : List Parameter :=
  parameters.map fun p => ⟨Token.spell p.1, p.2⟩

/-- What a declaration of these parts declares. -/
def Parts.signature (parts : Parts) : Signature :=
  ⟨parts.name, Token.spell parts.result, spelled parts.parameters⟩

/-- The parts of the declaration that tokens are. -/
structure Parts.Of (parts : Parts) (marker : Text) (ts : List Token) : Prop where
  tokens : ∃ list ending, ts = .name marker :: parts.head ++ .leftParen :: list ++
      .rightParen :: ending ∧ (ending = [] ∨ ending = [.semicolon]) ∧
    (list = listed parts.parameters ∨ list = [.name "void".toList] ∧ parts.parameters = [])
  isHead : IsHead parts.head parts.name parts.result
  result : IsTypeTokens parts.result
  types : ∀ p ∈ parts.parameters, p.1 ≠ [] ∧ IsTypeTokens p.1

variable {ts : List Token} {p : Parameter} {ps : List Parameter} {s : Signature}
  {marker source : Text}

theorem IsParameter.exists_parts (h : IsParameter ts p) (valid : ∀ u ∈ ts, u.isValid) :
    ∃ type name, ts = type ++ [.name name] ∧ p = ⟨Token.spell type, name⟩ ∧ type ≠ [] ∧
      IsTypeTokens type := by
  obtain ⟨run, ne, name⟩ := h
  rename_i type
  exact ⟨type, name, rfl, rfl, ne, fun u hu => ⟨run u hu, valid u (List.mem_append_left _ hu)⟩⟩

theorem AreParameters.exists_parts (h : AreParameters ts ps) (valid : ∀ u ∈ ts, u.isValid) :
    ∃ parameters, ts = listed parameters ∧ ps = spelled parameters ∧
      ∀ p ∈ parameters, p.1 ≠ [] ∧ IsTypeTokens p.1 := by
  induction h with
  | last h =>
    obtain ⟨type, name, rfl, rfl, htype⟩ := h.exists_parts valid
    refine ⟨[(type, name)], ?_, rfl, List.forall_mem_singleton.2 htype⟩
    simp [listed]
  | more h tail ih =>
    obtain ⟨type, name, rfl, rfl, htype⟩ := h.exists_parts fun u hu => valid u (by simp [hu])
    obtain ⟨parameters, rfl, rfl, htypes⟩ := ih fun u hu => valid u (by simp [hu])
    obtain ⟨q, parameters, rfl⟩ : ∃ q qs, parameters = q :: qs := by
      obtain ⟨t, us, hne, -⟩ := tail.exists_cons
      apply List.exists_cons_of_ne_nil
      rintro rfl
      cases hne
    refine ⟨(type, name) :: q :: parameters, ?_, rfl, List.forall_mem_cons.2 ⟨htype, htypes⟩⟩
    simp [listed, List.intercalate_cons_cons]

theorem IsParameterList.exists_parts (h : IsParameterList ts ps)
    (valid : ∀ u ∈ ts, u.isValid) :
    ∃ parameters, ps = spelled parameters ∧ (∀ p ∈ parameters, p.1 ≠ [] ∧ IsTypeTokens p.1) ∧
      (ts = listed parameters ∨ ts = [.name "void".toList] ∧ parameters = []) := by
  cases h with
  | empty => exact ⟨[], rfl, List.forall_mem_nil _, .inl rfl⟩
  | void => exact ⟨[], rfl, List.forall_mem_nil _, .inr ⟨rfl, rfl⟩⟩
  | parameters h =>
    obtain ⟨parameters, hts, hps, htypes⟩ := h.exists_parts valid
    exact ⟨parameters, hps, htypes, .inl hts⟩

/-- The tokens of a result type are some of those between the marker and the parenthesis. -/
theorem IsHead.isTypeTokens {head result : List Token} {name : Text}
    (h : IsHead head name result) (valid : ∀ u ∈ head, u.isValid) : IsTypeTokens result := by
  intro u hu
  have hhead : u ∈ head.filter (!isDecoration ·) := by
    rw [h.parts]
    exact List.mem_append_left _ hu
  have hmem := List.mem_of_mem_filter hhead
  exact ⟨h.run u hmem, valid u hmem⟩

theorem Declares.exists_parts (h : Declares marker ts s) (valid : ∀ u ∈ ts, u.isValid) :
    ∃ parts : Parts, parts.Of marker ts ∧ s = parts.signature := by
  obtain ⟨isHead, isList, isEnding⟩ := h
  rename_i head list ending result name ps
  obtain ⟨parameters, rfl, htypes, hlist⟩ := isList.exists_parts fun u hu => valid u (by simp [hu])
  have hresult := isHead.isTypeTokens fun u hu => valid u (by simp [hu])
  exact ⟨⟨head, result, name, parameters⟩,
    ⟨⟨list, ending, rfl, isEnding, hlist⟩, isHead, hresult, htypes⟩, rfl⟩

theorem exists_parts_of_read (h : read source marker = .ok s) :
    ∃ ts, ∃ parts : Parts, Token.read source = .ok ts ∧ parts.Of marker ts ∧
      s = parts.signature := by
  obtain ⟨ts, hts, hdeclares⟩ := declares_of_read h
  obtain ⟨parts, hparts, hs⟩ := hdeclares.exists_parts (Token.isValid_of_mem_readFrom hts)
  exact ⟨ts, parts, hts, hparts, hs⟩

end Declaration

namespace KnownType
open Declaration

/-- Every type of the catalogue with a spelling can be that of a parameter. -/
theorem wellFormed_of_spelling_ne_nil {t : KnownType} {function parameter : Text}
    (ne : t.spelling ≠ []) (hfunction : Identifier.isValid function) (hplain : function ∉ decorations)
    (hparameter : Identifier.isValid parameter) :
    (⟨function, "void".toList, [⟨t.spelling, parameter⟩]⟩ : Signature).WellFormed := by
  obtain ⟨ts, hts, hspelling, -⟩ := t.exists_tokens
  have hne : ts ≠ [] := by
    rintro rfl
    exact ne hspelling
  refine ⟨hfunction, hplain, ⟨[.name "void".toList], ?_, ?_, rfl⟩, ?_⟩
  · exact List.forall_mem_singleton.2 (by decide)
  · exact List.forall_mem_singleton.2 (by decide)
  · exact List.forall_mem_singleton.2 ⟨hparameter, ts, hne, hts, hspelling⟩

/-- Types are looked up by their tokens. The canonical spelling of names and stars is found as the
type that has them as its tokens. So are the types of every declaration: that of the result without
its decorations, which is the type with the empty spelling exactly if nothing is left of it, and
that of each parameter, which can be any type but this one. -/
theorem lookup_by_tokens :
    (∀ ts, IsTypeTokens ts → FoundBy (Token.spell ts) ts) ∧
    (∀ source marker s, Declaration.read source marker = .ok s →
      ∃ ts, ∃ parts : Parts, Token.read source = .ok ts ∧ parts.Of marker ts ∧
        s = parts.signature ∧ FoundBy s.result parts.result ∧
        (∀ t, t.spelling = [] → (ofSpelling? s.result = some t ↔ parts.result = [])) ∧
        List.Forall₂ (fun p part => p.name = part.2 ∧ FoundBy p.type part.1) s.parameters
          parts.parameters) ∧
    ∀ t, (∃ source marker s, Declaration.read source marker = .ok s ∧
      ∃ p ∈ s.parameters, ofSpelling? p.type = some t) ↔ t.spelling ≠ [] := by
  refine ⟨fun ts hts => foundBy_spell hts, fun source marker s hs => ?_, fun t => ⟨?_, ?_⟩⟩
  · obtain ⟨ts, parts, hts, hparts, rfl⟩ := exists_parts_of_read hs
    have hresult : FoundBy (Token.spell parts.result) parts.result := foundBy_spell hparts.result
    refine ⟨ts, parts, hts, hparts, rfl, hresult, fun t ht => ?_, ?_⟩
    · rw [Parts.signature, hresult t, ht, Token.read, Token.readFrom_nil, Except.ok.injEq, eq_comm]
    · rw [Parts.signature, spelled, List.forall₂_map_left_iff, List.forall₂_same]
      exact fun p hp => ⟨rfl, foundBy_spell (hparts.types p hp).2⟩
  · rintro ⟨source, marker, s, hs, p, hp, ht⟩
    rw [spelling_of_ofSpelling? ht]
    exact ((wellFormed_of_read hs).2.parameters p hp).type_ne_nil
  · intro ne
    have hmarker : Identifier.isValid "GLAPI".toList := by decide
    have hfunction : Identifier.isValid "glF".toList := by decide
    have hparameter : Identifier.isValid "x".toList := by decide
    have hsignature := wellFormed_of_spelling_ne_nil ne hfunction (by decide) hparameter
    exact ⟨_, _, _, read_print hmarker hsignature (.inl rfl), _, .head _, ofSpelling?_spelling t⟩

/-- A pointer to constant pointers, once with no blank that is not needed and once with blanks
around all its tokens. -/
theorem lookup_by_tokens_respaced :
    let ts : List Token := [.name "const".toList, .name "GLchar".toList, .star,
      .name "const".toList, .star]
    let source := "GLAPI extern const GLchar*const*glF(const GLchar *const*x,void*y);".toList
    let source' := "GLAPI const  GLchar * const\t* extern glF ".toList ++
      "( const GLchar* const * x , void * y )".toList
    let s : Signature := ⟨"glF".toList, "const GLchar* const*".toList,
      [⟨"const GLchar* const*".toList, "x".toList⟩, ⟨"void*".toList, "y".toList⟩]⟩
    IsTypeTokens ts ∧ FoundBy (Token.spell ts) ts ∧ ∀ text ∈ [source, source'],
      Declaration.read text "GLAPI".toList = .ok s ∧
        ∃ us, ∃ parts : Parts, Token.read text = .ok us ∧ parts.Of "GLAPI".toList us ∧
          s = parts.signature ∧ FoundBy s.result parts.result ∧
          (∀ t, t.spelling = [] → (ofSpelling? s.result = some t ↔ parts.result = [])) ∧
          List.Forall₂ (fun p part => p.name = part.2 ∧ FoundBy p.type part.1) s.parameters
            parts.parameters := by
  intro ts source source' s
  have hts : IsTypeTokens ts := by
    intro u hu
    have hall : ∀ u ∈ ts, u.isTypePart ∧ u.isValid := by decide
    exact hall u hu
  have hread : ∀ text ∈ [source, source'], Declaration.read text "GLAPI".toList = .ok s := by
    decide +kernel
  refine ⟨hts, lookup_by_tokens.1 ts hts, fun text htext => ?_⟩
  exact ⟨hread text htext, lookup_by_tokens.2.1 text _ s (hread text htext)⟩

end KnownType
end CallTracer
