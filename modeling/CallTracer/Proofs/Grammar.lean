import CallTracer.Declaration
import CallTracer.Proofs.LineText
import CallTracer.Proofs.TokenReading
/-! The grammar of declarations, over tokens. Reading accepts exactly the texts whose tokens it
derives, although it cuts the text at the first parenthesis and strikes out decorations late. -/
namespace CallTracer.Declaration
open Outcome

variable {ts us rest : List Token} {p : Parameter} {ps : List Parameter} {m : Malformation}

/-- Names and stars only. -/
def IsRun (ts : List Token) : Prop := ∀ t ∈ ts, t.isTypePart

/-- A parameter: a type of at least one token and a name. -/
inductive IsParameter : List Token → Parameter → Prop
  | intro {type : List Token} (run : IsRun type) (ne : type ≠ []) (name : Text) :
    IsParameter (type ++ [.name name]) ⟨Token.spell type, name⟩

/-- One or more parameters with commas between them. -/
inductive AreParameters : List Token → List Parameter → Prop
  | last {ts : List Token} {p : Parameter} (h : IsParameter ts p) : AreParameters ts [p]
  | more {ts us : List Token} {p : Parameter} {ps : List Parameter} (h : IsParameter ts p)
    (tail : AreParameters us ps) : AreParameters (ts ++ .comma :: us) (p :: ps)

/-- What may stand between the parentheses. -/
inductive IsParameterList : List Token → List Parameter → Prop
  | empty : IsParameterList [] []
  | void : IsParameterList [.name "void".toList] []
  | parameters {ts : List Token} {ps : List Parameter} (h : AreParameters ts ps) :
    IsParameterList ts ps

/-- What may stand between the marker and the parentheses: with the decorations struck out, the
type of the result and the name. -/
structure IsHead (ts : List Token) (name : Text) (result : List Token) : Prop where
  run : IsRun ts
  parts : ts.filter (!isDecoration ·) = result ++ [.name name]

/-- The declarations that begin with a marker, and the signatures that they declare. -/
inductive Declares (marker : Text) : List Token → Signature → Prop
  | intro {head parameters ending result : List Token} {name : Text} {ps : List Parameter}
    (isHead : IsHead head name result) (isList : IsParameterList parameters ps)
    (isEnding : ending = [] ∨ ending = [.semicolon]) :
    Declares marker (.name marker :: head ++ .leftParen :: parameters ++ .rightParen :: ending)
      ⟨name, Token.spell result, ps⟩

theorem IsParameter.isRun (h : IsParameter ts p) : IsRun ts := by
  obtain ⟨run, -, name⟩ := h
  intro t ht
  rcases List.mem_append.1 ht with ht | ht
  · exact run t ht
  · cases List.mem_singleton.1 ht
    rfl

theorem IsParameter.ne_void (h : IsParameter ts p) : ts ≠ [.name "void".toList] := by
  obtain ⟨-, ne, name⟩ := h
  intro he
  have := congrArg List.length he
  simp only [List.length_append, List.length_singleton, Nat.add_eq_right] at this
  exact ne (List.length_eq_zero_iff.1 this)

theorem IsParameter.exists_cons (h : IsParameter ts p) :
    ∃ t us, ts = t :: us ∧ t.isTypePart := by
  obtain ⟨run, ne, name⟩ := h
  obtain ⟨t, type, rfl⟩ := List.exists_cons_of_ne_nil ne
  exact ⟨t, type ++ [.name name], rfl, run t (.head type)⟩

theorem AreParameters.exists_cons (h : AreParameters ts ps) :
    ∃ t us, ts = t :: us ∧ t.isTypePart := by
  cases h with
  | last h => exact h.exists_cons
  | more h tail =>
    obtain ⟨t, us, rfl, ht⟩ := h.exists_cons
    exact ⟨t, _, rfl, ht⟩

theorem IsParameter.parameterOfTokens (h : IsParameter ts p) :
    parameterOfTokens ts = .ok p := by
  obtain ⟨-, ne, name⟩ := h
  simp [Declaration.parameterOfTokens, ne]

theorem isParameter_of_parameterOfTokens (run : IsRun ts) (h : parameterOfTokens ts = .ok p) :
    IsParameter ts p := by
  unfold Declaration.parameterOfTokens at h
  split at h
  · cases h
  · rename_i name hlast
    obtain ⟨type, rfl⟩ := List.getLast?_eq_some_iff.1 hlast
    rw [List.dropLast_concat] at h
    split at h
    · cases h
    · rename_i ne
      cases h
      exact .intro (fun t ht => run t (List.mem_append_left _ ht)) (by simpa using ne) name
  · cases h

/-- A run ends where it is followed by another token. -/
theorem takeWhile_run (rest : List Token) (run : IsRun us) {t : Token} (ht : t.isTypePart = false) :
    (us ++ t :: rest).takeWhile Token.isTypePart = us ∧
      (us ++ t :: rest).dropWhile Token.isTypePart = t :: rest := by
  rw [List.takeWhile_append_of_pos run, List.dropWhile_append_of_pos run]
  simp [ht]

theorem readParameters_comma (h : IsParameter us p) (first : Bool) (rest : List Token) :
    readParameters first (us ++ .comma :: rest) =
      (readParameters false rest).map fun r => (p :: r.1, r.2) := by
  obtain ⟨htake, hdrop⟩ := takeWhile_run rest h.isRun (t := .comma) rfl
  have hp := h.parameterOfTokens
  rw [readParameters.eq_def first]
  simp only [htake, if_neg h.ne_void, hp]
  split <;> simp_all

theorem readParameters_rightParen (h : IsParameter us p) (first : Bool) (rest : List Token) :
    readParameters first (us ++ .rightParen :: rest) = .ok ([p], rest) := by
  obtain ⟨htake, hdrop⟩ := takeWhile_run rest h.isRun (t := .rightParen) rfl
  have hp := h.parameterOfTokens
  rw [readParameters.eq_def first]
  simp only [htake, if_neg h.ne_void, hp]
  split <;> simp_all

theorem readParameters_void (rest : List Token) :
    readParameters true (.name "void".toList :: .rightParen :: rest) = .ok ([], rest) := by
  unfold readParameters
  rfl

theorem AreParameters.readParameters (h : AreParameters us ps) (first : Bool)
    (rest : List Token) :
    readParameters first (us ++ .rightParen :: rest) = .ok (ps, rest) := by
  induction h generalizing first with
  | last h => exact readParameters_rightParen h first rest
  | more h tail ih =>
    rw [List.append_assoc, List.cons_append, readParameters_comma h, ih false, map_ok]

theorem isRun_takeWhile (ts : List Token) : IsRun (ts.takeWhile Token.isTypePart) :=
  fun _ ht => List.mem_takeWhile_imp ht

/-- Reading stops behind the first parenthesis that closes, with what stood before it read. -/
theorem parameters_of_readParameters {first : Bool}
    (h : readParameters first ts = .ok (ps, rest)) : ∃ us, ts = us ++ .rightParen :: rest ∧
      (AreParameters us ps ∨ first ∧ us = [.name "void".toList] ∧ ps = []) := by
  fun_induction readParameters first ts generalizing ps rest with
  | case1 ts run hrun rest' =>
    rename_i hdrop
    cases h
    exact ⟨run, by rw [← hdrop, List.takeWhile_append_dropWhile], .inr ⟨rfl, hrun, rfl⟩⟩
  | case4 first ts run hrun p hp rest' hdrop =>
    rename_i ih
    obtain ⟨⟨ps', rest''⟩, hr, heq⟩ := map_eq_ok_iff.1 h
    cases heq
    obtain ⟨us, rfl, hus | ⟨hfirst, -⟩⟩ := ih hr
    · refine ⟨run ++ .comma :: us, ?_, .inl (.more ?_ hus)⟩
      · rw [List.append_assoc, List.cons_append, ← hdrop, List.takeWhile_append_dropWhile]
      · exact isParameter_of_parameterOfTokens (isRun_takeWhile ts) hp
    · exact Bool.noConfusion hfirst
  | case5 first ts run hrun p hp rest' =>
    rename_i hdrop
    cases h
    refine ⟨run, ?_, .inl (.last ?_)⟩
    · rw [← hdrop, List.takeWhile_append_dropWhile]
    · exact isParameter_of_parameterOfTokens (isRun_takeWhile ts) hp
  | _ => cases h

theorem ending_eq_ok_iff {ending : List Token} {qs : List Parameter} :
    (match ending with
      | [] | [.semicolon] => pure qs
      | _ => .error .trailingTokens : Except Malformation (List Parameter)) = .ok ps ↔
      qs = ps ∧ (ending = [] ∨ ending = [.semicolon]) := by
  split <;> simp_all [pure, Except.pure]

theorem isParameterList_of_parametersOfTokens (h : parametersOfTokens ts = .ok ps) :
    ∃ us ending, ts = us ++ .rightParen :: ending ∧ IsParameterList us ps ∧
      (ending = [] ∨ ending = [.semicolon]) := by
  unfold parametersOfTokens at h
  split at h
  · rename_i ending
    obtain ⟨rfl, hending⟩ := ending_eq_ok_iff.1 h
    exact ⟨[], ending, rfl, .empty, hending⟩
  · obtain ⟨⟨qs, ending⟩, hqs, h⟩ := bind_eq_ok_iff.1 h
    obtain ⟨rfl, hending⟩ := ending_eq_ok_iff.1 h
    obtain ⟨us, rfl, hus | ⟨-, rfl, rfl⟩⟩ := parameters_of_readParameters hqs
    · exact ⟨us, ending, rfl, .parameters hus, hending⟩
    · exact ⟨_, ending, rfl, .void, hending⟩

theorem IsParameterList.parametersOfTokens {ending : List Token} (h : IsParameterList us ps)
    (hending : ending = [] ∨ ending = [.semicolon]) :
    parametersOfTokens (us ++ .rightParen :: ending) = .ok ps := by
  cases h with
  | empty => exact ending_eq_ok_iff.2 ⟨rfl, hending⟩
  | void =>
    exact bind_eq_ok_iff.2 ⟨_, readParameters_void ending, ending_eq_ok_iff.2 ⟨rfl, hending⟩⟩
  | parameters h =>
    unfold Declaration.parametersOfTokens
    split
    · rename_i heq
      obtain ⟨t, us, rfl, ht⟩ := h.exists_cons
      cases heq
      exact Bool.noConfusion ht
    · exact bind_eq_ok_iff.2 ⟨_, h.readParameters true ending, ending_eq_ok_iff.2 ⟨rfl, hending⟩⟩

/-- The head reader takes the marker and a head behind it. -/
theorem headOfTokens_eq_ok_iff {source marker name result : Text} :
    headOfTokens source marker ts = .ok (name, result) ↔
      ∃ head type, ts = .name marker :: head ∧ IsHead head name type ∧
        result = Token.spell type := by
  constructor
  · intro h
    unfold headOfTokens at h
    split at h
    · rename_i m head
      split at h
      · cases h
      · rename_i hm
        split at h
        · cases h
        · rename_i run
          simp only at h
          split at h
          · rename_i n hlast
            cases h
            obtain ⟨type, htype⟩ := List.getLast?_eq_some_iff.1 hlast
            refine ⟨head, type, by rw [Decidable.not_not.1 hm], ⟨?_, htype⟩, ?_⟩
            · simpa [IsRun] using run
            · rw [htype, List.dropLast_concat]
          · cases h
    · cases h
  · rintro ⟨head, type, rfl, ⟨run, parts⟩, rfl⟩
    have hall : head.all Token.isTypePart := List.all_eq_true.2 run
    simp [headOfTokens, hall, parts]

theorem readHead_of_not_mem {source marker : Text} (h : '(' ∉ source) :
    readHead source marker = .error (.malformed source .noParameterList) := by
  have hdrop : source.dropWhile (· != '(') = [] := by
    rw [List.dropWhile_eq_nil_iff]
    intro c hc
    rw [bne_iff_ne]
    rintro rfl
    exact h hc
  rw [readHead, hdrop]

theorem readHead_cut {opening : Text} (h : '(' ∉ opening) (rest marker : Text) :
    readHead (opening ++ '(' :: rest) marker = (do
      let ts ← (Token.read opening).mapError .badCharacter
      let (name, result) ← headOfTokens (opening ++ '(' :: rest) marker ts
      return ⟨name, result, opening, rest⟩) := by
  obtain ⟨htake, hdrop⟩ := Text.takeWhile_append_of_not_mem rest h
  rw [readHead, hdrop, htake]

/-- A head is read from the text before the first parenthesis alone. -/
theorem readHead_eq_ok_iff {source marker : Text} {h : Head} :
    readHead source marker = .ok h ↔ source = h.opening ++ '(' :: h.rest ∧ '(' ∉ h.opening ∧
      ∃ ts, Token.read h.opening = .ok ts ∧
        headOfTokens source marker ts = .ok (h.name, h.result) := by
  constructor
  · intro hread
    by_cases hcut : '(' ∈ source
    · obtain ⟨opening, rest, rfl, hopen⟩ := List.eq_append_cons_of_mem hcut
      rw [readHead_cut hopen] at hread
      obtain ⟨ts, hts, hread⟩ := bind_eq_ok_iff.1 hread
      obtain ⟨⟨name, result⟩, hhead, hread⟩ := bind_eq_ok_iff.1 hread
      cases hread
      exact ⟨rfl, hopen, ts, mapError_eq_ok_iff.1 hts, hhead⟩
    · rw [readHead_of_not_mem hcut] at hread
      cases hread
  · rintro ⟨rfl, hopen, ts, hts, hhead⟩
    rw [readHead_cut hopen, hts, mapError_ok, bind_ok, hhead]
    rfl

theorem isValid_of_readHead {source marker : Text} {h : Head}
    (hread : readHead source marker = .ok h) : Identifier.isValid marker := by
  obtain ⟨-, -, ts, hts, hof⟩ := readHead_eq_ok_iff.1 hread
  obtain ⟨_, _, rfl, -, -⟩ := headOfTokens_eq_ok_iff.1 hof
  exact Token.isValid_of_mem_readFrom hts _ (.head _)

theorem finish_eq_ok_iff {h : Head} {sig : Signature} :
    h.finish = .ok sig ↔ ∃ ts, Token.read h.rest = .ok ts ∧
      ∃ ps, parametersOfTokens ts = .ok ps ∧ sig = ⟨h.name, h.result, ps⟩ := by
  constructor
  · intro hfinish
    obtain ⟨ts, hts, hfinish⟩ := bind_eq_ok_iff.1 hfinish
    obtain ⟨ps, hps, hfinish⟩ := bind_eq_ok_iff.1 hfinish
    cases hfinish
    exact ⟨ts, (Token.readFrom_eq_ok_iff _ 1).1 (mapError_eq_ok_iff.1 hts), ps,
      mapError_eq_ok_iff.1 hps, rfl⟩
  · rintro ⟨ts, hts, ps, hps, rfl⟩
    have hts : Token.readFrom (h.opening.length + 2) h.rest = .ok ts :=
      (Token.readFrom_eq_ok_iff 1 _).1 hts
    simp only [Head.finish, hts, mapError_ok, bind_ok, hps]
    rfl

theorem read_eq_ok_iff {source marker : Text} {sig : Signature} :
    read source marker = .ok sig ↔ ∃ h, readHead source marker = .ok h ∧ h.finish = .ok sig :=
  bind_eq_ok_iff

/-- Two cuts at a token that stands in neither first part are the same. -/
theorem append_cons_inj {t : Token} {us vs ws xs : List Token} (hu : t ∉ us) (hw : t ∉ ws)
    (h : us ++ t :: vs = ws ++ t :: xs) : us = ws ∧ vs = xs := by
  induction us generalizing ws with
  | nil =>
    cases ws with
    | nil => exact ⟨rfl, (List.cons.inj h).2⟩
    | cons w ws => exact absurd (List.mem_cons.2 (.inl (List.cons.inj h).1)) hw
  | cons u us ih =>
    cases ws with
    | nil => exact absurd (List.mem_cons.2 (.inl (List.cons.inj h).1.symm)) hu
    | cons w ws =>
      obtain ⟨rfl, htail⟩ := List.cons.inj h
      obtain ⟨rfl, rfl⟩ := ih (fun hm => hu (.tail u hm)) (fun hm => hw (.tail u hm)) htail
      exact ⟨rfl, rfl⟩

theorem declares_of_read {source marker : Text} {sig : Signature}
    (h : read source marker = .ok sig) :
    ∃ ts, Token.read source = .ok ts ∧ Declares marker ts sig := by
  obtain ⟨h, hread, hfinish⟩ := read_eq_ok_iff.1 h
  obtain ⟨rfl, hopen, ts, hts, hhead⟩ := readHead_eq_ok_iff.1 hread
  obtain ⟨head, type, rfl, isHead, hresult⟩ := headOfTokens_eq_ok_iff.1 hhead
  obtain ⟨us, hus, ps, hps, rfl⟩ := finish_eq_ok_iff.1 hfinish
  obtain ⟨parameters, ending, rfl, isList, isEnding⟩ := isParameterList_of_parametersOfTokens hps
  refine ⟨_, Token.read_cut_iff.2 ⟨_, _, hts, hus, rfl⟩, ?_⟩
  rw [hresult]
  have hd : Declares marker _ _ := .intro isHead isList isEnding
  simpa using hd

theorem read_of_declares {source marker : Text} {sig : Signature}
    (hts : Token.read source = .ok ts) (hd : Declares marker ts sig) :
    read source marker = .ok sig := by
  obtain ⟨isHead, isList, isEnding⟩ := hd
  rename_i head parameters ending result name ps
  rw [List.append_assoc] at hts
  obtain ⟨opening, rest, rfl, hopen⟩ := List.eq_append_cons_of_mem
    (Token.leftParen_mem_of_readFrom hts (by simp))
  obtain ⟨us, vs, hus, hvs, heq⟩ := Token.read_cut_iff.1 hts
  have hne : .leftParen ∉ .name marker :: head := by
    intro hm
    rcases List.mem_cons.1 hm with hm | hm
    · cases hm
    · exact Bool.noConfusion (isHead.run _ hm)
  -- Neither part before the parenthesis has one, so the two cuts are at the same place.
  obtain ⟨rfl, rfl⟩ := append_cons_inj hne
    (fun hm => hopen (Token.leftParen_mem_of_readFrom hus hm)) heq
  refine read_eq_ok_iff.2 ⟨⟨name, Token.spell result, opening, rest⟩, ?_, ?_⟩
  · exact readHead_eq_ok_iff.2
      ⟨rfl, hopen, _, hus, headOfTokens_eq_ok_iff.2 ⟨head, result, rfl, isHead, rfl⟩⟩
  · exact finish_eq_ok_iff.2 ⟨_, hvs, ps, isList.parametersOfTokens isEnding, rfl⟩

/-- Reading accepts exactly the texts whose tokens the grammar derives, with the signature that it
gives them. -/
theorem read_eq_ok_iff_declares (source marker : Text) (sig : Signature) :
    read source marker = .ok sig ↔
      ∃ ts, Token.read source = .ok ts ∧ Declares marker ts sig :=
  ⟨declares_of_read, fun ⟨_, hts, hd⟩ => read_of_declares hts hd⟩

end CallTracer.Declaration
