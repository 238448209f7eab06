import CallTracer.Proofs.Grammar
import CallTracer.Proofs.TokenPlaces
/-! Declarations are cut at their first parenthesis, but neither their tokens nor the columns of
their faults show it: a character is reported exactly as if the text were read as a whole. -/
namespace CallTracer
open Outcome

theorem Token.read_cut_eq_error_iff {s t : Text} {bad : BadCharacter} :
    read (s ++ '(' :: t) = .error bad ↔
      read s = .error bad ∨ ∃ us, read s = .ok us ∧ readFrom (s.length + 2) t = .error bad := by
  rw [read, readFrom_append s rfl, readFrom_punctuation rfl rfl, bind_eq_error_iff]
  simp only [map_eq_error_iff, Nat.add_comm 1 s.length]
  rfl

namespace Declaration

variable {source marker opening rest : Text} {ts : List Token} {bad : BadCharacter} {head : Head}
  {fault : Fault}

/-- The tokens of a head are at fault without the marker before them, or else are malformed. -/
theorem fault_of_headOfTokens (h : headOfTokens source marker ts = .error fault) :
    (fault = .missingMarker marker ∧ ts.head? ≠ some (.name marker)) ∨
      ∃ reason, fault = .malformed source reason := by
  unfold headOfTokens at h
  split at h
  · rename_i m us
    split at h
    · rename_i hne
      cases h
      refine .inl ⟨rfl, fun hhead => ?_⟩
      cases hhead
      exact hne rfl
    · split at h
      · cases h
        exact .inr ⟨_, rfl⟩
      · dsimp only at h
        split at h <;> cases h
        exact .inr ⟨_, rfl⟩
  · rename_i hfirst
    cases h
    refine .inl ⟨rfl, fun hhead => ?_⟩
    obtain ⟨us, hus⟩ := List.head?_eq_some_iff.1 hhead
    exact hfirst marker us hus

theorem readHead_cut_eq_error_iff (h : '(' ∉ opening) :
    readHead (opening ++ '(' :: rest) marker = .error fault ↔
      (∃ bad, Token.read opening = .error bad ∧ .badCharacter bad = fault) ∨
        ∃ ts, Token.read opening = .ok ts ∧
          headOfTokens (opening ++ '(' :: rest) marker ts = .error fault := by
  simp only [readHead_cut h, bind_eq_error_iff, mapError_eq_error_iff, mapError_eq_ok_iff]
  refine or_congr_right (exists_congr fun ts => and_congr_right fun _ => or_iff_left ?_)
  rintro ⟨_, _, hvalue⟩
  cases hvalue

theorem finish_eq_error_iff : head.finish = .error fault ↔
    (∃ bad, Token.readFrom (head.opening.length + 2) head.rest = .error bad ∧
      .badCharacter bad = fault) ∨
    ∃ ts, Token.readFrom (head.opening.length + 2) head.rest = .ok ts ∧
      ∃ reason, parametersOfTokens ts = .error reason ∧ .malformed head.source reason = fault := by
  rw [Head.finish]
  simp only [bind_eq_error_iff, mapError_eq_error_iff, mapError_eq_ok_iff]
  refine or_congr_right (exists_congr fun ts => and_congr_right fun _ => or_iff_left ?_)
  rintro ⟨_, _, hvalue⟩
  cases hvalue

theorem readHead_eq_badCharacter_iff (h : '(' ∉ opening) :
    readHead (opening ++ '(' :: rest) marker = .error (.badCharacter bad) ↔
      Token.read opening = .error bad := by
  rw [readHead_cut_eq_error_iff h]
  constructor
  · rintro (⟨_, hbad, heq⟩ | ⟨ts, -, hhead⟩)
    · cases heq
      exact hbad
    · rcases fault_of_headOfTokens hhead with ⟨heq, -⟩ | ⟨reason, heq⟩ <;> cases heq
  · intro hbad
    exact .inl ⟨bad, hbad, rfl⟩

theorem finish_eq_badCharacter_iff : head.finish = .error (.badCharacter bad) ↔
    Token.readFrom (head.opening.length + 2) head.rest = .error bad := by
  rw [finish_eq_error_iff]
  constructor
  · rintro (⟨_, hbad, heq⟩ | ⟨ts, -, reason, -, heq⟩) <;> cases heq
    exact hbad
  · intro hbad
    exact .inl ⟨bad, hbad, rfl⟩

/-- A character that a declaration is rejected for is the one that the reading of the whole text
fails at. -/
theorem read_eq_error_of_badCharacter (h : read source marker = .error (.badCharacter bad)) :
    Token.read source = .error bad := by
  by_cases hcut : '(' ∈ source
  · obtain ⟨opening, rest, rfl, hopen⟩ := List.eq_append_cons_of_mem hcut
    rw [read, bind_eq_error_iff] at h
    rw [Token.read_cut_eq_error_iff]
    rcases h with h | ⟨head, hhead, h⟩
    · exact .inl ((readHead_eq_badCharacter_iff hopen).1 h)
    · rw [readHead_cut hopen] at hhead
      obtain ⟨ts, hts, hhead⟩ := bind_eq_ok_iff.1 hhead
      obtain ⟨parts, -, hhead⟩ := bind_eq_ok_iff.1 hhead
      cases hhead
      exact .inr ⟨ts, mapError_eq_ok_iff.1 hts, finish_eq_badCharacter_iff.1 h⟩
  · rw [read, readHead_of_not_mem hcut] at h
    cases h

theorem exists_error_of_read_eq_error (h : Token.read source = .error bad) (marker : Text) :
    ∃ fault, read source marker = .error fault := by
  cases hread : read source marker with
  | error fault => exact ⟨fault, rfl⟩
  | ok s =>
    obtain ⟨ts, hts, -⟩ := declares_of_read hread
    rw [h] at hts
    cases hts

/-- The cut of a declaration does not show. The tokens before the first parenthesis, it and the
tokens behind it are those of the whole text; a character that a declaration is rejected for is the
one that the whole text is rejected for, and stands in its column; and what is rejected as a whole
is no declaration. -/
theorem cut_unseen (source marker : Text) :
    (∀ opening rest, source = opening ++ '(' :: rest → '(' ∉ opening →
      ∀ ts, Token.read source = .ok ts ↔ ∃ us vs, Token.read opening = .ok us ∧
        Token.read rest = .ok vs ∧ ts = us ++ .leftParen :: vs) ∧
    (∀ bad, read source marker = .error (.badCharacter bad) →
      Token.read source = .error bad ∧
        ∃ i, bad.column = i + 1 ∧ source[i]? = some bad.char) ∧
    ∀ bad, Token.read source = .error bad → ∃ fault, read source marker = .error fault := by
  refine ⟨?_, fun bad h => ?_, fun bad h => exists_error_of_read_eq_error h marker⟩
  · rintro opening rest rfl - ts
    exact Token.read_cut_iff
  · have hwhole := read_eq_error_of_badCharacter h
    obtain ⟨i, hcolumn, hstray, -⟩ := Token.read_eq_error_iff.1 hwhole
    exact ⟨hwhole, i, hcolumn, hstray.1⟩

/-- A bracket behind the parenthesis and a blank of two bytes before it. -/
theorem cut_unseen_array :
    let source := "GLAPI\u00a0void glFoo (GLfloat v[4]);".toList
    read source "GLAPI".toList = .error (.badCharacter ⟨'[', 28⟩) ∧
      Token.read source = .error ⟨'[', 28⟩ ∧
      ∃ i, (⟨'[', 28⟩ : BadCharacter).column = i + 1 ∧ source[i]? = some '[' := by
  intro source
  have h : read source "GLAPI".toList = .error (.badCharacter ⟨'[', 28⟩) := by decide +kernel
  exact ⟨h, (cut_unseen source "GLAPI".toList).2.1 _ h⟩

end Declaration
end CallTracer
