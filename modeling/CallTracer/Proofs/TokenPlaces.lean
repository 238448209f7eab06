import CallTracer.Proofs.TokenReading
import Mathlib.Data.List.Forall2
/-! Where tokens stand in a text. A text can be read exactly if none of its characters is stray; the
first stray one is the fault. What is read are the maximal names and the punctuation, in order, and
all texts that tokens can be written as are read back. -/
namespace CallTracer.Token
open Outcome

variable {column i : Nat} {c d : Char} {n s : Text} {u : Token} {ts : List Token}
  {before : Option Char} {bad : BadCharacter}

def isName (u : Token) : Bool := u.name?.isSome

/-- The texts that tokens can be written as: blanks may stand anywhere between the tokens and around
them, and at least one stands between two names. -/
inductive Writes : List Token → Text → Prop
  | nil : Writes [] []
  | blank {c : Char} {ts : List Token} {s : Text} (hc : Text.isBlank c) (h : Writes ts s) :
    Writes ts (c :: s)
  | token {u : Token} {ts : List Token} {s : Text}
    (apart : u.isName → ts.head?.any isName → s.head?.any Text.isBlank) (h : Writes ts s) :
    Writes (u :: ts) (u.text ++ s)

/-- A token at a place of a text: a name that goes on to neither side, or one character. -/
inductive StandsAt (s : Text) : Nat → Token → Prop
  | name {before n after : Text} (parts : s = before ++ n ++ after) (valid : Identifier.isValid n)
    (left : before.getLast?.all (!Identifier.isPart ·))
    (right : after.head?.all (!Identifier.isPart ·)) : StandsAt s before.length (.name n)
  | punctuation {before after : Text} {c : Char} {u : Token} (parts : s = before ++ c :: after)
    (hu : ofPunctuation? c = some u) : StandsAt s before.length u

/-- Whether a character can neither separate tokens nor belong to one behind another character. -/
def isStray (before : Option Char) (c : Char) : Bool :=
  !Text.isBlank c && !"*(),;".toList.contains c && !(c.isAlpha || c == '_') &&
    !(c.isDigit && before.any fun b => b.isAlphanum || b == '_')

/-- The character before a position of a text, with something before the text itself. -/
def charBefore (before : Option Char) (s : Text) : Nat → Option Char
  | 0 => before
  | i + 1 => s[i]?

/-- A stray character at a position of a text behind something. -/
def StrayAt (before : Option Char) (s : Text) (i : Nat) (c : Char) : Prop :=
  s[i]? = some c ∧ isStray (charBefore before s i) c

theorem endsName_eq (s : Text) : endsName s = s.head?.all (!Identifier.isPart ·) := by
  cases s <;> rfl

theorem isPart_of_ofPunctuation? (h : ofPunctuation? c = some u) :
    Identifier.isPart c = false :=
  eq_false_of_ne_true fun hc => by simp [ofPunctuation?_of_isPart hc] at h

theorem isSome_ofPunctuation? (c : Char) :
    (ofPunctuation? c).isSome = "*(),;".toList.contains c := by
  unfold ofPunctuation?
  split
  case h_6 => simp_all
  all_goals rfl

theorem endsName_dropWhile (s : Text) : endsName (s.dropWhile Identifier.isPart) := by
  induction s with
  | nil => rfl
  | cons c s ih =>
    by_cases hc : Identifier.isPart c
    · rwa [List.dropWhile_cons_of_pos hc]
    · rw [List.dropWhile_cons_of_neg hc]
      simpa [endsName] using hc

theorem text_of_ofPunctuation? (h : ofPunctuation? c = some u) :
    u.text = [c] ∧ u.isName = false := by
  unfold ofPunctuation? at h
  split at h <;> cases h <;> exact ⟨rfl, rfl⟩

/-- Of every token but a name the text is one character, which is read as it. -/
theorem exists_text_of_not_isName (h : u.isName = false) :
    ∃ c, u.text = [c] ∧ ofPunctuation? c = some u ∧ Text.isBlank c = false := by
  cases u with
  | name n => cases h
  | star => exact ⟨'*', rfl, rfl, rfl⟩
  | leftParen => exact ⟨'(', rfl, rfl, rfl⟩
  | rightParen => exact ⟨')', rfl, rfl, rfl⟩
  | comma => exact ⟨',', rfl, rfl, rfl⟩
  | semicolon => exact ⟨';', rfl, rfl, rfl⟩

theorem exists_of_isName (h : u.isName) : ∃ n, u = .name n := by
  cases u with
  | name n => exact ⟨n, rfl⟩
  | _ => cases h

namespace Writes

/-- No name runs on into a text unless it begins with a name itself. -/
theorem endsName_iff (h : Writes ts s) (valid : ∀ u ∈ ts, u.isValid) :
    endsName s ↔ (ts.head?.any isName → s.head?.any Text.isBlank) := by
  cases h with
  | nil => simp [endsName]
  | blank hc => simp [endsName, hc, Identifier.isPart_of_isBlank hc]
  | @token u ts s =>
    cases hu : u.isName with
    | true =>
      obtain ⟨n, rfl⟩ := exists_of_isName hu
      obtain ⟨c, m, rfl, hc⟩ := Identifier.exists_cons_of_isValid (valid (.name n) (.head ts))
      simp [endsName, text, isName, name?, hc, Identifier.isBlank_of_isPart hc]
    | false =>
      obtain ⟨c, htext, hc, -⟩ := exists_text_of_not_isName hu
      simp [htext, endsName, isPart_of_ofPunctuation? hc, hu]

theorem read (h : Writes ts s) (valid : ∀ u ∈ ts, u.isValid) : read s = .ok ts := by
  induction h with
  | nil => exact readFrom_nil 1
  | blank hc _ ih => exact (read_blank_cons hc).2 (ih valid)
  | @token u ts s apart h ih =>
    obtain ⟨hu, hts⟩ := List.forall_mem_cons.1 valid
    cases hname : u.isName with
    | true =>
      obtain ⟨n, rfl⟩ := exists_of_isName hname
      exact read_append ((h.endsName_iff hts).2 (apart hname)) (read_name hu) (ih hts)
    | false =>
      obtain ⟨c, htext, hc, hblank⟩ := exists_text_of_not_isName hname
      rw [htext]
      exact read_punctuation_cons hblank hc (ih hts)

/-- The texts of the tokens are all but the blanks of the text. -/
theorem flatMap_text (h : Writes ts s) (valid : ∀ u ∈ ts, u.isValid) :
    ts.flatMap text = s.filter (!Text.isBlank ·) := by
  induction h with
  | nil => rfl
  | blank hc _ ih => rw [ih valid, List.filter_cons_of_neg (by simp [hc])]
  | @token u ts s _ _ ih =>
    obtain ⟨hu, hts⟩ := List.forall_mem_cons.1 valid
    have htext : ∀ c ∈ u.text, !Text.isBlank c := by
      intro c hc
      cases u with
      | name n => simp [Identifier.isBlank_of_isPart (Identifier.all_isPart_of_isValid hu c hc)]
      | _ => cases List.mem_singleton.1 hc; rfl
    rw [List.flatMap_cons, List.filter_append, ih hts, List.filter_eq_self.2 htext]

/-- The first token of a text stands where the text begins, and no name runs on behind it. -/
theorem standsAt_first (hu : u.isValid) (h : Writes ts s) (hts : ∀ v ∈ ts, v.isValid)
    (apart : u.isName → ts.head?.any isName → s.head?.any Text.isBlank) {start : Text}
    (hstart : start.getLast?.all (!Identifier.isPart ·) ∨ endsName (u.text ++ s)) :
    StandsAt (start ++ (u.text ++ s)) start.length u ∧ u.text ≠ [] ∧
      ((start ++ u.text).getLast?.all (!Identifier.isPart ·) ∨ endsName s) := by
  cases hname : u.isName with
  | true =>
    obtain ⟨n, rfl⟩ := exists_of_isName hname
    obtain ⟨c, m, hn, hc⟩ := Identifier.exists_cons_of_isValid hu
    have hleft : start.getLast?.all (!Identifier.isPart ·) := by
      refine hstart.resolve_right fun hend => ?_
      simp [text, hn, endsName, hc] at hend
    have hend : endsName s := (h.endsName_iff hts).2 (apart hname)
    exact ⟨.name (by simp [text]) hu hleft (endsName_eq s ▸ hend), by simp [text, hn], .inr hend⟩
  | false =>
    obtain ⟨c, htext, hc, -⟩ := exists_text_of_not_isName hname
    rw [htext]
    refine ⟨.punctuation rfl hc, List.cons_ne_nil c [], .inl ?_⟩
    simp [isPart_of_ofPunctuation? hc]

/-- The tokens stand one behind the other in the text, behind whatever it begins behind. -/
theorem exists_places (h : Writes ts s) (valid : ∀ u ∈ ts, u.isValid) (start : Text)
    (hstart : start.getLast?.all (!Identifier.isPart ·) ∨ endsName s) :
    ∃ places : List Nat, places.Pairwise (· < ·) ∧ (∀ i ∈ places, start.length ≤ i) ∧
      List.Forall₂ (StandsAt (start ++ s)) places ts := by
  induction h generalizing start with
  | nil => exact ⟨[], .nil, by simp, .nil⟩
  | @blank c ts s hc _ ih =>
    obtain ⟨places, hascending, hfrom, hstand⟩ := ih valid (start ++ [c])
      (.inl (by simp [Identifier.isPart_of_isBlank hc]))
    refine ⟨places, hascending, fun i hi => ?_, by simpa using hstand⟩
    have := hfrom i hi
    rw [List.length_append] at this
    omega
  | @token u ts s apart h ih =>
    obtain ⟨hu, hts⟩ := List.forall_mem_cons.1 valid
    obtain ⟨hfirst, hne, hnext⟩ := standsAt_first hu h hts apart hstart
    obtain ⟨places, hascending, hfrom, hstand⟩ := ih hts (start ++ u.text) hnext
    have hbehind : ∀ i ∈ places, start.length < i := by
      intro i hi
      have := hfrom i hi
      have := List.length_pos_of_ne_nil hne
      rw [List.length_append] at *
      omega
    refine ⟨start.length :: places, List.pairwise_cons.2 ⟨hbehind, hascending⟩, ?_,
      .cons hfirst (by simpa using hstand)⟩
    exact List.forall_mem_cons.2 ⟨Nat.le_refl _, fun i hi => (hbehind i hi).le⟩

end Writes

/-- A text is written from the tokens that are read from it. -/
theorem writes_of_readFrom (h : readFrom column s = .ok ts) : Writes ts s := by
  fun_induction readFrom column s generalizing ts with
  | case1 => cases h; exact .nil
  | case2 column c s hb ih => exact .blank hb (ih h)
  | case3 column c s hb u hu ih =>
    obtain ⟨us, hus, rfl⟩ := map_eq_ok_iff.1 h
    obtain ⟨htext, hname⟩ := text_of_ofPunctuation? hu
    have hwrites := Writes.token (u := u) (fun h => by simp [hname] at h) (ih hus)
    simpa [htext] using hwrites
  | case4 column c s hb hu hs rest =>
    rename_i ih
    obtain ⟨us, hus, rfl⟩ := map_eq_ok_iff.1 h
    have hwrites := Writes.token (u := .name (c :: rest))
      (fun _ => ((ih hus).endsName_iff (isValid_of_mem_readFrom hus)).1 (endsName_dropWhile s))
      (ih hus)
    simpa [text, rest] using hwrites
  | case5 => cases h

theorem read_eq_ok_iff_writes : read s = .ok ts ↔ Writes ts s ∧ ∀ u ∈ ts, u.isValid :=
  ⟨fun h => ⟨writes_of_readFrom h, isValid_of_mem_readFrom h⟩, fun h => h.1.read h.2⟩

/-- The first stray character of a text whose first character stands in the given column. -/
def firstStray (before : Option Char) (column : Nat) : Text → Option BadCharacter
  | [] => none
  | c :: s => if isStray before c then some ⟨c, column⟩ else firstStray (some c) (column + 1) s

theorem firstStray_of_not_isStray (h : isStray before c = false) (s : Text) :
    firstStray before column (c :: s) = firstStray (some c) (column + 1) s := by
  rw [firstStray, if_neg (by simp [h])]

theorem isStray_eq (before : Option Char) (c : Char) : isStray before c =
    (!Text.isBlank c && !(ofPunctuation? c).isSome && !Identifier.isStart c &&
      !(c.isDigit && before.any Identifier.isPart)) := by
  rw [isStray, isSome_ofPunctuation?]
  rfl

theorem isStray_eq_false_iff : isStray before c = false ↔ Text.isBlank c ∨
    (ofPunctuation? c).isSome ∨ Identifier.isStart c ∨
      (c.isDigit ∧ before.any Identifier.isPart) := by
  rw [isStray_eq]
  simp only [Bool.and_eq_false_iff, Bool.not_eq_false', Bool.and_eq_true, or_assoc]

/-- Behind a character of a name no character is stray as long as the name goes on. -/
theorem exists_firstStray_dropWhile (h : before.any Identifier.isPart) (column : Nat) (s : Text) :
    ∃ last : Option Char, firstStray before column s =
      firstStray last (column + (s.takeWhile Identifier.isPart).length)
        (s.dropWhile Identifier.isPart) := by
  induction s generalizing before column with
  | nil => exact ⟨before, rfl⟩
  | cons c s ih =>
    by_cases hc : Identifier.isPart c
    · have hstray : isStray before c = false := by
        rw [isStray_eq_false_iff]
        rcases Identifier.isStart_or_isDigit hc with hs | hd
        · exact .inr (.inr (.inl hs))
        · exact .inr (.inr (.inr ⟨hd, h⟩))
      have hpart : (some c).any Identifier.isPart := hc
      obtain ⟨last, hlast⟩ := ih hpart (column + 1)
      refine ⟨last, ?_⟩
      rw [firstStray_of_not_isStray hstray, hlast, List.takeWhile_cons_of_pos hc,
        List.dropWhile_cons_of_pos hc, List.length_cons, Nat.add_assoc, Nat.add_comm 1]
    · refine ⟨before, ?_⟩
      rw [List.takeWhile_cons_of_neg hc, List.dropWhile_cons_of_neg hc]
      rfl

/-- Reading fails at the first stray character, if it begins where a token can begin. -/
theorem readFrom_eq_error_iff (hbefore : before.any Identifier.isPart → endsName s) :
    readFrom column s = .error bad ↔ firstStray before column s = some bad := by
  fun_induction readFrom column s generalizing before with
  | case1 => simp [firstStray]
  | case2 column c s hb ih =>
    rw [firstStray_of_not_isStray (isStray_eq_false_iff.2 (.inl hb))]
    exact ih fun h => by simp [Identifier.isPart_of_isBlank hb] at h
  | case3 column c s hb u hu ih =>
    rw [firstStray_of_not_isStray (isStray_eq_false_iff.2 (.inr (.inl (by simp [hu]))))]
    rw [map_eq_error_iff]
    exact ih fun h => by simp [isPart_of_ofPunctuation? hu] at h
  | case4 column c s hb hu hs rest =>
    rename_i ih
    have hpart : (some c).any Identifier.isPart := Identifier.isPart_of_isStart hs
    obtain ⟨last, hlast⟩ := exists_firstStray_dropWhile hpart (column + 1) s
    rw [firstStray_of_not_isStray (isStray_eq_false_iff.2 (.inr (.inr (.inl hs)))), hlast,
      map_eq_error_iff]
    exact ih fun _ => endsName_dropWhile s
  | case5 column c s hb hu hs =>
    have hdigit : ¬(c.isDigit ∧ before.any Identifier.isPart) := by
      rintro ⟨hd, hpart⟩
      have hend := hbefore hpart
      rw [endsName, Identifier.isPart_of_isDigit hd] at hend
      cases hend
    have hstray : isStray before c := by
      rw [← Bool.not_eq_false, isStray_eq_false_iff]
      simp [hb, hu, hs, hdigit]
    rw [firstStray, if_pos hstray]
    simp

theorem strayAt_zero : StrayAt before (c :: s) 0 d ↔ c = d ∧ isStray before d := by
  simp [StrayAt, charBefore]

theorem strayAt_succ : StrayAt before (c :: s) (i + 1) d ↔ StrayAt (some c) s i d := by
  have hbefore : (c :: s)[i]? = charBefore (some c) s i := by cases i <;> rfl
  rw [StrayAt, StrayAt, charBefore, hbefore]
  rfl

/-- The first stray character stands at a position, and none stands before it. -/
theorem firstStray_eq_some_iff : firstStray before column s = some bad ↔
    ∃ i, bad.column = column + i ∧ StrayAt before s i bad.char ∧
      ∀ j < i, ∀ c, ¬StrayAt before s j c := by
  induction s generalizing before column with
  | nil => simp [firstStray, StrayAt]
  | cons c s ih =>
    by_cases hc : isStray before c
    · rw [firstStray, if_pos hc, Option.some.injEq]
      constructor
      · rintro rfl
        exact ⟨0, rfl, strayAt_zero.2 ⟨rfl, hc⟩, fun j hj => absurd hj (Nat.not_lt_zero j)⟩
      · rintro ⟨i, hcolumn, hi, hfirst⟩
        cases i with
        | zero =>
          obtain ⟨hchar, -⟩ := strayAt_zero.1 hi
          rw [hchar]
          exact congrArg (BadCharacter.mk bad.char) hcolumn.symm
        | succ i => exact absurd (strayAt_zero.2 ⟨rfl, hc⟩) (hfirst 0 (Nat.succ_pos i) c)
    · rw [firstStray, if_neg hc, ih]
      constructor
      · rintro ⟨i, hcolumn, hi, hfirst⟩
        refine ⟨i + 1, by omega, strayAt_succ.2 hi, fun j hj d hd => ?_⟩
        cases j with
        | zero =>
          obtain ⟨rfl, hd⟩ := strayAt_zero.1 hd
          exact hc hd
        | succ j => exact hfirst j (by omega) d (strayAt_succ.1 hd)
      · rintro ⟨i, hcolumn, hi, hfirst⟩
        cases i with
        | zero =>
          obtain ⟨hchar, hd⟩ := strayAt_zero.1 hi
          exact absurd (hchar ▸ hd) hc
        | succ i =>
          refine ⟨i, by omega, strayAt_succ.1 hi, fun j hj d hd => ?_⟩
          exact hfirst (j + 1) (by omega) d (strayAt_succ.2 hd)

theorem read_eq_error_iff : read s = .error bad ↔
    ∃ i, bad.column = i + 1 ∧ StrayAt none s i bad.char ∧ ∀ j < i, ∀ c, ¬StrayAt none s j c := by
  have hbegin : (none : Option Char).any Identifier.isPart → endsName s :=
    fun h => Bool.noConfusion h
  rw [read, readFrom_eq_error_iff hbegin, firstStray_eq_some_iff]
  simp only [Nat.add_comm 1]

/-- A text can be read if none of its characters is stray. -/
theorem exists_read_iff : (∃ ts, read s = .ok ts) ↔ ∀ i c, ¬StrayAt none s i c := by
  constructor
  · rintro ⟨ts, hts⟩ i
    induction i using Nat.strong_induction_on with
    | h i ih =>
      intro c hc
      have herror : read s = .error ⟨c, i + 1⟩ := read_eq_error_iff.2 ⟨i, rfl, hc, ih⟩
      rw [hts] at herror
      cases herror
  · intro h
    cases hread : read s with
    | ok ts => exact ⟨ts, rfl⟩
    | error bad =>
      obtain ⟨i, -, hi, -⟩ := read_eq_error_iff.1 hread
      exact absurd hi (h i bad.char)

/-- What is read from a text: exactly the texts without stray characters can be read, the tokens are
all that is not blank, each at its place and none of the names cut off, the first stray character
is the fault otherwise, and tokens are read back from whatever text they are written as. -/
theorem read_exact (s : Text) :
    ((∃ ts, read s = .ok ts) ↔ ∀ i c, ¬StrayAt none s i c) ∧
    (∀ ts, read s = .ok ts → ts.flatMap text = s.filter (!Text.isBlank ·) ∧
      ∃ places : List Nat, places.Pairwise (· < ·) ∧ List.Forall₂ (StandsAt s) places ts) ∧
    (∀ bad, read s = .error bad ↔ ∃ i, bad.column = i + 1 ∧ StrayAt none s i bad.char ∧
      ∀ j < i, ∀ c, ¬StrayAt none s j c) ∧
    ∀ ts, read s = .ok ts ↔ Writes ts s ∧ ∀ u ∈ ts, u.isValid := by
  refine ⟨exists_read_iff, fun ts hts => ?_, fun bad => read_eq_error_iff,
    fun ts => read_eq_ok_iff_writes⟩
  obtain ⟨hwrites, hvalid⟩ := read_eq_ok_iff_writes.1 hts
  obtain ⟨places, hascending, -, hstand⟩ := hwrites.exists_places hvalid [] (.inl rfl)
  exact ⟨hwrites.flatMap_text hvalid, places, hascending, hstand⟩

theorem read_exact_names_and_stars :
    read "x2\u00a0**y,".toList = .ok [.name ['x', '2'], .star, .star, .name ['y'], .comma] ∧
      ∃ places : List Nat, places.Pairwise (· < ·) ∧
        List.Forall₂ (StandsAt "x2\u00a0**y,".toList) places
          [.name ['x', '2'], .star, .star, .name ['y'], .comma] := by
  have hread : read "x2\u00a0**y,".toList =
      .ok [.name ['x', '2'], .star, .star, .name ['y'], .comma] := by decide +kernel
  exact ⟨hread, ((read_exact _).2.1 _ hread).2⟩

end CallTracer.Token
