import CallTracer.Proofs.IdentifierText
import CallTracer.Proofs.Outcome
import CallTracer.Token
import Mathlib.Data.List.TakeWhile
/-! How tokens are read: one step for each kind of character, across a place where no name runs on,
and back from the canonical spelling of a type. -/
namespace CallTracer.Token
open Outcome

variable {column : Nat} {c : Char} {n s t : Text} {u : Token} {ts : List Token}

/-- Whether no name runs on into a text. -/
def endsName : Text → Bool
  | [] => true
  | c :: _ => !Identifier.isPart c

/-- Whether a name is an identifier; of other tokens nothing is asked. -/
def isValid : Token → Bool
  | .name n => Identifier.isValid n
  | _ => true

theorem ofPunctuation?_of_isPart (h : Identifier.isPart c) : ofPunctuation? c = none := by
  unfold ofPunctuation?
  split
  case h_6 => rfl
  all_goals exact absurd h (by decide)

theorem isValid_of_ofPunctuation? (h : ofPunctuation? c = some u) : u.isValid := by
  unfold ofPunctuation? at h
  split at h <;> cases h <;> rfl

theorem readFrom_blank (h : Text.isBlank c) (s : Text) :
    readFrom column (c :: s) = readFrom (column + 1) s := by
  rw [readFrom, if_pos h]

theorem readFrom_punctuation (hb : Text.isBlank c = false) (h : ofPunctuation? c = some u)
    (s : Text) : readFrom column (c :: s) = (readFrom (column + 1) s).map (u :: ·) := by
  rw [readFrom, if_neg (by simp [hb]), h]

theorem readFrom_start (h : Identifier.isStart c) (s : Text) :
    readFrom column (c :: s) =
      (readFrom (column + 1 + (s.takeWhile Identifier.isPart).length)
        (s.dropWhile Identifier.isPart)).map (.name (c :: s.takeWhile Identifier.isPart) :: ·) := by
  have hp := Identifier.isPart_of_isStart h
  rw [readFrom, if_neg (by simp [Identifier.isBlank_of_isPart hp]), ofPunctuation?_of_isPart hp]
  simp only [h, if_true]

theorem readFrom_bad (hb : Text.isBlank c = false) (hp : ofPunctuation? c = none)
    (hs : Identifier.isStart c = false) (s : Text) :
    readFrom column (c :: s) = .error ⟨c, column⟩ := by
  rw [readFrom, if_neg (by simp [hb]), hp]
  simp [hs]

theorem takeWhile_isPart_append (s : Text) (ht : endsName t) :
    (s ++ t).takeWhile Identifier.isPart = s.takeWhile Identifier.isPart ∧
      (s ++ t).dropWhile Identifier.isPart = s.dropWhile Identifier.isPart ++ t := by
  induction s with
  | nil =>
    cases t with
    | nil => simp
    | cons c t => simp_all [endsName]
  | cons c s ih =>
    by_cases hc : Identifier.isPart c
    · simpa [hc] using ih
    · simp [hc]

/-- A name is read as a whole where none runs on behind it. -/
theorem readFrom_name (hn : Identifier.isValid n) (ht : endsName t) :
    readFrom column (n ++ t) = (readFrom (column + n.length) t).map (.name n :: ·) := by
  cases n with
  | nil => exact Bool.noConfusion hn
  | cons c n =>
    have hp : ∀ a ∈ n, Identifier.isPart a :=
      fun a ha => Identifier.all_isPart_of_isValid hn a (.tail c ha)
    obtain ⟨htake, hdrop⟩ := takeWhile_isPart_append n ht
    rw [List.takeWhile_eq_self_iff.2 hp] at htake
    rw [List.dropWhile_eq_nil_iff.2 hp, List.nil_append] at hdrop
    simp only [Identifier.isValid_cons, Bool.and_eq_true] at hn
    rw [List.cons_append, readFrom_start hn.1, htake, hdrop, List.length_cons, Nat.add_assoc,
      Nat.add_comm 1]

/-- Two texts are read one after the other where no name runs on from the first into the second;
columns count on. -/
theorem readFrom_append (s : Text) (ht : endsName t) :
    readFrom column (s ++ t) =
      readFrom column s >>= fun us => (readFrom (column + s.length) t).map (us ++ ·) := by
  fun_induction readFrom column s with
  | case1 column => cases h : readFrom column t <;> simp [h]
  | case2 column c s hb ih =>
    rw [List.cons_append, readFrom_blank hb, ih, List.length_cons, Nat.add_assoc, Nat.add_comm 1]
  | case3 column c s hb u hu ih =>
    rw [List.cons_append, readFrom_punctuation (by simpa using hb) hu, ih, List.length_cons,
      Nat.add_assoc, Nat.add_comm 1]
    cases readFrom (column + 1) s with
    | error e => rfl
    | ok us => cases readFrom (column + (s.length + 1)) t <;> rfl
  | case4 column c s hb hu hs rest ih =>
    obtain ⟨htake, hdrop⟩ := takeWhile_isPart_append s ht
    have hlength : rest.length + (s.dropWhile Identifier.isPart).length = s.length := by
      rw [← List.length_append, List.takeWhile_append_dropWhile]
    rw [List.cons_append, readFrom_start hs, htake, hdrop, ih, List.length_cons,
      show column + (s.length + 1) =
        column + 1 + rest.length + (s.dropWhile Identifier.isPart).length by omega]
    cases readFrom (column + 1 + rest.length) (s.dropWhile Identifier.isPart) with
    | error e => rfl
    | ok us => cases readFrom (column + 1 + rest.length + _) t <;> rfl
  | case5 column c s hb hu hs =>
    rw [List.cons_append, readFrom_bad (by simpa using hb) hu (by simpa using hs)]
    rfl

/-- The column of the first character only moves the columns of faults. -/
theorem readFrom_add (column k : Nat) (s : Text) :
    readFrom (column + k) s =
      (readFrom column s).mapError fun bad => ⟨bad.char, bad.column + k⟩ := by
  fun_induction readFrom column s with
  | case1 column => simp
  | case2 column c s hb ih => rw [readFrom_blank hb, ← ih, Nat.add_right_comm]
  | case3 column c s hb u hu ih =>
    rw [readFrom_punctuation (by simpa using hb) hu, Nat.add_right_comm, ih]
    cases readFrom (column + 1) s <;> rfl
  | case4 column c s hb hu hs rest ih =>
    have hcolumn : column + k + 1 + rest.length = column + 1 + rest.length + k := by omega
    rw [readFrom_start hs, hcolumn, ih]
    cases readFrom (column + 1 + rest.length) (s.dropWhile Identifier.isPart) <;> rfl
  | case5 column c s hb hu hs =>
    rw [readFrom_bad (by simpa using hb) hu (by simpa using hs)]
    rfl

theorem readFrom_eq_ok_iff (column k : Nat) :
    readFrom column s = .ok ts ↔ readFrom k s = .ok ts := by
  have h : ∀ i, readFrom i s = .ok ts ↔ readFrom 0 s = .ok ts := fun i => by
    rw [← Nat.zero_add i, readFrom_add, mapError_eq_ok_iff]
  rw [h column, h k]

theorem isValid_of_mem_readFrom (h : readFrom column s = .ok ts) : ∀ u ∈ ts, u.isValid := by
  fun_induction readFrom column s generalizing ts with
  | case1 => cases h; simp
  | case2 column c s hb ih => exact ih h
  | case3 column c s hb u hu ih =>
    obtain ⟨us, hus, rfl⟩ := map_eq_ok_iff.1 h
    exact List.forall_mem_cons.2 ⟨isValid_of_ofPunctuation? hu, ih hus⟩
  | case4 column c s hb hu hs rest =>
    rename_i ih
    obtain ⟨us, hus, rfl⟩ := map_eq_ok_iff.1 h
    refine List.forall_mem_cons.2 ⟨?_, ih hus⟩
    simpa [isValid, hs] using fun a => List.mem_takeWhile_imp (l := s)
  | case5 => cases h

theorem read_append {us : List Token} (ht : endsName t) (hs : read s = .ok us)
    (hu : read t = .ok ts) : read (s ++ t) = .ok (us ++ ts) := by
  rw [read] at hs hu
  rw [read, readFrom_append s ht, hs, bind_ok, (readFrom_eq_ok_iff 1 _).1 hu]
  rfl

theorem read_blank_cons (h : Text.isBlank c) : read (c :: s) = .ok ts ↔ read s = .ok ts := by
  rw [read, readFrom_blank h]
  exact readFrom_eq_ok_iff 2 1

theorem read_punctuation_cons (hb : Text.isBlank c = false) (h : ofPunctuation? c = some u)
    (hs : read s = .ok ts) : read (c :: s) = .ok (u :: ts) := by
  rw [read, readFrom_punctuation hb h, (readFrom_eq_ok_iff 1 2).1 hs]
  rfl

theorem read_name (hn : Identifier.isValid n) : read n = .ok [.name n] := by
  have h : readFrom 1 (n ++ []) = _ := readFrom_name hn rfl
  rwa [List.append_nil, readFrom_nil, map_ok] at h

/-- The tokens of a text with a parenthesis are those before it, it, and those behind it. -/
theorem read_cut_iff : read (s ++ '(' :: t) = .ok ts ↔
    ∃ us vs, read s = .ok us ∧ read t = .ok vs ∧ ts = us ++ .leftParen :: vs := by
  rw [read, readFrom_append s rfl, readFrom_punctuation rfl rfl, bind_eq_ok_iff]
  constructor
  · rintro ⟨us, hus, h⟩
    obtain ⟨ws, hws, rfl⟩ := map_eq_ok_iff.1 h
    obtain ⟨vs, hvs, rfl⟩ := map_eq_ok_iff.1 hws
    exact ⟨us, vs, hus, (readFrom_eq_ok_iff _ 1).1 hvs, rfl⟩
  · rintro ⟨us, vs, hus, hvs, rfl⟩
    refine ⟨us, hus, ?_⟩
    rw [(readFrom_eq_ok_iff 1 _).1 hvs]
    rfl

theorem eq_of_ofPunctuation?_leftParen (h : ofPunctuation? c = some .leftParen) : c = '(' := by
  unfold ofPunctuation? at h
  split at h <;> first | rfl | cases h

theorem leftParen_mem_of_readFrom (h : readFrom column s = .ok ts) (hm : .leftParen ∈ ts) :
    '(' ∈ s := by
  fun_induction readFrom column s generalizing ts with
  | case1 => cases h; cases hm
  | case2 column c s hb ih => exact .tail c (ih h hm)
  | case3 column c s hb u hu ih =>
    obtain ⟨us, hus, rfl⟩ := map_eq_ok_iff.1 h
    rcases List.mem_cons.1 hm with rfl | hm
    · rw [eq_of_ofPunctuation?_leftParen hu]
      exact .head s
    · exact .tail c (ih hus hm)
  | case4 column c s hb hu hs rest =>
    rename_i ih
    obtain ⟨us, hus, rfl⟩ := map_eq_ok_iff.1 h
    rcases List.mem_cons.1 hm with hm | hm
    · cases hm
    · exact .tail c ((List.dropWhile_sublist _).mem (ih hus hm))
  | case5 => cases h

theorem endsName_spellAfter (ts : List Token) : endsName (spellAfter true ts) := by
  cases ts with
  | nil => rfl
  | cons u ts => cases u <;> rfl

theorem spellAfter_name (hn : Identifier.isValid n) (started : Bool) (ts : List Token) :
    spellAfter started (.name n :: ts) =
      (if started then [' '] else []) ++ (n ++ spellAfter true ts) := by
  have : n.isEmpty = false := by simpa using Identifier.ne_nil_of_isValid hn
  cases started <;> simp [spellAfter, text, this]

/-- Names and stars are read back from their spelling. -/
theorem read_spellAfter (started : Bool) (hts : ∀ u ∈ ts, u.isTypePart ∧ u.isValid) :
    read (spellAfter started ts) = .ok ts := by
  induction ts generalizing started with
  | nil => exact readFrom_nil 1
  | cons u ts ih =>
    obtain ⟨⟨htype, hvalid⟩, hrest⟩ := List.forall_mem_cons.1 hts
    cases u with
    | star => exact read_punctuation_cons rfl rfl (ih true hrest)
    | name n =>
      have hn : read (n ++ spellAfter true ts) = .ok ([.name n] ++ ts) :=
        read_append (endsName_spellAfter ts) (read_name hvalid) (ih true hrest)
      rw [spellAfter_name hvalid]
      cases started with
      | true => exact (read_blank_cons rfl).2 hn
      | false => exact hn
    | _ => exact Bool.noConfusion htype

theorem read_spell (hts : ∀ u ∈ ts, u.isTypePart ∧ u.isValid) : read (spell ts) = .ok ts :=
  read_spellAfter false hts

end CallTracer.Token
