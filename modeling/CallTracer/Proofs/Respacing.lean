import CallTracer.Proofs.LineText
import CallTracer.Proofs.TokenReading
import Mathlib.Data.List.Induction
/-! Texts that differ only in what their runs of blanks consist of. They have the same words and the
same tokens, and they stay such texts when they are trimmed or cut. -/
namespace CallTracer

namespace Text

/-- Blanks that can stand on a line. -/
def IsPadding (s : Text) : Prop := ∀ c ∈ s, isBlank c ∧ c ≠ '\n'

instance (s : Text) : Decidable (IsPadding s) := List.decidableBAll _ s

/-- Texts on one line in which runs of blanks correspond to each other and all else is the same. -/
inductive Respaced : Text → Text → Prop
  | nil : Respaced [] []
  | char {c : Char} {s t : Text} (hc : isBlank c = false) (h : Respaced s t) :
    Respaced (c :: s) (c :: t)
  | run {u v s t : Text} (hu : IsPadding u) (hv : IsPadding v) (ne : u ≠ []) (ne' : v ≠ [])
    (h : Respaced s t) : Respaced (u ++ s) (v ++ t)

variable {s t u v w : Text} {c : Char} {p : Char → Bool}

theorem trimStart_of_not_blank (hc : isBlank c = false) (s : Text) :
    trimStart (c :: s) = c :: s := List.dropWhile_cons_of_neg (by simp [hc])

theorem trimStart_blank (hc : isBlank c) (s : Text) : trimStart (c :: s) = trimStart s :=
  List.dropWhile_cons_of_pos hc

theorem trimStart_padding (h : IsPadding u) (s : Text) : trimStart (u ++ s) = trimStart s :=
  List.dropWhile_append_of_pos fun c hc => (h c hc).1

theorem trimEnd_padding (h : IsPadding u) (s : Text) : trimEnd (s ++ u) = trimEnd s := by
  have hall : ∀ c ∈ u.reverse, isBlank c := fun c hc => (h c (List.mem_reverse.1 hc)).1
  rw [trimEnd, List.reverse_append, List.dropWhile_append_of_pos hall, trimEnd]

/-- Blanks around a text are trimmed, unless it consists of blanks itself. -/
theorem trim_padding (hu : IsPadding u) (hv : IsPadding v) (ne : trimStart s ≠ []) :
    trim (u ++ s ++ v) = trim s := by
  rw [trim, List.append_assoc, trimStart_padding hu, trimStart_append, if_neg ne,
    trimEnd_padding hv, trim]

/-- A run of characters other than blanks does not go on into blanks. -/
theorem span_padding (hp : ∀ c, isBlank c → p c = false) (hu : IsPadding u) (ne : u ≠ [])
    (s : Text) : (u ++ s).takeWhile p = [] ∧ (u ++ s).dropWhile p = u ++ s := by
  obtain ⟨c, u, rfl⟩ := List.exists_cons_of_ne_nil ne
  simp [hp c (hu c (.head u)).1]

theorem words_blank (hc : isBlank c) (s : Text) : words (c :: s) = words s := by
  rw [words, words, trimStart_blank hc]

theorem words_of_not_blank (hc : isBlank c = false) (s : Text) :
    words (c :: s) = (c :: s.takeWhile (!isBlank ·)) :: words (s.dropWhile (!isBlank ·)) := by
  rw [words, trimStart_of_not_blank hc]

theorem words_padding (h : IsPadding u) (s : Text) : words (u ++ s) = words s := by
  rw [words, words, trimStart_padding h]

theorem words_eq_nil_iff : words s = [] ↔ ∀ c ∈ s, isBlank c := by
  induction s with
  | nil => simp
  | cons c s ih =>
    rw [List.forall_mem_cons]
    by_cases hc : isBlank c
    · rw [words_blank hc, ih, and_iff_right hc]
    · rw [words_of_not_blank (eq_false_of_ne_true hc)]
      simp [hc]

/-- A blank at the end belongs to no word. -/
theorem words_append_blank (hc : isBlank c) (s : Text) : words (s ++ [c]) = words s ∧
    words ((s ++ [c]).dropWhile (!isBlank ·)) = words (s.dropWhile (!isBlank ·)) := by
  have hstop : ∀ s, (s ++ [c]).takeWhile (!isBlank ·) = s.takeWhile (!isBlank ·) := fun s =>
    takeWhile_append_stop (by simp [hc]) s []
  induction s with
  | nil => simp [words_blank hc, hc]
  | cons d s ih =>
    by_cases hd : isBlank d
    · simp [words_blank hd, hd, ih.1]
    · have hd : isBlank d = false := eq_false_of_ne_true hd
      simp [words_of_not_blank hd, hd, ih.2, hstop]

@[simp] theorem words_trim (s : Text) : words (trim s) = words s := by
  have hstart : words (trimStart s) = words s := by
    induction s with
    | nil => rfl
    | cons c s ih =>
      by_cases hc : isBlank c
      · rw [trimStart_blank hc, ih, words_blank hc]
      · rw [trimStart_of_not_blank (eq_false_of_ne_true hc)]
  rw [← hstart, trim]
  induction trimStart s using List.reverseRecOn with
  | nil => rfl
  | append_singleton s c ih =>
    rw [trimEnd_append]
    by_cases hc : isBlank c
    · rw [if_pos (by simp [trimEnd, hc]), ih, (words_append_blank hc s).1]
    · have hend : trimEnd [c] = [c] := by simp [trimEnd, hc]
      rw [hend, if_neg (List.cons_ne_nil c [])]

theorem isPrefixOf_takeWhile (hw : ∀ c ∈ w, p c) (s : Text) :
    w.isPrefixOf (s.takeWhile p) = w.isPrefixOf s := by
  induction w generalizing s with
  | nil => simp
  | cons c w ih =>
    obtain ⟨hc, hw⟩ := List.forall_mem_cons.1 hw
    cases s with
    | nil => simp
    | cons d s =>
      by_cases hd : p d
      · simp [hd, List.isPrefixOf, ih hw]
      · have hne : c ≠ d := by
          rintro rfl
          exact hd hc
        simp [hd, List.isPrefixOf, hne]

/-- With what a text begins behind its blanks is seen from its first word. -/
theorem isPrefixOf_trimStart (ne : w ≠ []) (hw : ∀ c ∈ w, !isBlank c) (s : Text) :
    w.isPrefixOf (trimStart s) = (words s).head?.any (w.isPrefixOf ·) := by
  rw [head?_words]
  split
  · rename_i hnil
    obtain ⟨c, w, rfl⟩ := List.exists_cons_of_ne_nil ne
    rw [hnil]
    rfl
  · exact (isPrefixOf_takeWhile hw _).symm

namespace Respaced

theorem refl (h : '\n' ∉ s) : Respaced s s := by
  induction s with
  | nil => exact .nil
  | cons c s ih =>
    obtain ⟨hc, hs⟩ := List.ne_and_not_mem_of_not_mem_cons h
    by_cases hblank : isBlank c
    · have hpadding : IsPadding [c] := List.forall_mem_singleton.2 ⟨hblank, hc.symm⟩
      exact .run hpadding hpadding (List.cons_ne_nil c []) (List.cons_ne_nil c []) (ih hs)
    · exact .char (eq_false_of_ne_true hblank) (ih hs)

theorem append {s' t' : Text} (h : Respaced s t) (h' : Respaced s' t') :
    Respaced (s ++ s') (t ++ t') := by
  induction h with
  | nil => exact h'
  | char hc _ ih => exact .char hc ih
  | run hu hv ne ne' _ ih =>
    rw [List.append_assoc, List.append_assoc]
    exact .run hu hv ne ne' ih

theorem reverse (h : Respaced s t) : Respaced s.reverse t.reverse := by
  induction h with
  | nil => exact .nil
  | char hc _ ih =>
    rw [List.reverse_cons, List.reverse_cons]
    exact ih.append (.char hc .nil)
  | @run u v _ _ hu hv ne ne' _ ih =>
    have hrun : Respaced (u.reverse ++ []) (v.reverse ++ []) :=
      .run (fun c hc => hu c (List.mem_reverse.1 hc)) (fun c hc => hv c (List.mem_reverse.1 hc))
        (by simpa using ne) (by simpa using ne') .nil
    rw [List.append_nil, List.append_nil] at hrun
    rw [List.reverse_append, List.reverse_append]
    exact ih.append hrun

theorem trimStart (h : Respaced s t) : Respaced (trimStart s) (trimStart t) := by
  induction h with
  | nil => exact .nil
  | char hc h =>
    rw [trimStart_of_not_blank hc, trimStart_of_not_blank hc]
    exact .char hc h
  | run hu hv _ _ _ ih =>
    rw [trimStart_padding hu, trimStart_padding hv]
    exact ih

theorem trim (h : Respaced s t) : Respaced (trim s) (trim t) :=
  h.trimStart.reverse.trimStart.reverse

theorem not_mem_newline (h : Respaced s t) : '\n' ∉ s ∧ '\n' ∉ t := by
  induction h with
  | nil => simp
  | @char c _ _ hc _ ih =>
    have hne : '\n' ≠ c := by
      rintro rfl
      exact Bool.noConfusion hc
    simp [hne, ih]
  | run hu hv _ _ _ ih =>
    simp only [List.mem_append, not_or]
    exact ⟨⟨fun hm => (hu _ hm).2 rfl, ih.1⟩, ⟨fun hm => (hv _ hm).2 rfl, ih.2⟩⟩

theorem eq_nil_iff (h : Respaced s t) : s = [] ↔ t = [] := by
  cases h with
  | nil => rfl
  | char => simp
  | run _ _ ne ne' => simp [ne, ne']

/-- What stands behind a character that is not a blank corresponds again. -/
theorem exists_cons (hc : isBlank c = false) (h : Respaced (c :: s) t) :
    ∃ r, t = c :: r ∧ Respaced s r := by
  generalize hx : c :: s = x at h
  cases h with
  | nil => cases hx
  | char _ h =>
    cases hx
    exact ⟨_, rfl, h⟩
  | @run u _ _ _ hu _ ne =>
    obtain ⟨d, u, rfl⟩ := List.exists_cons_of_ne_nil ne
    cases hx
    rw [(hu _ (.head u)).1] at hc
    exact Bool.noConfusion hc

/-- A run of characters other than blanks ends in both texts at the same place. -/
theorem span (hp : ∀ c, isBlank c → p c = false) (h : Respaced s t) :
    s.takeWhile p = t.takeWhile p ∧ Respaced (s.dropWhile p) (t.dropWhile p) := by
  induction h with
  | nil => exact ⟨rfl, .nil⟩
  | @char c s t hc h ih =>
    by_cases hpc : p c
    · simpa [hpc] using ih
    · simpa [hpc] using Respaced.char hc h
  | run hu hv ne ne' h =>
    obtain ⟨htake, hdrop⟩ := span_padding hp hu ne _
    obtain ⟨htake', hdrop'⟩ := span_padding hp hv ne' _
    rw [htake, hdrop, htake', hdrop']
    exact ⟨rfl, .run hu hv ne ne' h⟩

/-- If blanks go through, what goes through corresponds and the rest too. -/
theorem span_of_blank (hp : ∀ c, isBlank c → p c) (h : Respaced s t) :
    Respaced (s.takeWhile p) (t.takeWhile p) ∧ Respaced (s.dropWhile p) (t.dropWhile p) := by
  induction h with
  | nil => exact ⟨.nil, .nil⟩
  | @char c s t hc h ih =>
    by_cases hpc : p c
    · simpa [hpc] using ⟨.char hc ih.1, ih.2⟩
    · simpa [hpc] using ⟨.nil, .char hc h⟩
  | run hu hv ne ne' h ih =>
    have hall : ∀ {u}, IsPadding u → ∀ c ∈ u, p c := fun hu c hc => hp c (hu c hc).1
    rw [List.takeWhile_append_of_pos (hall hu), List.takeWhile_append_of_pos (hall hv),
      List.dropWhile_append_of_pos (hall hu), List.dropWhile_append_of_pos (hall hv)]
    exact ⟨.run hu hv ne ne' ih.1, ih.2⟩

theorem words_eq (h : Respaced s t) : words s = words t := by
  have hp : ∀ c, isBlank c → (!isBlank c) = false := fun c hc => by rw [hc]; rfl
  -- The words behind the first one are those of what the first one leaves.
  suffices hboth : words s = words t ∧
      words (s.dropWhile (!isBlank ·)) = words (t.dropWhile (!isBlank ·)) from hboth.1
  induction h with
  | nil => exact ⟨rfl, rfl⟩
  | @char c s t hc h ih =>
    have hdrop : ∀ s : Text, (c :: s).dropWhile (!isBlank ·) = s.dropWhile (!isBlank ·) :=
      fun s => List.dropWhile_cons_of_pos (by simp [hc])
    rw [words_of_not_blank hc, words_of_not_blank hc, (h.span hp).1, hdrop, hdrop, ih.2]
    exact ⟨rfl, rfl⟩
  | run hu hv ne ne' _ ih =>
    rw [(span_padding hp hu ne _).2, (span_padding hp hv ne' _).2, words_padding hu,
      words_padding hv]
    exact ⟨ih.1, ih.1⟩

theorem words_eq_of_trim (h : Respaced (Text.trim s) (Text.trim t)) : words s = words t := by
  rw [← words_trim s, h.words_eq, words_trim]

end Respaced

end Text

namespace Token
open Outcome

variable {c : Char} {s t u : Text} {a : Token}

/-- The tokens of a text, or the character that starts none, wherever it stands. -/
def outline (s : Text) : Except Char (List Token) := (read s).mapError BadCharacter.char

theorem mapError_char_readFrom (column : Nat) (s : Text) :
    (readFrom column s).mapError BadCharacter.char = outline s := by
  have hzero : ∀ k, (readFrom k s).mapError BadCharacter.char =
      (readFrom 0 s).mapError BadCharacter.char := fun k => by
    rw [← Nat.zero_add k, readFrom_add]
    cases readFrom 0 s <;> rfl
  rw [outline, read, hzero column, hzero 1]

theorem outline_blank (hc : Text.isBlank c) (s : Text) : outline (c :: s) = outline s := by
  rw [outline, read, readFrom_blank hc, mapError_char_readFrom]

theorem outline_padding (h : Text.IsPadding u) (s : Text) : outline (u ++ s) = outline s := by
  induction u with
  | nil => rfl
  | cons c u ih =>
    obtain ⟨hc, hu⟩ := List.forall_mem_cons.1 h
    rw [List.cons_append, outline_blank hc.1, ih hu]

theorem outline_punctuation (hb : Text.isBlank c = false) (h : ofPunctuation? c = some a)
    (s : Text) : outline (c :: s) = (outline s).map (a :: ·) := by
  rw [outline, read, readFrom_punctuation hb h, ← mapError_char_readFrom 2]
  cases readFrom 2 s <;> rfl

theorem outline_start (h : Identifier.isStart c) (s : Text) : outline (c :: s) =
    (outline (s.dropWhile Identifier.isPart)).map
      (.name (c :: s.takeWhile Identifier.isPart) :: ·) := by
  rw [outline, read, readFrom_start h, ← mapError_char_readFrom]
  cases readFrom _ (s.dropWhile Identifier.isPart) <;> rfl

theorem outline_bad (hb : Text.isBlank c = false) (hp : ofPunctuation? c = none)
    (hs : Identifier.isStart c = false) (s : Text) : outline (c :: s) = .error c := by
  rw [outline, read, readFrom_bad hb hp hs]
  rfl

theorem outline_of_respaced (h : Text.Respaced s t) : outline s = outline t := by
  have hp : ∀ c, Text.isBlank c → Identifier.isPart c = false :=
    fun c => Identifier.isPart_of_isBlank
  -- The tokens behind a name are those of what the name leaves.
  suffices hboth : outline s = outline t ∧
      outline (s.dropWhile Identifier.isPart) = outline (t.dropWhile Identifier.isPart) from hboth.1
  induction h with
  | nil => exact ⟨rfl, rfl⟩
  | @char c s t hc h ih =>
    have hcons : outline (c :: s) = outline (c :: t) := by
      cases hpunctuation : ofPunctuation? c with
      | some a =>
        rw [outline_punctuation hc hpunctuation, outline_punctuation hc hpunctuation, ih.1]
      | none =>
        by_cases hs : Identifier.isStart c
        · rw [outline_start hs, outline_start hs, (h.span hp).1, ih.2]
        · have hs := eq_false_of_ne_true hs
          rw [outline_bad hc hpunctuation hs, outline_bad hc hpunctuation hs]
    refine ⟨hcons, ?_⟩
    by_cases hpart : Identifier.isPart c
    · rw [List.dropWhile_cons_of_pos hpart, List.dropWhile_cons_of_pos hpart, ih.2]
    · rw [List.dropWhile_cons_of_neg hpart, List.dropWhile_cons_of_neg hpart, hcons]
  | run hu hv ne ne' _ ih =>
    rw [(Text.span_padding hp hu ne _).2, (Text.span_padding hp hv ne' _).2, outline_padding hu,
      outline_padding hv]
    exact ⟨ih.1, ih.1⟩

end Token
end CallTracer
