import CallTracer.Json.Skip
/-! The grammar of JSON texts, and what is read of their strings and numbers. -/
namespace CallTracer.Json

/-- Blanks where a text may have any number of them. -/
def Blanks (s : Text) : Prop := ∀ c ∈ s, isBlank c

theorem blanks_nil : Blanks [] := by simp [Blanks]

instance (s : Text) : Decidable (Blanks s) := List.decidableBAll (isBlank ·) s

/-- Four hexadecimal digits and the code unit that they are. -/
inductive IsUnit : Text → Nat → Prop
  | digits {a b c d : Char} {k l m n : Nat} (first : hexDigit? a = some k)
      (second : hexDigit? b = some l) (third : hexDigit? c = some m)
      (fourth : hexDigit? d = some n) : IsUnit [a, b, c, d] (((k * 16 + l) * 16 + m) * 16 + n)

/-- What may stand between the quotes of a string. -/
inductive Quotable : Text → Prop
  | done : Quotable []
  | plain {c raw} (printable : 0x20 ≤ c.toNat) (quote : c ≠ '"') (backslash : c ≠ '\\')
      (rest : Quotable raw) : Quotable (c :: raw)
  | escape {e raw} (known : (simpleEscape? e).isSome) (rest : Quotable raw) :
      Quotable ('\\' :: e :: raw)
  | unit {u n raw} (unit : IsUnit u n) (rest : Quotable raw) : Quotable ('\\' :: 'u' :: (u ++ raw))

/-- What stands between the quotes of a string, and the text that it spells. Escaped surrogates come
in pairs here. -/
inductive Spells : Text → Text → Prop
  | done : Spells [] []
  | plain {c raw text} (printable : 0x20 ≤ c.toNat) (quote : c ≠ '"') (backslash : c ≠ '\\')
      (rest : Spells raw text) : Spells (c :: raw) (c :: text)
  | escape {e c raw text} (known : simpleEscape? e = some c) (rest : Spells raw text) :
      Spells ('\\' :: e :: raw) (c :: text)
  | unit {u n raw text} (unit : IsUnit u n) (leading : isLeading n = false)
      (trailing : isTrailing n = false) (rest : Spells raw text) :
      Spells ('\\' :: 'u' :: (u ++ raw)) (Char.ofNat n :: text)
  | pair {u v m n raw text} (first : IsUnit u m) (second : IsUnit v n) (leading : isLeading m)
      (trailing : isTrailing n) (rest : Spells raw text) :
      Spells ('\\' :: 'u' :: (u ++ '\\' :: 'u' :: (v ++ raw))) (joinSurrogates m n :: text)

def quoted (raw : Text) : Text := '"' :: (raw ++ ['"'])

def Digits (s : Text) : Prop := s ≠ [] ∧ ∀ c ∈ s, c.isDigit

/-- The digits before the point: a zero at their front stands there alone. -/
def IsWhole (s : Text) : Prop := Digits s ∧ (s.head? = some '0' → s = ['0'])

inductive IsFraction : Text → Prop
  | missing : IsFraction []
  | digits {s} (digits : Digits s) : IsFraction ('.' :: s)

inductive IsExponent : Text → Prop
  | missing : IsExponent []
  | digits {e sign s} (letter : e = 'e' ∨ e = 'E') (signed : sign ∈ [[], ['+'], ['-']])
      (digits : Digits s) : IsExponent (e :: (sign ++ s))

inductive IsNumber : Text → Prop
  | parts {sign whole fraction exponent} (signed : sign ∈ [[], ['-']]) (before : IsWhole whole)
      (behind : IsFraction fraction) (scaled : IsExponent exponent) :
      IsNumber (sign ++ (whole ++ (fraction ++ exponent)))

def Bracket.opening : Bracket → Char
  | list => '['
  | object => '\x7b'

inductive Phrase
  | value
  /-- An item of a list or a member of an object, with the blanks around it. -/
  | item (bracket : Bracket)
  /-- One or more of them, with commas between. -/
  | items (bracket : Bracket)

/-- The texts that are a value of any kind and depth, and those that stand in its brackets. -/
inductive Derives : Phrase → Text → Prop
  | word {s} (known : s ∈ ["null".toList, "true".toList, "false".toList]) : Derives .value s
  | string {raw} (content : Quotable raw) : Derives .value (quoted raw)
  | number {s} (number : IsNumber s) : Derives .value s
  | empty {b : Bracket} {s} (blanks : Blanks s) : Derives .value (b.opening :: (s ++ [b.closing]))
  | bracket {b : Bracket} {s} (items : Derives (.items b) s) :
      Derives .value (b.opening :: (s ++ [b.closing]))
  | listed {before s after} (before_blanks : Blanks before) (value : Derives .value s)
      (after_blanks : Blanks after) : Derives (.item .list) (before ++ (s ++ after))
  | member {before key between inner s after} (before_blanks : Blanks before)
      (named : Quotable key) (between_blanks : Blanks between) (inner_blanks : Blanks inner)
      (value : Derives .value s) (after_blanks : Blanks after) :
      Derives (.item .object)
        (before ++ (quoted key ++ (between ++ ':' :: (inner ++ (s ++ after)))))
  | last {b s} (item : Derives (.item b) s) : Derives (.items b) s
  | more {b s t} (item : Derives (.item b) s) (rest : Derives (.items b) t) :
      Derives (.items b) (s ++ ',' :: t)

/-- Whether a text does not continue a number before it. -/
def Stops (rest : Text) : Prop :=
  ∀ c ∈ rest.head?, c.isDigit = false ∧ c ≠ '.' ∧ c ≠ 'e' ∧ c ≠ 'E'

variable {s rest raw text u before : Text} {n : Nat} {b : Bracket}

theorem skipBlank_append (h : Blanks before) (rest : Text) :
    skipBlank (before ++ rest) = skipBlank rest := List.dropWhile_append_of_pos h

theorem skipBlank_cons {c : Char} (h : isBlank c = false) (rest : Text) :
    skipBlank (c :: rest) = c :: rest := List.dropWhile_cons_of_neg (by simp [h])

theorem skipBlank_append_cons {c : Char} (h : Blanks before) (hc : isBlank c = false)
    (rest : Text) : skipBlank (before ++ c :: rest) = c :: rest := by
  rw [skipBlank_append h, skipBlank_cons hc]

theorem Bracket.not_isBlank_opening (b : Bracket) : isBlank b.opening = false := by
  cases b <;> rfl

theorem Bracket.not_isBlank_closing (b : Bracket) : isBlank b.closing = false := by
  cases b <;> rfl

theorem stops_cons {c : Char} (h : c.isDigit = false ∧ c ≠ '.' ∧ c ≠ 'e' ∧ c ≠ 'E')
    (rest : Text) : Stops (c :: rest) := by
  intro d hd
  rw [List.head?_cons, Option.mem_some_iff] at hd
  exact hd ▸ h

theorem stops_closing (b : Bracket) (rest : Text) : Stops (b.closing :: rest) := by
  cases b <;> exact stops_cons (by decide) rest

theorem stops_comma (rest : Text) : Stops (',' :: rest) := stops_cons (by decide) rest

theorem Stops.append (h : Blanks before) (hrest : Stops rest) : Stops (before ++ rest) := by
  cases before with
  | nil => exact hrest
  | cons c before =>
    refine stops_cons ?_ _
    have hc := h c List.mem_cons_self
    simp only [isBlank, Bool.or_eq_true, beq_iff_eq] at hc
    rcases hc with ((rfl | rfl) | rfl) | rfl <;> decide

theorem utf8Size_of_hexDigit? {c : Char} {k : Nat} (h : hexDigit? c = some k) :
    c.utf8Size = 1 := by
  rw [Char.utf8Size_eq_one_iff]
  have hc : c ≤ 'f' := by
    unfold hexDigit? at h
    split at h
    · rename_i hdigit
      simp only [Char.isDigit, Bool.and_eq_true, decide_eq_true_eq] at hdigit
      exact UInt32.le_trans hdigit.2 (by decide)
    · split at h
      · rename_i hlower
        exact hlower.2
      · split at h
        · rename_i hupper
          exact Char.le_trans hupper.2 (by decide)
        · cases h
  exact UInt32.le_trans hc (by decide)

theorem IsUnit.readUnit (h : IsUnit u n) (rest : Text) :
    readUnit (u ++ rest) = .ok (n, rest) := by
  obtain ⟨ha, hb, hc, hd⟩ := h
  simp [Json.readUnit, Text.byteLength, utf8Size_of_hexDigit? ha, utf8Size_of_hexDigit? hb,
    utf8Size_of_hexDigit? hc, utf8Size_of_hexDigit? hd, ha, hb, hc, hd]

/-- A text between quotes is one that a string may be passed over by. -/
theorem Spells.quotable (h : Spells raw text) : Quotable raw := by
  induction h with
  | done => exact .done
  | plain printable quote backslash _ ih => exact .plain printable quote backslash ih
  | escape known _ ih => exact .escape (by simp [known]) ih
  | unit unit _ _ _ ih => exact .unit unit ih
  | pair first second _ _ _ ih => exact .unit first (.unit second ih)

/-- A text without quotes, backslashes and control characters spells itself. -/
theorem spells_self (h : ∀ c ∈ text, 0x20 ≤ c.toNat ∧ c ≠ '"' ∧ c ≠ '\\') :
    Spells text text := by
  induction text with
  | nil => exact .done
  | cons c text ih =>
    obtain ⟨hprintable, hquote, hbackslash⟩ := h c List.mem_cons_self
    exact .plain hprintable hquote hbackslash (ih fun d hd => h d (List.mem_cons_of_mem c hd))

theorem readString_escape {e r : Text} {c : Char} (h : readEscape e = .ok (c, r)) :
    readString ('\\' :: e) = (readString r).map fun p => (c :: p.1, p.2) := by
  rw [readString]
  split
  · rename_i hc
    cases h.symm.trans hc
    rfl
  · rename_i hc
    cases h.symm.trans hc

theorem readEscape_simple {e c : Char} (h : simpleEscape? e = some c) (rest : Text) :
    readEscape (e :: rest) = .ok (c, rest) := by
  have hu : e ≠ 'u' := by
    rintro rfl
    cases h
  rw [readEscape.eq_3 e rest hu, h]

theorem readEscape_unit (h : IsUnit u n) (hleading : isLeading n = false)
    (htrailing : isTrailing n = false) (rest : Text) :
    readEscape ('u' :: (u ++ rest)) = .ok (Char.ofNat n, rest) := by
  rw [readEscape, h.readUnit]
  simp [bind, Except.bind, hleading, htrailing]

theorem readEscape_pair {v : Text} {m : Nat} (hu : IsUnit u m) (hv : IsUnit v n)
    (hleading : isLeading m) (htrailing : isTrailing n) (rest : Text) :
    readEscape ('u' :: (u ++ '\\' :: 'u' :: (v ++ rest))) =
      .ok (joinSurrogates m n, rest) := by
  have hm : isTrailing m = false := by
    simp only [isLeading, isTrailing, Bool.and_eq_true, Bool.and_eq_false_iff,
      decide_eq_true_eq, decide_eq_false_iff_not] at hleading ⊢
    omega
  rw [readEscape, hu.readUnit]
  simp [bind, Except.bind, hleading, hm, readTrailing, hv.readUnit, htrailing]

theorem Spells.readString (h : Spells raw text) (rest : Text) :
    readString (raw ++ '"' :: rest) = .ok (text, rest) := by
  induction h with
  | done => rw [List.nil_append, Json.readString]
  | plain printable quote backslash _ ih =>
    rw [List.cons_append, Json.readString.eq_4 _ _ quote backslash,
      if_neg (Nat.not_lt.2 printable), ih]
    rfl
  | escape known _ ih =>
    rw [List.cons_append, List.cons_append, readString_escape (readEscape_simple known _), ih]
    rfl
  | unit unit leading trailing _ ih =>
    rw [List.cons_append, List.cons_append, List.append_assoc,
      readString_escape (readEscape_unit unit leading trailing _), ih]
    rfl
  | @pair u v m n raw text first second leading trailing _ ih =>
    rw [show '\\' :: 'u' :: (u ++ '\\' :: 'u' :: (v ++ raw)) ++ '"' :: rest =
        '\\' :: 'u' :: (u ++ '\\' :: 'u' :: (v ++ (raw ++ '"' :: rest))) by simp,
      readString_escape (readEscape_pair first second leading trailing _), ih]
    rfl

theorem Quotable.skipString (h : Quotable raw) (rest : Text) :
    skipString (raw ++ '"' :: rest) = .ok rest := by
  induction h with
  | done => rw [List.nil_append, Json.skipString]
  | plain printable quote backslash _ ih =>
    rw [List.cons_append, Json.skipString.eq_6 _ _ quote (fun h => absurd h backslash)
      (fun _ h => absurd h backslash) (fun _ _ h => absurd h backslash),
      if_neg (Nat.not_lt.2 printable), ih]
  | @escape e raw known _ ih =>
    have hu : e ≠ 'u' := by
      rintro rfl
      cases known
    rw [List.cons_append, List.cons_append, Json.skipString.eq_5 _ _ hu, if_pos known, ih]
  | unit unit _ ih =>
    rw [List.cons_append, List.cons_append, List.append_assoc, Json.skipString]
    split
    · rename_i hr
      cases (unit.readUnit _).symm.trans hr
      exact ih
    · rename_i hr
      cases (unit.readUnit _).symm.trans hr

section

variable {digits whole fraction exponent : Text}

theorem readDigits_append (h : Digits digits) (hrest : ∀ c ∈ rest.head?, c.isDigit = false) :
    readDigits (digits ++ rest) = .ok (digits, rest) := by
  obtain ⟨hne, hdigits⟩ := h
  have htake : (digits ++ rest).takeWhile Char.isDigit = digits := by
    rw [List.takeWhile_append_of_pos hdigits]
    cases rest with
    | nil => simp
    | cons c rest => simp [hrest c rfl]
  have hdrop : (digits ++ rest).dropWhile Char.isDigit = rest := by
    rw [List.dropWhile_append_of_pos hdigits]
    cases rest with
    | nil => rfl
    | cons c rest => rw [List.dropWhile_cons_of_neg (by simp [hrest c rfl])]
  obtain ⟨c, cs, rfl⟩ := List.exists_cons_of_ne_nil hne
  rw [List.cons_append] at htake hdrop ⊢
  rw [readDigits, if_pos (hdigits c List.mem_cons_self), htake, hdrop]

theorem readWhole_append (h : IsWhole whole) (hrest : ∀ c ∈ rest.head?, c.isDigit = false) :
    readWhole (whole ++ rest) = .ok (whole, rest) := by
  obtain ⟨hdigits, hzero⟩ := h
  by_cases hhead : whole.head? = some '0'
  · rw [hzero hhead, List.singleton_append, readWhole]
    cases rest with
    | nil => rfl
    | cons c rest => simp [hrest c rfl]
  · rw [readWhole.eq_2]
    · exact readDigits_append hdigits hrest
    · intro r hr
      obtain ⟨c, cs, rfl⟩ := List.exists_cons_of_ne_nil hdigits.1
      rw [List.cons_append, List.cons.injEq] at hr
      exact hhead (by simp [hr.1])

theorem readFraction_append (h : IsFraction fraction)
    (hrest : ∀ c ∈ rest.head?, c.isDigit = false ∧ c ≠ '.') :
    ∃ o, readFraction (fraction ++ rest) = .ok (o, rest) := by
  cases h with
  | missing =>
    refine ⟨none, readFraction.eq_2 _ ?_⟩
    rintro r rfl
    exact (hrest '.' rfl).2 rfl
  | @digits digits h =>
    refine ⟨some digits, ?_⟩
    rw [List.cons_append, readFraction, readDigits_append h fun c hc => (hrest c hc).1]
    rfl

theorem readSign_append {sign : Text} (hsign : sign ∈ [[], ['+'], ['-']]) (h : Digits digits) :
    (readSign (sign ++ (digits ++ rest))).2 = digits ++ rest := by
  obtain ⟨c, cs, rfl⟩ := List.exists_cons_of_ne_nil h.1
  have hc := h.2 c List.mem_cons_self
  simp only [List.mem_cons, List.not_mem_nil, or_false] at hsign
  rcases hsign with rfl | rfl | rfl
  · rw [List.nil_append, List.cons_append, readSign.eq_3]
    · rintro _ ⟨⟩
      cases hc
    · rintro _ ⟨⟩
      cases hc
  · rfl
  · rfl

theorem readExponent_append (h : IsExponent exponent) (hrest : Stops rest) :
    ∃ o, readExponent (exponent ++ rest) = .ok (o, rest) := by
  cases h with
  | missing =>
    refine ⟨none, readExponent.eq_3 _ ?_ ?_⟩
    · rintro r rfl
      exact (hrest 'e' rfl).2.2.1 rfl
    · rintro r rfl
      exact (hrest 'E' rfl).2.2.2 rfl
  | @digits e sign digits letter signed h =>
    have hdigits := readDigits_append h fun c hc => (hrest c hc).1
    rcases letter with rfl | rfl
    · refine ⟨some ((readSign (sign ++ (digits ++ rest))).1, digits), ?_⟩
      rw [List.cons_append, List.append_assoc, readExponent, readSign_append signed h, hdigits]
      rfl
    · refine ⟨some ((readSign (sign ++ (digits ++ rest))).1, digits), ?_⟩
      rw [List.cons_append, List.append_assoc, readExponent, readSign_append signed h, hdigits]
      rfl

theorem IsExponent.bars (h : IsExponent exponent) (hrest : Stops rest) :
    ∀ c ∈ (exponent ++ rest).head?, c.isDigit = false ∧ c ≠ '.' := by
  intro c hc
  cases h with
  | missing => exact ⟨(hrest c hc).1, (hrest c hc).2.1⟩
  | digits letter =>
    cases hc
    rcases letter with rfl | rfl <;> decide

theorem IsFraction.bars (h : IsFraction fraction) (hrest : ∀ c ∈ rest.head?, c.isDigit = false) :
    ∀ c ∈ (fraction ++ rest).head?, c.isDigit = false := by
  intro c hc
  cases h with
  | missing => exact hrest c hc
  | digits =>
    cases hc
    rfl

theorem readUnsigned_append (hwhole : IsWhole whole) (hfraction : IsFraction fraction)
    (hexponent : IsExponent exponent) (hrest : Stops rest) (negative : Bool) :
    ∃ n, readUnsigned negative (whole ++ (fraction ++ (exponent ++ rest))) = .ok (n, rest) := by
  have hbars := hexponent.bars hrest
  obtain ⟨f, hf⟩ := readFraction_append hfraction hbars
  obtain ⟨e, he⟩ := readExponent_append hexponent hrest
  refine ⟨⟨negative, whole, f, e⟩, ?_⟩
  unfold readUnsigned
  rw [readWhole_append hwhole (hfraction.bars fun c hc => (hbars c hc).1)]
  simp [bind, Except.bind, hf, he, pure, Except.pure]

theorem IsNumber.exists_cons (h : IsNumber s) : ∃ c r, s = c :: r ∧ (c = '-' ∨ c.isDigit) := by
  obtain @⟨sign, whole, fraction, exponent, signed, ⟨⟨hne, hdigits⟩, -⟩, -, -⟩ := h
  obtain ⟨c, cs, rfl⟩ := List.exists_cons_of_ne_nil hne
  simp only [List.mem_cons, List.not_mem_nil, or_false] at signed
  rcases signed with rfl | rfl
  · exact ⟨c, _, rfl, .inr (hdigits c List.mem_cons_self)⟩
  · exact ⟨'-', _, rfl, .inl rfl⟩

theorem IsNumber.readNumber (h : IsNumber s) (hrest : Stops rest) :
    ∃ n, readNumber (s ++ rest) = .ok (n, rest) := by
  obtain @⟨sign, whole, fraction, exponent, signed, hwhole, hfraction, hexponent⟩ := h
  have hread := readUnsigned_append hwhole hfraction hexponent hrest
  rw [List.append_assoc, List.append_assoc, List.append_assoc]
  simp only [List.mem_cons, List.not_mem_nil, or_false] at signed
  rcases signed with rfl | rfl
  · rw [List.nil_append, readNumber.eq_2]
    · exact hread false
    · intro r hr
      obtain ⟨c, cs, rfl⟩ := List.exists_cons_of_ne_nil hwhole.1.1
      cases hr
      cases hwhole.1.2 '-' List.mem_cons_self
  · exact hread true

end

end CallTracer.Json
