import CallTracer.Proofs.JsonGrammar
/-! Passing over a JSON value: one with anything behind it that does not continue it is passed over,
however deep it is. -/
namespace CallTracer.Json

variable {s rest raw before : Text} {b : Bracket}

theorem IsNumber.skipScalar (h : IsNumber s) (hrest : Stops rest) :
    skipScalar (s ++ rest) = .ok rest := by
  obtain ⟨n, hn⟩ := h.readNumber hrest
  obtain ⟨c, r, rfl, hc⟩ := h.exists_cons
  rw [List.cons_append] at hn ⊢
  rw [skipScalar.eq_6, if_pos hc, skipNumber, hn]
  all_goals
    rintro rfl
    revert hc
    decide

theorem skipScalar_word (h : s ∈ ["null".toList, "true".toList, "false".toList]) (rest : Text) :
    skipScalar (s ++ rest) = .ok rest := by
  simp only [List.mem_cons, List.not_mem_nil, or_false] at h
  rcases h with rfl | rfl | rfl <;> rfl

theorem skipScalar_quoted (h : Quotable raw) (rest : Text) :
    skipScalar (quoted raw ++ rest) = .ok rest := by
  rw [quoted, List.cons_append, List.append_assoc, skipScalar]
  exact h.skipString rest

/-- Whether a character may stand at the front of a value. -/
def isFront (c : Char) : Bool :=
  c.isDigit || ['n', 't', 'f', '"', '-', '[', '\x7b'].contains c

theorem not_isBlank_of_isFront {c : Char} (h : isFront c) : isBlank c = false := by
  cases hblank : isBlank c with
  | false => rfl
  | true =>
    simp only [isBlank, Bool.or_eq_true, beq_iff_eq] at hblank
    rcases hblank with ((rfl | rfl) | rfl) | rfl <;> cases h

theorem Derives.exists_front (h : Derives .value s) : ∃ c r, s = c :: r ∧ isFront c := by
  cases h with
  | word known =>
    simp only [List.mem_cons, List.not_mem_nil, or_false] at known
    rcases known with rfl | rfl | rfl <;> exact ⟨_, _, rfl, rfl⟩
  | string => exact ⟨_, _, rfl, rfl⟩
  | number number =>
    obtain ⟨c, r, hs, hc⟩ := number.exists_cons
    refine ⟨c, r, hs, ?_⟩
    rcases hc with rfl | hc
    · rfl
    · rw [isFront, hc, Bool.true_or]
  | @empty b => exact ⟨b.opening, _, rfl, by cases b <;> rfl⟩
  | @bracket b => exact ⟨b.opening, _, rfl, by cases b <;> rfl⟩

/-- The items in a bracket do not begin with its end. -/
theorem Derives.exists_first (h : Derives (.items b) s) (rest : Text) :
    ∃ c r, skipBlank (s ++ rest) = c :: r ∧ c ≠ b.closing := by
  have hitem : ∀ t rest, Derives (.item b) t →
      ∃ c r, skipBlank (t ++ rest) = c :: r ∧ c ≠ b.closing := by
    intro t rest ht
    cases ht with
    | @listed before s after hbefore value =>
      obtain ⟨c, r, rfl, hc⟩ := value.exists_front
      refine ⟨c, r ++ after ++ rest, ?_, ?_⟩
      · rw [List.append_assoc, skipBlank_append hbefore]
        exact skipBlank_cons (not_isBlank_of_isFront hc) _
      · rintro rfl
        cases hc
    | member hbefore =>
      rw [List.append_assoc, skipBlank_append hbefore]
      exact ⟨_, _, skipBlank_cons rfl _, by decide⟩
  cases h with
  | last item => exact hitem _ rest item
  | more item =>
    rw [List.append_assoc]
    exact hitem _ _ item

section

variable {stack : List Bracket} {after : Text}

theorem skipOpen_scalar (hbefore : Blanks before) {c : Char} {r : Text} (hc : isBlank c = false)
    (hlist : c ≠ '[') (hobject : c ≠ '\x7b') (h : skipScalar (c :: r) = .ok rest) :
    skipOpen stack .value (before ++ c :: r) = skipOpen stack .next rest := by
  have hblank := skipBlank_append_cons hbefore hc r
  rw [skipOpen]
  split
  · rename_i hs
    cases hblank.symm.trans hs
    exact absurd rfl hlist
  · rename_i hs
    cases hblank.symm.trans hs
    exact absurd rfl hobject
  · split
    · rename_i hs
      rw [hblank, h] at hs
      cases hs
      rfl
    · rename_i hs
      rw [hblank, h] at hs
      cases hs

theorem skipOpen_opening (hbefore : Blanks before) (b : Bracket) (r : Text) :
    skipOpen stack .value (before ++ b.opening :: r) = skipOpen (b :: stack) .opened r := by
  have hblank := skipBlank_append_cons hbefore b.not_isBlank_opening r
  rw [skipOpen]
  cases b with
  | list =>
    split
    · rename_i hs
      cases hblank.symm.trans hs
      rfl
    · rename_i hs
      cases hblank.symm.trans hs
    · rename_i hs _
      exact absurd hblank (hs _)
  | object =>
    split
    · rename_i hs
      cases hblank.symm.trans hs
    · rename_i hs
      cases hblank.symm.trans hs
      rfl
    · rename_i hs
      exact absurd hblank (hs _)

/-- Passing over the end of a bracket, whether or not anything stands in it. -/
theorem skipOpen_closing {e : Expectation} (he : e = .opened ∨ e = .next)
    (hbefore : Blanks before) (b : Bracket) (r : Text) :
    skipOpen (b :: stack) e (before ++ b.closing :: r) = skipOpen stack .next r := by
  have hblank := skipBlank_append_cons hbefore b.not_isBlank_closing r
  rcases he with rfl | rfl
  all_goals
    rw [skipOpen]
    split
    · rename_i hs
      cases hblank.symm.trans hs
    · rename_i hs
      cases hblank.symm.trans hs
      rw [if_pos rfl]

theorem skipOpen_opened_item {c : Char} {r : Text} (h : skipBlank s = c :: r)
    (hc : c ≠ b.closing) : skipOpen (b :: stack) .opened s = skipOpen (b :: stack) b.item s := by
  rw [skipOpen]
  split
  · rename_i hs
    cases h.symm.trans hs
  · rename_i hs
    cases h.symm.trans hs
    rw [if_neg hc]

theorem skipOpen_comma (hbefore : Blanks before) (b : Bracket) (r : Text) :
    skipOpen (b :: stack) .next (before ++ ',' :: r) = skipOpen (b :: stack) b.item r := by
  have hblank := skipBlank_append_cons hbefore (c := ',') rfl r
  rw [skipOpen]
  split
  · rename_i hs
    cases hblank.symm.trans hs
  · rename_i hs
    cases hblank.symm.trans hs
    rw [if_neg (by cases b <;> decide), if_pos rfl]

theorem skipOpen_member (h : skipKey (skipBlank s) = .ok rest) :
    skipOpen stack .member s = skipOpen stack .value rest := by
  rw [skipOpen.eq_3]
  split
  · rename_i hs
    cases h.symm.trans hs
    rfl
  · rename_i hs
    cases h.symm.trans hs

theorem skipKey_quoted (h : Quotable raw) {between : Text} (hbetween : Blanks between)
    (rest : Text) : skipKey (quoted raw ++ (between ++ ':' :: rest)) = .ok rest := by
  rw [quoted, List.cons_append, List.append_assoc, skipKey]
  simp only [List.singleton_append, h.skipString, bind, Except.bind, skipBlank_append hbetween]
  rw [skipBlank_cons rfl]
  rfl

/-- What it is to pass over a phrase: what follows it is expected next. -/
def Passed : Phrase → Text → Prop
  | .value, s => ∀ stack before rest, Blanks before → Stops rest →
      skipOpen stack .value (before ++ (s ++ rest)) = skipOpen stack .next rest
  | .item b, s => ∀ stack rest, Stops rest → ∃ after, Blanks after ∧
      skipOpen (b :: stack) b.item (s ++ rest) = skipOpen (b :: stack) .next (after ++ rest)
  | .items b, s => ∀ stack rest,
      skipOpen (b :: stack) b.item (s ++ b.closing :: rest) = skipOpen stack .next rest

/-- Every phrase is passed over, by induction on its derivation. -/
theorem Derives.passed {p : Phrase} (h : Derives p s) : Passed p s := by
  -- The stack is that of the brackets around a phrase, and deeper in a value it is larger.
  induction h with
  | word known =>
    intro stack before rest hbefore _
    obtain ⟨c, r, rfl, hc⟩ := (Derives.word known).exists_front
    have hskip := skipScalar_word known rest
    simp only [List.mem_cons, List.not_mem_nil, or_false] at known
    refine skipOpen_scalar hbefore (not_isBlank_of_isFront hc) ?_ ?_ hskip
    all_goals
      rintro rfl
      rcases known with h | h | h <;> cases h
  | string content =>
    intro stack before rest hbefore _
    exact skipOpen_scalar hbefore rfl (by decide) (by decide) (skipScalar_quoted content rest)
  | number number =>
    intro stack before rest hbefore hrest
    have hskip := number.skipScalar hrest
    obtain ⟨c, r, rfl, hc⟩ := number.exists_cons
    refine skipOpen_scalar hbefore ?_ ?_ ?_ hskip
    · refine not_isBlank_of_isFront ?_
      rcases hc with rfl | hc
      · rfl
      · rw [isFront, hc, Bool.true_or]
    all_goals
      rintro rfl
      revert hc
      decide
  | @empty b s blanks =>
    intro stack before rest hbefore _
    rw [List.cons_append, List.append_assoc, skipOpen_opening hbefore]
    exact skipOpen_closing (.inl rfl) blanks b rest
  | @bracket b s items ih =>
    intro stack before rest hbefore _
    obtain ⟨c, r, hfirst, hc⟩ := items.exists_first (b.closing :: rest)
    rw [List.cons_append, List.append_assoc, skipOpen_opening hbefore]
    exact (skipOpen_opened_item hfirst hc).trans (ih stack rest)
  | @listed before s after hbefore _ hafter ih =>
    intro stack rest hrest
    refine ⟨after, hafter, ?_⟩
    rw [List.append_assoc, List.append_assoc]
    exact ih _ before _ hbefore (hrest.append hafter)
  | @member before key between inner s after hbefore named hbetween hinner _ hafter ih =>
    intro stack rest hrest
    refine ⟨after, hafter, ?_⟩
    have hkey : skipKey (skipBlank (before ++ (quoted key ++
        (between ++ ':' :: (inner ++ (s ++ (after ++ rest))))))) =
        .ok (inner ++ (s ++ (after ++ rest))) := by
      rw [skipBlank_append hbefore]
      exact skipKey_quoted named hbetween _
    simp only [List.append_assoc, List.cons_append]
    exact (skipOpen_member hkey).trans (ih _ inner _ hinner (hrest.append hafter))
  | @last b s _ ih =>
    intro stack rest
    obtain ⟨after, hafter, h⟩ := ih stack (b.closing :: rest) (stops_closing b rest)
    rw [h, skipOpen_closing (.inr rfl) hafter]
  | @more b s t _ _ ihitem ihrest =>
    intro stack rest
    obtain ⟨after, hafter, h⟩ := ihitem stack (',' :: (t ++ b.closing :: rest)) (stops_comma _)
    rw [List.append_assoc, List.cons_append, h, skipOpen_comma hafter]
    exact ihrest stack rest

/-- A value is passed over up to what stands behind it. -/
theorem Derives.skipValue (h : Derives .value s) (hbefore : Blanks before) (hrest : Stops rest) :
    skipValue (before ++ (s ++ rest)) = .ok rest := by
  rw [Json.skipValue, h.passed [] before rest hbefore hrest, skipOpen]

end

end CallTracer.Json
