import CallTracer.Json.Lexeme
/-! Passing over one JSON value of any kind and depth. -/
namespace CallTracer.Json

inductive Bracket
  | list
  | object
  deriving DecidableEq, Repr

def Bracket.closing : Bracket → Char
  | list => ']'
  | object => '\x7d'

/-- What may stand next: a value, a member of an object from its key on, the first item of the
innermost bracket or its end, or what follows an item. -/
inductive Expectation
  | value
  | member
  | opened
  | next
  deriving DecidableEq, Repr

/-- Items of a list are values and those of an object are members. -/
def Bracket.item : Bracket → Expectation
  | list => .value
  | object => .member

def Expectation.rank : Expectation → Nat
  | opened => 1
  | _ => 0

/-- Numbers may have any size here, and one that is cut short is malformed. -/
def skipNumber (s : Text) : Except Fault Text :=
  match readNumber s with
  | .ok (_, r) => .ok r
  | .error f => .error (.malformed f.remark)

/-- Passes over a value that is neither a list nor an object. -/
def skipScalar : Text → Except Fault Text
  | [] => .error (.ended "EOF while parsing a value".toList)
  | 'n' :: s => readWord "ull".toList s
  | 't' :: s => readWord "rue".toList s
  | 'f' :: s => readWord "alse".toList s
  | '"' :: s => skipString s
  | c :: s =>
    if c = '-' ∨ c.isDigit then skipNumber (c :: s)
    else .error (.malformed "expected value".toList)

/-- Passes over a key and its colon. -/
def skipKey : Text → Except Fault Text
  | [] => .error (.ended "EOF while parsing an object".toList)
  | '"' :: s => do
    match skipBlank (← skipString s) with
    | [] => .error (.ended "EOF while parsing an object".toList)
    | ':' :: r => .ok r
    | _ => .error (.malformed "expected `:`".toList)
  | _ => .error (.malformed "key must be a string".toList)

theorem length_skipNumber_lt {s r : Text} (h : skipNumber s = .ok r) : r.length < s.length := by
  unfold skipNumber at h
  split at h
  · rename_i n q hq
    simp only [Except.ok.injEq] at h
    exact h ▸ length_readNumber_lt hq
  · simp at h

theorem length_skipScalar_lt {s r : Text} (h : skipScalar s = .ok r) : r.length < s.length := by
  unfold skipScalar at h
  split at h
  · simp at h
  · exact Nat.lt_succ_of_le (length_readWord_le h)
  · exact Nat.lt_succ_of_le (length_readWord_le h)
  · exact Nat.lt_succ_of_le (length_readWord_le h)
  · exact Nat.lt_succ_of_lt (length_skipString_lt h)
  · split at h
    · exact length_skipNumber_lt h
    · simp at h

theorem length_skipKey_lt {s r : Text} (h : skipKey s = .ok r) : r.length < s.length := by
  unfold skipKey at h
  split at h
  · simp at h
  · rename_i q
    cases hs : skipString q with
    | error f => simp [hs, bind, Except.bind] at h
    | ok t =>
      have h₁ := length_skipString_lt hs
      have h₂ := length_skipBlank_le t
      simp only [hs, bind, Except.bind] at h
      split at h
      · simp at h
      · rename_i u hu
        simp only [Except.ok.injEq] at h
        subst h
        rw [hu] at h₂
        simp only [List.length_cons] at *
        omega
      · simp at h
  · simp at h

/-- Passes over what the open brackets, innermost first, still expect; nothing is left to pass over
when none is open. -/
def skipOpen (stack : List Bracket) (expected : Expectation) (s : Text) : Except Fault Text :=
  match stack, expected with
  | [], .next => .ok s
  | _, .value =>
    match _h : skipBlank s with
    | '[' :: r => skipOpen (.list :: stack) .opened r
    | '\x7b' :: r => skipOpen (.object :: stack) .opened r
    | v =>
      match _hv : skipScalar v with
      | .ok r => skipOpen stack .next r
      | .error f => .error f
  | _, .member =>
    match _h : skipKey (skipBlank s) with
    | .ok r => skipOpen stack .value r
    | .error f => .error f
  | [], .opened => .ok s
  | b :: stack, .opened =>
    match _h : skipBlank s with
    | [] => .error (.ended "EOF while parsing a list".toList)
    | c :: r =>
      if c = b.closing then skipOpen stack .next r
      else skipOpen (b :: stack) b.item s
  | b :: stack, .next =>
    match _h : skipBlank s with
    | [] => .error (.ended "EOF while parsing a list".toList)
    | c :: r =>
      if c = b.closing then skipOpen stack .next r
      else if c = ',' then skipOpen (b :: stack) b.item r
      else .error (.malformed "expected `,` or the end".toList)
termination_by (s.length, expected.rank)
decreasing_by
  · exact Prod.Lex.left _ _ (length_lt_of_skipBlank _h)
  · exact Prod.Lex.left _ _ (length_lt_of_skipBlank _h)
  · exact Prod.Lex.left _ _ (Nat.lt_of_lt_of_le (length_skipScalar_lt (_h ▸ _hv))
      (length_skipBlank_le s))
  · exact Prod.Lex.left _ _ (Nat.lt_of_lt_of_le (length_skipKey_lt _h) (length_skipBlank_le s))
  · exact Prod.Lex.left _ _ (length_lt_of_skipBlank _h)
  · exact Prod.Lex.right _ (by cases b <;> decide)
  · exact Prod.Lex.left _ _ (length_lt_of_skipBlank _h)
  · exact Prod.Lex.left _ _ (length_lt_of_skipBlank _h)

theorem length_skipOpen_le {stack : List Bracket} {e : Expectation} {s r : Text}
    (h : skipOpen stack e s = .ok r) : r.length ≤ s.length := by
  fun_induction skipOpen stack e s with
  | case1 => simp_all
  | case2 _ _ _ hb ih => exact Nat.le_trans (ih h) (Nat.le_of_lt (length_lt_of_skipBlank hb))
  | case3 _ _ _ hb ih => exact Nat.le_trans (ih h) (Nat.le_of_lt (length_lt_of_skipBlank hb))
  | case4 _ s _ _ _ hv ih =>
    have := length_skipScalar_lt hv
    have := length_skipBlank_le s
    have := ih h
    omega
  | case5 => simp at h
  | case6 _ s _ hk ih =>
    have := length_skipKey_lt hk
    have := length_skipBlank_le s
    have := ih h
    omega
  | case7 => simp at h
  | case8 => simp_all
  | case9 => simp at h
  | case10 _ _ _ _ hb ih => exact Nat.le_trans (ih h) (Nat.le_of_lt (length_lt_of_skipBlank hb))
  | case11 _ _ _ _ _ _ _ ih => exact ih h
  | case12 => simp at h
  | case13 _ _ _ _ hb ih => exact Nat.le_trans (ih h) (Nat.le_of_lt (length_lt_of_skipBlank hb))
  | case14 _ _ _ _ hb _ ih => exact Nat.le_trans (ih h) (Nat.le_of_lt (length_lt_of_skipBlank hb))
  | case15 => simp at h

/-- Passes over one value, blanks before it included. -/
def skipValue (s : Text) : Except Fault Text := skipOpen [] .value s

end CallTracer.Json
