import CallTracer.Config
import CallTracer.Json.Found
import CallTracer.Json.Skip
/-! Reading a configuration file: an object, in which any field may be missing, or the list of the
fields. The text is read from left to right and the first fault decides. -/
namespace CallTracer.Config
open Json

/-- Why a text is no configuration. -/
inductive Fault
  | json (fault : Json.Fault)
  | wrongType (found expected : Text)
  | duplicate (field : Field)
  deriving DecidableEq, Repr

def Fault.message : Fault → Text
  | json f => f.remark
  | wrongType found expected =>
    "invalid type: ".toList ++ found ++ ", expected ".toList ++ expected
  | duplicate f => "duplicate field `".toList ++ f.key ++ ['`']

def Field.expected (f : Field) : Text :=
  if f.isPath then "path string".toList else "a string".toList

/-- Refuses a value of the wrong type, unless it cannot even be read. -/
def refuse {α : Type} (expected s : Text) : Except Fault α :=
  match describe s with
  | .ok found => .error (.wrongType found expected)
  | .error f => .error (.json f)

/-- A fault of the notation as a fault of the configuration. -/
def lift {α : Type} : Except Json.Fault α → Except Fault α
  | .ok a => .ok a
  | .error f => .error (.json f)

/-- Reads the value of a field, where `none` is null. -/
def readValue (f : Field) (s : Text) : Except Fault (Option Text × Text) :=
  match skipBlank s with
  | '"' :: r => lift ((readString r).map fun p => (some p.1, p.2))
  | 'n' :: r =>
    if f.isOptional then lift ((readWord "ull".toList r).map fun r => (none, r))
    else refuse f.expected ('n' :: r)
  | v => refuse f.expected v

def readColon (s : Text) : Except Json.Fault Text :=
  match skipBlank s with
  | ':' :: r => .ok r
  | [] => .error (.ended "EOF while parsing an object".toList)
  | _ => .error (.malformed "expected `:`".toList)

/-- Reads the next key of an object up to its closing quote, or the end of the object. -/
def readKey? (first : Bool) (s : Text) : Except Json.Fault (Option Text × Text) :=
  match skipBlank s with
  | [] => .error (.ended "EOF while parsing an object".toList)
  | '\x7d' :: r => .ok (none, r)
  | '"' :: r =>
    if first then (readString r).map fun p => (some p.1, p.2)
    else .error (.malformed "expected `,` or `\x7d`".toList)
  | ',' :: r =>
    if first then .error (.malformed "key must be a string".toList)
    else match skipBlank r with
      | [] => .error (.ended "EOF while parsing a value".toList)
      | '"' :: r => (readString r).map fun p => (some p.1, p.2)
      | '\x7d' :: _ => .error (.malformed "trailing comma".toList)
      | _ => .error (.malformed "key must be a string".toList)
  | _ =>
    if first then .error (.malformed "key must be a string".toList)
    else .error (.malformed "expected `,` or `\x7d`".toList)

/-- A configuration that is being read, with the fields that have been met. -/
structure Draft where
  config : Config
  met : List Field

/-- Reads a member from behind its key. What an unknown key stands for is passed over. -/
def readMember (d : Draft) (key s : Text) : Except Fault (Draft × Text) :=
  match Field.ofKey? key with
  | none => do
    let r ← lift (readColon s)
    let r ← lift (skipValue r)
    return (d, r)
  | some f =>
    if f ∈ d.met then .error (.duplicate f)
    else do
      let r ← lift (readColon s)
      let (v, r) ← readValue f r
      return (⟨d.config.set f v, f :: d.met⟩, r)

theorem lift_eq_ok {α : Type} {x : Except Json.Fault α} {a : α} :
    lift x = .ok a ↔ x = .ok a := by
  cases x <;> simp [lift]

theorem refuse_ne_ok {α : Type} (e s : Text) (a : α) : refuse e s ≠ .ok a := by
  unfold refuse
  split <;> simp

theorem length_readColon_le {s r : Text} (h : readColon s = .ok r) : r.length ≤ s.length := by
  unfold readColon at h
  split at h
  · rename_i hq
    simp only [Except.ok.injEq] at h
    exact h ▸ Nat.le_of_lt (length_lt_of_skipBlank hq)
  · simp at h
  · simp at h

theorem length_le_of_map_readString {s r : Text} {k : Option Text}
    (h : ((readString s).map fun p => (some p.1, p.2)) = .ok (k, r)) : r.length < s.length := by
  cases hs : readString s with
  | error f => simp [hs, Except.map] at h
  | ok p =>
    simp only [hs, Except.map, Except.ok.injEq, Prod.mk.injEq] at h
    exact length_readString_lt (t := p.1) (by rw [hs, ← h.2])

theorem length_readValue_le {f : Field} {s r : Text} {v : Option Text}
    (h : readValue f s = .ok (v, r)) : r.length ≤ s.length := by
  unfold readValue at h
  split at h
  · rename_i hq
    have := length_le_of_map_readString (lift_eq_ok.1 h)
    have := length_lt_of_skipBlank hq
    omega
  · rename_i q hq
    split at h
    · have hw := lift_eq_ok.1 h
      cases hr : readWord "ull".toList q with
      | error f =>
        rw [hr] at hw
        simp [Except.map] at hw
      | ok t =>
        simp only [hr, Except.map, Except.ok.injEq, Prod.mk.injEq] at hw
        have := length_readWord_le hr
        have := length_lt_of_skipBlank hq
        rw [← hw.2]
        omega
    · exact absurd h (refuse_ne_ok _ _ _)
  · exact absurd h (refuse_ne_ok _ _ _)

theorem length_readKey?_lt {first : Bool} {s r : Text} {k : Option Text}
    (h : readKey? first s = .ok (k, r)) : r.length < s.length := by
  unfold readKey? at h
  split at h
  · simp at h
  · rename_i hq
    simp only [Except.ok.injEq, Prod.mk.injEq] at h
    exact h.2 ▸ length_lt_of_skipBlank hq
  · rename_i hq
    split at h
    · exact Nat.lt_trans (length_le_of_map_readString h) (length_lt_of_skipBlank hq)
    · simp at h
  · rename_i hq
    split at h
    · simp at h
    · split at h
      · simp at h
      · rename_i hq'
        exact Nat.lt_trans (length_le_of_map_readString h)
          (Nat.lt_trans (length_lt_of_skipBlank hq') (length_lt_of_skipBlank hq))
      · simp at h
      · simp at h
  · split at h <;> simp at h

theorem length_readMember_le {d e : Draft} {k s r : Text} (h : readMember d k s = .ok (e, r)) :
    r.length ≤ s.length := by
  unfold readMember at h
  split at h
  · cases hc : lift (readColon s) with
    | error f => simp [hc, bind, Except.bind] at h
    | ok q =>
      have := length_readColon_le (lift_eq_ok.1 hc)
      cases hv : lift (skipValue q) with
      | error f => simp [hc, hv, bind, Except.bind] at h
      | ok t =>
        have := length_skipOpen_le (lift_eq_ok.1 hv)
        simp only [hc, hv, bind, Except.bind, pure, Except.pure, Except.ok.injEq,
          Prod.mk.injEq] at h
        rw [← h.2]
        omega
  · split at h
    · simp at h
    · cases hc : lift (readColon s) with
      | error f => simp [hc, bind, Except.bind] at h
      | ok q =>
        have := length_readColon_le (lift_eq_ok.1 hc)
        rename_i f _ _
        cases hv : readValue f q with
        | error f => simp [hc, hv, bind, Except.bind] at h
        | ok p =>
          obtain ⟨v, t⟩ := p
          have := length_readValue_le hv
          simp only [hc, hv, bind, Except.bind, pure, Except.pure, Except.ok.injEq,
            Prod.mk.injEq] at h
          rw [← h.2]
          omega

/-- Reads the members of an object and its closing brace. -/
def readMembers (d : Draft) (first : Bool) (s : Text) : Except Fault (Config × Text) :=
  match _hk : readKey? first s with
  | .error f => .error (.json f)
  | .ok (none, r) => .ok (d.config, r)
  | .ok (some key, q) =>
    match _hm : readMember d key q with
    | .error f => .error f
    | .ok (d, r) => readMembers d false r
termination_by s.length
decreasing_by exact Nat.lt_of_le_of_lt (length_readMember_le _hm) (length_readKey?_lt _hk)

/-- Reads the items of a list as the values of the given fields, and its closing bracket. -/
def readItems (c : Config) (first : Bool) : List Field → Text → Except Fault (Config × Text)
  | [], s =>
    match skipBlank s with
    | [] => .error (.json (.ended "EOF while parsing a list".toList))
    | ']' :: r => .ok (c, r)
    | _ => .error (.json (.malformed "trailing characters".toList))
  | f :: fs, s =>
    match skipBlank s with
    | [] => .error (.json (.ended "EOF while parsing a list".toList))
    | ']' :: r => .ok (c, r)
    | v =>
      if first then do
        let (t, r) ← readValue f v
        readItems (c.set f t) false fs r
      else match v with
        | ',' :: q =>
          match skipBlank q with
          | [] => .error (.json (.ended "EOF while parsing a value".toList))
          | ']' :: _ => .error (.json (.malformed "trailing comma".toList))
          | v => do
            let (t, r) ← readValue f v
            readItems (c.set f t) false fs r
        | _ => .error (.json (.malformed "expected `,` or `]`".toList))

/-- Nothing but blanks may follow. -/
def readEnd (c : Config) (s : Text) : Except Fault Config :=
  if (skipBlank s).isEmpty then .ok c
  else .error (.json (.malformed "trailing characters".toList))

def read (s : Text) : Except Fault Config :=
  match skipBlank s with
  | '\x7b' :: r => do
    let (c, r) ← readMembers ⟨standard, []⟩ true r
    readEnd c r
  | '[' :: r => do
    let (c, r) ← readItems standard true Field.all r
    readEnd c r
  | v => refuse "struct GeneratorConfig".toList v

end CallTracer.Config
