import CallTracer.EditDistance
import CallTracer.KnownType
import CallTracer.Sorting
import CallTracer.Text.Order
/-! The spellings of the catalogue that are nearest to an unknown one. -/
namespace CallTracer.Suggestion

/-- A spelling of the catalogue with its distance from the unknown one. -/
structure Candidate where
  distance : Nat
  spelling : Text
  deriving DecidableEq, Repr

/-- Whether a candidate may stand before another: the nearer comes first, and of two at the same
distance the one with the earlier text. -/
def Candidate.atMost (a b : Candidate) : Bool :=
  a.distance < b.distance || (a.distance == b.distance && a.spelling.atMost b.spelling)

def candidates (spelling : Text) : List Candidate :=
  KnownType.all.map fun t => ⟨EditDistance.distance t.spelling spelling, t.spelling⟩

/-- The `count` nearest spellings, the nearest first. -/
def closest (spelling : Text) (count : Nat) : List Text :=
  ((Sorting.sort Candidate.atMost (candidates spelling)).take count).map Candidate.spelling

theorem Candidate.atMost_trans (a b c : Candidate) (hab : a.atMost b) (hbc : b.atMost c) :
    a.atMost c := by
  simp only [atMost, Bool.or_eq_true, Bool.and_eq_true, decide_eq_true_eq, beq_iff_eq] at *
  rcases hab with hab | ⟨hab, hs⟩ <;> rcases hbc with hbc | ⟨hbc, ht⟩
  · exact .inl (by omega)
  · exact .inl (by omega)
  · exact .inl (by omega)
  · exact .inr ⟨by omega, Text.atMost_trans hs ht⟩

theorem Candidate.atMost_total (a b : Candidate) : a.atMost b ∨ b.atMost a := by
  simp only [atMost, Bool.or_eq_true, Bool.and_eq_true, decide_eq_true_eq, beq_iff_eq]
  rcases Nat.lt_trichotomy a.distance b.distance with h | h | h
  · exact .inl (.inl h)
  · rcases Text.atMost_total a.spelling b.spelling with hs | hs
    · exact .inl (.inr ⟨h, hs⟩)
    · exact .inr (.inr ⟨h.symm, hs⟩)
  · exact .inr (.inl h)

end CallTracer.Suggestion
