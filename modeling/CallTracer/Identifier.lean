import CallTracer.Text
/-! C identifiers: a letter or underscore, then letters, digits and underscores, ASCII only. -/
namespace CallTracer.Identifier

def isStart (c : Char) : Bool := c.isAlpha || c == '_'

def isPart (c : Char) : Bool := c.isAlphanum || c == '_'

def isValid : Text → Bool
  | [] => false
  | c :: cs => isStart c && cs.all isPart

theorem isPart_of_isStart {c : Char} (h : isStart c) : isPart c := by
  simp only [isStart, Bool.or_eq_true] at h
  simp only [isPart, Char.isAlphanum, Bool.or_eq_true]
  rcases h with h | h
  · exact .inl (.inl h)
  · exact .inr h

@[simp] theorem isValid_cons (c : Char) (cs : Text) :
    isValid (c :: cs) = (isStart c && cs.all isPart) := rfl

example : isValid "glClear".toList = true := by decide
example : isValid "4d".toList = false := by decide

end CallTracer.Identifier
