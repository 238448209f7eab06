import CallTracer.Decimal
import CallTracer.Json.Lexeme
import CallTracer.Text.Escaped
/-! What stands at the front of a JSON text, described for someone who expected something else. -/
namespace CallTracer.Json

/-- Takes digits into a 64-bit significand while they fit; the second part holds those that do
not. -/
def significand (n : Nat) : Text → Nat × Text
  | [] => (n, [])
  | d :: ds =>
    let next := n * 10 + (d.toNat - '0'.toNat)
    if next < Nat.pow 2 64 then significand next ds else (n, d :: ds)

/-- The float times a power of ten, reached by steps of at most 308 places; `none` when it is too
large. -/
def scale (f : Float) (places : Int) : Option Float :=
  if _h : places < -308 then
    if f == 0.0 then some f else scale (f / Float.ofScientific 1 false 308) (places + 308)
  else if places < 0 then some (f / Float.ofScientific 1 false (-places).toNat)
  else if places ≤ 308 then
    let g := f * Float.ofScientific 1 false places.toNat
    if g.isInf then none else some g
  else if f == 0.0 then some f
  else none
termination_by places.natAbs
decreasing_by omega

inductive Amount
  | integer (n : Int)
  | float (f : Float)

/-- The places by which an exponent moves the point: `none` when it is too large to be counted. -/
def places? (digits : Text) : Option Nat :=
  let n := digits.foldl (fun n d => n * 10 + (d.toNat - '0'.toNat)) 0
  if n < Nat.pow 2 31 then some n else none

/-- The value of a number: an integer if it is written as one and has 64 bits, else a double, unless
it is too large for that. -/
def Number.amount? (n : Number) : Option Amount :=
  let (whole, dropped) := significand 0 n.whole
  let (digits, rest) := significand whole (n.fraction.getD [])
  let sign (f : Float) : Amount := .float (if n.negative then -f else f)
  let places : Int := dropped.length - ((n.fraction.getD []).length - rest.length : Nat)
  let f := digits.toUInt64.toFloat
  match n.fraction, n.exponent with
  | none, none =>
    if !dropped.isEmpty then (scale f places).map sign
    else if !n.negative then some (.integer whole)
    else if 0 < whole ∧ whole ≤ Nat.pow 2 63 then some (.integer (-whole))
    else some (sign f)
  | _, none => (scale f places).map sign
  | _, some (minus, exponent) =>
    match places? exponent with
    | some e => (scale f (if minus then places - e else places + e)).map sign
    | none => if digits = 0 ∨ minus then some (sign 0.0) else none

def Amount.describe : Amount → Text
  | .integer n => "integer `".toList ++ (toString n).toList ++ ['`']
  | .float f => "floating point `".toList ++ Decimal.ofFloat f ++ ['`']

/-- Names the value that a text begins with; lists and objects are named by their first
character. -/
def describe : Text → Except Fault Text
  | 'n' :: s => (readWord "ull".toList s).map fun _ => "null".toList
  | 't' :: s => (readWord "rue".toList s).map fun _ => "boolean `true`".toList
  | 'f' :: s => (readWord "alse".toList s).map fun _ => "boolean `false`".toList
  | '"' :: s => (readString s).map fun p => "string ".toList ++ Text.escaped p.1
  | '[' :: _ => .ok "sequence".toList
  | '\x7b' :: _ => .ok "map".toList
  | c :: s =>
    if c = '-' ∨ c.isDigit then do
      let (n, _) ← readNumber (c :: s)
      match n.amount? with
      | some a => return a.describe
      | none => .error (.malformed "number out of range".toList)
    else .error (.malformed "expected value".toList)
  | [] => .error (.ended "EOF while parsing a value".toList)

end CallTracer.Json
