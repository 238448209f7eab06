import CallTracer.Text
/-! The shortest decimal that reads back as a given double, and its text. -/
namespace CallTracer

/-- The number `digits * 10 ^ exponent`. -/
structure Decimal where
  digits : Nat
  exponent : Int
  deriving DecidableEq, Repr

namespace Decimal

/-- A positive double as `mantissa * 2 ^ exponent`. -/
structure Binary where
  mantissa : Nat
  exponent : Int
  deriving DecidableEq, Repr

/-- The leading bit of a mantissa, which is not stored. -/
def hiddenBit : Nat := Nat.pow 2 52

/-- The magnitude of a finite double. -/
def Binary.ofFloat (f : Float) : Binary :=
  let bits := f.toBits.toNat
  let fraction : Nat := bits % hiddenBit
  let field : Nat := bits / hiddenBit % Nat.pow 2 11
  if field = 0 then ⟨fraction, -1074⟩ else ⟨hiddenBit + fraction, (field : Int) - 1075⟩

/-- The multiple of `10 ^ grid` that reads back as the double, if there is one; of two the nearer,
or the even one if they are equally near. Whatever lies within half a step of the double reads back
as it, and the ends of that range do when the mantissa is even; below a power of two the step is
half as long. -/
def onGrid? (b : Binary) (grid : Int) : Option Decimal :=
  let scale := Nat.pow 2 (b.exponent - 2).toNat * Nat.pow 10 (-grid).toNat
  let unit := Nat.pow 2 (2 - b.exponent).toNat * Nat.pow 10 grid.toNat
  let below := if b.mantissa = hiddenBit ∧ -1074 < b.exponent then 1 else 2
  let value := 4 * b.mantissa * scale
  let low := (4 * b.mantissa - below) * scale
  let high := (4 * b.mantissa + 2) * scale
  let inside (n : Nat) : Bool :=
    if b.mantissa % 2 = 0 then low ≤ n * unit && n * unit ≤ high
    else low < n * unit && n * unit < high
  let n := value / unit
  let past := value - n * unit
  match inside n, inside (n + 1) with
  | true, true =>
    some ⟨if 2 * past < unit ∨ (2 * past = unit ∧ n % 2 = 0) then n else n + 1, grid⟩
  | true, false => some ⟨n, grid⟩
  | false, true => some ⟨n + 1, grid⟩
  | false, false => none

/-- The first hit on ever finer grids has the fewest digits. -/
def shortest (b : Binary) : Decimal :=
  ((List.range 640).findSome? fun (i : Nat) => onGrid? b (309 - i)).getD ⟨0, 0⟩

/-- All digits in their places, with at least one digit on either side of the point. -/
def positional (d : Decimal) : Text :=
  let digits := Text.ofNat d.digits
  if 0 ≤ d.exponent then digits ++ List.replicate d.exponent.toNat '0' ++ ".0".toList
  else
    let places := (-d.exponent).toNat
    let padded := List.replicate (places + 1 - digits.length) '0' ++ digits
    padded.take (padded.length - places) ++ '.' :: padded.drop (padded.length - places)

/-- The place of the first digit: the exponent of the power of ten that it counts. -/
def order (d : Decimal) : Int := d.exponent + (Text.ofNat d.digits).length - 1

/-- The first digit before the point, with the place of that digit as the exponent. -/
def scientific (d : Decimal) : Text :=
  let digits := Text.ofNat d.digits
  let fraction := if digits.length ≤ 1 then [] else '.' :: digits.drop 1
  digits.take 1 ++ fraction ++ ['e', if d.order < 0 then '-' else '+'] ++
    Text.ofNat d.order.natAbs

/-- Digits stand in their places from `10 ^ -5` to below `10 ^ 16`. -/
def text (d : Decimal) : Text :=
  if -5 ≤ d.order ∧ d.order < 16 then d.positional else d.scientific

/-- The text of a finite double. -/
def ofFloat (f : Float) : Text :=
  let sign : Text := if f.toBits >>> 63 = 1 then ['-'] else []
  let b := Binary.ofFloat f
  if b.mantissa = 0 then sign ++ "0.0".toList else sign ++ text (shortest b)

example : onGrid? ⟨1, -1⟩ 0 = none := by decide
example : onGrid? ⟨1, -1⟩ (-1) = some ⟨5, -1⟩ := by decide
example : onGrid? ⟨1, -1074⟩ (-324) = some ⟨5, -324⟩ := by decide +kernel
example : positional ⟨15, -1⟩ = "1.5".toList := by decide
example : positional ⟨7, -3⟩ = "0.007".toList := by decide
example : text ⟨1, 16⟩ = "1e+16".toList := by decide
example : text ⟨12345, -10⟩ = "1.2345e-6".toList := by decide
example : text ⟨12345, -9⟩ = "0.000012345".toList := by decide

end Decimal
end CallTracer
