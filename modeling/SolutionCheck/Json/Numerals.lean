import SolutionCheck.Json.Document
import SolutionCheck.Json.Value
import SolutionCheck.Number.Rounding
/-!
How documents are read whose numbers are not integers of 64 bits. Which float such a number becomes is left
open, except that it is a finite one; a number may also be refused as too large.
-/

namespace SolutionCheck.Json

class Numerals where
  float? : Numeral → Option Binary64
  finite : ∀ {n : Numeral} {x : Binary64}, float? n = some x → x.isFinite = true

namespace Numerals

@[reducible] def ofReading (reading : Numeral → Option Binary64) : Numerals where
  float? n := (reading n).filter (·.isFinite)
  finite found := (Option.filter_eq_some_iff.1 found).2

@[reducible] def nearest : Numerals :=
  ofReading fun n => some (.ofDecimal n.negative n.digits n.exponent)

/-- Append digits to a number as long as it fits in 64 bits; the digits that are left over come along. -/
def appendDigits : Nat → List Char → Nat × List Char
  | size, [] => (size, [])
  | size, c :: cs =>
    let longer := size * 10 + (c.toNat - '0'.toNat)
    if longer < Nat.pow 2 64 then appendDigits longer cs else (size, c :: cs)

/-- Multiply a float with a power of ten. Two divisions reach zero, so the first argument is never used up. -/
def scaleFloat : Nat → Float → Int → Option Float
  | 0, f, _ => some f
  | steps + 1, f, power =>
    if power.natAbs ≤ 308 then
      let factor := (Binary64.ofDecimal false 1 power.natAbs).toFloat
      some (if 0 ≤ power then f * factor else f / factor)
    else if f == 0 then some f
    else if 0 ≤ power then none
    else scaleFloat steps (f / (Binary64.ofDecimal false 1 308).toFloat) (power + 308)

/-- Numbers are read by scaling their leading digits, which is quick but may miss the nearest float. -/
@[reducible] def scaled : Numerals :=
  ofReading fun n =>
    let (size, whole) := appendDigits 0 n.whole
    let (size, fraction) := appendDigits size n.fraction
    let power := n.power + whole.length - (n.fraction.length - fraction.length : Nat)
    (scaleFloat 8 (Binary64.ofInt size).toFloat power).map fun f =>
      { Binary64.ofFloat f with negative := n.negative }

end Numerals

/-- The value of a numeral. Without point and exponent it is an integer when it fits in 64 bits, signed
or not; the negative zero is a float. -/
def Numeral.value [Numerals] (n : Numeral) : Except Fault Json :=
  if n.integral ∧ !n.negative ∧ n.digits < Nat.pow 2 64 then .ok (.int n.digits)
  else if n.integral ∧ n.negative ∧ n.digits ≠ 0 ∧ n.digits ≤ Nat.pow 2 63 then .ok (.int (-n.digits))
  else
    match Numerals.float? n with
    | some x => .ok (.float x)
    | none => .error .numberOutOfRange

end SolutionCheck.Json
