import SolutionCheck.Number.Binary64
/-!
Rounding of exact numbers to floating point values: to the nearest value, and on a tie to the one
with an even significand. Fractions, integers and decimals all go through the same rounding.
-/

namespace SolutionCheck

/-- The integer nearest to `num / den`, a half going to the even neighbour. -/
def roundHalfEven (num den : Nat) : Nat :=
  let whole := num / den
  let rest := 2 * (num % den)
  if rest < den then whole
  else if den < rest then whole + 1
  else whole + whole % 2

namespace Binary64

def leadingPower (num den : Nat) : Int :=
  let guess : Int := (num.log2 : Int) - den.log2
  if num * Nat.pow 2 (-guess).toNat < den * Nat.pow 2 guess.toNat then guess - 1 else guess

/-- The magnitude nearest to `num / den`, not bounded by that of infinity. A significand that rounds
up to the next power of two carries into the exponent by itself. -/
def nearestMagnitude (num den : Nat) : Nat :=
  if num = 0 then 0
  else
    let step : Int := max (leadingPower num den - 52) (-1074)
    (step + 1074).toNat * Nat.pow 2 52 + roundHalfEven (num * Nat.pow 2 (-step).toNat) (den * Nat.pow 2 step.toNat)

def ofFraction (negative : Bool) (num den : Nat) : Binary64 :=
  ⟨negative, ⟨min (nearestMagnitude num den) infinityMagnitude,
    Nat.lt_of_le_of_lt (Nat.min_le_right ..) (by decide)⟩⟩

def ofInt (n : Int) : Binary64 := ofFraction (decide (n < 0)) n.natAbs 1

/-- The value nearest to `digits * 10 ^ exponent`. Powers of ten far outside the range of finite
values are not computed: their results are infinity and zero. -/
def ofDecimal (negative : Bool) (digits : Nat) (exponent : Int) : Binary64 :=
  if digits = 0 then zero negative
  else
    let places : Int := (Nat.toDigits 10 digits).length
    if 400 < exponent + places then infinity negative
    else if exponent + places < -400 then zero negative
    else ofFraction negative (digits * Nat.pow 10 exponent.toNat) (Nat.pow 10 (-exponent).toNat)

end Binary64

end SolutionCheck
