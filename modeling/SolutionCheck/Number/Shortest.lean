import SolutionCheck.Number.Rounding
/-!
The fewest decimal digits that read back to a floating point value.
The search tries one digit, two digits and so on. On each decimal grid the only candidates are the
two neighbours of the value; one counts when it rounds to the value again, and of two that count the
nearer one is taken. When no grid up to seventeen digits has a hit, the exact decimal value stands in.
-/

namespace SolutionCheck

structure Decimal where
  digits : Nat
  exponent : Int
deriving DecidableEq

inductive Tie where
  | upward
  | toEven
deriving DecidableEq

namespace Decimal

/-- Move trailing zeros of the digits into the exponent, at most `fuel` of them. -/
def dropZeros : Nat → Decimal → Decimal
  | 0, d => d
  | fuel + 1, d =>
    if d.digits ≠ 0 ∧ d.digits % 10 = 0 then dropZeros fuel ⟨d.digits / 10, d.exponent + 1⟩ else d

def leadingPlace (d : Decimal) : Int := d.exponent + (Nat.toDigits 10 d.digits).length - 1

def readsAs (x : Binary64) (d : Decimal) : Bool :=
  Binary64.ofDecimal x.negative d.digits d.exponent == x

/-- The candidate on the grid `10 ^ place`, for the value `num / den`. -/
def onGrid? (tie : Tie) (x : Binary64) (num den : Nat) (place : Int) : Option Decimal :=
  let scaledNum := num * Nat.pow 10 (-place).toNat
  let scaledDen := den * Nat.pow 10 place.toNat
  let below := scaledNum / scaledDen
  let lower : Decimal := ⟨below, place⟩
  let upper : Decimal := ⟨below + 1, place⟩
  match readsAs x lower, readsAs x upper with
  | true, false => some lower
  | false, true => some upper
  | false, false => none
  | true, true =>
    let rest := 2 * (scaledNum % scaledDen)
    if rest < scaledDen then some lower
    else if scaledDen < rest then some upper
    else match tie with
      | .upward => some upper
      | .toEven => if below % 2 = 0 then some lower else some upper

def exact (significand : Nat) (exponent : Int) : Decimal :=
  if exponent < 0 then ⟨significand * Nat.pow 5 (-exponent).toNat, exponent⟩
  else ⟨significand * Nat.pow 2 exponent.toNat, 0⟩

def topPlace (num den : Nat) : Int :=
  let guess : Int := ((Nat.toDigits 10 num).length : Int) - (Nat.toDigits 10 den).length
  if num * Nat.pow 10 (-guess).toNat < den * Nat.pow 10 guess.toNat then guess else guess + 1

/-- The shortest decimal that reads as the finite value, without trailing zeros. -/
def shortest (tie : Tie) (x : Binary64) : Decimal :=
  let num := x.significand * Nat.pow 2 x.exponent.toNat
  let den := Nat.pow 2 (-x.exponent).toNat
  let top := topPlace num den
  let found := (List.range 17).findSome? fun (n : Nat) => onGrid? tie x num den (top - (n + 1))
  dropZeros 400 (found.getD (exact x.significand x.exponent))

end Decimal

end SolutionCheck
