import SolutionCheck.Sql.Plan
/-!
Combining the values of a group. Nothing is left out everywhere but in counting rows. A sum of integers
is an integer and must fit; with a float among them it is a float, for which the rounding errors of the
additions are kept apart and added at the end.
-/

namespace SolutionCheck.Sql

/-- A sum in the making: the sum of integers, or a float with its rounding error. -/
structure Summation where
  integers : Int64
  total : Float
  error : Float
  inexact : Bool
  /-- the integers no longer fit, and no float has been met since -/
  overflow : Bool
  count : Nat

namespace Summation

def start : Summation := ⟨0, 0, 0, false, false, 0⟩

/-- Integers from this size on, the 52nd power of two, may not be exact as floats and are split. -/
def largeInteger : Int := 4503599627370496

def lowPart (n : Int64) : Int := Int.tmod n.toInt 16384

def realOf (n : Int) : Float := (Binary64.ofInt n).toFloat

def addReal (s : Summation) (x : Float) : Summation :=
  let total := s.total + x
  let lost := if s.total.abs > x.abs then (s.total - total) + x else (x - total) + s.total
  { s with total, error := s.error + lost }

def addInteger (s : Summation) (n : Int64) : Summation :=
  if largeInteger ≤ n.toInt.natAbs then
    (s.addReal (realOf (n.toInt - lowPart n))).addReal (realOf (lowPart n))
  else s.addReal (realOf n.toInt)

def toInexact (s : Summation) : Summation :=
  let low := if largeInteger ≤ s.integers.toInt.natAbs then lowPart s.integers else 0
  { s with total := realOf (s.integers.toInt - low), error := realOf low, inexact := true }

def integer? : Value → Option Int64
  | .integer n => some n
  | .text s => Number.readInt? ((s.toList.dropWhile Numeric.isSpace).reverse.dropWhile Numeric.isSpace).reverse
  | _ => none

def add (s : Summation) (v : Value) : Summation :=
  match v.numeric? with
  | none => s
  | some x =>
    let s := { s with count := s.count + 1 }
    match s.inexact, integer? v with
    | false, some n =>
      let sum := s.integers.toInt + n.toInt
      if Number.fitsInt64 sum then { s with integers := .ofInt sum }
      else { s.toInexact.addInteger n with overflow := true }
    | false, none => s.toInexact.addReal x.toReal.toFloat
    | true, some n => s.addInteger n
    | true, none => { s.addReal x.toReal.toFloat with overflow := false }

def toReal (s : Summation) : Float :=
  if s.inexact then (if s.error.isFinite then s.total + s.error else s.total) else realOf s.integers.toInt

end Summation

namespace Aggregate

def best? (better : Ordering) (values : List Value) : Option Value :=
  (values.filter (· ≠ .null)).foldl (fun found v =>
    match found with
    | none => some v
    | some w => if v.order w = better then some v else some w) none

def apply (f : Aggregate) (values : List Value) : Except Fault Value :=
  match f with
  | count => .ok (.integer (.ofNat (values.filter (· ≠ .null)).length))
  | min => .ok ((best? .lt values).getD .null)
  | max => .ok ((best? .gt values).getD .null)
  | sum =>
    let s := values.foldl Summation.add .start
    if s.count = 0 then .ok .null
    else if !s.inexact then .ok (.integer s.integers)
    else if s.overflow then .error .integerOverflow
    else .ok (.ofReal (.ofFloat s.toReal))
  | avg =>
    let s := values.foldl Summation.add .start
    if s.count = 0 then .ok .null else .ok (.ofReal (.ofFloat (s.toReal / Summation.realOf s.count)))

end Aggregate

end SolutionCheck.Sql
