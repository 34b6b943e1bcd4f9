import SolutionCheck.Number.Reading
import SolutionCheck.Number.Notation
import SolutionCheck.Text.Decoding
/-!
The values of the query engine. Values of all kinds stand in one order: nothing first, then numbers,
then texts by code points, then bytes. Arithmetic works on numbers; a text counts as the number that it
begins with, and nothing stays nothing. Integer results that do not fit become floats.
-/

namespace SolutionCheck.Sql

inductive Value where
  | null
  | integer (n : Int64)
  | real (x : Binary64)
  | text (s : String)
  | blob (bytes : List UInt8)
deriving DecidableEq, Inhabited

inductive Numeric where
  | integer (n : Int64)
  | real (x : Binary64)
deriving DecidableEq

namespace Numeric

def toReal : Numeric → Binary64
  | integer n => .ofInt n.toInt
  | real x => x

def clamp (negative : Bool) (size : Nat) : Int64 :=
  let n : Int := if negative then -size else size
  .ofInt (max (-Number.int64Bound) (min (Number.int64Bound - 1) n))

def toInt64 : Numeric → Int64
  | integer n => n
  | real x => clamp x.negative (x.significand * Nat.pow 2 x.exponent.toNat / Nat.pow 2 (-x.exponent).toNat)

def isSpace (c : Char) : Bool := c = ' ' || decide ('\t' ≤ c ∧ c ≤ '\r')

def leadingExponent (cs : List Char) : Int × Bool :=
  match cs with
  | mark :: rest =>
    let (negative, tail) := Number.splitSign rest
    let digits := tail.takeWhile Char.isDigit
    if (mark = 'e' ∨ mark = 'E') ∧ !digits.isEmpty then
      let size : Int := Nat.ofDigitChars 10 digits 0
      (if negative then -size else size, true)
    else (0, false)
  | [] => (0, false)

/-- The number at the start of a text; it is an integer when it has neither point nor exponent and fits. -/
def leading (cs : List Char) : Numeric :=
  let (negative, body) := Number.splitSign (cs.dropWhile isSpace)
  let whole := body.takeWhile Char.isDigit
  let afterWhole := body.dropWhile Char.isDigit
  let hasPoint := afterWhole.head? = some '.'
  let fraction := if hasPoint then (afterWhole.drop 1).takeWhile Char.isDigit else []
  let afterFraction := if hasPoint then (afterWhole.drop 1).dropWhile Char.isDigit else afterWhole
  let (exponent, hasExponent) :=
    if whole.isEmpty && fraction.isEmpty then (0, false) else leadingExponent afterFraction
  let digits := Nat.ofDigitChars 10 (whole ++ fraction) 0
  let n : Int := if negative then -digits else digits
  if !hasPoint && !hasExponent && Number.fitsInt64 n then integer (.ofInt n)
  else real (.ofDecimal negative digits (exponent - fraction.length))

def leadingInteger (cs : List Char) : Int64 :=
  let (negative, body) := Number.splitSign (cs.dropWhile isSpace)
  clamp negative (Nat.ofDigitChars 10 (body.takeWhile Char.isDigit) 0)

end Numeric

namespace Value

def rank : Value → Nat
  | null => 0
  | integer _ => 1
  | real _ => 1
  | text _ => 2
  | blob _ => 3

def orderReals (x y : Binary64) : Ordering := if x.isZero && y.isZero then .eq else x.totalOrder y

def orderMixed (n : Int64) (x : Binary64) : Ordering :=
  if x.isInfinite then (if x.negative then .gt else .lt)
  else
    let size : Nat := x.significand * Nat.pow 2 x.exponent.toNat
    compare (n.toInt * (Nat.pow 2 (-x.exponent).toNat : Nat)) (if x.negative then -size else size)

def order (a b : Value) : Ordering :=
  match a, b with
  | integer m, integer n => compare m.toInt n.toInt
  | integer m, real y => orderMixed m y
  | real x, integer n => (orderMixed n x).swap
  | real x, real y => orderReals x y
  | text s, text t => compare s t
  | blob s, blob t => compareOfLessAndEq (s.map UInt8.toNat) (t.map UInt8.toNat)
  | a, b => compare a.rank b.rank

def numeric? : Value → Option Numeric
  | null => none
  | integer n => some (.integer n)
  | real x => some (.real x)
  | text s => some (.leading s.toList)
  | blob bytes => some (.leading (Text.decodeLossy bytes).toList)

def ofReal (x : Binary64) : Value := if x.isNaN then null else real x

/-- A value as it is stored: what is no number becomes nothing. -/
def stored : Value → Value
  | real x => ofReal x
  | v => v

def ofBool (b : Bool) : Value := integer (if b then 1 else 0)

def holds? (v : Value) : Option Bool :=
  v.numeric?.map fun
    | .integer n => n != 0
    | .real x => !x.isZero

def realArithmetic (f : Float → Float → Float) (a b : Numeric) : Value :=
  ofReal (.ofFloat (f a.toReal.toFloat b.toReal.toFloat))

def arithmetic (onInts : Int → Int → Int) (onReals : Float → Float → Float) (a b : Value) : Value :=
  match a.numeric?, b.numeric? with
  | some (.integer m), some (.integer n) =>
    let result := onInts m.toInt n.toInt
    if Number.fitsInt64 result then integer (.ofInt result)
    else realArithmetic onReals (.integer m) (.integer n)
  | some x, some y => realArithmetic onReals x y
  | _, _ => null

def add : Value → Value → Value := arithmetic (· + ·) (· + ·)

def subtract : Value → Value → Value := arithmetic (· - ·) (· - ·)

def multiply : Value → Value → Value := arithmetic (· * ·) (· * ·)

def isZero? (v : Value) : Bool := v.holds? == some false

def divide (a b : Value) : Value :=
  if b.isZero? then null else arithmetic Int.tdiv (· / ·) a b

/-- The integer part of a value. That of a text is the integer that it begins with, whatever follows. -/
def integerPart : Value → Int64
  | null => 0
  | integer n => n
  | real x => Numeric.toInt64 (.real x)
  | text s => Numeric.leadingInteger s.toList
  | blob bytes => Numeric.leadingInteger (Text.decodeLossy bytes).toList

def remainder (a b : Value) : Value :=
  match a.numeric?, b.numeric? with
  | some x, some y =>
    if b.integerPart = 0 then null
    else
      let result := Int.tmod a.integerPart.toInt b.integerPart.toInt
      match x, y with
      | .integer _, .integer _ => integer (.ofInt result)
      | _, _ => real (.ofInt result)
  | _, _ => null

def negate (a : Value) : Value := subtract (integer 0) a

def compareWith (wanted : Ordering → Bool) (a b : Value) : Value :=
  if a = null ∨ b = null then null else ofBool (wanted (a.order b))

def not (a : Value) : Value := (a.holds?.map fun b => ofBool (!b)).getD null

/-- Both conditions hold; one that does not decides even when the other is unknown. -/
def and (a b : Value) : Value :=
  match a.holds?, b.holds? with
  | some false, _ => ofBool false
  | _, some false => ofBool false
  | some true, some true => ofBool true
  | _, _ => null

def or (a b : Value) : Value :=
  match a.holds?, b.holds? with
  | some true, _ => ofBool true
  | _, some true => ofBool true
  | some false, some false => ofBool false
  | _, _ => null

end Value

structure Data where
  columns : List String
  rows : List (List Value)
deriving DecidableEq

end SolutionCheck.Sql
