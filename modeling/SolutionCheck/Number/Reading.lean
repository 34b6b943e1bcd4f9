import SolutionCheck.Number.Rounding
/-!
Reading numbers from a field of text. Nothing may stand around the number.
An integer is an optional sign and digits, within the range of 64 bits. A float is an optional sign
and either digits with an optional point and exponent, or one of the words for infinity and for a
value that is no number, in letters of either case.
-/

namespace SolutionCheck.Number

def splitSign : List Char → Bool × List Char
  | '-' :: rest => (true, rest)
  | '+' :: rest => (false, rest)
  | cs => (false, cs)

/-- Integers of 64 bits lie below this and not below its negative. It is the 63rd power of two. -/
def int64Bound : Int := 9223372036854775808

def fitsInt64 (n : Int) : Bool := decide (-int64Bound ≤ n ∧ n < int64Bound)

def readInt? (cs : List Char) : Option Int64 :=
  let (negative, digits) := splitSign cs
  if digits.isEmpty || !digits.all Char.isDigit then none
  else
    let size : Int := Nat.ofDigitChars 10 digits 0
    let n := if negative then -size else size
    if fitsInt64 n then some (Int64.ofInt n) else none

/-- Read the exponent of a float: nothing, or a mark, an optional sign and digits. -/
def readExponent? : List Char → Option Int
  | [] => some 0
  | mark :: rest =>
    let (negative, digits) := splitSign rest
    if (mark ≠ 'e' ∧ mark ≠ 'E') ∨ digits.isEmpty ∨ !digits.all Char.isDigit then none
    else
      let size : Int := Nat.ofDigitChars 10 digits 0
      some (if negative then -size else size)

def readDecimal? (negative : Bool) (cs : List Char) : Option Binary64 :=
  let whole := cs.takeWhile Char.isDigit
  let afterWhole := cs.dropWhile Char.isDigit
  let afterPoint := match afterWhole with
    | '.' :: rest => rest
    | rest => rest
  let hasPoint := afterWhole.head? = some '.'
  let fraction := if hasPoint then afterPoint.takeWhile Char.isDigit else []
  let tail := if hasPoint then afterPoint.dropWhile Char.isDigit else afterWhole
  if whole.isEmpty && fraction.isEmpty then none
  else (readExponent? tail).map fun exponent =>
    Binary64.ofDecimal negative (Nat.ofDigitChars 10 (whole ++ fraction) 0) (exponent - fraction.length)

def readFloat? (cs : List Char) : Option Binary64 :=
  let (negative, body) := splitSign cs
  let word := String.ofList (body.map Char.toLower)
  if word = "inf" ∨ word = "infinity" then some (.infinity negative)
  else if word = "nan" then some (.nan negative)
  else readDecimal? negative body

end SolutionCheck.Number
