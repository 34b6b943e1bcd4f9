import SolutionCheck.Number.Shortest
/-!
How numbers are written. Integers are written in decimal. A floating point value is written with its
shortest digits; a record says which values are written out in full and how the exponent of the
others looks. The two records of the program are that for tables and messages and that for documents.
-/

namespace SolutionCheck

def intDigits (n : Int) : List Char :=
  if n < 0 then '-' :: Nat.toDigits 10 n.natAbs else Nat.toDigits 10 n.natAbs

def intText (n : Int) : String := String.ofList (intDigits n)

def natText (n : Nat) : String := String.ofList (Nat.toDigits 10 n)

structure FloatStyle where
  /-- the leading digit's power of ten from which a value is written out in full -/
  plainFrom : Int
  /-- the power of ten at and above which the exponent form is used again -/
  plainBelow : Int
  plusSign : Bool
  tie : Tie

namespace FloatStyle

/-- Tables and messages: `0.0001` and `1000000000000000.0` are written out, `1e-5` and `1e16` are not. -/
def display : FloatStyle := ⟨-4, 16, false, .upward⟩

/-- Documents: `0.00001` is written out, `1e-6` and `1e+16` are not. -/
def document : FloatStyle := ⟨-5, 16, true, .toEven⟩

/-- Lay out a positive decimal; at least one digit follows the point of a number written in full. -/
def layOut (style : FloatStyle) (d : Decimal) : List Char :=
  let digits := Nat.toDigits 10 d.digits
  let lead := d.leadingPlace
  if style.plainFrom ≤ lead ∧ lead < style.plainBelow then
    if 0 ≤ d.exponent then digits ++ List.replicate d.exponent.toNat '0' ++ ['.', '0']
    else if 0 ≤ lead then digits.take (lead + 1).toNat ++ '.' :: digits.drop (lead + 1).toNat
    else '0' :: '.' :: List.replicate (-lead - 1).toNat '0' ++ digits
  else
    let fraction := digits.drop 1
    let point := if fraction.isEmpty then [] else '.' :: fraction
    let plus := if style.plusSign ∧ 0 ≤ lead then ['+'] else []
    digits.take 1 ++ point ++ 'e' :: plus ++ intDigits lead

def digits (style : FloatStyle) (x : Binary64) : List Char :=
  if x.isNaN then ['N', 'a', 'N']
  else
    let sign := if x.negative then ['-'] else []
    if x.isInfinite then sign ++ ['i', 'n', 'f']
    else if x.isZero then sign ++ ['0', '.', '0']
    else sign ++ style.layOut (Decimal.shortest style.tie x)

def write (style : FloatStyle) (x : Binary64) : String := String.ofList (style.digits x)

end FloatStyle

end SolutionCheck
