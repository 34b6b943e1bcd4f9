/-!
Floating point values of 64 bits, held as a sign and a magnitude.
The magnitude is the number that the lower 63 bits spell, so that among values of one sign a larger
magnitude lies further from zero; above the magnitude of infinity stand the values that are no number.
There are two relations: numeric equality, under which the zeros are equal and a value that is no
number equals nothing, and a total order of all values, in which each sign stands as one block.
-/

namespace SolutionCheck

structure Binary64 where
  negative : Bool
  magnitude : Fin (Nat.pow 2 63)
deriving DecidableEq

namespace Binary64

def infinityMagnitude : Nat := 0x7FF0000000000000

def zero (negative : Bool) : Binary64 := ⟨negative, ⟨0, by decide⟩⟩

def infinity (negative : Bool) : Binary64 := ⟨negative, ⟨infinityMagnitude, by decide⟩⟩

def nan (negative : Bool) : Binary64 := ⟨negative, ⟨0x7FF8000000000000, by decide⟩⟩

instance : Inhabited Binary64 := ⟨zero false⟩

def isNaN (x : Binary64) : Bool := decide (infinityMagnitude < x.magnitude.val)

def isInfinite (x : Binary64) : Bool := x.magnitude.val == infinityMagnitude

def isFinite (x : Binary64) : Bool := decide (x.magnitude.val < infinityMagnitude)

def isZero (x : Binary64) : Bool := x.magnitude.val == 0

def neg (x : Binary64) : Binary64 := { x with negative := !x.negative }

def equals (x y : Binary64) : Bool :=
  !x.isNaN && !y.isNaN && (x == y || (x.isZero && y.isZero))

/-- The place of a value in the total order: the negative block lies below the positive one. -/
def place (x : Binary64) : Int :=
  if x.negative then -(x.magnitude.val : Int) - 1 else x.magnitude.val

def totalOrder (x y : Binary64) : Ordering := compare x.place y.place

/-- A finite magnitude as `significand * 2 ^ exponent`. -/
def significand (x : Binary64) : Nat :=
  let biased : Nat := x.magnitude.val / Nat.pow 2 52
  let fraction := x.magnitude.val % Nat.pow 2 52
  if biased = 0 then fraction else Nat.pow 2 52 + fraction

def exponent (x : Binary64) : Int :=
  let biased : Nat := x.magnitude.val / Nat.pow 2 52
  if biased = 0 then -1074 else (biased : Int) - 1075

def toFloat (x : Binary64) : Float :=
  Float.ofBits (.ofNat ((if x.negative then Nat.pow 2 63 else 0) + x.magnitude.val))

def ofFloat (f : Float) : Binary64 :=
  let bits := f.toBits.toNat
  ⟨decide (Nat.pow 2 63 ≤ bits), ⟨bits % Nat.pow 2 63, Nat.mod_lt _ (by decide)⟩⟩

end Binary64

end SolutionCheck
