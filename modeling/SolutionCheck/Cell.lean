import SolutionCheck.Json.Value
import SolutionCheck.Number.Reading
/-!
The cells of a table: nothing, a truth value, an integer of 64 bits, a float, or text.
Cells of different kinds are never equivalent and have no order; integers and floats are both numbers
and are ordered against each other, yet an integer is never equivalent to a float.
-/

namespace SolutionCheck

inductive Cell where
  | null
  | bool (b : Bool)
  | int (n : Int64)
  | float (x : Binary64)
  | text (s : String)
deriving DecidableEq, Inhabited

inductive Kind where
  | null
  | bool
  | number
  | text
deriving DecidableEq

def Kind.name : Kind → String
  | .null => "Null"
  | .bool => "Bool"
  | .number => "Number"
  | .text => "Text"

namespace Cell

def kind : Cell → Kind
  | null => .null
  | bool _ => .bool
  | int _ => .number
  | float _ => .number
  | text _ => .text

def isNull : Cell → Bool
  | null => true
  | _ => false

/-- The order of two cells of one kind. An integer meets a float as the float nearest to it; floats
are ordered totally. Nothing has no order, not even with itself. -/
def compare? : Cell → Cell → Option Ordering
  | int a, int b => some (compare a.toInt b.toInt)
  | int a, float b => some ((Binary64.ofInt a.toInt).totalOrder b)
  | float a, int b => some (a.totalOrder (.ofInt b.toInt))
  | float a, float b => some (a.totalOrder b)
  | bool a, bool b => some (compare a b)
  | text a, text b => some (compare a b)
  | _, _ => none

def equals : Cell → Cell → Bool
  | float a, float b => a.equals b
  | a, b => a == b

/-- Equality that also holds between values that are no number. -/
def equivalent : Cell → Cell → Bool
  | float a, float b => (a.isNaN && b.isNaN) || a.equals b
  | a, b => a.equals b

def nonFiniteKey : String := "$float"

def nonFiniteWord (x : Binary64) : String :=
  if x.isNaN then "nan" else if x.negative then "-inf" else "inf"

/-- The float that is not finite which an object stands for: the only member is a known word under
the key. -/
def nonFinite? : Json → Option Binary64
  | .object [(key, .string word)] =>
    if key ≠ nonFiniteKey then none
    else match word with
      | "inf" => some (.infinity false)
      | "-inf" => some (.infinity true)
      | "nan" => some (.nan false)
      | _ => none
  | _ => none

def ofInt (n : Int) : Cell := if Number.fitsInt64 n then int (.ofInt n) else float (.ofInt n)

/-- The cell of a structured value. An array or an object becomes its compact text, unless it stands
for a float that is not finite. -/
def ofJson : Json → Cell
  | .null => null
  | .bool b => bool b
  | .int n => ofInt n
  | .float x => float x
  | .string s => text s
  | j => match nonFinite? j with
    | some x => float x
    | none => text j.text

def toJson : Cell → Json
  | null => .null
  | bool b => .bool b
  | int n => .int n.toInt
  | float x => if x.isFinite then .float x else .object [(nonFiniteKey, .string (nonFiniteWord x))]
  | text s => .string s

def display : Cell → String
  | null => "null"
  | bool b => if b then "true" else "false"
  | int n => intText n.toInt
  | float x => FloatStyle.display.write x
  | text s => s

end Cell

end SolutionCheck
