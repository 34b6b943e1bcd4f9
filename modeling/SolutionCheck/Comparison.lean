import SolutionCheck.Answer
import SolutionCheck.Table.Drawing
import SolutionCheck.Text.Quoted
/-!
Comparison of an expected table with an actual one, without regard to the order of rows. Both are
sorted on the first column of the expected table, with nothing last, and then compared cell by cell;
rows with equal leading cells keep their order of arrival. A column that mixes kinds cannot be sorted,
and on a column whose order is no total preorder sorting may panic; then there is no comparison.
-/

namespace SolutionCheck

inductive Side where
  | expected
  | actual
deriving DecidableEq

def Side.name : Side → String
  | .expected => "expected result"
  | .actual => "actual result"

inductive Mismatch where
  | noColumns
  | missingColumn (name : String)
  | mixedKinds (side : Side) (column : String) (first second : Kind)
  | columnsDiffer (expected actual : List String)
  | rowCountsDiffer (expected actual : Nat)
  | cellsDiffer (row : Nat) (column : String) (expected actual : Cell)
deriving DecidableEq

def Mismatch.message : Mismatch → String
  | .noColumns => "expected result has no column to order by"
  | .missingColumn name => "actual result has no column '" ++ name ++ "'"
  | .mixedKinds side column first second =>
    side.name ++ ": cannot order column '" ++ column ++ "': it mixes " ++ first.name ++ " and " ++
      second.name ++ " values"
  | .columnsDiffer expected actual =>
    "columns differ: expected " ++ Text.quotedList expected ++ ", got " ++ Text.quotedList actual
  | .rowCountsDiffer expected actual =>
    "row count differs: expected " ++ natText expected ++ ", got " ++ natText actual
  | .cellsDiffer row column expected actual =>
    "row " ++ natText row ++ ", column '" ++ column ++ "': expected " ++ expected.display ++ ", got " ++
      actual.display

structure Comparison where
  expected : Table
  actual : Table
  mismatch : Option Mismatch
deriving DecidableEq

namespace Comparison

def isMatch (c : Comparison) : Bool := c.mismatch.isNone

/-- The first kind among cells that hold something, and the first other kind. -/
def mixedKinds? (cells : List Cell) : Option (Kind × Kind) :=
  match (cells.filter fun cell => !cell.isNull).map Cell.kind with
  | [] => none
  | first :: rest => (rest.find? (· ≠ first)).map fun second => (first, second)

/-- The order of cells in a column of one kind: nothing stands last. -/
def orderCells (a b : Cell) : Ordering :=
  match a.isNull, b.isNull with
  | true, true => .eq
  | true, false => .gt
  | false, true => .lt
  | false, false => (a.compare? b).getD .eq

def orderRows (index : Nat) (a b : Row) : Ordering := orderCells (Table.cellAt a index) (Table.cellAt b index)

def sortOn [Sorting] (side : Side) (column : String) (t : Table) : Option (Except Mismatch Table) :=
  match t.columnIndex? column with
  | none => some (.error (.missingColumn column))
  | some index =>
    match mixedKinds? (t.rows.map (Table.cellAt · index)) with
    | some (first, second) => some (.error (.mixedKinds side column first second))
    | none => (t.sortRows (orderRows index)).map .ok

def cellDifference? (row : Nat) : List String → Row → Row → Option Mismatch
  | column :: columns, a :: as, b :: bs =>
    if a.equivalent b then cellDifference? row columns as bs else some (.cellsDiffer row column a b)
  | _, _, _ => none

def rowDifference? (columns : List String) (row : Nat) : List Row → List Row → Option Mismatch
  | a :: as, b :: bs =>
    match cellDifference? row columns a b with
    | some mismatch => some mismatch
    | none => rowDifference? columns (row + 1) as bs
  | _, _ => none

def difference? (expected actual : Table) : Option Mismatch :=
  if expected.columns ≠ actual.columns then some (.columnsDiffer expected.columns actual.columns)
  else if expected.size ≠ actual.size then some (.rowCountsDiffer expected.size actual.size)
  else rowDifference? expected.columns 0 expected.rows actual.rows

end Comparison

section

variable [Sorting]

/-- Compare an expected table with an actual one, if sorting them does not panic. Where a column cannot be
sorted, the tables are left as they are at that point. -/
def compareTables (expected actual : Table) : Option Comparison :=
  match expected.columns with
  | [] => some ⟨expected, actual, some .noColumns⟩
  | key :: _ =>
    if (actual.columnIndex? key).isNone then some ⟨expected, actual, some (.missingColumn key)⟩
    else do
      match ← Comparison.sortOn .expected key expected with
      | .error mismatch => return ⟨expected, actual, some mismatch⟩
      | .ok expected =>
        match ← Comparison.sortOn .actual key actual with
        | .error mismatch => return ⟨expected, actual, some mismatch⟩
        | .ok actual => return ⟨expected, actual, Comparison.difference? expected actual⟩

end

structure Match where
  expected : Table
  actual : Table
deriving DecidableEq

def Match.toJson (m : Match) : Json := .object [("expected", m.expected.toJson), ("actual", m.actual.toJson)]

structure Rejection where
  reason : Mismatch
  expected : Table
  actual : Table
deriving DecidableEq

def Rejection.message (r : Rejection) : String :=
  "Mismatch between target and actual output: " ++ r.reason.message ++ "\nTarget:\n" ++ r.expected.draw ++
    "\nActual:\n" ++ r.actual.draw

inductive Refusal where
  | rejected (rejection : Rejection)
  | panicked
deriving DecidableEq

section

variable [Sorting]

def verify (expected actual : Answer) : Except Refusal Match :=
  match compareTables expected.toTable actual.toTable with
  | none => .error .panicked
  | some ⟨expected, actual, none⟩ => .ok ⟨expected, actual⟩
  | some ⟨expected, actual, some reason⟩ => .error (.rejected ⟨reason, expected, actual⟩)

def checkEquals (expected actual : Answer) : Except Refusal Unit :=
  (verify expected actual).map fun _ => ()

end

end SolutionCheck
