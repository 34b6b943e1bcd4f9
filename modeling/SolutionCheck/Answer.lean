import SolutionCheck.Table.Stored
/-!
Answers as programs and task files give them: a table, a list of records, a list of cells, or one
cell. Every answer has one table form. Records get the columns of all their keys by first appearance;
cells without names stand in a column called by their position.
-/

namespace SolutionCheck

inductive Answer where
  | table (t : Table)
  | records (records : List Record)
  | sequence (cells : List Cell)
  | single (cell : Cell)
deriving DecidableEq

/-- The name of the first column when columns have no names. -/
def positionalColumn : String := "0"

namespace Answer

def shape : Answer → String
  | table _ => "table"
  | records _ => "records"
  | sequence _ => "sequence"
  | single _ => "scalar"

def isRecord : Json → Bool
  | .object members => (Cell.nonFinite? (.object members)).isNone
  | _ => false

/-- An element of a list of records; a value that is no object goes under the positional name. -/
def recordOf : Json → Record
  | .object members => .ofList (members.map fun member => (member.1, Cell.ofJson member.2))
  | value => .ofList [(positionalColumn, Cell.ofJson value)]

/-- The answer in a structured value. The first element of a list tells records from cells. -/
def ofJson : Json → Answer
  | .array items =>
    if items.head?.any isRecord then records (items.map recordOf) else sequence (items.map Cell.ofJson)
  | value => if isRecord value then records [recordOf value] else single (.ofJson value)

/-- The keys of records by first appearance. -/
def allKeys (records : List Record) : List String :=
  (records.flatMap Keyed.keys).foldl (fun keys key => if keys.contains key then keys else keys ++ [key]) []

def toTable : Answer → Table
  | table t => t
  | records rs => .ofRecords (allKeys rs) rs
  | sequence cs => .ofColumn positionalColumn cs
  | single cell => .ofColumn positionalColumn [cell]

end Answer

end SolutionCheck
