import SolutionCheck.Table
import SolutionCheck.Number.Reading
import SolutionCheck.Text.Blank
import SolutionCheck.Text.Lines
import SolutionCheck.Text.Quoted
/-!
Facts: tables as a logic program sees them. A column becomes an attribute with a name and a type. Rows
are written and read as lines of fields between tabs, without names; nothing is an empty field.
A read column is of integers when every field in it that is not empty reads as one, and of floats
otherwise, so that integers and floats never stand in one column.
-/

namespace SolutionCheck

inductive FactType where
  | number
  | symbol
  | float
deriving DecidableEq

structure Attribute where
  column : String
  name : String
  type : FactType
deriving DecidableEq

abbrev Schema := List Attribute

namespace FactType

def name : FactType → String
  | number => "number"
  | symbol => "symbol"
  | float => "float"

/-- The type of a column. Integers alone are numbers; floats, or nothing among integers, make it a
float; truth values, texts and columns without any value are symbols. -/
def infer (cells : List Cell) : FactType :=
  let ints := cells.any fun | .int _ => true | _ => false
  let floats := cells.any fun | .float _ => true | _ => false
  let others := cells.any fun | .bool _ | .text _ => true | _ => false
  if others then symbol
  else if floats || (ints && cells.any Cell.isNull) then float
  else if ints then number
  else symbol

/-- The cell that a field stands for. In an integral column every field that is not empty reads as
an integer. -/
def cellOf (type : FactType) (integral : Bool) (field : List Char) : Cell :=
  if type = symbol then .text (String.ofList field)
  else if field.isEmpty then .null
  else if integral then ((Number.readInt? field).map Cell.int).getD (.text (String.ofList field))
  else ((Number.readFloat? field).map Cell.float).getD (.text (String.ofList field))

end FactType

/-- The name of the attribute for a column. One that reads as an integer, blanks around it aside, gets
a letter in front. -/
def attributeName (column : String) : String :=
  if (Number.readInt? (Text.trim column.toList)).isSome then "x" ++ column else column

def Schema.ofTable (t : Table) : Schema :=
  t.columns.mapIdx fun index column =>
    ⟨column, attributeName column, .infer (t.rows.map (Table.cellAt · index))⟩

def Schema.declaration (relation : String) (schema : Schema) : String :=
  let attributes := schema.map fun a => a.name ++ ":" ++ a.type.name
  ".decl " ++ relation ++ "(" ++ String.intercalate ", " attributes ++ ")"

namespace Facts

structure FieldFault where
  relation : String
  row : Nat
  text : String
deriving DecidableEq

def FieldFault.message (fault : FieldFault) : String :=
  "relation '" ++ fault.relation ++ "' row " ++ natText fault.row ++ ": text " ++ Text.quoted fault.text ++
    " contains a tab or line break and cannot be written as a fact"

structure LineFault where
  line : Nat
  fields : Nat
  expected : Nat
deriving DecidableEq

def LineFault.message (fault : LineFault) : String :=
  "output line " ++ natText fault.line ++ " has " ++ natText fault.fields ++ " fields, expected " ++
    natText fault.expected

def isSeparator (c : Char) : Bool := c = '\t' || c = '\n' || c = '\r'

def badText? : Cell → Option String
  | .text s => if s.toList.any isSeparator then some s else none
  | _ => none

def field : Cell → List Char
  | .null => []
  | cell => cell.display.toList

def line (row : Row) : List Char := ['\t'].intercalate (row.map field) ++ ['\n']

def write (relation : String) (t : Table) : Except FieldFault String :=
  match t.rows.zipIdx.findSome? fun (row, index) => (row.findSome? badText?).map (index, ·) with
  | some (row, text) => .error ⟨relation, row, text⟩
  | none => .ok (String.ofList (t.rows.flatMap line))

def isIntegral (lines : List (List (List Char))) (index : Nat) : Bool :=
  lines.all fun fields =>
    let field := fields.getD index []
    field.isEmpty || (Number.readInt? field).isSome

def fieldsOf (text : List Char) : List (Nat × List (List Char)) :=
  (Text.lines text).zipIdx.filterMap fun (line, index) =>
    let line := Text.dropFinal '\r' line
    if line.isEmpty then none else some (index + 1, line.splitOn '\t')

def cellsOf (schema : Schema) (integral : List Bool) (fields : List (List Char)) : Row :=
  List.zipWith (fun (a, integral) field => a.type.cellOf integral field)
    (schema.zip integral) fields

/-- The table that the lines of a text stand for; the first line of a wrong width is reported. -/
def read (schema : Schema) (text : String) : Except LineFault Table :=
  let numbered := fieldsOf text.toList
  match numbered.find? fun (_, fields) => fields.length ≠ schema.length with
  | some (line, fields) => .error ⟨line, fields.length, schema.length⟩
  | none =>
    let lines := numbered.map Prod.snd
    let integral := (List.range schema.length).map (isIntegral lines)
    .ok ⟨schema.map Attribute.column, lines.map (cellsOf schema integral)⟩

end Facts

end SolutionCheck
