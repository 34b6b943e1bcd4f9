import SolutionCheck.Answer
import SolutionCheck.Language
import SolutionCheck.RunSettings
import SolutionCheck.Sample
import SolutionCheck.Json.Tagged
import SolutionCheck.Interpreter.Loader
/-!
What passes between this program and a script interpreter: the program text, the input document and
the result document. An engine for tables gets the relations as tables whose columns are sorted; the
others get the records just as they stand in the task.
-/

namespace SolutionCheck.Interpreter

def backend : String := "interpreter"

def loaderFile : String := "driver.py"

def inputFile : String := "input.json"

def resultFile : String := "output.json"

def programText (settings : InterpreterSettings) (source : String) : String :=
  let front := String.intercalate "\n" settings.prelude
  (if front.isEmpty then "" else front ++ "\n\n") ++ source ++ "\n"

def recordsFor (tabular : Bool) (sample : Sample) (relation : String) (t : Table) : List Record :=
  if tabular then t.records else (sample.get? relation).getD []

def inputDocument (tabular : Bool) (taskId : String) (sample : Sample) (relations : Relations) : Json :=
  let relationJson : String × Table → String × Json := fun (relation, t) =>
    (relation, .object [("columns", .ofTexts t.columns),
      ("records", .array ((recordsFor tabular sample relation t).map recordJson))])
  .object [("task", .string taskId), ("program", .string (Engine.interpreter tabular).programFile),
    ("tabular", .bool tabular), ("relations", .object (relations.entries.map relationJson))]

inductive Result where
  | table (columns : List String) (rows : List Row)
  | value (value : Json)

inductive ResultFault where
  | unreadable (fault : Json.Fault)
  | malformed (fault : WidthFault)
deriving DecidableEq

def ResultFault.message : ResultFault → String
  | .unreadable fault => "unreadable result: " ++ fault.message
  | .malformed fault => "malformed table result: " ++ fault.message

namespace Result

def tableFields [Json.Numerals] : List (Json.Field Table) :=
  [Json.field "columns" true (Json.readList Json.readString) fun t columns => { t with columns },
    Json.field "rows" true (Json.readList (Json.readList Cell.read)) fun t rows => { t with rows }]

def valueFields [Json.Numerals] : List (Json.Field Json) := [Json.field "value" true Json.readValue fun _ value => value]

def read [Json.Numerals] : Json.Reader Result := fun depth d => do
  let wanted := Json.ticked "table" ++ " or " ++ Json.ticked "value"
  let (variant, rest) ← Json.readTagged "DriverOutput" "kind" wanted ["table", "value"] depth d
  if variant = "table" then
    let t ← Json.readVariantFields "DriverOutput::Table" tableFields ⟨[], []⟩ depth rest
    .ok (table t.columns t.rows)
  else (Json.readVariantFields "DriverOutput::Value" valueFields .null depth rest).map value

/-- The answer that a result gives. The rows of a table must be as wide as its columns. -/
def toAnswer : Result → Except WidthFault Answer
  | table columns rows => (Table.ofRows columns rows).map .table
  | value j => .ok (.ofJson j)

end Result

def readResult [Json.Numerals] (text : String) : Except ResultFault Answer := do
  let result ← (Json.readText Result.read text).mapError .unreadable
  result.toAnswer.mapError .malformed

end SolutionCheck.Interpreter
