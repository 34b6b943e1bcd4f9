import SolutionCheck.Answer
import SolutionCheck.Run.Diagnostic
import SolutionCheck.Sample
import SolutionCheck.Sql.Service
import SolutionCheck.Sql.Token
import SolutionCheck.Text.Blank
/-!
Running a query on input tables. A connection is opened in memory, every table with columns is loaded
in one transaction, and the statements of the source are run in order; the rows of the last one are the
result. Statements end at every semicolon, one inside a text included. The connection is closed on every
way out.
-/

namespace SolutionCheck.Relational

def backend : String := "relational"

def ofCell : Cell → Sql.Value
  | .null => .null
  | .bool b => .ofBool b
  | .int n => .integer n
  | .float x => .real x
  | .text s => .text s

def toCell : Sql.Value → Cell
  | .null => .null
  | .integer n => .int n
  | .real x => .float x
  | .text s => .text s
  | .blob bytes => .text (Text.decodeLossy bytes)

def createText (name : String) (columns : List String) : String :=
  "CREATE TABLE " ++ Sql.Lexeme.quoteName name ++ " (" ++
    String.intercalate ", " (columns.map Sql.Lexeme.quoteName) ++ ")"

def insertText (name : String) (width : Nat) : String :=
  "INSERT INTO " ++ Sql.Lexeme.quoteName name ++ " VALUES (" ++
    String.intercalate ", " (List.replicate width "?") ++ ")"

def statements (source : String) : List String :=
  ((source.toList.splitOn ';').map Text.trim).filterMap fun cs =>
    if cs.isEmpty then none else some (String.ofList cs)

/-- Results of one column, and those without rows, are lists of cells; others are records. -/
def shapeResult (columns : List String) (rows : List Row) : Answer :=
  if rows.isEmpty || columns.length = 1 then .sequence (rows.filterMap List.head?)
  else .records (rows.map (Table.toRecord columns))

section

variable (service : Sql.Service)

def loadTable (name : String) (t : Table) : service.Call Unit :=
  if t.columns.isEmpty then pure ()
  else do
    let create ← service.prepare (createText name t.columns)
    service.execute create []
    let insert ← service.prepare (insertText name t.width)
    t.rows.forM fun row => service.execute insert (row.map ofCell)

def load (relations : Relations) : service.Call Unit := do
  service.startTransaction
  relations.entries.forM fun (name, t) => loadTable service name t
  service.commit

def runStatement (statement : String) : service.Call (List String × List Row) := do
  let prepared ← service.prepare statement
  let columns := service.columnNames prepared
  if columns.isEmpty then
    service.executeRaw prepared
    return (columns, [])
  else
    let rows ← service.query prepared
    return (columns, rows.map fun row => row.map toCell)

def runStatements (statements : List String) : service.Call (List String × List Row) :=
  statements.foldlM (fun _ statement => runStatement service statement) ([], [])

def runQuery (source : String) (relations : Relations) : Action Machine EngineFault Answer := fun m =>
  let reported (message : String) : EngineFault := ⟨backend, .badQuery message⟩
  match service.openInMemory m.disk with
  | (.error message, disk) => (.error (reported message), { m with disk })
  | (.ok connection, disk) =>
    let (result, connection, disk) := (do
      load service relations
      runStatements service (statements source)) (connection, disk)
    ((result.map fun (columns, rows) => shapeResult columns rows).mapError reported,
      { m with disk := service.close connection disk })

end

end SolutionCheck.Relational
