import SolutionCheck.Proofs.Action
import SolutionCheck.Proofs.Statements

/-!
What is relied on of a database. As far as it is documented, a connection holds tables under their names, a
statement that has been prepared makes a table, puts a row into one or gives all rows of one, and nothing
fails as long as the names are such that they are accepted and no limit of size is reached. A database in
memory changes no files unless a statement asks for it, and which statements do is for the database to say.
-/

namespace SolutionCheck.Sql

abbrev Content := String → Option Data

namespace Content

def empty : Content := fun _ => none

/-- Names are the same whatever the case of their letters. -/
def put (content : Content) (name : String) (data : Data) : Content := fun other =>
  if fold name = fold other then some data else content other

variable (content : Content) (name : String) (data : Data)

theorem put_self : content.put name data name = some data := if_pos rfl

theorem put_of_ne {other : String} (apart : fold name ≠ fold other) :
    content.put name data other = content other := if_neg apart

theorem put_put (other : Data) : (content.put name data).put name other = content.put name other := by
  funext another
  simp only [put]
  split <;> rfl

end Content

/-- Put a row behind the others, in the form in which it is stored. -/
def Data.append (data : Data) (row : List Value) : Data :=
  { data with rows := data.rows ++ [row.map Value.stored] }

inductive Instruction where
  | create (name : String) (columns : List String)
  | insert (name : String) (width : Nat)
  | select (name : String) (columns : List String)

namespace Instruction

def lexemes : Instruction → List Lexeme
  | create name columns => Statement.createLexemes name columns
  | insert name width => Statement.insertLexemes name width
  | select name columns => Statement.selectLexemes name columns

/-- The instruction can be prepared while these tables are there. -/
inductive Allowed (content : Content) : Instruction → Prop
  | create {name : String} {columns : List String} (free : content name = none) (named : name ≠ "")
    (unreserved : (fold name).startsWith Statement.reservedStart = false) (filled : columns ≠ [])
    (allNamed : ∀ column ∈ columns, column ≠ "") (distinct : (columns.map fold).Nodup) :
    Allowed content (.create name columns)
  | insert {name : String} {data : Data} (there : content name = some data) :
    Allowed content (.insert name data.columns.length)
  | select {name : String} {data : Data} (there : content name = some data) :
    Allowed content (.select name data.columns)

end Instruction

/-- The texts of statements and the tables that are not too large. -/
structure Limits where
  text : String → Prop
  content : Content → Prop

def Limits.unlimited : Limits := ⟨fun _ => True, fun _ => True⟩

namespace Service

/-- The documented behaviour. A connection, with a transaction open in it or not, `holds` tables, and a
statement `means` an instruction. -/
structure Documented (service : Service) (limits : Limits) (holds : service.State → Bool → Content → Prop)
    (means : service.Statement → Instruction → Prop) : Prop where
  openInMemory : service.openInMemory.Succeeds (fun _ => True) fun connection _ => holds connection false .empty
  startTransaction {content : Content} :
    service.startTransaction.Succeeds (fun c => holds c.1 false content) fun _ c => holds c.1 true content
  commit {content : Content} :
    service.commit.Succeeds (fun c => holds c.1 true content) fun _ c => holds c.1 false content
  prepare (inTransaction : Bool) {content : Content} {instruction : Instruction} {text : String}
    (shown : (Token.tokens text).map Token.lexeme = instruction.lexemes) (allowed : instruction.Allowed content)
    (short : limits.text text) :
    (service.prepare text).Succeeds (fun c => holds c.1 inTransaction content)
      fun statement c => means statement instruction ∧ holds c.1 inTransaction content
  create (inTransaction : Bool) {content : Content} {statement : service.Statement} {name : String}
    {columns : List String} (meant : means statement (.create name columns)) (free : content name = none)
    (small : limits.content (content.put name ⟨columns, []⟩)) :
    (service.execute statement []).Succeeds (fun c => holds c.1 inTransaction content)
      fun _ c => holds c.1 inTransaction (content.put name ⟨columns, []⟩)
  insert (inTransaction : Bool) {content : Content} {statement : service.Statement} {name : String} {data : Data}
    {row : List Value} (meant : means statement (.insert name data.columns.length))
    (there : content name = some data) (wide : row.length = data.columns.length)
    (small : limits.content (content.put name (data.append row))) :
    (service.execute statement row).Succeeds (fun c => holds c.1 inTransaction content)
      fun _ c => holds c.1 inTransaction (content.put name (data.append row))
  columnNames {statement : service.Statement} {name : String} {columns : List String}
    (meant : means statement (.select name columns)) : service.columnNames statement = columns
  query (inTransaction : Bool) {content : Content} {statement : service.Statement} {name : String} {data : Data}
    (meant : means statement (.select name data.columns)) (there : content name = some data) :
    (service.query statement).Succeeds (fun c => holds c.1 inTransaction content)
      fun rows c => rows = data.rows ∧ holds c.1 inTransaction content

/-- A connection with some property, on a given disk. -/
def Still {service : Service} (calm : service.State → Prop) (disk : Disk) (connection : service.State × Disk) : Prop :=
  calm connection.1 ∧ connection.2 = disk

/-- Connections with some property are kept in memory: to open and to close one and the transactions in it
leave the disk alone. -/
structure InMemory (service : Service) (calm : service.State → Prop) : Prop where
  openInMemory (disk : Disk) : (service.openInMemory disk).2 = disk
  calm_of_open {disk : Disk} {connection : service.State}
    (opened : (service.openInMemory disk).1 = .ok connection) : calm connection
  close {connection : service.State} (isCalm : calm connection) (disk : Disk) : service.close connection disk = disk
  startTransaction (disk : Disk) : service.startTransaction.Keeps (Still calm disk)
  commit (disk : Disk) : service.commit.Keeps (Still calm disk)

/-- Neither to prepare a text nor to run what it was prepared to changes the disk. -/
structure LeavesDisk (service : Service) (calm : service.State → Prop) (text : String) : Prop where
  prepare (disk : Disk) : (service.prepare text).Keeps (Still calm disk)
  execute {statement : service.Statement} (prepared : (service.prepare text).Gives statement) (row : List Value)
    (disk : Disk) : (service.execute statement row).Keeps (Still calm disk)
  executeRaw {statement : service.Statement} (prepared : (service.prepare text).Gives statement) (disk : Disk) :
    (service.executeRaw statement).Keeps (Still calm disk)
  query {statement : service.Statement} (prepared : (service.prepare text).Gives statement) (disk : Disk) :
    (service.query statement).Keeps (Still calm disk)

end Service

end SolutionCheck.Sql
