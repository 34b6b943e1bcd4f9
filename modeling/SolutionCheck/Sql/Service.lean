import SolutionCheck.Machine
import SolutionCheck.Sql.Value
/-!
A database as this program meets it. What a connection keeps, and what a statement becomes when it is
prepared, is left open, and so is what any call does to the connection and to the disk.
-/

namespace SolutionCheck.Sql

structure Service where
  State : Type
  Statement : Type
  openInMemory : Action Disk String State
  close : State → Disk → Disk
  startTransaction : Action (State × Disk) String Unit
  commit : Action (State × Disk) String Unit
  prepare : String → Action (State × Disk) String Statement
  /-- none for a statement that gives no rows -/
  columnNames : Statement → List String
  /-- run a statement that gives no rows, with values for its marks -/
  execute : Statement → List Value → Action (State × Disk) String Unit
  /-- run a statement that gives no rows, its marks left open -/
  executeRaw : Statement → Action (State × Disk) String Unit
  query : Statement → Action (State × Disk) String (List (List Value))

abbrev Service.Call (service : Service) := Action (service.State × Disk) String

end SolutionCheck.Sql
