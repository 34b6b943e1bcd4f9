import SolutionCheck.Logic
import SolutionCheck.Run.Folder
import SolutionCheck.Task
/-!
Runs of logic programs. The facts of every relation and the program are written into the folder of the
run; the evaluator is started, and the answer is read from the lines it leaves. An evaluator that
leaves no file has found no facts.
-/

namespace SolutionCheck.Run

def writeFacts (folder : String) : List (String × Table) → Action Machine EngineFault Unit
  | [] => pure ()
  | (name, t) :: rest => do
    let text ← Action.ofExcept ((Facts.write name t).mapError fun fault => ⟨Logic.backend, .badField fault⟩)
    writeFile Logic.backend folder (Logic.factFile name) text
    writeFacts folder rest

/-- The text that an evaluator left at a path; nothing there is an empty text. -/
def answerText (path : String) (disk : Disk) : Except EngineFault String :=
  match disk.readText path with
  | .ok text => .ok text
  | .error .notFound => .ok ""
  | .error fault => .error ⟨Logic.backend, .unreadableAnswer path fault⟩

def readAnswer (folder : String) (task : Task) : Action Machine EngineFault Answer := do
  let read ← Action.look (answerText (Path.join folder (Logic.answerFile task.id)))
  let text ← Action.ofExcept read
  let t ← Action.ofExcept ((Facts.read (Logic.answerSchema task.expected) text).mapError
    fun fault => ⟨Logic.backend, .badLine fault⟩)
  return .table t

def runRules (evaluate : Evaluator) (settings : RunSettings) (task : Task) (source : String)
    (relations : Relations) : Action Machine EngineFault Answer :=
  inFolder Logic.backend settings.execution fun folder => do
    writeFacts folder (Logic.inputs relations)
    writeFile Logic.backend folder Engine.logic.programFile (Logic.programText task.id source relations task.expected)
    start Logic.backend evaluate settings.execution settings.logic.program (Logic.arguments settings.logic) folder
    readAnswer folder task

end SolutionCheck.Run
