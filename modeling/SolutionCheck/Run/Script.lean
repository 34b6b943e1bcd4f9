import SolutionCheck.Run.Folder
import SolutionCheck.Task
/-!
Runs of scripts. The script, the loader that calls it and the input document are written into the
folder of the run; the loader is started, and the answer is read from the result document it leaves.
-/

namespace SolutionCheck.Run

variable [Json.Numerals]

def readResult (folder : String) : Action Machine EngineFault Answer := do
  let read ← Action.look fun disk => disk.readText (Path.join folder Interpreter.resultFile)
  let text ← Action.ofExcept (read.mapError fun fault => ⟨Interpreter.backend, .noResult fault⟩)
  Action.ofExcept ((Interpreter.readResult text).mapError fun fault => ⟨Interpreter.backend, .unusableResult fault⟩)

def runScript (evaluate : Evaluator) (settings : RunSettings) (tabular : Bool) (task : Task)
    (source : String) (relations : Relations) : Action Machine EngineFault Answer :=
  inFolder Interpreter.backend settings.execution fun folder => do
    writeFile Interpreter.backend folder (Engine.interpreter tabular).programFile
      (Interpreter.programText settings.interpreter source)
    writeFile Interpreter.backend folder Interpreter.loaderFile Interpreter.loader
    writeFile Interpreter.backend folder Interpreter.inputFile
      (Interpreter.inputDocument tabular task.id task.sampleInput relations).text
    start Interpreter.backend evaluate settings.execution settings.interpreter.program [Interpreter.loaderFile] folder
    readResult folder

end SolutionCheck.Run
