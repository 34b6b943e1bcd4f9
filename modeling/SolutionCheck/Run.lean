import SolutionCheck.Comparison
import SolutionCheck.Relational
import SolutionCheck.Run.Rules
import SolutionCheck.Run.Script
import SolutionCheck.Submission
/-!
Running a submission on a task. The language decides the engine, then the sample input is made into
tables, then the engine runs; a fault of an earlier stage is reported before the next one does
anything. Checking a submission runs it and verifies its answer against the expected one.
-/

namespace SolutionCheck

structure Setup where
  catalog : Catalog
  settings : RunSettings
  evaluate : Evaluator
  database : Sql.Service

inductive RunFault where
  | unsupportedLanguage (id : String)
  | malformedSample (fault : SampleFault)
  | engineFailed (fault : EngineFault)
deriving DecidableEq

def RunFault.message : RunFault → String
  | .unsupportedLanguage id => "Unsupported language '" ++ id ++ "'"
  | .malformedSample fault => fault.message
  | .engineFailed fault => fault.message

inductive CheckFault where
  | notRun (fault : RunFault)
  | refused (refusal : Refusal)
deriving DecidableEq

namespace Run

variable [Json.Numerals]

def runEngine (setup : Setup) (engine : Engine) (task : Task) (source : String) (relations : Relations) :
    Action Machine EngineFault Answer :=
  match engine with
  | .interpreter tabular => runScript setup.evaluate setup.settings tabular task source relations
  | .relational => Relational.runQuery setup.database source relations
  | .logic => runRules setup.evaluate setup.settings task source relations

def run (setup : Setup) (task : Task) (submission : Submission) : Action Machine RunFault Answer := fun m =>
  match setup.catalog.engine? submission.language with
  | none => (.error (.unsupportedLanguage submission.language), m)
  | some engine =>
    match task.sampleInput.materialize with
    | .error fault => (.error (.malformedSample fault), m)
    | .ok relations =>
      let (result, m) := runEngine setup engine task submission.source relations m
      (result.mapError .engineFailed, m)

def check [Sorting] (setup : Setup) (task : Task) (submission : Submission) :
    Action Machine CheckFault Match := fun m =>
  match run setup task submission m with
  | (.error fault, m) => (.error (.notRun fault), m)
  | (.ok answer, m) => ((verify task.expected answer).mapError .refused, m)

end Run

end SolutionCheck
