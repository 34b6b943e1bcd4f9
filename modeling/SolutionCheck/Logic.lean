import SolutionCheck.Answer
import SolutionCheck.Facts
import SolutionCheck.Language
import SolutionCheck.RunSettings
import SolutionCheck.Sample
/-!
What passes between this program and an evaluator of rules: one file of facts for each relation that
has columns, the program text with its declarations in front of the rules, and the file that the
answer is read from. The expected answer gives the columns of the answer.
-/

namespace SolutionCheck.Logic

def backend : String := "logic"

def factFile (relation : String) : String := relation ++ ".facts"

def answerFile (taskId : String) : String := taskId ++ ".csv"

def answerSchema (expected : Answer) : Schema := .ofTable expected.toTable

def inputs (relations : Relations) : List (String × Table) :=
  relations.entries.filter fun entry => !entry.2.columns.isEmpty

def header (taskId : String) (relations : Relations) (expected : Answer) : List String :=
  ((inputs relations).flatMap fun (name, t) => [(Schema.ofTable t).declaration name, ".input " ++ name]) ++
    [(answerSchema expected).declaration taskId, ".output " ++ taskId]

def programText (taskId source : String) (relations : Relations) (expected : Answer) : String :=
  String.intercalate "\n" (header taskId relations expected) ++ "\n\n" ++ source ++ "\n"

def arguments (settings : LogicSettings) : List String :=
  settings.arguments ++ ["-F.", "-D.", Engine.logic.programFile]

end SolutionCheck.Logic
