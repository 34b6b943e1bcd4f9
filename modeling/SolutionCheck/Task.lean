import SolutionCheck.Answer
import SolutionCheck.Sample
import SolutionCheck.Text.Blank
/-!
Tasks: a named problem with sample input and one expected answer. The expected answer is kept as it
stands in the task's document, so that writing the task gives it back.
-/

namespace SolutionCheck

structure PlanStep where
  id : String
  description : String
deriving DecidableEq

structure Task where
  id : String
  category : String
  description : String
  plan : List PlanStep
  sampleInput : Sample
  sampleOutput : Json

inductive TaskFault where
  | blankId
  | noOutput (id : String)
deriving DecidableEq

def TaskFault.message : TaskFault → String
  | .blankId => "Task id must not be empty"
  | .noOutput id => "Task '" ++ id ++ "' has no sample output"

namespace PlanStep

def toJson (step : PlanStep) : Json :=
  .object [("id", .string step.id), ("description", .string step.description)]

def fields [Json.Numerals] : List (Json.Field PlanStep) :=
  [Json.field "id" true Json.readString fun s id => { s with id },
    Json.field "description" true Json.readString fun s description => { s with description }]

def read [Json.Numerals] : Json.Reader PlanStep := Json.readStructure "Plan" fields ⟨"", ""⟩

end PlanStep

namespace Task

def toJson (task : Task) : Json :=
  .object [("id", .string task.id), ("category", .string task.category),
    ("description", .string task.description), ("plan", .array (task.plan.map PlanStep.toJson)),
    ("sample_input", sampleJson task.sampleInput), ("sample_output", task.sampleOutput)]

def fields [Json.Numerals] : List (Json.Field Task) :=
  [Json.field "id" true Json.readString fun t id => { t with id },
    Json.field "category" false Json.readString fun t category => { t with category },
    Json.field "description" false Json.readString fun t description => { t with description },
    Json.field "plan" false (Json.readList PlanStep.read) fun t plan => { t with plan },
    Json.field "sample_input" false readSample fun t sampleInput => { t with sampleInput },
    Json.field "sample_output" false Json.readValue fun t sampleOutput => { t with sampleOutput }]

def read [Json.Numerals] : Json.Reader Task := Json.readStructure "Task" fields ⟨"", "", "", [], ∅, .null⟩

def parse [Json.Numerals] (text : String) : Except Json.Fault Task := Json.readText read text

def expected (task : Task) : Answer := .ofJson task.sampleOutput

def fault? (task : Task) : Option TaskFault :=
  if (Text.trim task.id.toList).isEmpty then some .blankId
  else match task.sampleOutput with
    | .null => some (.noOutput task.id)
    | _ => none

end Task

end SolutionCheck
