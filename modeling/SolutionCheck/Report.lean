import SolutionCheck.Table.Drawing
import SolutionCheck.Table.Stored
import SolutionCheck.Text.Lines
/-!
Reports on submissions. The text has a line with the verdict for every submission, below it the lines
of its message indented by six blanks, and at the end the number of submissions that passed. Every
line but those of the verdicts and the last one is indented.
-/

namespace SolutionCheck

inductive Verdict where
  | pass
  | fail
  | error
deriving DecidableEq

structure Outcome where
  program : String
  language : String
  verdict : Verdict
  message : Option String
  expected : Option Table
  actual : Option Table
deriving DecidableEq

namespace Verdict

def name : Verdict → String
  | pass => "pass"
  | fail => "fail"
  | error => "error"

/-- The tags that begin the lines of verdicts are of one width. -/
def tag : Verdict → String
  | pass => "PASS "
  | fail => "FAIL "
  | error => "ERROR"

end Verdict

namespace Outcome

def passed (o : Outcome) : Bool := o.verdict = .pass

def headLine (o : Outcome) : String := o.verdict.tag ++ " " ++ o.program ++ " (" ++ o.language ++ ")"

/-- The lines below the verdict: the message, or else the actual table when that is asked for. -/
def details (verbose : Bool) (o : Outcome) : List String :=
  match o.message with
  | some message => Text.linesOf message
  | none => if verbose then (o.actual.map fun t => Text.linesOf t.draw).getD [] else []

def toJson (o : Outcome) : Json :=
  .object ([("program", .string o.program), ("language", .string o.language),
      ("verdict", .string o.verdict.name)] ++
    (o.message.map fun message => ("message", Json.string message)).toList ++
    (o.expected.map fun t => ("expected", t.toJson)).toList ++
    (o.actual.map fun t => ("actual", t.toJson)).toList)

end Outcome

namespace Report

def indentation : String := "      "

def passCount (outcomes : List Outcome) : Nat := outcomes.countP Outcome.passed

def linesFor (verbose : Bool) (o : Outcome) : List String :=
  o.headLine :: (o.details verbose).map (indentation ++ ·)

def lastLine (outcomes : List Outcome) : String :=
  natText (passCount outcomes) ++ "/" ++ natText outcomes.length ++ " passed"

def lines (verbose : Bool) (outcomes : List Outcome) : List String :=
  outcomes.flatMap (linesFor verbose) ++ [lastLine outcomes]

def text (verbose : Bool) (outcomes : List Outcome) : String :=
  String.ofList ((lines verbose outcomes).flatMap fun line => line.toList ++ ['\n'])

def toJson (outcomes : List Outcome) : Json := .array (outcomes.map Outcome.toJson)

end Report

end SolutionCheck
