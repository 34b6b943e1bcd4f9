import SolutionCheck.Report
import SolutionCheck.Run
import SolutionCheck.Store
/-!
Verifying submissions to a stored task, one after another, and showing the answer of one. The task and
all submissions are loaded before anything runs; after that every submission has an outcome, whatever
became of those before it.
-/

namespace SolutionCheck

inductive VerificationFault where
  | notLoaded (fault : StoreFault)
  | notRun (path : String) (fault : RunFault)
deriving DecidableEq

def VerificationFault.message : VerificationFault → String
  | .notLoaded fault => fault.message
  | .notRun path fault => "running " ++ path ++ ": " ++ fault.message

namespace Verification

variable [Json.Numerals]

structure Entry where
  label : String
  submission : Submission
deriving DecidableEq

def entryAt (disk : Disk) (path : String) : Except StoreFault Entry := do
  let submission ← Store.submissionAt disk path
  return ⟨(Path.fileName? path).getD submission.fileName, submission⟩

def entries (disk : Disk) (layout : Layout) (taskId : String) (paths : List String) :
    Except StoreFault (List Entry) :=
  if paths.isEmpty then
    (Store.submissions disk layout taskId).map fun found => found.map fun s => ⟨s.fileName, s⟩
  else paths.mapM (entryAt disk)

def errorOutcome (entry : Entry) (message : String) : Outcome :=
  ⟨entry.label, entry.submission.language, .error, some message, none, none⟩

def outcomeOf (entry : Entry) : Except CheckFault Match → Option Outcome
  | .ok m => some ⟨entry.label, entry.submission.language, .pass, none, some m.expected, some m.actual⟩
  | .error (.refused (.rejected r)) =>
    some ⟨entry.label, entry.submission.language, .fail, some r.message, some r.expected, some r.actual⟩
  | .error (.refused .panicked) => none
  | .error (.notRun fault) => some (errorOutcome entry fault.message)

section

variable [Sorting]

def checkEntry (setup : Setup) (task : Task) (entry : Entry) (m : Machine) : Option Outcome × Machine :=
  match entry.submission.fault? setup.catalog with
  | some fault => (some (errorOutcome entry fault.message), m)
  | none =>
    let (result, m) := Run.check setup task entry.submission m
    (outcomeOf entry result, m)

/-- Check submissions one after another, up to a panic. -/
def checkEntries (setup : Setup) (task : Task) : List Entry → Machine → Option (List Outcome) × Machine
  | [], m => (some [], m)
  | entry :: rest, m =>
    match checkEntry setup task entry m with
    | (none, m) => (none, m)
    | (some outcome, m) =>
      let (outcomes, m) := checkEntries setup task rest m
      (outcomes.map (outcome :: ·), m)

def verifyTask (setup : Setup) (settings : Settings) (taskId : String) (paths : List String) :
    Action Machine VerificationFault (Option (List Outcome)) := fun m =>
  let layout := Layout.ofSettings settings m.disk
  let loaded : Except StoreFault (Task × List Entry) := do
    let task ← Store.usableTask m.disk layout taskId
    return (task, ← entries m.disk layout taskId paths)
  match loaded with
  | .error fault => (.error (.notLoaded fault), m)
  | .ok (task, found) =>
    let (outcomes, m) := checkEntries setup task found m
    (.ok outcomes, m)

end

def showAnswer (setup : Setup) (settings : Settings) (taskId path : String) :
    Action Machine VerificationFault Table := fun m =>
  let layout := Layout.ofSettings settings m.disk
  let loaded : Except StoreFault (Task × Submission) := do
    let task ← Store.usableTask m.disk layout taskId
    return (task, ← Store.submissionAt m.disk path)
  match loaded with
  | .error fault => (.error (.notLoaded fault), m)
  | .ok (task, submission) =>
    let (result, m) := Run.run setup task submission m
    ((result.mapError (.notRun path)).map Answer.toTable, m)

end Verification

end SolutionCheck
