import SolutionCheck.Layout
import SolutionCheck.RunSettings
import SolutionCheck.Submission
import SolutionCheck.Task
import SolutionCheck.Text.Quoted
/-!
Reading tasks, submissions, catalogs and settings of runs from the disk. The submissions to a task are
the documents in its folder, in the order of their names; a task without a folder has none.
-/

namespace SolutionCheck

inductive StoreFault where
  | noTask (path : String)
  | unreadableTask (path : String) (fault : FileFault)
  | invalidTask (path : String) (fault : Json.Fault)
  | unusableTask (fault : TaskFault)
  | unreadableSubmission (path : String) (fault : FileFault)
  | invalidSubmission (path : String) (fault : Json.Fault)
  | unreadableFolder (path : String)
  | unreadableCatalog (path : String) (fault : FileFault)
  | invalidCatalog (fault : Json.Fault)
  | unreadableSettings (path : String)
  | invalidSettings (fault : Json.Fault)
deriving DecidableEq

namespace StoreFault

def message : StoreFault → String
  | noTask path => "Task file not found: " ++ Text.quotedPath path
  | unreadableTask path fault => "Failed to read task file " ++ Text.quotedPath path ++ " (" ++ fault.kind ++ ")"
  | invalidTask path fault => "Invalid task JSON in " ++ Text.quotedPath path ++ ": " ++ fault.message
  | unusableTask fault => fault.message
  | unreadableSubmission path fault =>
    "Failed to read program file " ++ Text.quotedPath path ++ " (" ++ fault.kind ++ ")"
  | invalidSubmission path fault => "Invalid program JSON in " ++ Text.quotedPath path ++ ": " ++ fault.message
  | unreadableFolder path => "Failed to read programs dir at " ++ Text.quotedPath path
  | unreadableCatalog path fault =>
    "Failed to read language catalog " ++ Text.quotedPath path ++ ": " ++ fault.message
  | invalidCatalog fault => Catalog.invalidMessage fault
  | unreadableSettings path => "Failed to read execution config at " ++ Text.quotedPath path
  | invalidSettings fault => RunSettings.invalidMessage fault

end StoreFault

namespace Store

variable [Json.Numerals]

def taskAt (disk : Disk) (path : String) : Except StoreFault Task :=
  match disk.readText path with
  | .error .notFound => .error (.noTask path)
  | .error fault => .error (.unreadableTask path fault)
  | .ok text => (Task.parse text).mapError (.invalidTask path)

def task (disk : Disk) (layout : Layout) (id : String) : Except StoreFault Task :=
  taskAt disk (layout.taskFile id)

def usableTask (disk : Disk) (layout : Layout) (id : String) : Except StoreFault Task := do
  let task ← task disk layout id
  match task.fault? with
  | none => .ok task
  | some fault => .error (.unusableTask fault)

def submissionAt (disk : Disk) (path : String) : Except StoreFault Submission := do
  let text ← (disk.readText path).mapError (.unreadableSubmission path)
  (Submission.parse text).mapError (.invalidSubmission path)

def submissions (disk : Disk) (layout : Layout) (taskId : String) : Except StoreFault (List Submission) := do
  let folder := layout.submissionFolder taskId
  if !disk.contains folder then return []
  let names ← (disk.listFolder folder).mapError fun _ => .unreadableFolder folder
  let documents := names.filter fun name => Path.extension? name = some "json"
  documents.mapM fun name => submissionAt disk (Path.join folder name)

def catalogAt (disk : Disk) (path : String) : Except StoreFault Catalog := do
  let text ← (disk.readText path).mapError (.unreadableCatalog path)
  (Catalog.parse text).mapError .invalidCatalog

/-- Load the catalog that settings name, else the stored one, else the standard one. -/
def catalog (disk : Disk) (settings : Settings) : Except StoreFault Catalog :=
  let stored := (Layout.ofSettings settings disk).catalogFile
  match settings.languagesFile with
  | some path => catalogAt disk path
  | none => if disk.isFile stored then catalogAt disk stored else .ok .standard

def runSettingsAt (disk : Disk) (path : String) : Except StoreFault RunSettings := do
  let text ← (disk.readText path).mapError fun _ => .unreadableSettings path
  (RunSettings.parse text).mapError .invalidSettings

/-- Load the settings of runs that settings name, else the standard ones. -/
def runSettings (disk : Disk) (settings : Settings) : Except StoreFault RunSettings :=
  match settings.runSettingsFile with
  | some path => runSettingsAt disk path
  | none => .ok .standard

end Store

end SolutionCheck
