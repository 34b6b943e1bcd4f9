import SolutionCheck.RunSettings
import SolutionCheck.Run.Diagnostic
import SolutionCheck.Text.Decoding
/-!
Folders of runs. A run that needs files gets a new folder with a name of its own, which is taken away
when the run ends, however it ends. Outside programs are started in it and may change what it holds.
-/

namespace SolutionCheck.Run

def temporaryFolder : String := "/tmp"

def parentPath (disk : Disk) (limits : RunLimits) : String :=
  match limits.workRoot with
  | none => temporaryFolder
  | some root => if Path.isAbsolute root then root else Path.join disk.workingPath root

def newFolderPath (disk : Disk) (limits : RunLimits) : String :=
  let parent := parentPath disk limits
  match disk.locate parent with
  | .ok location => Path.join parent (disk.freshName location)
  | .error _ => Path.join parent (Disk.runFolderName 0)

section

variable (backend : String)

def ensureWorkRoot (limits : RunLimits) : Action Machine EngineFault Unit :=
  match limits.workRoot with
  | none => pure ()
  | some root => Action.attempt fun disk =>
    let (disk, fault) := disk.ensureFolder root
    (disk, fault.map fun fault => ⟨backend, .noWorkRoot root fault⟩)

def openFolder (limits : RunLimits) : Action Machine EngineFault String := do
  ensureWorkRoot backend limits
  let path ← Action.look fun disk => newFolderPath disk limits
  Action.change fun disk => (disk.createFolder path).mapError fun fault => ⟨backend, .noFolder path fault⟩
  return path

def closeFolder (path : String) (disk : Disk) : Disk :=
  match disk.locate path with
  | .ok location => disk.remove location
  | .error _ => disk

/-- Do something in a new folder, which is taken away afterwards. -/
def inFolder {α : Type} (limits : RunLimits) (use : String → Action Machine EngineFault α) :
    Action Machine EngineFault α := do
  let path ← openFolder backend limits
  Action.thenAlways (use path) (closeFolder path)

def writeFile (folder name text : String) : Action Machine EngineFault Unit :=
  Action.change fun disk =>
    (disk.writeText (Path.join folder name) text).mapError fun fault => ⟨backend, .unwritable name fault⟩

def start (evaluate : Evaluator) (limits : RunLimits) (program : String) (arguments : List String)
    (folder : String) : Action Machine EngineFault Unit := fun m =>
  if (program :: arguments).any (·.toList.contains '\x00') then (.error ⟨backend, .nullInCommand program⟩, m)
  else
    let location := (m.disk.locate folder).toOption.getD []
    let command : Command :=
      ⟨program, arguments, folder, limits.timeoutSeconds, m.disk.contents location⟩
    let given : Machine := { m with commands := m.commands ++ [command] }
    match evaluate command with
    | .notStarted fault => (.error ⟨backend, .notStarted program fault⟩, given)
    | .overran => (.error ⟨backend, .overran program limits.timeoutSeconds⟩, given)
    | .finished status output errors contents =>
      let left : Machine := { given with disk := m.disk.setContents location contents }
      if status = some 0 then (.ok (), left)
      else (.error ⟨backend, .failed status (Text.decodeLossy output) (Text.decodeLossy errors)⟩, left)

end

end SolutionCheck.Run
