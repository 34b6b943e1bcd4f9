import SolutionCheck.Image
/-!
The program. It takes an image of the files that an invocation may look at, carries the invocation out
on the image, and writes the response. Outside programs are not started from here: a command is
answered as when its program is not there.
-/

namespace SolutionCheck.CommandLine

def readVariables : IO Variables :=
  Settings.variableNames.foldlM (fun known name => do
    match ← IO.getEnv name with
    | some value => return known.put name value
    | none => return known) ∅

partial def addEntry (disk : Disk) (location : Location) : IO Disk := do
  let path := (← IO.currentDir) / ("/" ++ String.intercalate "/" location)
  if ← path.isDir then
    (← path.readDir).foldlM (fun disk entry => addEntry disk (location ++ [entry.fileName]))
      (disk.put location .folder)
  else if ← path.pathExists then
    return disk.put location (.file (Text.decode? (← IO.FS.readBinFile path).toList))
  else
    return disk

def addFolder (disk : Disk) (location : Location) : IO Disk := do
  let path := (← IO.currentDir) / ("/" ++ String.intercalate "/" location)
  if ← path.isDir then return disk.put location .folder else addEntry disk location

def addPath (disk : Disk) (path : String) : IO Disk := do
  let step : Location × List Location → String → Location × List Location := fun (at_, passed) name =>
    if name = "." then (at_, passed)
    else if name = ".." then (at_.dropLast, passed)
    else (at_ ++ [name], passed ++ [at_ ++ [name]])
  let (location, passed) := (Path.names path).foldl step (disk.start path, [])
  let disk ← passed.foldlM addFolder disk
  addEntry disk location

/-- An image with the working folder, the folders above it and their files of variables. -/
def startImage : IO Disk := do
  let workingFolder := Path.names (← IO.currentDir).toString
  let above := (List.range (workingFolder.length + 1)).map workingFolder.take
  let disk ← (above.drop 1).foldlM addFolder ⟨[], workingFolder⟩
  above.foldlM (fun disk location => addEntry disk (location ++ [Variables.fileName])) disk

def endingFor (arguments : List String) : IO Ending := do
  let image ← startImage
  let settings := Settings.load (← readVariables) image
  let image ← addFolder image (image.workingFolder ++ [logFolder])
  let image ← match read arguments with
    | .invocation i => (pathsOf settings i).foldlM addPath (image.put ["tmp"] .folder)
    | _ => pure image
  let _ := Sorting.guarded
  let _ := Json.Numerals.scaled
  return (run settings (.onImage "today" fun _ => .notStarted .notFound) arguments ⟨image, []⟩).1

end SolutionCheck.CommandLine

def main (arguments : List String) : IO UInt32 := do
  match ← SolutionCheck.CommandLine.endingFor arguments with
  | .responded response =>
    IO.print response.output
    IO.eprint response.errors
    return response.status.toUInt32
  | .panicked => return SolutionCheck.CommandLine.Ending.panicked.status.toUInt32
