import SolutionCheck.CommandLine
import SolutionCheck.Sql.Database
/-!
What stands outside of the program when it works on an image of the disk: a log of which only the opening
shows, and a database that comes with the library.
-/

namespace SolutionCheck

/-- Open the log of a day. The folders on the way to it are made if they are missing. -/
def Disk.openLog (day folder logFile : String) (disk : Disk) : Option Disk :=
  let path := Path.join folder (if logFile.isEmpty then day else logFile ++ "." ++ day)
  let above := String.intercalate "/" (Path.names path).dropLast
  let (disk, _) := disk.ensureFolder (if Path.isAbsolute path then "/" ++ above else above)
  if disk.isFile path then some disk else (disk.writeText path "").toOption

namespace CommandLine

def Outside.onImage (day : String) (evaluate : Evaluator) : Outside where
  evaluate := evaluate
  database := Sql.Database.service
  openLog := Disk.openLog day

end CommandLine

end SolutionCheck
