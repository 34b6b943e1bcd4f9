import SolutionCheck.Settings
/-!
Where the data folder keeps things. Paths are formed by joining, so that an identifier that looks like
an absolute path stands alone.
-/

namespace SolutionCheck

structure Layout where
  root : String
deriving DecidableEq

namespace Layout

/-- The layout that settings give; a relative data folder is below the working folder. -/
def ofSettings (settings : Settings) (disk : Disk) : Layout :=
  ⟨if Path.isAbsolute settings.dataFolder then settings.dataFolder
    else Path.join disk.workingPath settings.dataFolder⟩

def taskFolder (layout : Layout) : String := Path.join layout.root "tasks"

def taskFile (layout : Layout) (taskId : String) : String :=
  Path.join layout.taskFolder (taskId ++ ".json")

def submissionFolder (layout : Layout) (taskId : String) : String :=
  Path.join (Path.join layout.root "programs") taskId

def languageFolder (layout : Layout) : String := Path.join layout.root "languages"

/-- The file that replaces the standard catalog when it is there. -/
def catalogFile (layout : Layout) : String := Path.join layout.languageFolder "languages.json"

end Layout

end SolutionCheck
