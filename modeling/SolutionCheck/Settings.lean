import SolutionCheck.Path
import SolutionCheck.Variables
/-!
Settings of the program, which come from variables. Every setting has a default; the two files that
replace built-in data are only named when the variable is not empty.
-/

namespace SolutionCheck

structure Settings where
  logFile : String
  /-- the folder of tasks, submissions and languages -/
  dataFolder : String
  languagesFile : Option String
  runSettingsFile : Option String
deriving DecidableEq

namespace Settings

def variableNames : List String :=
  ["LOG_FILE", "DATA_DIR", "LANGUAGES_FILE", "EXECUTION_CONFIG"]

def ofVariables (known : Variables) : Settings where
  logFile := (known.get? "LOG_FILE").getD "bench.log"
  dataFolder := (known.get? "DATA_DIR").getD "data"
  languagesFile := (known.get? "LANGUAGES_FILE").filter (!·.isEmpty)
  runSettingsFile := (known.get? "EXECUTION_CONFIG").filter (!·.isEmpty)

def load (known : Variables) (disk : Disk) : Settings := .ofVariables (known.addNearest disk)

end Settings

end SolutionCheck
