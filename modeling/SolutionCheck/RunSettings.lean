import SolutionCheck.Json.Reader
/-!
Settings of runs: how long a program may take, where its folder is made, and which programs interpret
scripts and evaluate rules. Every setting has a default.
-/

namespace SolutionCheck

structure RunLimits where
  timeoutSeconds : Nat
  /-- the folder in which the folders of runs are made, when it is not that for temporary files -/
  workRoot : Option String
deriving DecidableEq

structure InterpreterSettings where
  program : String
  prelude : List String
deriving DecidableEq

structure LogicSettings where
  program : String
  /-- arguments in front of those that every run has -/
  arguments : List String
deriving DecidableEq

structure RunSettings where
  execution : RunLimits
  interpreter : InterpreterSettings
  logic : LogicSettings
deriving DecidableEq

namespace RunLimits

def standard : RunLimits := ⟨30, none⟩

def fields [Json.Numerals] : List (Json.Field RunLimits) :=
  [Json.field "timeout_secs" false (Json.readNat 64) fun l timeoutSeconds => { l with timeoutSeconds },
    Json.field "work_root" false (Json.readOptional (Json.readStringAs "path string"))
      fun l workRoot => { l with workRoot }]

def read [Json.Numerals] : Json.Reader RunLimits := Json.readStructure "ExecutionLimits" fields standard

def toJson (limits : RunLimits) : Json :=
  .object [("timeout_secs", .int limits.timeoutSeconds),
    ("work_root", (limits.workRoot.map Json.string).getD .null)]

end RunLimits

namespace InterpreterSettings

def standard : InterpreterSettings :=
  ⟨"python3", ["import pandas as pd", "import numpy as np", "from collections import defaultdict"]⟩

def fields [Json.Numerals] : List (Json.Field InterpreterSettings) :=
  [Json.field "program" false Json.readString fun s program => { s with program },
    Json.field "prelude" false (Json.readList Json.readString) fun s lines => { s with prelude := lines }]

def read [Json.Numerals] : Json.Reader InterpreterSettings := Json.readStructure "InterpreterOptions" fields standard

def toJson (settings : InterpreterSettings) : Json :=
  .object [("program", .string settings.program), ("prelude", .ofTexts settings.prelude)]

end InterpreterSettings

namespace LogicSettings

def standard : LogicSettings := ⟨"souffle", []⟩

def fields [Json.Numerals] : List (Json.Field LogicSettings) :=
  [Json.field "program" false Json.readString fun s program => { s with program },
    Json.field "args" false (Json.readList Json.readString) fun s arguments => { s with arguments }]

def read [Json.Numerals] : Json.Reader LogicSettings := Json.readStructure "LogicOptions" fields standard

def toJson (settings : LogicSettings) : Json :=
  .object [("program", .string settings.program), ("args", .ofTexts settings.arguments)]

end LogicSettings

namespace RunSettings

def standard : RunSettings := ⟨.standard, .standard, .standard⟩

def fields [Json.Numerals] : List (Json.Field RunSettings) :=
  [Json.field "execution" false RunLimits.read fun s execution => { s with execution },
    Json.field "interpreter" false InterpreterSettings.read fun s interpreter => { s with interpreter },
    Json.field "logic" false LogicSettings.read fun s logic => { s with logic }]

def read [Json.Numerals] : Json.Reader RunSettings := Json.readStructure "ExecutionConfig" fields standard

def toJson (settings : RunSettings) : Json :=
  .object [("execution", settings.execution.toJson), ("interpreter", settings.interpreter.toJson),
    ("logic", settings.logic.toJson)]

def parse [Json.Numerals] (text : String) : Except Json.Fault RunSettings := Json.readText read text

def invalidMessage (fault : Json.Fault) : String := "Invalid execution config JSON: " ++ fault.message

end RunSettings

end SolutionCheck
