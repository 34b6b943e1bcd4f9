import SolutionCheck.Facts
import SolutionCheck.Interpreter
import SolutionCheck.Machine
import SolutionCheck.Text.Quoted
/-! Why an engine gave no answer. -/

namespace SolutionCheck

inductive Diagnostic where
  | noWorkRoot (root : String) (fault : FileFault)
  | noFolder (path : String) (fault : FileFault)
  | unwritable (name : String) (fault : FileFault)
  | notStarted (program : String) (fault : FileFault)
  | nullInCommand (program : String)
  | overran (program : String) (seconds : Nat)
  /-- the program ended with a status other than zero, or was killed -/
  | failed (status : Option Nat) (output errors : String)
  | noResult (fault : FileFault)
  | unusableResult (fault : Interpreter.ResultFault)
  | unreadableAnswer (path : String) (fault : FileFault)
  | badField (fault : Facts.FieldFault)
  | badLine (fault : Facts.LineFault)
  | badQuery (message : String)
deriving DecidableEq

namespace Diagnostic

/-- The text of a status. A program that was killed has none. -/
def statusText : Option Nat → String
  | some n => natText n
  | none => "-1"

def message : Diagnostic → String
  | noWorkRoot root fault => "cannot create " ++ Text.quotedPath root ++ ": " ++ fault.message
  | noFolder path fault =>
    "cannot create working directory: " ++ fault.message ++ " at path " ++ Text.quotedPath path
  | unwritable name fault => "cannot write " ++ name ++ ": " ++ fault.message
  | notStarted program fault => "failed to start '" ++ program ++ "': " ++ fault.message
  | nullInCommand program => "failed to start '" ++ program ++ "': nul byte found in provided data"
  | overran program seconds => "'" ++ program ++ "' timed out after " ++ natText seconds ++ "s"
  | failed status output errors =>
    "Execution failed (exit code " ++ statusText status ++ "):\nSTDOUT:\n" ++ output ++ "\nSTDERR:\n" ++ errors
  | noResult fault => "no result was written: " ++ fault.message
  | unusableResult fault => fault.message
  | unreadableAnswer path fault => "cannot read " ++ Text.quotedPath path ++ ": " ++ fault.message
  | badField fault => fault.message
  | badLine fault => fault.message
  | badQuery message => message

end Diagnostic

structure EngineFault where
  backend : String
  diagnostic : Diagnostic
deriving DecidableEq

def EngineFault.message (fault : EngineFault) : String :=
  fault.backend ++ " backend failed:\n" ++ fault.diagnostic.message

end SolutionCheck
