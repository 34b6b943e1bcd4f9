import SolutionCheck.Verification
/-!
The command line. First the log is started. A request then verifies submissions to a task, shows the answer
of one, or lists the languages; its results are written as text or as a structured value. The exit status
tells whether all went well (0), some submission did not pass (1), something could not be loaded, run or
understood (2), or the program panicked (101).
-/

namespace SolutionCheck.CommandLine

inductive Format where
  | text
  | json
deriving DecidableEq

inductive Request where
  | verify (taskId : String) (paths : List String) (verbose : Bool)
  | showAnswer (taskId path : String)
  | languages
deriving DecidableEq

structure Invocation where
  request : Request
  format : Format
deriving DecidableEq

inductive Wish where
  | invocation (i : Invocation)
  | help
  | version
  | misuse
deriving DecidableEq

inductive Subject where
  | verify
  | showAnswer
  | languages
deriving DecidableEq

namespace Subject

def named : List (String × Subject) :=
  [("verify", verify), ("show", showAnswer), ("languages", languages)]

def limit? : Subject → Option Nat
  | verify => none
  | showAnswer => some 2
  | languages => some 0

end Subject

structure Progress where
  format : Option Format
  verbose : Bool
  operands : List String
deriving DecidableEq

def readFormat? : String → Option Format
  | "text" => some .text
  | "json" => some .json
  | _ => none

inductive Argument where
  | operand (text : String)
  /-- two dashes, behind which all arguments are operands -/
  | separator
  /-- a word behind two dashes, with the value behind its equals sign -/
  | long (name : String) (value : Option String)
  | short (letters : List Char)
deriving DecidableEq

namespace Argument

def ofText (text : String) : Argument :=
  match text.toList with
  | ['-', '-'] => .separator
  | '-' :: '-' :: rest =>
    let value := match rest.dropWhile (· ≠ '=') with
      | [] => none
      | _ :: value => some (String.ofList value)
    .long (String.ofList (rest.takeWhile (· ≠ '='))) value
  | '-' :: c :: rest => .short (c :: rest)
  | _ => .operand text

def isValue (text : String) : Bool :=
  match ofText text with
  | .operand _ => true
  | _ => false

end Argument

/-- Add an operand, unless the subject has all that it takes. Paths are not empty. -/
def addOperand (subject : Subject) (p : Progress) (text : String) : Option Progress :=
  if subject.limit?.any (· ≤ p.operands.length) then none
  else if text.isEmpty && !p.operands.isEmpty then none
  else some { p with operands := p.operands ++ [text] }

def addOperands (subject : Subject) (p : Progress) (texts : List String) : Option Progress :=
  texts.foldlM (addOperand subject) p

def takeLetters (subject : Subject) (p : Progress) : List Char → Except Wish Progress
  | [] => .ok p
  | c :: rest =>
    if c = 'h' then .error .help
    else if c = 'v' ∧ subject = .verify ∧ !p.verbose then takeLetters subject { p with verbose := true } rest
    else .error .misuse

def takeFormat (p : Progress) (value : String) : Except Wish Progress :=
  match p.format, readFormat? value with
  | none, some format => .ok { p with format := some format }
  | _, _ => .error .misuse

def finish (subject : Subject) (outer : Option Format) (p : Progress) : Wish :=
  let format := (p.format <|> outer).getD .text
  match subject, p.operands with
  | .verify, taskId :: paths => .invocation ⟨.verify taskId paths p.verbose, format⟩
  | .showAnswer, [taskId, path] => .invocation ⟨.showAnswer taskId path, format⟩
  | .languages, [] => .invocation ⟨.languages, format⟩
  | _, _ => .misuse

def readSubject (subject : Subject) (outer : Option Format) (p : Progress) : List String → Wish
  | [] => finish subject outer p
  | text :: rest =>
    match Argument.ofText text with
    | .separator =>
      match addOperands subject p rest with
      | some p => finish subject outer p
      | none => .misuse
    | .operand text =>
      match addOperand subject p text with
      | some p => readSubject subject outer p rest
      | none => .misuse
    | .short letters =>
      match takeLetters subject p letters with
      | .ok p => readSubject subject outer p rest
      | .error wish => wish
    | .long "help" none => .help
    | .long "verbose" none =>
      if subject = .verify ∧ !p.verbose then readSubject subject outer { p with verbose := true } rest
      else .misuse
    | .long "format" (some value) =>
      match takeFormat p value with
      | .ok p => readSubject subject outer p rest
      | .error wish => wish
    | .long "format" none =>
      match rest with
      | [] => .misuse
      | value :: rest =>
        if Argument.isValue value then
          match takeFormat p value with
          | .ok p => readSubject subject outer p rest
          | .error wish => wish
        else .misuse
    | .long _ _ => .misuse

def readHelp : List String → Wish
  | [] => .help
  | [word] => if word = "help" ∨ (valueOf? Subject.named word).isSome then .help else .misuse
  | _ => .misuse

def readOuter (format : Option Format) : List String → Wish
  | [] => .misuse
  | text :: rest =>
    match Argument.ofText text with
    | .operand word =>
      if word = "help" then readHelp rest
      else match valueOf? Subject.named word with
        | some subject => readSubject subject format ⟨none, false, []⟩ rest
        | none => .misuse
    | .short ('h' :: _) => .help
    | .short ('V' :: _) => .version
    | .long "help" none => .help
    | .long "version" none => .version
    | .long "format" (some value) =>
      match format, readFormat? value with
      | none, some format => readOuter (some format) rest
      | _, _ => .misuse
    | .long "format" none =>
      match rest with
      | [] => .misuse
      | value :: rest =>
        match format, readFormat? value with
        | none, some format => readOuter (some format) rest
        | _, _ => .misuse
    | _ => .misuse

def read (arguments : List String) : Wish := readOuter none arguments

structure Response where
  status : Nat
  output : String
  errors : String
deriving DecidableEq

inductive Ending where
  | responded (response : Response)
  | panicked
deriving DecidableEq

def Ending.status : Ending → Nat
  | .responded response => response.status
  | .panicked => 101

def Ending.output : Ending → String
  | .responded response => response.output
  | .panicked => ""

structure Outside where
  evaluate : Evaluator
  database : Sql.Service
  /-- the disk after a log of some name is opened in a folder; none where that panics -/
  openLog : String → String → Disk → Option Disk

def Response.ofFault (fault : VerificationFault) : Response := ⟨2, "", "error: " ++ fault.message ++ "\n"⟩

def writeTable (format : Format) (t : Table) : String :=
  match format with
  | .text => t.draw ++ "\n"
  | .json => t.toJson.indentedText ++ "\n"

def writeOutcomes (format : Format) (verbose : Bool) (outcomes : List Outcome) : String :=
  match format with
  | .text => Report.text verbose outcomes
  | .json => (Report.toJson outcomes).indentedText ++ "\n"

def respond (format : Format) (verbose : Bool) (outcomes : List Outcome) : Response :=
  ⟨if outcomes.all Outcome.passed then 0 else 1, writeOutcomes format verbose outcomes, ""⟩

/-- How a verification ends, which panics where it has no outcomes. -/
def conclude (format : Format) (verbose : Bool) : Option (List Outcome) → Ending
  | some outcomes => .responded (respond format verbose outcomes)
  | none => .panicked

def answer {α : Type} (ending : α → Ending) (action : Action Machine VerificationFault α) (m : Machine) :
    Ending × Machine :=
  match action m with
  | (.ok a, m) => (ending a, m)
  | (.error fault, m) => (.responded (.ofFault fault), m)

def logFolder : String := "logs"

def startLog (settings : Settings) (outside : Outside) (disk : Disk) : Option Disk :=
  outside.openLog logFolder settings.logFile (disk.ensureFolder logFolder).1

section

variable [Json.Numerals] (settings : Settings) (outside : Outside)

def loadSetup (disk : Disk) : Except StoreFault Setup :=
  match Store.catalog disk settings, Store.runSettings disk settings with
  | .ok catalog, .ok runSettings => .ok ⟨catalog, runSettings, outside.evaluate, outside.database⟩
  | .error fault, _ => .error fault
  | _, .error fault => .error fault

def withSetup {α : Type} (use : Setup → Action Machine VerificationFault α) :
    Action Machine VerificationFault α := fun m =>
  match loadSetup settings outside m.disk with
  | .ok setup => use setup m
  | .error fault => (.error (.notLoaded fault), m)

def perform [Sorting] (i : Invocation) (m : Machine) : Ending × Machine :=
  match i.request with
  | .languages =>
    match Store.catalog m.disk settings with
    | .ok catalog => (.responded ⟨0, writeTable i.format catalog.toTable, ""⟩, m)
    | .error fault => (.responded (.ofFault (.notLoaded fault)), m)
  | .showAnswer taskId path =>
    answer (fun t => .responded ⟨0, writeTable i.format t, ""⟩)
      (withSetup settings outside fun setup => Verification.showAnswer setup settings taskId path) m
  | .verify taskId paths verbose =>
    answer (conclude i.format verbose)
      (withSetup settings outside fun setup => Verification.verifyTask setup settings taskId paths) m

end

/-- The paths of all that may be looked at for an invocation. -/
def pathsOf (settings : Settings) (i : Invocation) : List String :=
  let named := match i.request with
    | .verify _ paths _ => paths
    | .showAnswer _ path => [path]
    | .languages => []
  settings.dataFolder :: settings.languagesFile.toList ++ settings.runSettingsFile.toList ++ named

def usage : String :=
  "Usage: bench [--format text|json] <command>\n\n" ++
    "  verify <task> [programs]... [-v|--verbose]  Run programs for a task and verify each result\n" ++
    "  show <task> <program>                       Run one program and print its result\n" ++
    "  languages                                   List the recognized languages\n"

def run [Json.Numerals] [Sorting] (settings : Settings) (outside : Outside) (arguments : List String)
    (m : Machine) : Ending × Machine :=
  match startLog settings outside m.disk with
  | none => (.panicked, { m with disk := (m.disk.ensureFolder logFolder).1 })
  | some disk =>
    let m : Machine := { m with disk }
    match read arguments with
    | .invocation i => perform settings outside i m
    | .help => (.responded ⟨0, usage, ""⟩, m)
    | .version => (.responded ⟨0, "bench 0.1.0\n", ""⟩, m)
    | .misuse => (.responded ⟨2, "", usage⟩, m)

end SolutionCheck.CommandLine
