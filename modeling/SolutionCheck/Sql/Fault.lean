import SolutionCheck.Sql.Token
/-!
What the query engine reports. Faults that belong to a place in the statement are reported with the
statement and the place.
-/

namespace SolutionCheck.Sql

inductive Fault where
  | incomplete
  | noStatement
  | unrecognized (text : String) (offset : Nat)
  | unexpected (text : String) (offset : Nat)
  | noSuchTable (name : String)
  | noTables
  /-- a column that is not there; one that should be set has no place in the report -/
  | noSuchColumn (name : String) (offset : Option Nat)
  | noSuchFunction (name : String) (offset : Nat)
  | wrongArguments (function : String) (offset : Nat)
  | misplacedAggregate (function : String) (offset : Nat)
  | tableExists (written : String) (offset : Nat)
  | reservedName (name : String)
  | duplicateColumn (name : String)
  | wrongValueCount (table : String) (columns values : Nat)
  | unequalRows
  | integerOverflow
  | limitNotInteger
  /-- a position, given to a term to sort or group by, that is none of the result's -/
  | noSuchPosition (clause : String) (term count offset : Nat)
  | wrongParameterCount (needed : Nat)
deriving DecidableEq

namespace Fault

def message (statement : String) : Fault → String
  | incomplete => "incomplete input"
  | noStatement => "not an error"
  | unrecognized text offset => at? ("unrecognized token: \"" ++ text ++ "\"") offset
  | unexpected text offset => at? ("near \"" ++ text ++ "\": syntax error") offset
  | noSuchTable name => "no such table: " ++ name
  | noTables => "no tables specified"
  | noSuchColumn name offset => at? ("no such column: " ++ name) offset
  | noSuchFunction name offset => at? ("no such function: " ++ name) offset
  | wrongArguments function offset => at? ("wrong number of arguments to function " ++ function ++ "()") offset
  | misplacedAggregate function offset => at? ("misuse of aggregate function " ++ function ++ "()") offset
  | tableExists written offset => at? ("table " ++ written ++ " already exists") offset
  | reservedName name => "object name reserved for internal use: " ++ name
  | duplicateColumn name => "duplicate column name: " ++ name
  | wrongValueCount table columns values =>
    "table " ++ table ++ " has " ++ natText columns ++ " columns but " ++ natText values ++ " values were supplied"
  | unequalRows => "all VALUES must have the same number of terms"
  | integerOverflow => "integer overflow"
  | limitNotInteger => "datatype mismatch"
  | noSuchPosition clause term count offset =>
    at? (ordinal term ++ " " ++ clause ++ " BY term out of range - should be between 1 and " ++ natText count) offset
  | wrongParameterCount needed =>
    "Wrong number of parameters passed to query. Got 0, needed " ++ natText needed
where
  at? (text : String) (offset : Option Nat) : String :=
    match offset with
    | some n => text ++ " in " ++ statement ++ " at offset " ++ natText n
    | none => text
  ordinal (n : Nat) : String :=
    natText n ++
      (if n / 10 % 10 = 1 then "th"
      else match n % 10 with
        | 1 => "st"
        | 2 => "nd"
        | 3 => "rd"
        | _ => "th")

end Fault

def unexpectedAt : List Token → Fault
  | [] => .incomplete
  | token :: _ =>
    let text := String.ofList token.text
    if token.lexeme = .illegal then .unrecognized text token.offset else .unexpected text token.offset

abbrev Reading (α : Type) := Except Fault (α × List Token)

/-- Names of keywords, tables, columns and functions do not depend on the case of their letters. -/
def fold (name : String) : String := name.map Char.toLower

def reservedWords : List String :=
  ["add", "all", "alter", "and", "as", "autoincrement", "between", "case", "check", "collate", "commit",
    "constraint", "create", "default", "deferrable", "delete", "distinct", "drop", "else", "escape",
    "except", "exists", "foreign", "from", "group", "having", "in", "index", "insert", "intersect", "into",
    "is", "isnull", "join", "limit", "not", "nothing", "notnull", "null", "on", "or", "order", "primary",
    "references", "returning", "select", "set", "table", "then", "to", "transaction", "union", "unique",
    "update", "using", "values", "when", "where"]

namespace Token

def isWord (keyword : String) (token : Token) : Bool :=
  match token.lexeme with
  | .word s => fold s == keyword
  | _ => false

def isSymbol (s : String) (token : Token) : Bool := token.lexeme == .symbol s

def name? (token : Token) : Option String :=
  match token.lexeme with
  | .word s => if reservedWords.contains (fold s) then none else some s
  | .quotedName s _ => some s
  | .string s => some s
  | _ => none

end Token

def expectWord (keyword : String) : List Token → Except Fault (List Token)
  | token :: rest => if token.isWord keyword then .ok rest else .error (unexpectedAt (token :: rest))
  | [] => .error .incomplete

def expectSymbol (s : String) : List Token → Except Fault (List Token)
  | token :: rest => if token.isSymbol s then .ok rest else .error (unexpectedAt (token :: rest))
  | [] => .error .incomplete

def readName : List Token → Reading String
  | token :: rest => match token.name? with
    | some name => .ok (name, rest)
    | none => .error (unexpectedAt (token :: rest))
  | [] => .error .incomplete

/-- Read one or more things between commas. Each takes up one unit of `fuel`. -/
def readListWithin {α : Type} (reader : List Token → Reading α) : Nat → List Token → Except Fault (List α × List Token)
  | 0, ts => .error (unexpectedAt ts)
  | fuel + 1, ts => do
    let (a, rest) ← reader ts
    match rest with
    | token :: after =>
      if token.isSymbol "," then
        let (as, rest) ← readListWithin reader fuel after
        .ok (a :: as, rest)
      else .ok ([a], rest)
    | [] => .ok ([a], [])

def readList {α : Type} (reader : List Token → Reading α) (ts : List Token) : Except Fault (List α × List Token) :=
  readListWithin reader (ts.length + 1) ts

end SolutionCheck.Sql
