import SolutionCheck.Sql.Expression
/-!
Statements as they are written. A statement that makes a table is judged by the table's name as soon as
the name is read, before what follows it.
-/

namespace SolutionCheck.Sql

inductive Item where
  | all
  | expr (e : Expr) (newName : Option String) (text : String)

structure SortTerm where
  expr : Expr
  descending : Bool

structure Selection where
  distinct : Bool
  items : List Item
  source : Option String
  condition : Option Expr
  groups : List Expr
  order : List SortTerm
  limit : Option Expr

inductive Statement where
  | select (selection : Selection)
  | createTable (name : String) (columns : List String)
  | createFrom (name : String) (selection : Selection)
  | insert (table : String) (rows : List (List Expr))
  | update (table : String) (changes : List (String × Expr)) (condition : Option Expr)
  | delete (table : String) (condition : Option Expr)
  | dropTable (name : String)

def readAfter {α : Type} (keyword : String) (reader : List Token → Except Fault (α × List Token))
    (ts : List Token) : Except Fault (Option α × List Token) :=
  match ts with
  | token :: rest =>
    if token.isWord keyword then do
      let (a, rest) ← reader rest
      .ok (some a, rest)
    else .ok (none, ts)
  | [] => .ok (none, [])

namespace Item

def readAlias (ts : List Token) : Except Fault (Option String × List Token) :=
  match ts with
  | token :: rest =>
    if token.isWord "as" then do
      let (name, rest) ← readName rest
      .ok (some name, rest)
    else match token.name? with
      | some name => .ok (some name, rest)
      | none => .ok (none, ts)
  | [] => .ok (none, [])

def read (ts : List Token) : Except Fault (Item × List Token) :=
  match ts with
  | token :: rest =>
    if token.isSymbol "*" then .ok (all, rest)
    else do
      let (e, rest) ← Expr.read ts
      let (newName, after) ← readAlias rest
      .ok (expr e newName (Token.spanText (ts.take (ts.length - rest.length))), after)
  | [] => .error .incomplete

end Item

namespace Selection

def readSortTerm (ts : List Token) : Except Fault (SortTerm × List Token) := do
  let (e, rest) ← Expr.read ts
  match rest with
  | token :: after =>
    if token.isWord "desc" then .ok (⟨e, true⟩, after)
    else if token.isWord "asc" then .ok (⟨e, false⟩, after)
    else .ok (⟨e, false⟩, rest)
  | [] => .ok (⟨e, false⟩, [])

def readListBy {α : Type} (keyword : String) (reader : List Token → Except Fault (α × List Token))
    (ts : List Token) : Except Fault (List α × List Token) := do
  let (found, rest) ← readAfter keyword (fun ts => do readList reader (← expectWord "by" ts)) ts
  .ok (found.getD [], rest)

/-- Read the name of a source. Another name may be given to it, which nothing refers to. -/
def readSource (ts : List Token) : Except Fault (String × List Token) := do
  let (name, rest) ← readName ts
  let (_, rest) ← Item.readAlias rest
  .ok (name, rest)

def read (ts : List Token) : Except Fault (Selection × List Token) := do
  let (distinct, ts) := match ts with
    | token :: rest =>
      if token.isWord "distinct" then (true, rest)
      else if token.isWord "all" then (false, rest)
      else (false, ts)
    | [] => (false, [])
  let (items, ts) ← readList Item.read ts
  let (source, ts) ← readAfter "from" readSource ts
  let (condition, ts) ← readAfter "where" Expr.read ts
  let (groups, ts) ← readListBy "group" Expr.read ts
  let (order, ts) ← readListBy "order" readSortTerm ts
  let (limit, ts) ← readAfter "limit" Expr.read ts
  .ok (⟨distinct, items, source, condition, groups, order, limit⟩, ts)

end Selection

namespace Statement

/-- Read the names of columns up to the closing bracket. A name that was there before is reported when
what follows it is in order. -/
def readColumnsWithin : Nat → List String → List Token → Except Fault (List String × List Token)
  | 0, _, ts => .error (unexpectedAt ts)
  | fuel + 1, before, ts => do
    let (name, rest) ← readName ts
    match rest with
    | token :: after =>
      if !token.isSymbol "," && !token.isSymbol ")" then .error (unexpectedAt rest)
      else if before.any fun other => fold other == fold name then .error (.duplicateColumn name)
      else if token.isSymbol ")" then .ok ([name], after)
      else do
        let (names, rest) ← readColumnsWithin fuel (before ++ [name]) after
        .ok (name :: names, rest)
    | [] => .error .incomplete

def reservedStart : String := "sqlite_"

def checkNewName (isTaken : String → Bool) (name : String) (written : List Char) (offset : Nat) :
    Except Fault Unit :=
  if (fold name).startsWith reservedStart then .error (.reservedName name)
  else if isTaken name then .error (.tableExists (String.ofList written) offset)
  else .ok ()

def readCreate (isTaken : String → Bool) (ts : List Token) : Except Fault (Statement × List Token) :=
  match ts with
  | named :: rest => do
    let (name, _) ← readName (named :: rest)
    match rest with
    | token :: after =>
      if token.isSymbol "(" then do
        checkNewName isTaken name named.text named.offset
        let (columns, rest) ← readColumnsWithin (after.length + 1) [] after
        .ok (createTable name columns, rest)
      else if token.isWord "as" then do
        checkNewName isTaken name named.text named.offset
        let (selection, rest) ← Selection.read (← expectWord "select" after)
        .ok (createFrom name selection, rest)
      else .error (unexpectedAt rest)
    | [] => .error .incomplete
  | [] => .error .incomplete

def readRow (ts : List Token) : Except Fault (List Expr × List Token) := do
  let (values, rest) ← readList Expr.read (← expectSymbol "(" ts)
  .ok (values, ← expectSymbol ")" rest)

def readChange (ts : List Token) : Except Fault ((String × Expr) × List Token) := do
  let (column, rest) ← readName ts
  let (value, rest) ← Expr.read (← expectSymbol "=" rest)
  .ok ((column, value), rest)

def readBody (isTaken : String → Bool) (first : Token) (rest : List Token) :
    Except Fault (Statement × List Token) :=
  if first.isWord "select" then do
    let (selection, rest) ← Selection.read rest
    .ok (select selection, rest)
  else if first.isWord "create" then do readCreate isTaken (← expectWord "table" rest)
  else if first.isWord "insert" then do
    let (table, rest) ← readName (← expectWord "into" rest)
    let (rows, rest) ← readList readRow (← expectWord "values" rest)
    .ok (insert table rows, rest)
  else if first.isWord "update" then do
    let (table, rest) ← readName rest
    let (changes, rest) ← readList readChange (← expectWord "set" rest)
    let (condition, rest) ← readAfter "where" Expr.read rest
    .ok (update table changes condition, rest)
  else if first.isWord "delete" then do
    let (table, rest) ← readName (← expectWord "from" rest)
    let (condition, rest) ← readAfter "where" Expr.read rest
    .ok (delete table condition, rest)
  else if first.isWord "drop" then do
    let (name, rest) ← readName (← expectWord "table" rest)
    .ok (dropTable name, rest)
  else .error (unexpectedAt (first :: rest))

def read (isTaken : String → Bool) (ts : List Token) : Except Fault Statement :=
  match ts with
  | [] => .error .noStatement
  | first :: rest => do
    let (statement, rest) ← readBody isTaken first rest
    if rest.isEmpty then .ok statement else .error (unexpectedAt rest)

end Statement

end SolutionCheck.Sql
