import SolutionCheck.Sql.Aggregation
import SolutionCheck.Sql.Service
import SolutionCheck.Sorting
/-!
A database for where no other one is at hand. It knows a part of the language and keeps its tables in memory.
A statement is prepared against the tables that there are and may then be run with values for its marks. A
selection gives a result; the other statements change the database. Rows come in the order in which they
were stored, those of a grouped selection in the order of their groups, unless the selection sorts them.
-/

namespace SolutionCheck.Sql

structure Database where
  tables : Keyed Data
deriving DecidableEq

inductive Prepared where
  | select (plan : Plan)
  | createTable (name : String) (columns : List String)
  | createFrom (name : String) (plan : Plan)
  | insert (table : String) (rows : List (List Term))
  | update (table : String) (changes : List (Nat × Term)) (condition : Option Term)
  | delete (table : String) (condition : Option Term)
  | dropTable (name : String)

namespace Term

def evaluate (parameters : List Value) (group : List (List Value)) (row : List Value) : Term → Except Fault Value
  | value v => .ok v
  | parameter index => .ok (parameters.getD index .null)
  | column index => .ok (row.getD index .null)
  | plus t => t.evaluate parameters group row
  | negate t => (t.evaluate parameters group row).map Value.negate
  | not t => (t.evaluate parameters group row).map Value.not
  | isNull t => (t.evaluate parameters group row).map fun v => .ofBool (v = .null)
  | binary op l r => do .ok (op.apply (← l.evaluate parameters group row) (← r.evaluate parameters group row))
  | aggregate _ none => .ok (.integer (.ofNat group.length))
  | aggregate f (some t) => do f.apply (← group.mapM fun row => t.evaluate parameters [] row)

def extremes : Term → List (Ordering × Term)
  | aggregate .min (some t) => [(.lt, t)]
  | aggregate .max (some t) => [(.gt, t)]
  | aggregate _ _ => []
  | plus t => t.extremes
  | negate t => t.extremes
  | not t => t.extremes
  | isNull t => t.extremes
  | binary _ l r => l.extremes ++ r.extremes
  | _ => []

end Term

namespace Plan

def extremeRow (parameters : List Value) (better : Ordering) (t : Term) (group : List (List Value)) :
    Except Fault (List Value) := do
  let (_, found) ← group.foldlM (fun (best, found) row => do
    let v ← t.evaluate parameters [] row
    if v = .null then pure (best, if best = .null then row else found)
    else if best = .null ∨ v.order best = better then pure (v, row)
    else pure (best, found)) (Value.null, ([] : List Value))
  return found

/-- The row that stands for a group: that of the last extreme value asked for, or the first row. -/
def standFor (parameters : List Value) (plan : Plan) (group : List (List Value)) : Except Fault (List Value) :=
  match ((plan.terms ++ plan.order.map Prod.fst).flatMap Term.extremes).getLast? with
  | some (better, t) => extremeRow parameters better t group
  | none => .ok (group.head?.getD [])

def orderKeys : List Value → List Value → Ordering
  | a :: as, b :: bs => (a.order b).then (orderKeys as bs)
  | _, _ => .eq

def orderBy : List Bool → List Value → List Value → Ordering
  | descending :: ds, a :: as, b :: bs =>
    (if descending then (a.order b).swap else a.order b).then (orderBy ds as bs)
  | _, _, _ => .eq

def filterRows (parameters : List Value) (condition : Option Term) (rows : List (List Value)) :
    Except Fault (List (List Value)) :=
  match condition with
  | none => .ok rows
  | some t => rows.filterM fun row => do return (← t.evaluate parameters [] row).holds? == some true

def groupRows (parameters : List Value) (keys : List Term) (descending : List Bool) (rows : List (List Value)) :
    Except Fault (List (List (List Value))) := do
  let keyed ← rows.mapM fun row => do
    return (← keys.mapM (·.evaluate parameters [] row), row)
  let sorted := sortBy (fun a b => orderBy descending a.1 b.1) keyed
  return (sorted.splitBy fun a b => orderKeys a.1 b.1 == .eq).map fun group => group.map Prod.snd

/-- Which keys of groups descend: those at the places of sort terms that do, when the selection has as
many terms to sort by as to group by, and otherwise none. -/
def groupDirections (plan : Plan) : List Bool :=
  if plan.order.length = plan.groups.length then plan.order.map Prod.snd else plan.groups.map fun _ => false

/-- The groups of a selection, each with the row that stands for it. Without grouping every row is a
group of its own. -/
def groupsOf (parameters : List Value) (plan : Plan) (rows : List (List Value)) :
    Except Fault (List (List (List Value) × List Value)) := do
  if !plan.grouped then return rows.map fun row => ([row], row)
  let groups ← if plan.groups.isEmpty then pure [rows] else groupRows parameters plan.groups plan.groupDirections rows
  groups.mapM fun group => do return (group, ← plan.standFor parameters group)

def limitOf? (limit : Option Value) : Except Fault (Option Nat) :=
  match limit with
  | none => .ok none
  | some v =>
    match v.numeric? with
    | some x =>
      if v.order (.integer x.toInt64) ≠ .eq then .error .limitNotInteger
      else .ok (if x.toInt64 < 0 then none else some x.toInt64.toInt.toNat)
    | none => .error .limitNotInteger

def rowOf (parameters : List Value) (plan : Plan) (group : List (List Value)) (row : List Value) :
    Except Fault (List Value × List Value) := do
  return (← plan.terms.mapM (·.evaluate parameters group row),
    ← plan.order.mapM (·.1.evaluate parameters group row))

def sameRow (a b : List Value × List Value) : Bool := orderKeys a.1 b.1 == .eq

/-- The rows for groups, up to a number of them, without those that are equal to an earlier one when
distinct rows are asked for. A group behind the last row that is wanted is not looked at. -/
def collectRows (parameters : List Value) (plan : Plan) (wanted : Option Nat)
    (kept : List (List Value × List Value)) :
    List (List (List Value) × List Value) → Except Fault (List (List Value × List Value))
  | [] => .ok kept
  | (group, row) :: rest => do
    if wanted.any (· ≤ kept.length) then return kept
    let found ← plan.rowOf parameters group row
    let isNew := !plan.distinct || !kept.any (sameRow · found)
    collectRows parameters plan wanted (if isNew then kept ++ [found] else kept) rest

def run (parameters : List Value) (stored : List (List Value)) (plan : Plan) : Except Fault (List (List Value)) := do
  let limit ← limitOf? (← plan.limit.mapM (·.evaluate parameters [] []))
  if limit = some 0 then return []
  let rows ← filterRows parameters plan.condition stored
  let groups ← plan.groupsOf parameters rows
  let results ← plan.collectRows parameters (if plan.order.isEmpty then limit else none) [] groups
  let sorted := sortBy (fun a b => orderBy (plan.order.map Prod.snd) a.2 b.2) results
  return (sorted.map Prod.fst).take (limit.getD sorted.length)

end Plan

namespace Database

def empty : Database := ⟨∅⟩

def find? (db : Database) (name : String) : Option Data := db.tables.get? (fold name)

def table (db : Database) (name : String) : Except Fault Data :=
  match db.find? name with
  | some data => .ok data
  | none => .error (.noSuchTable name)

def put (db : Database) (name : String) (data : Data) : Database := ⟨db.tables.put (fold name) data⟩

def erase (db : Database) (name : String) : Database := ⟨db.tables.erase (fold name)⟩

/-- Names that differ in more than case: one that was there before gets a number. -/
def distinctNames (names : List String) : List String :=
  names.foldl (fun before name =>
    let isNew (candidate : String) : Bool := !before.any fun other => fold other == fold candidate
    let numbered := (List.range before.length).map fun (n : Nat) => name ++ ":" ++ natText (n + 1)
    before ++ [((name :: numbered).find? isNew).getD name]) []

def plan (db : Database) (selection : Selection) : Except Fault Plan := do
  let columns ← match selection.source with
    | some name => (db.table name).map Data.columns
    | none => .ok []
  Plan.ofSelection columns selection

def planInsert (db : Database) (name : String) (rows : List (List Expr)) : Except Fault Prepared := do
  let data ← db.table name
  let width := (rows.head?.map List.length).getD 0
  if rows.any fun row => row.length ≠ width then throw .unequalRows
  let terms ← rows.mapM fun row => row.mapM (Term.ofExpr ⟨[], [], false⟩)
  if width = data.columns.length then return .insert name terms
  else throw (.wrongValueCount name data.columns.length width)

def planChange (columns : List String) (change : String × Expr) : Except Fault (Nat × Term) := do
  let t ← Term.ofExpr ⟨columns, [], false⟩ change.2
  match columns.findIdx? fun column => fold column == fold change.1 with
  | some index => return (index, t)
  | none => throw (.noSuchColumn change.1 none)

def resolve (db : Database) : Statement → Except Fault Prepared
  | .select selection => (db.plan selection).map .select
  | .createTable name columns => .ok (.createTable name columns)
  | .createFrom name selection => (db.plan selection).map (.createFrom name)
  | .insert name rows => db.planInsert name rows
  | .update name changes condition => do
    let data ← db.table name
    let changes ← changes.mapM (planChange data.columns)
    let condition ← condition.mapM (Term.ofExpr ⟨data.columns, [], false⟩)
    return .update name changes condition
  | .delete name condition => do
    let data ← db.table name
    let condition ← condition.mapM (Term.ofExpr ⟨data.columns, [], false⟩)
    return .delete name condition
  | .dropTable name => do
    let _ ← db.table name
    return .dropTable name

def prepare (db : Database) (sql : String) : Except Fault (Prepared × Nat) := do
  let tokens := Token.tokens sql
  let statement ← Statement.read (fun name => (db.find? name).isSome) tokens
  let prepared ← db.resolve statement
  return (prepared, Token.parameterCount tokens)

def sourceRows (db : Database) (plan : Plan) : Except Fault (List (List Value)) :=
  match plan.source with
  | some name => (db.table name).map Data.rows
  | none => .ok [[]]

def changeRow (parameters : List Value) (changes : List (Nat × Term)) (row : List Value) :
    Except Fault (List Value) := do
  let values ← changes.mapM fun (index, t) => do return (index, ← t.evaluate parameters [] row)
  return values.foldl (fun row (index, v) => row.set index v) row

def run (db : Database) (parameters : List Value) : Prepared → Except Fault (Database × Option Data)
  | .select plan => do
    let rows ← plan.run parameters (← db.sourceRows plan)
    return (db, some ⟨plan.names, rows⟩)
  | .createTable name columns => .ok (db.put name ⟨columns, []⟩, none)
  | .createFrom name plan => do
    let rows ← plan.run parameters (← db.sourceRows plan)
    return (db.put name ⟨distinctNames plan.names, rows⟩, none)
  | .insert name rows => do
    let data ← db.table name
    let values ← rows.mapM fun row => row.mapM (·.evaluate parameters [] [])
    return (db.put name { data with rows := data.rows ++ values }, none)
  | .update name changes condition => do
    let data ← db.table name
    let rows ← data.rows.mapM fun row => do
      if (← Plan.filterRows parameters condition [row]).isEmpty then return row
      else changeRow parameters changes row
    return (db.put name { data with rows }, none)
  | .delete name condition => do
    let data ← db.table name
    let rows ← data.rows.filterM fun row => do
      return (← Plan.filterRows parameters condition [row]).isEmpty
    return (db.put name { data with rows }, none)
  | .dropTable name => .ok (db.erase name, none)

structure Ready where
  text : String
  statement : Prepared
  parameters : Nat

def call (ready : Ready) (values : List Value) : Action (Database × Disk) String (List (List Value)) :=
  fun (db, disk) =>
    match db.run (values.map Value.stored) ready.statement with
    | .error fault => (.error (fault.message ready.text), (db, disk))
    | .ok (db, result) => (.ok ((result.map Data.rows).getD []), (db, disk))

def service : Service where
  State := Database
  Statement := Ready
  openInMemory disk := (.ok empty, disk)
  close _ disk := disk
  startTransaction := pure ()
  commit := pure ()
  prepare text := fun (db, disk) =>
    match db.prepare text with
    | .error fault => (.error (fault.message text), (db, disk))
    | .ok (statement, parameters) => (.ok ⟨text, statement, parameters⟩, (db, disk))
  columnNames ready :=
    match ready.statement with
    | .select plan => plan.names
    | _ => []
  execute ready values := do
    let _ ← call ready values
    return ()
  executeRaw ready := do
    let _ ← call ready []
    return ()
  query ready :=
    if ready.parameters = 0 then call ready []
    else fun connection => (.error (Fault.message ready.text (.wrongParameterCount ready.parameters)), connection)

end Database

end SolutionCheck.Sql
