import SolutionCheck.Keyed
import SolutionCheck.Sql.Statement
/-!
Terms: expressions whose names have been resolved to the columns of a table. A name stands for a column;
where there is none of the name, for a named item of the selection; and a name in double quotes that
stands for neither is a text.
-/

namespace SolutionCheck.Sql

inductive Aggregate where
  | count
  | sum
  | min
  | max
  | avg
deriving DecidableEq

def Aggregate.named : List (String × Aggregate) :=
  [("count", count), ("sum", sum), ("min", min), ("max", max), ("avg", avg)]

inductive Term where
  | value (v : Value)
  | parameter (index : Nat)
  | column (index : Nat)
  | plus (t : Term)
  | negate (t : Term)
  | not (t : Term)
  | isNull (t : Term)
  | binary (op : Operator) (left right : Term)
  | aggregate (function : Aggregate) (argument : Option Term)

structure Scope where
  columns : List String
  named : List (String × Term)
  aggregates : Bool

namespace Term

def hasAggregate : Term → Bool
  | value _ => false
  | parameter _ => false
  | column _ => false
  | plus t => t.hasAggregate
  | negate t => t.hasAggregate
  | not t => t.hasAggregate
  | isNull t => t.hasAggregate
  | binary _ l r => l.hasAggregate || r.hasAggregate
  | aggregate _ _ => true

def ofDigits (negative : Bool) (n : Nat) : Value :=
  let i : Int := if negative then -n else n
  if Number.fitsInt64 i then .integer (.ofInt i) else .real (.ofInt i)

def ofName (scope : Scope) (name : String) (doubleQuoted : Bool) (offset : Nat) : Except Fault Term :=
  match scope.columns.findIdx? fun column => fold column == fold name with
  | some index => .ok (column index)
  | none =>
    match scope.named.find? fun item => fold item.1 == fold name with
    | some item => .ok item.2
    | none =>
      if doubleQuoted then .ok (value (.text name))
      else if fold name == "true" then .ok (value (.ofBool true))
      else if fold name == "false" then .ok (value (.ofBool false))
      else .error (.noSuchColumn name (some offset))

def ofExpr (scope : Scope) : Expr → Except Fault Term
  | .literal v => .ok (value v)
  | .integer n _ => .ok (value (ofDigits false n))
  | .parameter index => .ok (parameter index)
  | .name name doubleQuoted offset => ofName scope name doubleQuoted offset
  | .plus e => (ofExpr scope e).map plus
  | .negate (.integer n _) => .ok (value (ofDigits true n))
  | .negate (.literal (.real x)) => .ok (value (.real x.neg))
  | .negate e => (ofExpr scope e).map negate
  | .not e => (ofExpr scope e).map not
  | .isNull e => (ofExpr scope e).map isNull
  | .binary op l r => do .ok (binary op (← ofExpr scope l) (← ofExpr scope r))
  | .call function argument offset =>
    match valueOf? Aggregate.named (fold function) with
    | none => .error (.noSuchFunction function offset)
    | some f =>
      match argument with
      | none =>
        if f ≠ Aggregate.count then .error (.wrongArguments function offset)
        else if !scope.aggregates then .error (.misplacedAggregate function offset)
        else .ok (aggregate .count none)
      | some e =>
        if !scope.aggregates then .error (.misplacedAggregate function offset)
        else (ofExpr { scope with aggregates := false } e).map fun t => aggregate f (some t)

end Term

structure Plan where
  names : List String
  terms : List Term
  source : Option String
  condition : Option Term
  grouped : Bool
  groups : List Term
  order : List (Term × Bool)
  distinct : Bool
  limit : Option Term

namespace Plan

/-- The name of a column of the result: the given one, that of the column itself, or the text. -/
def resultName (columns : List String) (newName : Option String) (text : String) (t : Term) : String :=
  match newName, t with
  | some name, _ => name
  | none, .column index => columns.getD index text
  | none, _ => text

def ofItem (scope : Scope) : Item → Except Fault (List (String × Term))
  | .all => .ok (scope.columns.mapIdx fun index name => (name, .column index))
  | .expr e newName text => do
    let t ← Term.ofExpr scope e
    .ok [(resultName scope.columns newName text t, t)]

def namedItems : List Item → List (List (String × Term)) → List (String × Term)
  | .expr _ (some newName) _ :: items, [(_, t)] :: resolved => (newName, t) :: namedItems items resolved
  | _ :: items, _ :: resolved => namedItems items resolved
  | _, _ => []

def atPosition (clause : String) (terms : List Term) (place n offset : Nat) : Except Fault Term :=
  match if n = 0 then none else terms[n - 1]? with
  | some t => .ok t
  | none => .error (.noSuchPosition clause (place + 1) terms.length offset)

/-- Resolve a term to sort by: a named item goes before a column, and a number counts the columns of
the result. -/
def sortTerm (scope : Scope) (terms : List Term) (term : SortTerm) (place : Nat) : Except Fault (Term × Bool) := do
  let t ← match term.expr with
    | .name name doubleQuoted offset =>
      match scope.named.find? fun item => fold item.1 == fold name with
      | some item => pure item.2
      | none => Term.ofName scope name doubleQuoted offset
    | .integer n offset => atPosition "ORDER" terms place n offset
    | e => Term.ofExpr scope e
  .ok (t, term.descending)

def groupTerm (scope : Scope) (terms : List Term) (e : Expr) (place : Nat) : Except Fault Term :=
  match e with
  | .integer n offset => atPosition "GROUP" terms place n offset
  | e => Term.ofExpr scope e

def isAll : Item → Bool
  | .all => true
  | .expr .. => false

def ofSelection (columns : List String) (s : Selection) : Except Fault Plan := do
  if s.source.isNone && s.items.any isAll then throw .noTables
  let limit ← s.limit.mapM (Term.ofExpr ⟨[], [], false⟩)
  let inner : Scope := ⟨columns, [], true⟩
  let resolved ← s.items.mapM (ofItem inner)
  let result := resolved.flatten
  let terms := result.map Prod.snd
  let grouped := !s.groups.isEmpty || terms.any Term.hasAggregate
  let outer : Scope := ⟨columns, namedItems s.items resolved, grouped⟩
  let condition ← s.condition.mapM (Term.ofExpr { outer with aggregates := false })
  let order ← s.order.zipIdx.mapM fun (term, place) => sortTerm outer terms term place
  let groups ← s.groups.zipIdx.mapM fun (e, place) => groupTerm { outer with aggregates := false } terms e place
  .ok ⟨result.map Prod.fst, terms, s.source, condition, grouped, groups, order, s.distinct, limit⟩

end Plan

end SolutionCheck.Sql
