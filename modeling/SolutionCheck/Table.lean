import SolutionCheck.Cell
import SolutionCheck.Sorting
/-!
Tables: named columns and rows of cells. Tables that are built here are well-formed, which means that
every row is as wide as the list of columns; a stored table is taken as it is. A row can be viewed as
a record, in which a column name that occurs twice keeps its first place and its last cell.
-/

namespace SolutionCheck

abbrev Row := List Cell

abbrev Record := Keyed Cell

structure Table where
  columns : List String
  rows : List Row
deriving DecidableEq, Inhabited

structure WidthFault where
  cells : Nat
  columns : Nat
deriving DecidableEq

def WidthFault.message (fault : WidthFault) : String :=
  "row has " ++ natText fault.cells ++ " cells but relation has " ++ natText fault.columns ++ " columns"

namespace Table

def WellFormed (t : Table) : Prop := ∀ row ∈ t.rows, row.length = t.columns.length

instance (t : Table) : Decidable t.WellFormed :=
  inferInstanceAs (Decidable (∀ row ∈ t.rows, row.length = t.columns.length))

def ofColumns (columns : List String) : Table := ⟨columns, []⟩

def width (t : Table) : Nat := t.columns.length

def size (t : Table) : Nat := t.rows.length

def isEmpty (t : Table) : Bool := t.rows.isEmpty

def push (t : Table) (row : Row) : Except WidthFault Table :=
  if row.length = t.width then .ok { t with rows := t.rows ++ [row] }
  else .error ⟨row.length, t.width⟩

def ofRows (columns : List String) (rows : List Row) : Except WidthFault Table :=
  match rows.find? fun row => row.length ≠ columns.length with
  | some row => .error ⟨row.length, columns.length⟩
  | none => .ok ⟨columns, rows⟩

/-- One row for each record, with nothing where a record lacks a column. -/
def ofRecords (columns : List String) (records : List Record) : Table :=
  ⟨columns, records.map fun record => columns.map fun column => (record.get? column).getD .null⟩

def ofColumn (name : String) (values : List Cell) : Table := ⟨[name], values.map fun value => [value]⟩

def columnIndex? (t : Table) (name : String) : Option Nat := t.columns.findIdx? (· == name)

def cellAt (row : Row) (index : Nat) : Cell := row.getD index .null

def column? (t : Table) (name : String) : Option (List Cell) :=
  (t.columnIndex? name).map fun index => t.rows.map (cellAt · index)

def toRecord (columns : List String) (row : Row) : Record := .ofList (columns.zip row)

def record? (t : Table) (index : Nat) : Option Record := t.rows[index]?.map (toRecord t.columns)

def records (t : Table) : List Record := t.rows.map (toRecord t.columns)

section

variable [Sorting]

def sortRows (order : Row → Row → Ordering) (t : Table) : Option Table :=
  (Sorting.sort order t.rows).map fun rows => { t with rows }

/-- Sort the rows on a column, cells that have no order counting as equal. A table without the column
stays as it is. -/
def sortOn (name : String) (descending : Bool) (t : Table) : Option Table :=
  match t.columnIndex? name with
  | none => some t
  | some index =>
    t.sortRows fun a b =>
      let order := ((cellAt a index).compare? (cellAt b index)).getD .eq
      if descending then order.swap else order

end

def equals (s t : Table) : Bool :=
  s.columns == t.columns && s.rows.length == t.rows.length &&
    (s.rows.zip t.rows).all fun (a, b) => a.length == b.length && (a.zip b).all fun (x, y) => x.equals y

theorem push_wellFormed {t u : Table} {row : Row} (h : t.WellFormed) (e : t.push row = .ok u) :
    u.WellFormed := by
  unfold push at e
  split at e
  · next hw =>
    cases e
    intro r hr
    rcases List.mem_append.1 hr with hr | hr
    · exact h r hr
    · rw [List.mem_singleton.1 hr, hw]; rfl
  · cases e

theorem ofRows_wellFormed {columns : List String} {rows : List Row} {t : Table}
    (e : ofRows columns rows = .ok t) : t.WellFormed := by
  unfold ofRows at e
  split at e
  · cases e
  · next h =>
    cases e
    intro row hr
    simpa using List.find?_eq_none.1 h row hr

theorem ofRecords_wellFormed (columns : List String) (records : List Record) :
    (ofRecords columns records).WellFormed := by
  intro row hr
  obtain ⟨_, _, rfl⟩ := List.mem_map.1 hr
  exact List.length_map _

theorem ofColumn_wellFormed (name : String) (values : List Cell) : (ofColumn name values).WellFormed := by
  intro row hr
  obtain ⟨_, _, rfl⟩ := List.mem_map.1 hr
  rfl

theorem sortRows_wellFormed [Sorting] {t u : Table} {order : Row → Row → Ordering} (h : t.WellFormed)
    (e : t.sortRows order = some u) : u.WellFormed := by
  obtain ⟨rows, sorted, rfl⟩ := Option.map_eq_some_iff.1 e
  exact fun row hr => h row ((Sorting.sort_perm sorted).mem_iff.1 hr)

end Table

end SolutionCheck
