import SolutionCheck.Comparison
import SolutionCheck.Proofs.ReadBack
import SolutionCheck.Proofs.Result

/-!
Strict readers of tables. They take every cell, width and name from its place in a list and report a place
that is not there, where the readers of the library go on with a default. Drawing needs rows that are not
wider than the list of columns, and schemas and columns need rows that are not narrower; a comparison
needs both. Where the rows are so, a strict reader reports nothing and gives what the library gives.
-/

namespace SolutionCheck

namespace Strict

variable {α ε : Type}

/-- A place behind the end of a list. -/
structure OutOfRange where
  place : Nat
  size : Nat
deriving DecidableEq

def itemAt (xs : List α) (place : Nat) : Except OutOfRange α :=
  match xs[place]? with
  | some x => .ok x
  | none => .error ⟨place, xs.length⟩

theorem itemAt_of_lt {xs : List α} {place : Nat} (inside : place < xs.length) :
    itemAt xs place = .ok xs[place] := by
  rw [itemAt, List.getElem?_eq_getElem inside]

theorem itemAt_of_le {xs : List α} {place : Nat} (outside : xs.length ≤ place) :
    itemAt xs place = .error ⟨place, xs.length⟩ := by
  rw [itemAt, List.getElem?_eq_none outside]

section Columns

def cellsAt (t : Table) (index : Nat) : Except OutOfRange (List Cell) := t.rows.mapM (itemAt · index)

def column? (t : Table) (name : String) : Except OutOfRange (Option (List Cell)) :=
  match t.columnIndex? name with
  | none => .ok none
  | some index => (cellsAt t index).map some

def schema (t : Table) : Except OutOfRange Schema :=
  t.columns.zipIdx.mapM fun (column, index) =>
    (cellsAt t index).map fun cells => ⟨column, attributeName column, .infer cells⟩

theorem itemAt_cell {row : Row} {index : Nat} (inside : index < row.length) :
    itemAt row index = .ok (Table.cellAt row index) := by
  rw [itemAt_of_lt inside, Table.cellAt]
  simp [inside]

theorem cellsAt_of_wide {t : Table} {index : Nat} (wide : ∀ row ∈ t.rows, index < row.length) :
    cellsAt t index = .ok (t.cellsAt index) := by
  rw [cellsAt, mapM_eq_ok_iff, Table.cellsAt]
  exact forall₂_map_self fun row mem => itemAt_cell (wide row mem)

theorem cellsAt_of_narrow {t : Table} {index : Nat} {row : Row} (mem : row ∈ t.rows)
    (narrow : row.length ≤ index) : ∃ fault, cellsAt t index = .error fault :=
  mapM_eq_error_iff.2 ⟨row, mem, _, itemAt_of_le narrow⟩

theorem column?_eq_ok_iff (t : Table) (name : String) : column? t name = .ok (t.column? name) ↔
    ∀ index, t.columnIndex? name = some index → ∀ row ∈ t.rows, index < row.length := by
  unfold column? Table.column?
  cases place : t.columnIndex? name with
  | none => simp
  | some index =>
    simp only [Option.map_some, Option.some.injEq, forall_eq']
    constructor
    · intro found row mem
      by_contra narrow
      obtain ⟨fault, missing⟩ := cellsAt_of_narrow mem (Nat.le_of_not_lt narrow)
      rw [missing] at found
      cases found
    · intro wide
      rw [cellsAt_of_wide wide]
      rfl

theorem schema_eq_ok_iff (t : Table) :
    schema t = .ok (.ofTable t) ↔ ∀ row ∈ t.rows, t.columns.length ≤ row.length := by
  constructor
  · intro found row mem
    by_contra narrow
    have inside : row.length < t.columns.length := Nat.lt_of_not_le narrow
    -- the first column that the row does not reach
    obtain ⟨fault, missing⟩ := cellsAt_of_narrow mem (Nat.le_refl row.length)
    have column : (t.columns[row.length], row.length) ∈ t.columns.zipIdx := by
      simp [List.mk_mem_zipIdx_iff_getElem?, inside]
    obtain ⟨fault, failed⟩ : ∃ fault, schema t = .error fault :=
      mapM_eq_error_iff.2 ⟨_, column, fault, by simp only [missing]; rfl⟩
    rw [failed] at found
    cases found
  · intro wide
    rw [schema, mapM_eq_ok_iff, Schema.ofTable, List.mapIdx_eq_zipIdx_map]
    refine forall₂_map_self fun entry mem => ?_
    have inside : entry.2 < t.columns.length := List.snd_lt_of_mem_zipIdx mem
    have cells := cellsAt_of_wide fun row mem => Nat.lt_of_lt_of_le inside (wide row mem)
    simp only [cells]
    rfl

end Columns

section Drawings

def widenFrom (place : Nat) : List (List Char) → List Nat → Except OutOfRange (List Nat)
  | [], widths => .ok widths
  | text :: rest, widths => do
    let width ← itemAt widths place
    widenFrom (place + 1) rest (widths.set place (max width text.length))

def widths (t : Table) : Except OutOfRange (List Nat) :=
  t.texts.foldlM (fun widths row => widenFrom 0 row widths) (t.columns.map (·.toList.length))

def draw (t : Table) : Except OutOfRange String :=
  (widths t).map fun widths => String.ofList (['\n'].intercalate
    (Table.drawLine widths (t.columns.map String.toList) :: Table.drawRule widths ::
      t.texts.map (Table.drawLine widths) ++ [("(" ++ natText t.size ++ " rows)").toList]))

theorem widenFrom_eq (texts : List (List Char)) (done todo : List Nat) :
    widenFrom done.length texts (done ++ todo) =
      if texts.length ≤ todo.length then
        .ok (done ++ todo.mapIdx fun index width => max width (texts.getD index []).length)
      else .error ⟨(done ++ todo).length, (done ++ todo).length⟩ := by
  induction texts generalizing done todo with
  | nil =>
    have same : (todo.mapIdx fun index width => max width (([] : List (List Char)).getD index []).length) = todo :=
      List.ext_getElem (by simp) (by simp)
    rw [same]
    simp [widenFrom]
  | cons text rest ih =>
    cases todo with
    | nil => simp [widenFrom, itemAt_of_le, bind, Except.bind]
    | cons width todo =>
      have here : itemAt (done ++ width :: todo) done.length = .ok width := by
        simp [itemAt]
      have next := ih (done ++ [max width text.length]) todo
      simp only [List.length_append, List.length_singleton, List.append_assoc, List.singleton_append] at next
      simp [widenFrom, here, bind, Except.bind, next, List.mapIdx_cons]

theorem foldlM_widenFrom_eq (texts : List (List (List Char))) (widths : List Nat) :
    texts.foldlM (fun widths row => widenFrom 0 row widths) widths =
      if ∀ row ∈ texts, row.length ≤ widths.length then
        .ok (widths.mapIdx fun index width =>
          texts.foldl (fun width row => max width (row.getD index []).length) width)
      else .error ⟨widths.length, widths.length⟩ := by
  induction texts generalizing widths with
  | nil =>
    have same : (widths.mapIdx fun _ width => width) = widths := List.ext_getElem (by simp) (by simp)
    simp [same, pure, Except.pure]
  | cons row texts ih =>
    have first := widenFrom_eq row [] widths
    simp only [List.length_nil, List.nil_append] at first
    rw [List.foldlM_cons, first]
    by_cases fits : row.length ≤ widths.length
    · simp [fits, bind, Except.bind, ih, List.mapIdx_mapIdx, Function.comp_def]
    · simp [fits, bind, Except.bind]

theorem widths_eq (t : Table) : widths t =
    if ∀ row ∈ t.rows, row.length ≤ t.columns.length then .ok t.widths
    else .error ⟨t.columns.length, t.columns.length⟩ := by
  have fit : (∀ texts ∈ t.texts, texts.length ≤ t.columns.length) ↔
      ∀ row ∈ t.rows, row.length ≤ t.columns.length := by simp [Table.texts]
  have drawn : ((t.columns.map fun name => name.toList.length).mapIdx fun index width =>
      t.texts.foldl (fun width texts => max width (texts.getD index []).length) width) = t.widths :=
    List.ext_getElem (by simp [Table.widths]) (by simp [Table.widths, Table.columnWidth])
  rw [widths, foldlM_widenFrom_eq, drawn]
  simp only [List.length_map, fit]

theorem draw_eq (t : Table) : draw t =
    if ∀ row ∈ t.rows, row.length ≤ t.columns.length then .ok t.draw
    else .error ⟨t.columns.length, t.columns.length⟩ := by
  rw [draw, widths_eq]
  split <;> rfl

end Drawings

section Sorts

/-- Ask a comparison for all pairs of elements, whichever of them a sort compares. -/
def compareAll (order : α → α → Except ε Ordering) (xs : List α) : Except ε (List (List Ordering)) :=
  xs.mapM fun a => xs.mapM (order a)

theorem compareAll_of_ok {order : α → α → Except ε Ordering} {plain : α → α → Ordering} {xs : List α}
    (decided : ∀ a ∈ xs, ∀ b ∈ xs, order a b = .ok (plain a b)) :
    compareAll order xs = .ok (xs.map fun a => xs.map (plain a)) := by
  rw [compareAll, mapM_eq_ok_iff]
  refine forall₂_map_self fun a ha => ?_
  rw [mapM_eq_ok_iff]
  exact forall₂_map_self fun b hb => decided a ha b hb

end Sorts

section Comparisons

open SolutionCheck.Comparison (orderCells mixedKinds?)

def orderRows (index : Nat) (a b : Row) : Except OutOfRange Ordering := do
  return orderCells (← itemAt a index) (← itemAt b index)

def sortOn [Sorting] (side : Side) (column : String) (t : Table) :
    Except OutOfRange (Option (Except Mismatch Table)) :=
  match t.columnIndex? column with
  | none => .ok (some (.error (.missingColumn column)))
  | some index => do
    match mixedKinds? (← cellsAt t index) with
    | some (first, second) => return some (.error (.mixedKinds side column first second))
    | none =>
      let _ ← compareAll (orderRows index) t.rows
      return (t.sortRows (Comparison.orderRows index)).map .ok

def cellDifference? (row : Nat) (columns : List String) : Nat → Row → Row → Except OutOfRange (Option Mismatch)
  | place, a :: as, b :: bs =>
    if a.equivalent b then cellDifference? row columns (place + 1) as bs
    else (itemAt columns place).map fun column => some (.cellsDiffer row column a b)
  | _, _, _ => .ok none

def rowDifference? (columns : List String) : Nat → List Row → List Row → Except OutOfRange (Option Mismatch)
  | row, a :: as, b :: bs => do
    match ← cellDifference? row columns 0 a b with
    | some mismatch => return some mismatch
    | none => rowDifference? columns (row + 1) as bs
  | _, _, _ => .ok none

def difference? (expected actual : Table) : Except OutOfRange (Option Mismatch) :=
  if expected.columns ≠ actual.columns then .ok (some (.columnsDiffer expected.columns actual.columns))
  else if expected.size ≠ actual.size then .ok (some (.rowCountsDiffer expected.size actual.size))
  else rowDifference? expected.columns 0 expected.rows actual.rows

def compareTables [Sorting] (expected actual : Table) : Except OutOfRange (Option Comparison) :=
  match expected.columns with
  | [] => .ok (some ⟨expected, actual, some .noColumns⟩)
  | key :: _ =>
    if (actual.columnIndex? key).isNone then .ok (some ⟨expected, actual, some (.missingColumn key)⟩)
    else do
      match ← sortOn .expected key expected with
      | none => return none
      | some (.error mismatch) => return some ⟨expected, actual, some mismatch⟩
      | some (.ok expected) =>
        match ← sortOn .actual key actual with
        | none => return none
        | some (.error mismatch) => return some ⟨expected, actual, some mismatch⟩
        | some (.ok actual) => return some ⟨expected, actual, ← difference? expected actual⟩

theorem index_lt {t : Table} (wide : t.WellFormed) {column : String} {index : Nat}
    (place : t.columnIndex? column = some index) {row : Row} (mem : row ∈ t.rows) : index < row.length := by
  rw [wide row mem]
  exact (List.findIdx?_eq_some_iff_getElem.1 place).1

theorem orderRows_of_wellFormed {t : Table} (wide : t.WellFormed) {column : String} {index : Nat}
    (place : t.columnIndex? column = some index) {a b : Row} (ha : a ∈ t.rows) (hb : b ∈ t.rows) :
    orderRows index a b = .ok (Comparison.orderRows index a b) := by
  rw [orderRows, itemAt_cell (index_lt wide place ha), itemAt_cell (index_lt wide place hb)]
  rfl

theorem sortOn_of_wellFormed [Sorting] {t : Table} (wide : t.WellFormed) (side : Side) (column : String) :
    sortOn side column t = .ok (Comparison.sortOn side column t) := by
  unfold sortOn Comparison.sortOn
  cases place : t.columnIndex? column with
  | none => rfl
  | some index =>
    have cells := cellsAt_of_wide (t := t) fun row mem => index_lt wide place mem
    have compared := compareAll_of_ok fun a ha b hb => orderRows_of_wellFormed wide place ha hb
    simp only [cells, compared, bind, Except.bind, Table.cellsAt]
    cases mixedKinds? (t.rows.map (Table.cellAt · index)) <;> rfl

theorem cellDifference?_of_fit {row place : Nat} {columns : List String} {a b : Row}
    (fit : place + a.length ≤ columns.length) :
    cellDifference? row columns place a b =
      .ok (Comparison.cellDifference? row (columns.drop place) a b) := by
  induction a generalizing place b with
  | nil => cases columns.drop place <;> rfl
  | cons x a ih =>
    rw [List.length_cons] at fit
    have inside : place < columns.length := by omega
    rw [List.drop_eq_getElem_cons inside]
    cases b with
    | nil => rfl
    | cons y b =>
      rw [cellDifference?, Comparison.cellDifference?]
      split
      · exact ih (by omega)
      · rw [itemAt_of_lt inside]
        rfl

theorem rowDifference?_of_wide {columns : List String} {row : Nat} {as bs : List Row}
    (wide : ∀ a ∈ as, a.length = columns.length) :
    rowDifference? columns row as bs = .ok (Comparison.rowDifference? columns row as bs) := by
  induction as generalizing row bs with
  | nil => rfl
  | cons a as ih =>
    obtain ⟨here, later⟩ := List.forall_mem_cons.1 wide
    cases bs with
    | nil => rfl
    | cons b bs =>
      have cells : cellDifference? row columns 0 a b = .ok (Comparison.cellDifference? row columns a b) :=
        cellDifference?_of_fit (by omega)
      rw [rowDifference?, Comparison.rowDifference?, cells]
      cases Comparison.cellDifference? row columns a b with
      | some mismatch => rfl
      | none => exact ih later

theorem difference?_of_wellFormed {expected : Table} (wide : expected.WellFormed) (actual : Table) :
    difference? expected actual = .ok (Comparison.difference? expected actual) := by
  unfold difference? Comparison.difference?
  split
  · rfl
  · split
    · rfl
    · exact rowDifference?_of_wide wide

section

variable [Sorting]

theorem wellFormed_of_sortOn {t u : Table} (wide : t.WellFormed) {side : Side} {column : String}
    (sorted : Comparison.sortOn side column t = some (.ok u)) : u.WellFormed := by
  unfold Comparison.sortOn at sorted
  split at sorted
  · cases sorted
  · split at sorted
    · cases sorted
    · obtain ⟨arranged, found, same⟩ := Option.map_eq_some_iff.1 sorted
      cases same
      exact Table.sortRows_wellFormed wide found

theorem compareTables_of_wellFormed {expected actual : Table} (ewide : expected.WellFormed)
    (awide : actual.WellFormed) :
    compareTables expected actual = .ok (SolutionCheck.compareTables expected actual) := by
  unfold compareTables SolutionCheck.compareTables
  cases columns : expected.columns with
  | nil => rfl
  | cons key rest =>
    by_cases absent : (actual.columnIndex? key).isNone = true
    · simp only [if_pos absent]
    · simp only [if_neg absent, sortOn_of_wellFormed ewide, sortOn_of_wellFormed awide, bind, Except.bind,
        Option.bind]
      match arranged : Comparison.sortOn .expected key expected with
      | none => rfl
      | some (.error mismatch) => rfl
      | some (.ok earranged) =>
        match Comparison.sortOn .actual key actual with
        | none => rfl
        | some (.error mismatch) => rfl
        | some (.ok aarranged) =>
          simp only [difference?_of_wellFormed (wellFormed_of_sortOn ewide arranged)]
          rfl

end

end Comparisons

end Strict

end SolutionCheck
