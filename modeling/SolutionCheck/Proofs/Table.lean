import Mathlib.Data.List.Perm.Basic
import SolutionCheck.Proofs.Column

/-!
Tables as a comparison sees them: the cells under its key column, the rows that hold a given cell
there, and the table arranged on the column. Arranging keeps the rows. Where the order of the column is a
total preorder it succeeds, and keeps the order of arrival of the rows that hold one cell.
-/

namespace SolutionCheck

def Row.Equivalent (a b : Row) : Prop := List.Forall₂ (fun x y => x.equivalent y = true) a b

theorem totalPreorderOn_orderRows {rows : List Row} {index : Nat}
    (preorder : TotalPreorderOn Comparison.orderCells (· ∈ rows.map (Table.cellAt · index))) :
    TotalPreorderOn (Comparison.orderRows index) (· ∈ rows) :=
  (preorder.comap (Table.cellAt · index)).mono fun _ mem => List.mem_map_of_mem mem

namespace Table

/-- The cells of the first column with the name; none where there is no such column. -/
def cellsUnder (t : Table) (column : String) : List Cell := (t.column? column).getD []

def rowsWith (t : Table) (column : String) (cell : Cell) : List Row :=
  t.rows.filter fun row => (t.columnIndex? column).any fun index => cellAt row index = cell

/-- The columns of a table with its rows in some order. -/
structure Rearranges (s t : Table) : Prop where
  columns : s.columns = t.columns
  rows : s.rows.Perm t.rows

theorem Rearranges.refl (t : Table) : t.Rearranges t := ⟨rfl, List.Perm.refl _⟩

theorem Rearranges.symm {s t : Table} (h : s.Rearranges t) : t.Rearranges s :=
  ⟨h.columns.symm, h.rows.symm⟩

theorem Rearranges.wellFormed {s t : Table} (h : s.Rearranges t) (wide : t.WellFormed) :
    s.WellFormed := by
  intro row mem
  rw [h.columns]
  exact wide row (h.rows.mem_iff.1 mem)

theorem Rearranges.columnIndex? {s t : Table} (h : s.Rearranges t) (column : String) :
    s.columnIndex? column = t.columnIndex? column := by
  rw [Table.columnIndex?, Table.columnIndex?, h.columns]

theorem cellsUnder_eq {t : Table} {column : String} {index : Nat}
    (place : t.columnIndex? column = some index) :
    t.cellsUnder column = t.rows.map (cellAt · index) := by
  simp [cellsUnder, column?, place]

theorem cellAt_mem_cellsUnder {t : Table} {column : String} {index : Nat}
    (place : t.columnIndex? column = some index) {row : Row} (mem : row ∈ t.rows) :
    cellAt row index ∈ t.cellsUnder column := by
  rw [cellsUnder_eq place]
  exact List.mem_map_of_mem mem

theorem rowsWith_eq {t : Table} {column : String} {index : Nat}
    (place : t.columnIndex? column = some index) (cell : Cell) :
    t.rowsWith column cell = t.rows.filter fun row => cellAt row index = cell := by
  simp [rowsWith, place]

theorem Rearranges.cellsUnder {s t : Table} (h : s.Rearranges t) (column : String) :
    (s.cellsUnder column).Perm (t.cellsUnder column) := by
  rw [Table.cellsUnder, Table.cellsUnder, Table.column?, Table.column?, h.columnIndex?]
  cases t.columnIndex? column with
  | none => exact List.Perm.refl _
  | some index => exact h.rows.map _

theorem columnIndex?_of_head? {t : Table} {key : String} (head : t.columns.head? = some key) :
    t.columnIndex? key = some 0 := by
  obtain ⟨rest, columns⟩ := List.head?_eq_some_iff.1 head
  simp [Table.columnIndex?, columns, List.findIdx?_cons]

def sortedAt (t : Table) (index : Nat) : Table := { t with rows := sortBy (Comparison.orderRows index) t.rows }

theorem sortedAt_rearranges (t : Table) (index : Nat) : (t.sortedAt index).Rearranges t :=
  ⟨rfl, sortBy_perm (Comparison.orderRows index) t.rows⟩

theorem rowsWith_sortedAt {t : Table} {key : String} {index : Nat} (place : t.columnIndex? key = some index)
    (cell : Cell) : (t.sortedAt index).rowsWith key cell = t.rowsWith key cell := by
  have place' := ((t.sortedAt_rearranges index).columnIndex? key).trans place
  rw [rowsWith_eq place', rowsWith_eq place]
  refine filter_sortBy _ (fun a b ha hb => ?_) t.rows
  rw [decide_eq_true_eq] at ha hb
  simp [Comparison.orderRows, ha, hb, Comparison.orderCells_self]

section

variable [Sorting]

/-- A table sorted on a column in the way of a comparison, whatever kinds the column holds. -/
def arrangedOn (t : Table) (key : String) : Option Table :=
  match t.columnIndex? key with
  | none => some t
  | some index => t.sortRows (Comparison.orderRows index)

variable {s t : Table} {key : String} {index : Nat}

theorem arrangedOn_eq (place : t.columnIndex? key = some index) :
    t.arrangedOn key = t.sortRows (Comparison.orderRows index) := by
  simp only [arrangedOn, place]

theorem arrangedOn_rearranges (arranged : t.arrangedOn key = some s) : s.Rearranges t := by
  cases place : t.columnIndex? key with
  | none =>
    simp only [arrangedOn, place, Option.some.injEq] at arranged
    exact arranged ▸ Rearranges.refl t
  | some index =>
    rw [arrangedOn_eq place, sortRows, Option.map_eq_some_iff] at arranged
    obtain ⟨rows, sorted, rfl⟩ := arranged
    exact ⟨rfl, Sorting.sort_perm sorted⟩

theorem arrangedOn_of_preorder (place : t.columnIndex? key = some index)
    (preorder : TotalPreorderOn Comparison.orderCells (· ∈ t.cellsUnder key)) :
    t.arrangedOn key = some (t.sortedAt index) := by
  rw [cellsUnder_eq place] at preorder
  rw [arrangedOn_eq place, sortRows, Sorting.sort_of_preorder (totalPreorderOn_orderRows preorder)]
  rfl

theorem arrangedOn_of_ascending (place : t.columnIndex? key = some index)
    (ascending : Ascending Comparison.orderCells (t.cellsUnder key)) : t.arrangedOn key = some t := by
  rw [cellsUnder_eq place, Ascending, List.pairwise_map] at ascending
  have kept : Sorting.sort (Comparison.orderRows index) t.rows = some t.rows := Sorting.sort_of_ascending ascending
  rw [arrangedOn_eq place, sortRows, kept]
  rfl

end

end Table

namespace Comparison

open Table

section

variable [Sorting] {side : Side} {key : String} {t : Table} {index : Nat}

theorem sortOn_eq_error {first second : Kind} (place : t.columnIndex? key = some index)
    (mixed : mixedKinds? (t.cellsUnder key) = some (first, second)) :
    sortOn side key t = some (.error (.mixedKinds side key first second)) := by
  rw [cellsUnder_eq place] at mixed
  simp only [sortOn, place, mixed]

theorem sortOn_eq_ok (place : t.columnIndex? key = some index) (kinds : OfOneKind (t.cellsUnder key)) :
    sortOn side key t = (t.arrangedOn key).map .ok := by
  rw [arrangedOn_eq place]
  rw [cellsUnder_eq place, ← mixedKinds?_eq_none_iff] at kinds
  simp only [sortOn, place, kinds]

end

theorem cellDifference?_eq_none_iff {columns : List String} {a b : Row} (row : Nat)
    (awidth : a.length = columns.length) (bwidth : b.length = columns.length) :
    cellDifference? row columns a b = none ↔ Row.Equivalent a b := by
  induction columns generalizing a b with
  | nil =>
    rw [List.length_eq_zero_iff.1 awidth, List.length_eq_zero_iff.1 bwidth]
    exact ⟨fun _ => List.Forall₂.nil, fun _ => rfl⟩
  | cons column columns ih =>
    obtain ⟨x, a, rfl⟩ := List.exists_cons_of_length_eq_add_one awidth
    obtain ⟨y, b, rfl⟩ := List.exists_cons_of_length_eq_add_one bwidth
    have tail := @ih a b (Nat.succ.inj awidth) (Nat.succ.inj bwidth)
    rw [Row.Equivalent, List.forall₂_cons, cellDifference?]
    split
    · next same => exact tail.trans ⟨fun h => ⟨same, h⟩, And.right⟩
    · next different => simp [different]

theorem rowDifference?_eq_none_iff {columns : List String} {as bs : List Row} (row : Nat)
    (awide : ∀ a ∈ as, a.length = columns.length) (bwide : ∀ b ∈ bs, b.length = columns.length)
    (size : as.length = bs.length) :
    rowDifference? columns row as bs = none ↔ List.Forall₂ Row.Equivalent as bs := by
  induction as generalizing bs row with
  | nil =>
    rw [List.length_eq_zero_iff.1 size.symm]
    exact ⟨fun _ => List.Forall₂.nil, fun _ => rfl⟩
  | cons a as ih =>
    obtain ⟨b, bs, rfl⟩ := List.exists_cons_of_length_eq_add_one size.symm
    have head := cellDifference?_eq_none_iff row (awide a List.mem_cons_self)
      (bwide b List.mem_cons_self)
    have tail := ih (row + 1) (fun r h => awide r (List.mem_cons_of_mem a h))
      (fun r h => bwide r (List.mem_cons_of_mem b h)) (Nat.succ.inj size)
    rw [List.forall₂_cons, ← head, ← tail, rowDifference?]
    cases cellDifference? row columns a b <;> simp

theorem difference?_eq_none_iff {expected actual : Table} (ewide : expected.WellFormed)
    (awide : actual.WellFormed) :
    difference? expected actual = none ↔
      expected.columns = actual.columns ∧ List.Forall₂ Row.Equivalent expected.rows actual.rows := by
  unfold difference?
  by_cases columns : expected.columns = actual.columns
  · by_cases size : expected.size = actual.size
    · have rows := rowDifference?_eq_none_iff 0 ewide (columns ▸ awide) size
      simp [columns, size, ← rows]
    · have unequal : ¬ List.Forall₂ Row.Equivalent expected.rows actual.rows :=
        fun related => size related.length_eq
      simp [columns, size, unequal]
  · simp [columns]

end Comparison

end SolutionCheck
