import SolutionCheck.Interpreter
import SolutionCheck.Relational
import SolutionCheck.Proofs.Acceptance
import SolutionCheck.Proofs.Records

/-!
One table delivered in several ways. As a data frame and as records it reaches the comparison alike.
As the result of a query it does so too, unless it has one column or no row: then it is flattened,
and its only column is called by its position. No expected answer accepts both forms of a table that
loses its column names in this way.
-/

namespace SolutionCheck

open Table Comparison

section

variable [Sorting]

theorem checkEquals_congr (e : Answer) {x y : Answer} (same : x.toTable = y.toTable) :
    checkEquals e x = checkEquals e y := by
  rw [checkEquals, checkEquals, verify, verify, same]

theorem columns_of_accepted {e x : Answer} (accepted : checkEquals e x = .ok ()) :
    e.toTable.columns = x.toTable.columns ∧ x.toTable.Sortable := by
  have matched := (checkEquals_eq_ok_iff e x).1 accepted
  obtain ⟨key, comparable⟩ := exists_comparable_of_matches matched
  rw [Matches, comparable.compareTables_eq] at matched
  cases esorted : e.toTable.arrangedOn key with
  | none =>
    rw [esorted] at matched
    cases matched
  | some earranged =>
    cases xsorted : x.toTable.arrangedOn key with
    | none =>
      rw [esorted, xsorted] at matched
      cases matched
    | some xarranged =>
      have columns : e.toTable.columns = x.toTable.columns := by
        rw [← (arrangedOn_rearranges esorted).columns, ← (arrangedOn_rearranges xsorted).columns]
        by_contra differ
        simp [esorted, xsorted, isMatch, difference?, differ] at matched
      exact ⟨columns, key, columns ▸ comparable.head, comparable.actualKind, by rw [xsorted]; rfl⟩

/-- Whether a table can be sorted is a matter of its rows alone, as long as it has a column. -/
theorem Table.sortable_iff {t : Table} (nonempty : t.columns ≠ []) :
    t.Sortable ↔ OfOneKind (t.rows.map (cellAt · 0)) ∧ (Sorting.sort (orderRows 0) t.rows).isSome := by
  obtain ⟨key, rest, columns⟩ := List.exists_cons_of_ne_nil nonempty
  have head : t.columns.head? = some key := by rw [columns]; rfl
  have place := columnIndex?_of_head? head
  have succeeds : (t.arrangedOn key).isSome ↔ (Sorting.sort (orderRows 0) t.rows).isSome := by
    rw [arrangedOn_eq place, sortRows, Option.isSome_map]
  simp only [Sortable, head, Option.mem_some_iff, exists_eq_left', cellsUnder_eq place, succeeds]

theorem accepted_alike_iff {columns others : List String} {rows : List Row}
    (wide : ∀ row ∈ rows, row.length = columns.length)
    (sortable : (Table.mk others rows).Sortable ↔ (Table.mk columns rows).Sortable) :
    (∀ e, checkEquals e (.table ⟨others, rows⟩) = .ok () ↔
        checkEquals e (.table ⟨columns, rows⟩) = .ok ()) ↔
      others = columns ∨ ¬ (Table.mk columns rows).Sortable := by
  constructor
  · intro alike
    by_cases sorted : (Table.mk columns rows).Sortable
    · -- a table that can be sorted is accepted for itself, so it must be under the other header
      have wellFormed : (Answer.table ⟨columns, rows⟩).WellFormed := wide
      have itself := (checkEquals_self_iff wellFormed).2 sorted
      exact Or.inl (columns_of_accepted ((alike _).2 itself)).1.symm
    · exact Or.inr sorted
  · rintro (rfl | unsorted) e
    · exact Iff.rfl
    · constructor
      · intro accepted
        exact absurd (sortable.1 (columns_of_accepted accepted).2) unsorted
      · intro accepted
        exact absurd (columns_of_accepted accepted).2 unsorted

end

theorem toAnswer_table {columns : List String} {rows : List Row}
    (wide : ∀ row ∈ rows, row.length = columns.length) :
    (Interpreter.Result.table columns rows).toAnswer = .ok (.table ⟨columns, rows⟩) := by
  have even : rows.find? (fun row => row.length ≠ columns.length) = none := by
    simpa using wide
  rw [Interpreter.Result.toAnswer, ofRows, even]
  rfl

namespace Relational

/-- The columns under which the result of a query is delivered. -/
def deliveredColumns (columns : List String) (rows : List Row) : List String :=
  if rows = [] ∨ columns.length = 1 then [positionalColumn] else columns

theorem deliveredColumns_eq_iff (columns : List String) (rows : List Row) :
    deliveredColumns columns rows = columns ↔
      columns = [positionalColumn] ∨ (rows ≠ [] ∧ columns.length ≠ 1) := by
  unfold deliveredColumns
  split
  · next flat =>
    rw [← not_or, or_iff_left (not_not_intro flat), eq_comm]
  · next kept =>
    rw [not_or] at kept
    exact iff_of_true rfl (Or.inr kept)

theorem sortable_delivered [Sorting] {columns : List String} (nonempty : columns ≠ []) (rows : List Row) :
    (Table.mk (deliveredColumns columns rows) rows).Sortable ↔ (Table.mk columns rows).Sortable := by
  have delivered : deliveredColumns columns rows ≠ [] := by
    unfold deliveredColumns
    split
    · exact List.cons_ne_nil _ _
    · exact nonempty
  rw [sortable_iff delivered, sortable_iff nonempty]

theorem map_singleton_filterMap_head? {rows : List Row} (narrow : ∀ row ∈ rows, row.length = 1) :
    (rows.filterMap List.head?).map (fun cell => [cell]) = rows := by
  induction rows with
  | nil => rfl
  | cons row rows ih =>
    obtain ⟨cell, rfl⟩ := List.length_eq_one_iff.1 (narrow row List.mem_cons_self)
    have rest := ih fun other mem => narrow other (List.mem_cons_of_mem [cell] mem)
    simpa using rest

theorem toTable_shapeResult {columns : List String} {rows : List Row} (distinct : columns.Nodup)
    (wide : ∀ row ∈ rows, row.length = columns.length) :
    (shapeResult columns rows).toTable = ⟨deliveredColumns columns rows, rows⟩ := by
  by_cases flat : rows = [] ∨ columns.length = 1
  · have narrow : ∀ row ∈ rows, row.length = 1 := by
      rcases flat with rfl | single
      · exact fun _ mem => absurd mem List.not_mem_nil
      · exact fun row mem => (wide row mem).trans single
    have shape : shapeResult columns rows = .sequence (rows.filterMap List.head?) := by
      rcases flat with rfl | single <;> simp [shapeResult, *]
    rw [shape, deliveredColumns, if_pos flat, Answer.toTable, ofColumn,
      map_singleton_filterMap_head? narrow]
  · have shape : shapeResult columns rows = .records (rows.map (toRecord columns)) := by
      simpa [shapeResult] using flat
    rw [not_or] at flat
    rw [shape, deliveredColumns, if_neg (not_or.2 flat), Answer.toTable_records distinct wide flat.1]

end Relational

open Relational

/-- No expected answer tells how a table was delivered, except by the column names that a flattened
query result has lost. A table that cannot be sorted is accepted in neither form. -/
theorem checkEquals_delivery [Sorting] (columns : List String) (rows : List Row) (nonempty : columns ≠ [])
    (distinct : columns.Nodup) (wide : ∀ row ∈ rows, row.length = columns.length) :
    (Interpreter.Result.table columns rows).toAnswer = .ok (.table ⟨columns, rows⟩) ∧
    (rows ≠ [] → ∀ e, checkEquals e (.records (rows.map (toRecord columns))) =
      checkEquals e (.table ⟨columns, rows⟩)) ∧
    (∀ e, checkEquals e (shapeResult columns rows) =
      checkEquals e (.table ⟨deliveredColumns columns rows, rows⟩)) ∧
    ((∀ e, checkEquals e (shapeResult columns rows) = .ok () ↔
        checkEquals e (.table ⟨columns, rows⟩) = .ok ()) ↔
      columns = [positionalColumn] ∨ (rows ≠ [] ∧ columns.length ≠ 1) ∨
        ¬ (Table.mk columns rows).Sortable) ∧
    (¬ (Table.mk columns rows).Knotted →
      ((Table.mk columns rows).Sortable ↔ (Table.mk columns rows).Orderable)) := by
  have delivered (e : Answer) : checkEquals e (shapeResult columns rows) =
      checkEquals e (.table ⟨deliveredColumns columns rows, rows⟩) :=
    checkEquals_congr e (toTable_shapeResult distinct wide)
  refine ⟨toAnswer_table wide, fun filled e => ?_, delivered, ?_, Table.sortable_iff_orderable⟩
  · exact checkEquals_congr e (Answer.toTable_records distinct wide filled)
  · simp only [delivered]
    rw [accepted_alike_iff wide (sortable_delivered nonempty rows), deliveredColumns_eq_iff, or_assoc]

theorem checkEquals_delivery_of_query :
    letI := Sorting.guarded
    let columns := ["k", "v"]
    let rows : List Row := [[.int 2, .text "b"], [.int 1, .null]]
    let records := rows.map (toRecord columns)
    (∀ e, checkEquals e (.records records) = checkEquals e (.table ⟨columns, rows⟩)) ∧
      (∀ e, checkEquals e (shapeResult columns rows) = .ok () ↔
        checkEquals e (.table ⟨columns, rows⟩) = .ok ()) ∧
      ∀ e, checkEquals e (shapeResult columns []) = checkEquals e (.table ⟨["0"], []⟩) := by
  let _ := Sorting.guarded
  intro columns rows records
  have filled := checkEquals_delivery columns rows (by decide) (by decide) (by decide)
  have empty := checkEquals_delivery columns [] (by decide) (by decide) (by decide)
  exact ⟨filled.2.1 (by decide), filled.2.2.2.1.2 (by decide), empty.2.2.1⟩

/-- A table of one column is accepted for itself, but not where a query delivers it. -/
theorem checkEquals_rejects_flattened :
    letI := Sorting.guarded
    let columns := ["x"]
    let rows : List Row := [[.int 1]]
    let e : Answer := .records (rows.map (toRecord columns))
    checkEquals e (.table ⟨columns, rows⟩) = .ok () ∧ checkEquals e (shapeResult columns rows) ≠ .ok () := by
  let _ := Sorting.guarded
  intro columns rows e
  exact ⟨(checkEquals_eq_ok_iff _ _).2 (by decide +kernel),
    (checkEquals_eq_ok_iff _ _).not.2 (by decide +kernel)⟩

theorem toTable_records_self_iff {t : Table} (wide : t.WellFormed) (distinct : t.columns.Nodup) :
    (Answer.records t.records).toTable = t ↔ t.columns = [] ∨ t.rows ≠ [] := by
  by_cases empty : t.rows = []
  · have none : t.records = [] := by rw [records, empty, List.map_nil]
    have blank : (Answer.records []).toTable = ⟨[], []⟩ := rfl
    rw [none, blank, or_iff_left (not_not_intro empty)]
    constructor
    · intro same
      rw [← same]
    · intro columns
      rw [← columns, ← empty]
  · exact iff_of_true (Answer.toTable_records distinct wide empty) (Or.inr empty)

theorem toTable_shapeResult_self_iff {t : Table} (wide : t.WellFormed) (distinct : t.columns.Nodup) :
    (shapeResult t.columns t.rows).toTable = t ↔
      t.columns = [positionalColumn] ∨ (t.rows ≠ [] ∧ t.columns.length ≠ 1) := by
  rw [toTable_shapeResult distinct wide, ← deliveredColumns_eq_iff]
  constructor
  · intro same
    exact congrArg Table.columns same
  · intro kept
    rw [kept]

/-- A table under distinct columns comes back from its records. The columns need not be told as long as
there is a row to name them, and a query result brings them along unless it is flattened. -/
theorem records_roundTrip (t : Table) (wide : t.WellFormed) (distinct : t.columns.Nodup) :
    ofRecords t.columns t.records = t ∧
    ((Answer.records t.records).toTable = t ↔ t.columns = [] ∨ t.rows ≠ []) ∧
    ((shapeResult t.columns t.rows).toTable = t ↔
      t.columns = [positionalColumn] ∨ (t.rows ≠ [] ∧ t.columns.length ≠ 1)) :=
  ⟨ofRecords_toRecord distinct wide, toTable_records_self_iff wide distinct,
    toTable_shapeResult_self_iff wide distinct⟩

theorem records_roundTrip_of_query :
    let t : Table := ⟨["v", "k"], [[.text "b", .null], [.float (.nan true), .int 1], [.text "b", .null]]⟩
    t.WellFormed ∧ t.columns.Nodup ∧ ofRecords t.columns t.records = t ∧
      (Answer.records t.records).toTable = t ∧ (shapeResult t.columns t.rows).toTable = t ∧
      (shapeResult t.columns []).toTable ≠ ⟨t.columns, []⟩ := by
  intro t
  have wide : t.WellFormed := by decide
  have distinct : t.columns.Nodup := by decide
  obtain ⟨laid, gathered, shaped⟩ := records_roundTrip t wide distinct
  have blank := records_roundTrip ⟨t.columns, []⟩ (by decide) distinct
  exact ⟨wide, distinct, laid, gathered.2 (by decide), shaped.2 (by decide), blank.2.2.not.2 (by decide)⟩

end SolutionCheck
