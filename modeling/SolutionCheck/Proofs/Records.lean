import SolutionCheck.Proofs.FirstSeen
import SolutionCheck.Proofs.Keyed

/-!
Tables and records. The table form of records has the keys of all of them as its columns, by first
appearance, and a row for each record that shows its value under every key it has and nothing under
the others. No other table is like this. Under distinct columns the record of a row has the columns as
its keys, so that tables go to records and come back.
-/

namespace SolutionCheck

/-- The cell shows what a record holds under a key: the value there, or nothing where the record does
not have the key. -/
def Record.Shows (record : Record) (key : String) (cell : Cell) : Prop :=
  (key, cell) ∈ record.entries ∨ key ∉ record.keys ∧ cell = .null

theorem Record.shows_iff (record : Record) (key : String) (cell : Cell) :
    record.Shows key cell ↔ (record.get? key).getD .null = cell := by
  rw [Record.Shows, ← Keyed.get?_eq_some_iff, ← Keyed.get?_eq_none_iff]
  cases record.get? key <;> simp [eq_comm]

theorem Record.forall₂_shows_iff (record : Record) (columns : List String) (row : Row) :
    List.Forall₂ record.Shows columns row ↔
      columns.map (fun column => (record.get? column).getD .null) = row := by
  have lookup : record.Shows = fun key cell => (record.get? key).getD .null = cell := by
    funext key cell
    exact propext (record.shows_iff key cell)
  rw [lookup, ← List.forall₂_eq_eq_eq, List.forall₂_map_left_iff]

namespace Table

/-- The columns of the table are the keys of the records by first appearance, and its rows show the
records one by one. -/
structure Gathers (t : Table) (records : List Record) : Prop where
  distinct : t.columns.Nodup
  columns : FirstSeen (records.flatMap Keyed.keys) t.columns
  rows : List.Forall₂ (fun record row => List.Forall₂ record.Shows t.columns row) records t.rows

theorem ofRecords_eq_iff (columns : List String) (records : List Record) (rows : List Row) :
    ofRecords columns records = ⟨columns, rows⟩ ↔
      List.Forall₂ (fun record row => List.Forall₂ record.Shows columns row) records rows := by
  simp only [Record.forall₂_shows_iff]
  rw [ofRecords, Table.mk.injEq, and_iff_right rfl, ← List.forall₂_map_left_iff, List.forall₂_eq_eq_eq]

theorem entries_toRecord {columns : List String} {row : Row} (distinct : columns.Nodup)
    (wide : row.length = columns.length) : (toRecord columns row).entries = columns.zip row := by
  refine Keyed.entries_ofList ?_
  rwa [List.map_fst_zip (Nat.le_of_eq wide.symm)]

theorem keys_toRecord {columns : List String} {row : Row} (distinct : columns.Nodup)
    (wide : row.length = columns.length) : (toRecord columns row).keys = columns := by
  rw [Keyed.keys, entries_toRecord distinct wide, List.map_fst_zip (Nat.le_of_eq wide.symm)]

theorem forall₂_shows_toRecord {columns : List String} {row : Row} (distinct : columns.Nodup)
    (wide : row.length = columns.length) :
    List.Forall₂ (toRecord columns row).Shows columns row := by
  refine List.forall₂_iff_zip.2 ⟨wide.symm, fun entry => Or.inl ?_⟩
  rwa [entries_toRecord distinct wide]

theorem ofRecords_toRecord {columns : List String} {rows : List Row} (distinct : columns.Nodup)
    (wide : ∀ row ∈ rows, row.length = columns.length) :
    ofRecords columns (rows.map (toRecord columns)) = ⟨columns, rows⟩ := by
  rw [ofRecords_eq_iff, List.forall₂_map_left_iff, List.forall₂_same]
  exact fun row mem => forall₂_shows_toRecord distinct (wide row mem)

end Table

namespace Answer

/-- The table form of records loses nothing and makes nothing up: it is the one table that gathers
them. -/
theorem toTable_records_eq_iff (records : List Record) (t : Table) :
    (Answer.records records).toTable = t ↔ t.Gathers records := by
  have seen := firstSeen_allKeys records
  constructor
  · rintro rfl
    exact ⟨seen.nodup, seen, (Table.ofRecords_eq_iff _ _ _).1 rfl⟩
  · intro gathers
    have columns : allKeys records = t.columns := seen.unique gathers.columns
    rw [toTable, columns]
    exact (Table.ofRecords_eq_iff _ _ _).2 gathers.rows

example : (Answer.records [.ofList [("a", .int 1)], .ofList [("b", .text "x"), ("a", .int 2)], {}]).toTable =
    ⟨["a", "b"], [[.int 1, .null], [.int 2, .text "x"], [.null, .null]]⟩ := by decide

theorem toTable_records {columns : List String} {rows : List Row} (distinct : columns.Nodup)
    (wide : ∀ row ∈ rows, row.length = columns.length) (nonempty : rows ≠ []) :
    (Answer.records (rows.map (Table.toRecord columns))).toTable = ⟨columns, rows⟩ := by
  obtain ⟨row, rest, rfl⟩ := List.exists_cons_of_ne_nil nonempty
  have keys (other : Row) (mem : other ∈ row :: rest) :
      (Table.toRecord columns other).keys = columns := Table.keys_toRecord distinct (wide other mem)
  have same : allKeys ((row :: rest).map (Table.toRecord columns)) = columns := by
    rw [List.map_cons, allKeys_cons, keys row List.mem_cons_self]
    intro record mem key inside
    obtain ⟨other, within, rfl⟩ := List.mem_map.1 mem
    rwa [keys row List.mem_cons_self, ← keys other (List.mem_cons_of_mem row within)]
  rw [toTable, same, Table.ofRecords_toRecord distinct wide]

end Answer

end SolutionCheck
