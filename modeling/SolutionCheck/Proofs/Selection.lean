import SolutionCheck.Proofs.Database
import SolutionCheck.Proofs.Loading
import SolutionCheck.Proofs.Materialization
import SolutionCheck.Proofs.Records

/-!
Asking for all columns of a table by their names. The text is one statement, and a database that behaves as is
documented gives for it the rows as they were stored when the tables were loaded, under the names of their
columns. What comes back differs from the cells of the table only where storing them changes them.
-/

namespace SolutionCheck

theorem Text.trim_of_solid {cs : List Char} (first : ∀ c ∈ cs.head?, isBlank c = false)
    (last : ∀ c ∈ cs.getLast?, isBlank c = false) : trim cs = cs := by
  have reversed : ∀ c ∈ cs.reverse.head?, isBlank c = false := by rwa [List.head?_reverse]
  rw [trim, dropWhile_of_head first, trimEnd, dropWhile_of_head reversed, List.reverse_reverse]

namespace Relational

open Sql

theorem statements_selectText {name : String} {columns : List String} (plain : ';' ∉ name.toList)
    (plains : ∀ column ∈ columns, ';' ∉ column.toList) :
    statements (selectText name columns) = [selectText name columns] := by
  have undivided := not_mem_selectText (.inl rfl) plain plains
  have first : ∀ c ∈ (selectText name columns).toList.head?, Text.isBlank c = false := by
    rw [toList_selectText, List.head?_cons]
    rintro _ ⟨⟩
    decide
  have last : ∀ c ∈ (selectText name columns).toList.getLast?, Text.isBlank c = false := by
    have quote : (selectText name columns).toList.getLast? = some '"' := by
      rw [toList_selectText, Lexeme.toList_quoteName]
      simp [List.getLast?_cons, List.getLast?_append]
    rw [quote]
    rintro _ ⟨⟩
    decide
  have kept : [(selectText name columns).toList].map Text.trim = [(selectText name columns).toList] := by
    rw [List.map_singleton, Text.trim_of_solid first last]
  have filled : (selectText name columns).toList.isEmpty = false := by
    rw [toList_selectText, List.isEmpty_cons]
  rw [statements, List.splitOn_eq_singleton undivided, kept, List.filterMap_cons, filled]
  simp only [Bool.false_eq_true, if_false, String.ofList_toList, List.filterMap_nil]

/-- A cell as it comes back from a table: a truth value as an integer, what is no number as nothing. -/
def returned : Cell → Cell
  | .bool b => .int (if b then 1 else 0)
  | .float x => if x.isNaN then .null else .float x
  | cell => cell

theorem toCell_stored (cell : Cell) : toCell (ofCell cell).stored = returned cell := by
  cases cell with
  | float x =>
    simp only [ofCell, Value.stored, Value.ofReal, returned]
    split <;> rfl
  | _ => rfl

theorem rows_stored (t : Table) : (stored t).rows.map (List.map toCell) = t.rows.map (List.map returned) := by
  rw [stored, List.map_map]
  refine List.map_congr_left fun row _ => ?_
  rw [Function.comp_apply, storedRow, List.map_map, List.map_map]
  exact List.map_congr_left fun cell _ => toCell_stored cell

/-- The name is not empty and holds neither the end of a statement nor the end of a text. -/
def Plain (name : String) : Prop := name ≠ "" ∧ ';' ∉ name.toList ∧ '\x00' ∉ name.toList

instance (name : String) : Decidable (Plain name) :=
  inferInstanceAs (Decidable (name ≠ "" ∧ ';' ∉ name.toList ∧ '\x00' ∉ name.toList))

/-- The names of relations, and those of the columns of one relation, differ in more than case and are plain. -/
structure Nameable (relations : Relations) : Prop where
  distinct : (relations.keys.map fold).Nodup
  plain : ∀ name ∈ relations.keys, Plain name
  columns : ∀ t ∈ relations.values, (t.columns.map fold).Nodup ∧ ∀ column ∈ t.columns, Plain column

instance (relations : Relations) : Decidable (Nameable relations) :=
  decidable_of_iff ((relations.keys.map fold).Nodup ∧ (∀ name ∈ relations.keys, Plain name) ∧
      ∀ t ∈ relations.values, (t.columns.map fold).Nodup ∧ ∀ column ∈ t.columns, Plain column)
    ⟨fun ⟨distinct, plain, columns⟩ => ⟨distinct, plain, columns⟩, fun h => ⟨h.distinct, h.plain, h.columns⟩⟩

def Unreserved (relations : Relations) : Prop :=
  ∀ name ∈ relations.keys, (fold name).startsWith "sqlite_" = false

instance (relations : Relations) : Decidable (Unreserved relations) :=
  inferInstanceAs (Decidable (∀ name ∈ relations.keys, (fold name).startsWith "sqlite_" = false))

theorem wellFormed_of_materialize {sample : Sample} {relations : Relations}
    (accepted : sample.materialize = .ok relations) {entry : String × Table} (mem : entry ∈ relations.entries) :
    entry.2.WellFormed := by
  obtain ⟨-, rfl⟩ := (Sample.materialize_eq_ok_iff sample relations).1 accepted
  obtain ⟨⟨name, records⟩, -, rfl⟩ := List.mem_map.1 mem
  exact Table.ofRecords_wellFormed _ _

theorem Nameable.loadable {relations : Relations} (nameable : Nameable relations) (unreserved : Unreserved relations)
    (wide : ∀ entry ∈ relations.entries, entry.2.WellFormed) :
    ∀ entry ∈ relations.entries, Loadable entry := by
  intro entry mem
  obtain ⟨named, -, whole⟩ := nameable.plain entry.1 (List.mem_map_of_mem mem)
  obtain ⟨distinct, plain⟩ := nameable.columns entry.2 (List.mem_map_of_mem mem)
  exact {
    writable := ⟨distinct, whole, fun column inside => (plain column inside).2.2⟩
    named := named
    allNamed := fun column inside => (plain column inside).1
    unreserved := unreserved entry.1 (List.mem_map_of_mem mem)
    wide := wide entry mem }

section Documented

variable {service : Service} {limits : Limits} {holds : service.State → Bool → Content → Prop}
  {means : service.Statement → Instruction → Prop} (documented : service.Documented limits holds means)

include documented

theorem succeeds_selectText {content : Content} {name : String} {t : Table} (there : content name = some (stored t))
    (writable : Writable name t.columns) (filled : t.columns ≠ []) (short : limits.text (selectText name t.columns)) :
    (runStatement service (selectText name t.columns)).Succeeds (fun c => holds c.1 false content)
      fun result _ => result = (t.columns, t.rows.map (List.map returned)) := by
  have prepared := documented.prepare false (lexemes_selectText writable filled) (.select there) short
  refine prepared.bind fun statement c held => ?_
  obtain ⟨meant, held⟩ := held
  obtain ⟨_, after, asked, rfl, -⟩ := documented.query false meant there c held
  have columns : service.columnNames statement = t.columns := documented.columnNames meant
  refine ⟨_, after, ?_, rfl⟩
  simp only [columns, List.isEmpty_iff, filled, if_false]
  rw [Action.bind_of_ok asked, rows_stored]
  rfl

theorem runQuery_eq {relations : Relations} (nameable : Nameable relations) (unreserved : Unreserved relations)
    (wide : ∀ entry ∈ relations.entries, entry.2.WellFormed) (admits : Admits limits relations) {name : String}
    {t : Table} (mem : (name, t) ∈ relations.entries) (filled : t.columns ≠ [])
    (short : limits.text (selectText name t.columns)) (m : Machine) :
    (runQuery service (selectText name t.columns) relations m).1 =
      .ok (shapeResult t.columns (t.rows.map (List.map returned))) := by
  have loadable := nameable.loadable unreserved wide
  have distinct : (relations.entries.map fun entry => fold entry.1).Nodup := by
    have names := nameable.distinct
    rwa [Keyed.keys, List.map_map] at names
  have there := foldl_addTable_of_mem distinct mem filled .empty
  have one : statements (selectText name t.columns) = [selectText name t.columns] :=
    statements_selectText (nameable.plain name (List.mem_map_of_mem mem)).2.1 fun column inside =>
      ((nameable.columns t (List.mem_map_of_mem mem)).2 column inside).2.1
  obtain ⟨connection, disk, opened, held⟩ := documented.openInMemory m.disk trivial
  have runs : (do
      load service relations
      runStatements service (statements (selectText name t.columns)) : service.Call _).Succeeds
      (fun c => holds c.1 false .empty) fun result _ => result = (t.columns, t.rows.map (List.map returned)) := by
    rw [one]
    refine (succeeds_load documented admits loadable nameable.distinct).bind fun _ => ?_
    exact (succeeds_selectText documented there (loadable _ mem).writable filled short).bind fun result c same =>
      ⟨result, c, rfl, same⟩
  obtain ⟨_, after, run, rfl⟩ := runs (connection, disk) held
  simp only [runQuery, opened, run]
  rfl

end Documented

theorem shapeResult_of_wide {columns : List String} {rows : List Row} (several : 2 ≤ columns.length)
    (nonempty : rows ≠ []) : shapeResult columns rows = .records (rows.map (Table.toRecord columns)) := by
  have apart : columns.length ≠ 1 := by omega
  simp [shapeResult, nonempty, apart]

theorem shapeResult_of_narrow {columns : List String} {rows : List Row} (filled : columns ≠ [])
    (narrow : columns.length = 1 ∨ rows = []) (wide : ∀ row ∈ rows, row.length = columns.length) :
    shapeResult columns rows = .sequence (rows.map (Table.cellAt · 0)) := by
  have shape : shapeResult columns rows = .sequence (rows.filterMap List.head?) := by
    obtain single | rfl := narrow
    · simp [shapeResult, single]
    · simp [shapeResult]
  rw [shape, ← List.filterMap_eq_map]
  congr 1
  refine List.filterMap_congr fun row mem => ?_
  have nonempty : row ≠ [] := by
    rintro rfl
    exact filled (List.eq_nil_of_length_eq_zero (wide [] mem).symm)
  obtain ⟨cell, rest, rfl⟩ := List.exists_cons_of_ne_nil nonempty
  rfl

/-- Every table with columns comes back when all its columns are asked for, whatever stands in its names and
cells: as records of its rows, or as a list of cells when there is one column or no row. -/
theorem runQuery_selectText {service : Service} {limits : Limits} {holds : service.State → Bool → Content → Prop}
    {means : service.Statement → Instruction → Prop} (documented : service.Documented limits holds means)
    {sample : Sample} {relations : Relations} (accepted : sample.materialize = .ok relations)
    (nameable : Nameable relations) (unreserved : Unreserved relations) (admits : Admits limits relations)
    {name : String} {t : Table} (mem : (name, t) ∈ relations.entries) (filled : t.columns ≠ [])
    (short : limits.text (selectText name t.columns)) (m : Machine) :
    (2 ≤ t.columns.length → t.rows ≠ [] →
      ∃ records, (runQuery service (selectText name t.columns) relations m).1 = .ok (.records records) ∧
        (Answer.records records).toTable = ⟨t.columns, t.rows.map (List.map returned)⟩) ∧
    (t.columns.length = 1 ∨ t.rows = [] → (runQuery service (selectText name t.columns) relations m).1 =
      .ok (.sequence (t.rows.map fun row => returned (Table.cellAt row 0)))) := by
  have wide : ∀ row ∈ t.rows.map (List.map returned), row.length = t.columns.length := by
    intro row inside
    obtain ⟨cells, within, rfl⟩ := List.mem_map.1 inside
    exact (List.length_map _).trans (wellFormed_of_materialize accepted mem cells within)
  have distinct : t.columns.Nodup := (nameable.columns t (List.mem_map_of_mem mem)).1.of_map fold
  rw [runQuery_eq documented nameable unreserved (fun _ => wellFormed_of_materialize accepted) admits mem filled short]
  refine ⟨fun several nonempty => ?_, fun narrow => ?_⟩
  · have some : t.rows.map (List.map returned) ≠ [] := by simpa using nonempty
    rw [shapeResult_of_wide several some]
    exact ⟨_, rfl, Answer.toTable_records distinct wide some⟩
  · rw [shapeResult_of_narrow filled (narrow.imp_right fun none => by rw [none, List.map_nil]) wide, List.map_map]
    exact congrArg _ (congrArg _ (List.map_congr_left fun row _ => by cases row <;> rfl))

theorem runQuery_selectText_of_quoted :
    let sample : Sample := .ofList [
      ("say \"hi\"", [.ofList [("o,k", .bool true), ("id", .int 1)],
        .ofList [("id", .int 2), ("o,k", .float (.nan false))]]),
      ("texts", [.ofList [("t", .text "a;b")]]), ("none", [])]
    let relations := sample.mapValues Sample.tableOf
    let m : Machine := ⟨⟨[], []⟩, []⟩
    Database.service.Documented .unlimited Database.Holds Database.Means ∧
      sample.materialize = .ok relations ∧ Nameable relations ∧ Unreserved relations ∧
      Admits .unlimited relations ∧
      (∃ records, (runQuery Database.service (selectText "say \"hi\"" ["id", "o,k"]) relations m).1 =
          .ok (.records records) ∧
        (Answer.records records).toTable = ⟨["id", "o,k"], [[.int 1, .int 1], [.int 2, .null]]⟩) ∧
      (runQuery Database.service (selectText "texts" ["t"]) relations m).1 = .ok (.sequence [.text "a;b"]) := by
  intro sample relations m
  have accepted : sample.materialize = .ok relations := by decide +kernel
  have nameable : Nameable relations := by decide +kernel
  have unreserved : Unreserved relations := by decide +kernel
  have admits : Admits .unlimited relations := ⟨fun _ _ => trivial, fun _ _ => trivial⟩
  have people : ("say \"hi\"", (⟨["id", "o,k"], [[.int 1, .bool true], [.int 2, .float (.nan false)]]⟩ : Table)) ∈
      relations.entries := by decide +kernel
  have texts : ("texts", (⟨["t"], [[.text "a;b"]]⟩ : Table)) ∈ relations.entries := by decide +kernel
  exact ⟨Database.documented, accepted, nameable, unreserved, admits,
    (runQuery_selectText Database.documented accepted nameable unreserved admits people (by decide) trivial m).1
      (by decide) (by decide),
    (runQuery_selectText Database.documented accepted nameable unreserved admits texts (by decide) trivial m).2
      (by decide)⟩

/-- Names that begin so are kept back in any case of their letters. -/
theorem runQuery_refuses_capitals :
    let sample : Sample := .ofList [("SQLITE_x", [.ofList [("a", .int 1)]])]
    let relations := sample.mapValues Sample.tableOf
    Database.service.Documented .unlimited Database.Holds Database.Means ∧
      sample.materialize = .ok relations ∧ Nameable relations ∧
      (∀ name ∈ relations.keys, name.startsWith "sqlite_" = false) ∧ Admits .unlimited relations ∧
      relations.entries = [("SQLITE_x", ⟨["a"], [[.int 1]]⟩)] ∧
      (runQuery Database.service (selectText "SQLITE_x" ["a"]) relations ⟨⟨[], []⟩, []⟩).1 =
        .error ⟨"relational", .badQuery "object name reserved for internal use: SQLITE_x"⟩ := by
  intro sample relations
  exact ⟨Database.documented, by decide +kernel, by decide +kernel, by decide +kernel,
    ⟨fun _ _ => trivial, fun _ _ => trivial⟩, by decide +kernel, by decide +kernel⟩

end Relational

end SolutionCheck
