import SolutionCheck.Proofs.Result
import SolutionCheck.Proofs.Service

/-!
Loading the input tables. A table is made under its name and then filled row by row, each row as the values
for the marks of one statement. What a database holds afterwards under the name are the columns and the
stored forms of the rows, in their order; under other names it holds what it held before.
-/

namespace SolutionCheck

namespace Relational

open Sql

/-- The statements that load tables, those without columns left out. -/
def loadTexts (relations : Relations) : List String :=
  (relations.entries.filter fun entry => !entry.2.columns.isEmpty).flatMap fun (name, t) =>
    [createText name t.columns, insertText name t.width]

theorem mem_loadTexts {relations : Relations} {name : String} {t : Table} (mem : (name, t) ∈ relations.entries)
    (filled : t.columns ≠ []) :
    createText name t.columns ∈ loadTexts relations ∧ insertText name t.width ∈ loadTexts relations := by
  have kept : (name, t) ∈ relations.entries.filter fun entry => !entry.2.columns.isEmpty :=
    List.mem_filter.2 ⟨mem, by simpa using filled⟩
  exact ⟨List.mem_flatMap.2 ⟨_, kept, by simp⟩, List.mem_flatMap.2 ⟨_, kept, by simp⟩⟩

def storedRow (row : Row) : List Value := (row.map ofCell).map Value.stored

def stored (t : Table) : Data := ⟨t.columns, t.rows.map storedRow⟩

def addTable (content : Content) (entry : String × Table) : Content :=
  if entry.2.columns.isEmpty then content else content.put entry.1 (stored entry.2)

theorem addTable_of_ne {content : Content} {entry : String × Table} {other : String}
    (apart : fold entry.1 ≠ fold other) : addTable content entry other = content other := by
  unfold addTable
  split
  · rfl
  · exact content.put_of_ne _ _ apart

theorem foldl_addTable_of_not_mem {entries : List (String × Table)} {other : String}
    (absent : fold other ∉ entries.map fun entry => fold entry.1) (content : Content) :
    entries.foldl addTable content other = content other := by
  induction entries generalizing content with
  | nil => rfl
  | cons entry entries ih =>
    rw [List.map_cons, List.mem_cons, not_or] at absent
    rw [List.foldl_cons, ih absent.2, addTable_of_ne (Ne.symm absent.1)]

/-- A table is under its name as long as no later one has a name that differs only in case. -/
theorem foldl_addTable_of_mem {entries : List (String × Table)}
    (distinct : (entries.map fun entry => fold entry.1).Nodup) {entry : String × Table} (mem : entry ∈ entries)
    (filled : entry.2.columns ≠ []) (content : Content) :
    entries.foldl addTable content entry.1 = some (stored entry.2) := by
  induction entries generalizing content with
  | nil => exact absurd mem List.not_mem_nil
  | cons first entries ih =>
    rw [List.map_cons, List.nodup_cons] at distinct
    rw [List.foldl_cons]
    rcases List.mem_cons.1 mem with rfl | mem
    · rw [foldl_addTable_of_not_mem distinct.1, addTable, if_neg (by simpa using filled), Content.put_self]
    · exact ih distinct.2 mem _

/-- All tables are among those to be loaded, with the first of their rows. -/
def PartOf (relations : Relations) (content : Content) : Prop :=
  ∀ name data, content name = some data → ∃ entry ∈ relations.entries,
    data.columns = entry.2.columns ∧ data.rows <+: (stored entry.2).rows

theorem PartOf.put {relations : Relations} {content : Content} (part : PartOf relations content)
    {entry : String × Table} (mem : entry ∈ relations.entries) {rows : List (List Value)}
    (first : rows <+: (stored entry.2).rows) : PartOf relations (content.put entry.1 ⟨entry.2.columns, rows⟩) := by
  intro name data found
  unfold Content.put at found
  split at found
  · cases found
    exact ⟨entry, mem, rfl, first⟩
  · exact part name data found

theorem PartOf.addTable {relations : Relations} {content : Content} (part : PartOf relations content)
    {entry : String × Table} (mem : entry ∈ relations.entries) : PartOf relations (addTable content entry) := by
  unfold Relational.addTable
  split
  · exact part
  · exact part.put mem (List.prefix_refl _)

/-- The tables and the statements that load them stay within the limits. -/
structure Admits (limits : Limits) (relations : Relations) : Prop where
  texts : ∀ text ∈ loadTexts relations, limits.text text
  tables : ∀ content, PartOf relations content → limits.content content

structure Loadable (entry : String × Table) : Prop where
  writable : Writable entry.1 entry.2.columns
  named : entry.1 ≠ ""
  allNamed : ∀ column ∈ entry.2.columns, column ≠ ""
  unreserved : (fold entry.1).startsWith Statement.reservedStart = false
  wide : entry.2.WellFormed

section Documented

variable {service : Service} {limits : Limits} {holds : service.State → Bool → Content → Prop}
  {means : service.Statement → Instruction → Prop} (documented : service.Documented limits holds means)
  {inTransaction : Bool}

include documented

theorem succeeds_rows {statement : service.Statement} {name : String} {columns : List String}
    (meant : means statement (.insert name columns.length)) (content : Content) {rows : List Row}
    (wide : ∀ row ∈ rows, row.length = columns.length) (before : List (List Value))
    (small : ∀ part, part <+: before ++ rows.map storedRow → limits.content (content.put name ⟨columns, part⟩)) :
    (rows.forM fun row => service.execute statement (row.map ofCell)).Succeeds
      (fun c => holds c.1 inTransaction (content.put name ⟨columns, before⟩))
      fun _ c => holds c.1 inTransaction (content.put name ⟨columns, before ++ rows.map storedRow⟩) := by
  -- the rows that are there before are the general part of the induction
  induction rows generalizing before with
  | nil =>
    intro c held
    rw [List.map_nil, List.append_nil]
    exact ⟨(), c, rfl, held⟩
  | cons row rows ih =>
    obtain ⟨here, others⟩ := List.forall_mem_cons.1 wide
    have longer : before ++ (row :: rows).map storedRow = before ++ [storedRow row] ++ rows.map storedRow := by
      rw [List.map_cons, List.append_assoc, List.singleton_append]
    rw [longer] at small ⊢
    have there := content.put_self name ⟨columns, before⟩
    have same (data : Data) : (content.put name ⟨columns, before⟩).put name data = content.put name data :=
      content.put_put name _ data
    have fits : (row.map ofCell).length = columns.length := (List.length_map _).trans here
    have stored := documented.insert inTransaction meant there fits (by
      rw [same]
      exact small _ (List.prefix_append _ _))
    rw [same] at stored
    exact stored.bind fun _ => ih others (before ++ [storedRow row]) small

theorem succeeds_loadTable {relations : Relations} (admits : Admits limits relations) {content : Content}
    (part : PartOf relations content) {name : String} {t : Table} (mem : (name, t) ∈ relations.entries)
    (loadable : Loadable (name, t)) (free : content name = none) :
    (loadTable service name t).Succeeds (fun c => holds c.1 inTransaction content)
      fun _ c => holds c.1 inTransaction (addTable content (name, t)) := by
  unfold loadTable addTable
  split
  · exact fun c held => ⟨(), c, rfl, held⟩
  · next filled =>
    rw [List.isEmpty_iff] at filled
    obtain ⟨createShort, insertShort⟩ := mem_loadTexts mem filled
    have small (rows : List (List Value)) (first : rows <+: [] ++ t.rows.map storedRow) :
        limits.content (content.put name ⟨t.columns, rows⟩) := admits.tables _ (part.put mem first)
    have allowed : Instruction.Allowed content (.create name t.columns) :=
      .create free loadable.named loadable.unreserved filled loadable.allNamed loadable.writable.distinct
    have created := documented.prepare inTransaction
      (lexemes_createText loadable.writable) allowed (admits.texts _ createShort)
    refine created.bind fun create c held => ?_
    have made := documented.create inTransaction held.1 free (small [] List.nil_prefix)
    have there := content.put_self name ⟨t.columns, []⟩
    have prepared := documented.prepare inTransaction
      (lexemes_insertText t.columns.length loadable.writable.whole) (.insert there) (admits.texts _ insertShort)
    refine (made.bind fun _ => prepared.bind fun insert c held => ?_) c held.2
    exact succeeds_rows documented held.1 content loadable.wide [] small c held.2

theorem succeeds_loadTables {relations : Relations} (admits : Admits limits relations)
    {entries : List (String × Table)} (known : ∀ entry ∈ entries, entry ∈ relations.entries)
    (loadable : ∀ entry ∈ entries, Loadable entry) (distinct : (entries.map fun entry => fold entry.1).Nodup)
    {content : Content} (part : PartOf relations content) (free : ∀ entry ∈ entries, content entry.1 = none) :
    (entries.forM fun entry => loadTable service entry.1 entry.2).Succeeds (fun c => holds c.1 inTransaction content)
      fun _ c => holds c.1 inTransaction (entries.foldl addTable content) := by
  induction entries generalizing content with
  | nil => exact fun c held => ⟨(), c, rfl, held⟩
  | cons entry entries ih =>
    obtain ⟨here, known⟩ := List.forall_mem_cons.1 known
    obtain ⟨first, loadable⟩ := List.forall_mem_cons.1 loadable
    obtain ⟨freeHere, free⟩ := List.forall_mem_cons.1 free
    rw [List.map_cons, List.nodup_cons] at distinct
    have apart : ∀ other ∈ entries, fold entry.1 ≠ fold other.1 := fun other mem same =>
      distinct.1 (same ▸ List.mem_map_of_mem mem)
    refine (succeeds_loadTable documented admits part here first freeHere).bind fun _ => ?_
    exact ih known loadable distinct.2 (part.addTable here) fun other mem =>
      (addTable_of_ne (apart other mem)).trans (free other mem)

/-- After loading, every table with columns is there under its name. -/
theorem succeeds_load {relations : Relations} (admits : Admits limits relations)
    (loadable : ∀ entry ∈ relations.entries, Loadable entry) (distinct : (relations.keys.map fold).Nodup) :
    (load service relations).Succeeds (fun c => holds c.1 false .empty)
      fun _ c => holds c.1 false (relations.entries.foldl addTable .empty) := by
  rw [Keyed.keys, List.map_map] at distinct
  have nothing : PartOf relations .empty := fun _ _ found => by cases found
  have tables : (relations.entries.forM fun entry => loadTable service entry.1 entry.2).Succeeds
      (fun c => holds c.1 true .empty) fun _ c => holds c.1 true (relations.entries.foldl addTable .empty) :=
    succeeds_loadTables documented admits (fun _ mem => mem) loadable distinct nothing fun _ _ => rfl
  exact documented.startTransaction.bind fun _ => tables.bind fun _ => documented.commit

end Documented

section InMemory

variable {service : Service} {calm : service.State → Prop} (disk : Disk)

theorem keeps_loadTable {name : String} {t : Table}
    (leaves : t.columns ≠ [] → service.LeavesDisk calm (createText name t.columns) ∧
      service.LeavesDisk calm (insertText name t.width)) :
    (loadTable service name t).Keeps (Service.Still calm disk) := by
  unfold loadTable
  split
  · exact Action.keeps_pure ()
  · next filled =>
    obtain ⟨create, insert⟩ := leaves (by simpa using filled)
    exact (create.prepare disk).bind fun _ prepared => (create.execute prepared [] disk).bind fun _ _ =>
      (insert.prepare disk).bind fun _ prepared => .forM fun row _ => insert.execute prepared (row.map ofCell) disk

theorem keeps_load (memory : service.InMemory calm) {relations : Relations}
    (leaves : ∀ text ∈ loadTexts relations, service.LeavesDisk calm text) :
    (load service relations).Keeps (Service.Still calm disk) := by
  refine (memory.startTransaction disk).bind fun _ _ => .bind (.forM fun entry mem => ?_) fun _ _ =>
    memory.commit disk
  refine keeps_loadTable disk fun filled => ?_
  obtain ⟨create, insert⟩ := mem_loadTexts mem filled
  exact ⟨leaves _ create, leaves _ insert⟩

theorem keeps_runStatement {text : String} (leaves : service.LeavesDisk calm text) :
    (runStatement service text).Keeps (Service.Still calm disk) := by
  refine (leaves.prepare disk).bind fun statement prepared => ?_
  dsimp only
  split
  · exact (leaves.executeRaw prepared disk).bind fun _ _ => Action.keeps_pure _
  · exact (leaves.query prepared disk).bind fun _ _ => Action.keeps_pure _

theorem disk_runQuery (memory : service.InMemory calm) {source : String} {relations : Relations}
    (leaves : ∀ text ∈ loadTexts relations ++ statements source, service.LeavesDisk calm text) (m : Machine) :
    (runQuery service source relations m).2.disk = m.disk := by
  have opened := memory.openInMemory m.disk
  unfold runQuery
  rcases connected : service.openInMemory m.disk with ⟨_ | connection, disk⟩
  · rw [connected] at opened
    exact opened
  · have isCalm := memory.calm_of_open (congrArg Prod.fst connected)
    rw [connected] at opened
    have run : (do
        load service relations
        runStatements service (statements source) : service.Call _).Keeps (Service.Still calm m.disk) := by
      refine (keeps_load m.disk memory fun text mem => leaves text (List.mem_append_left _ mem)).bind fun _ _ => ?_
      exact .foldlM (fun _ text mem => keeps_runStatement m.disk (leaves text (List.mem_append_right _ mem))) _
    obtain ⟨stillCalm, same⟩ := run (connection, disk) ⟨isCalm, opened⟩
    exact (memory.close stillCalm _).trans same

end InMemory

end Relational

end SolutionCheck
