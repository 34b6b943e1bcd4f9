import SolutionCheck.Proofs.Keyed
import SolutionCheck.Proofs.Result
import SolutionCheck.Proofs.Service
import SolutionCheck.Proofs.Sorting

/-!
The database that comes along behaves as is documented, and never touches the disk. Names that differ without
regard to case each stand for their own column, so the plan of a selection of all columns takes them in their
order; running it gives the rows as they are stored.
-/

namespace SolutionCheck.Sql

theorem findIdx?_fold {columns : List String} (distinct : (columns.map fold).Nodup) {index : Nat}
    (within : index < columns.length) :
    (columns.findIdx? fun column => fold column == fold columns[index]) = some index := by
  rw [List.findIdx?_eq_some_iff_getElem]
  refine ⟨within, beq_self_eq_true _, fun before earlier same => ?_⟩
  have apart := List.pairwise_iff_getElem.1 distinct before index
    (by rw [List.length_map]; exact earlier.trans within) (by rwa [List.length_map]) earlier
  rw [List.getElem_map, List.getElem_map] at apart
  exact apart (eq_of_beq same)

namespace Plan

def whole (name : String) (columns : List String) : Plan :=
  ⟨columns, (List.range columns.length).map .column, some name, none, false, [], [], false, none⟩

theorem ofItem_asks {columns : List String} (distinct : (columns.map fold).Nodup) {index : Nat}
    (within : index < columns.length) {item : Item} (asks : item.Asks columns[index]) :
    ofItem ⟨columns, [], true⟩ item = .ok [(columns[index], .column index)] := by
  obtain ⟨offset, text, rfl⟩ := asks
  have column : Term.ofName ⟨columns, [], true⟩ columns[index] true offset = .ok (.column index) := by
    rw [Term.ofName, findIdx?_fold distinct within]
  simp [ofItem, Term.ofExpr, column, resultName, within, bind, Except.bind]

theorem ofSelection_selects {name : String} {columns : List String} {selection : Selection}
    (selects : Statement.Selects name columns selection) (distinct : (columns.map fold).Nodup) :
    ofSelection columns selection = .ok (whole name columns) := by
  have resolved : selection.items.mapM (ofItem ⟨columns, [], true⟩) =
      .ok (columns.zipIdx.map fun column => [(column.1, .column column.2)]) := by
    obtain ⟨size, asks⟩ := List.forall₂_iff_get.1 selects.items
    rw [mapM_eq_ok_iff, List.forall₂_iff_get]
    refine ⟨by rw [List.length_map, List.length_zipIdx, size], fun index here there => ?_⟩
    have within : index < columns.length := size ▸ here
    have item := ofItem_asks distinct within (asks index within here)
    simpa using item
  have result : (columns.zipIdx.map fun column => [(column.1, Term.column column.2)]).flatten =
      columns.zipIdx.map fun column => (column.1, .column column.2) := by
    rw [← List.flatMap_def, ← List.map_eq_flatMap]
  have names : (columns.zipIdx.map fun column => (column.1, Term.column column.2)).map Prod.fst = columns := by
    rw [List.map_map]
    exact List.zipIdx_map_fst 0 columns
  have terms : (columns.zipIdx.map fun column => (column.1, Term.column column.2)).map Prod.snd =
      (List.range columns.length).map .column := by
    rw [List.map_map, List.range_eq_range', ← List.zipIdx_map_snd, List.map_map]
    rfl
  have plain : ((List.range columns.length).map Term.column).any Term.hasAggregate = false := by
    simp [Term.hasAggregate]
  rw [selects.plain]
  simp [ofSelection, resolved, result, names, terms, plain, whole, bind, Except.bind, pure, Except.pure]

theorem rowOf_whole (name : String) {columns : List String} {row : List Value} (wide : row.length = columns.length)
    (group : List (List Value)) : rowOf [] (whole name columns) group row = .ok (row, []) := by
  have cells : ((List.range columns.length).map Term.column).mapM (·.evaluate [] group row) = .ok row := by
    rw [mapM_eq_ok_iff, List.forall₂_map_left_iff, List.forall₂_iff_get]
    refine ⟨List.length_range.trans wide.symm, fun index _ within => ?_⟩
    simp [Term.evaluate, within]
  simp [rowOf, whole, cells, bind, Except.bind, pure, Except.pure]

theorem collectRows_whole (name : String) {columns : List String} {rows : List (List Value)}
    (wide : ∀ row ∈ rows, row.length = columns.length) (kept : List (List Value × List Value)) :
    collectRows [] (whole name columns) none kept (rows.map fun row => ([row], row)) =
      .ok (kept ++ rows.map fun row => (row, [])) := by
  induction rows generalizing kept with
  | nil => simp [collectRows]
  | cons row rows ih =>
    obtain ⟨here, others⟩ := List.forall_mem_cons.1 wide
    rw [List.map_cons, List.map_cons, collectRows, rowOf_whole name here]
    have onward := ih others (kept ++ [(row, [])])
    rw [List.append_assoc] at onward
    exact onward

theorem run_whole (name : String) {columns : List String} {rows : List (List Value)}
    (wide : ∀ row ∈ rows, row.length = columns.length) : run [] rows (whole name columns) = .ok rows := by
  have collected := collectRows_whole name wide []
  have unsorted : sortBy (fun a b => orderBy [] a.2 b.2) (rows.map fun row => (row, ([] : List Value))) =
      rows.map fun row => (row, []) := by
    refine sortBy_of_tied (fun a b => ?_) _
    simp [orderBy]
  have first : (rows.map fun row => (row, ([] : List Value))).map Prod.fst = rows := by
    rw [List.map_map]
    exact List.map_id rows
  rw [List.nil_append, whole] at collected
  simp [run, whole, limitOf?, filterRows, groupsOf, collected, unsorted, first, bind, Except.bind, pure, Except.pure]

end Plan

namespace Database

theorem find?_put (db : Database) (name : String) (data : Data) (other : String) :
    (db.put name data).find? other = if fold name = fold other then some data else db.find? other :=
  Keyed.get?_put db.tables (fold name) data (fold other)

theorem table_eq {db : Database} {name : String} {data : Data} (there : db.find? name = some data) :
    db.table name = .ok data := by
  rw [table, there]

theorem prepare_eq {db : Database} {sql : String} {statement : Statement} {prepared : Prepared}
    (read : Statement.read (fun name => (db.find? name).isSome) (Token.tokens sql) = .ok statement)
    (resolved : db.resolve statement = .ok prepared) :
    db.prepare sql = .ok (prepared, Token.parameterCount (Token.tokens sql)) := by
  simp only [prepare, read, resolved, bind, Except.bind, pure, Except.pure]

theorem resolve_marks {db : Database} {name : String} {data : Data} (there : db.find? name = some data) :
    db.resolve (.insert name [(List.range data.columns.length).map .parameter]) =
      .ok (.insert name [(List.range data.columns.length).map .parameter]) := by
  have terms : ((List.range data.columns.length).map Expr.parameter).mapM (Term.ofExpr ⟨[], [], false⟩) =
      .ok ((List.range data.columns.length).map Term.parameter) := by
    rw [mapM_eq_ok_iff, List.forall₂_map_left_iff, List.forall₂_map_right_iff, List.forall₂_same]
    exact fun index _ => rfl
  simp [resolve, planInsert, table_eq there, terms, bind, Except.bind, pure, Except.pure]

theorem run_marks {db : Database} {name : String} {data : Data} (there : db.find? name = some data)
    (row : List Value) :
    db.run row (.insert name [(List.range row.length).map .parameter]) =
      .ok (db.put name { data with rows := data.rows ++ [row] }, none) := by
  have values : ((List.range row.length).map Term.parameter).mapM (·.evaluate row [] []) = .ok row := by
    rw [mapM_eq_ok_iff, List.forall₂_map_left_iff, List.forall₂_iff_get]
    refine ⟨List.length_range, fun index _ within => ?_⟩
    simp [Term.evaluate, within]
  simp [run, table_eq there, values, bind, Except.bind, pure, Except.pure]

theorem resolve_selects {db : Database} {name : String} {data : Data} {selection : Selection}
    (selects : Statement.Selects name data.columns selection) (there : db.find? name = some data)
    (distinct : (data.columns.map fold).Nodup) :
    db.resolve (.select selection) = .ok (.select (.whole name data.columns)) := by
  have source : selection.source = some name := by rw [selects.plain]
  simp [resolve, plan, source, table_eq there, Plan.ofSelection_selects selects distinct, Except.map, bind, Except.bind]

theorem run_select {db : Database} {name : String} {data : Data} (there : db.find? name = some data)
    (wide : ∀ row ∈ data.rows, row.length = data.columns.length) :
    db.run [] (.select (.whole name data.columns)) = .ok (db, some ⟨data.columns, data.rows⟩) := by
  have source : db.sourceRows (.whole name data.columns) = .ok data.rows := by
    simp [sourceRows, Plan.whole, table_eq there, Except.map]
  simp only [run, source, Plan.run_whole name wide, bind, Except.bind, pure, Except.pure]
  rfl

/-- A table that statements have made: its columns are distinct without regard to case, and its rows as wide. -/
structure Proper (data : Data) : Prop where
  filled : data.columns ≠ []
  distinct : (data.columns.map fold).Nodup
  wide : ∀ row ∈ data.rows, row.length = data.columns.length

/-- The tables are those of the database, whether a transaction is open or not. -/
structure Holds (db : Database) (_inTransaction : Bool) (content : Content) : Prop where
  found : ∀ name, db.find? name = content name
  proper : ∀ name data, content name = some data → Proper data

def Means (ready : Ready) : Instruction → Prop
  | .create name columns => ready.statement = .createTable name columns ∧ Proper ⟨columns, []⟩
  | .insert name width => ready.statement = .insert name [(List.range width).map .parameter]
  | .select name columns => ready.statement = .select (.whole name columns) ∧ ready.parameters = 0

theorem Holds.put {db : Database} {inTransaction : Bool} {content : Content} (held : Holds db inTransaction content)
    (name : String) {data : Data} (proper : Proper data) :
    Holds (db.put name data) inTransaction (content.put name data) where
  found other := by rw [find?_put, Content.put, held.found]
  proper other data' there := by
    unfold Content.put at there
    split at there
    · cases there
      exact proper
    · exact held.proper other data' there

theorem Proper.append {data : Data} (proper : Proper data) {row : List Value}
    (wide : row.length = data.columns.length) : Proper (data.append row) where
  filled := proper.filled
  distinct := proper.distinct
  wide other mem := by
    rcases List.mem_append.1 mem with mem | mem
    · exact proper.wide other mem
    · rw [List.mem_singleton.1 mem, List.length_map]
      exact wide

theorem call_of_run {db next : Database} {ready : Ready} {row : List Value} {result : Option Data}
    (run : db.run (row.map Value.stored) ready.statement = .ok (next, result)) (disk : Disk) :
    call ready row (db, disk) = (.ok ((result.map Data.rows).getD []), (next, disk)) := by
  simp only [call, run]

theorem execute_of_run {db next : Database} {ready : Ready} {row : List Value} {result : Option Data}
    (run : db.run (row.map Value.stored) ready.statement = .ok (next, result)) (disk : Disk) :
    service.execute ready row (db, disk) = (.ok (), (next, disk)) :=
  Action.bind_of_ok (call_of_run run disk) _

theorem succeeds_prepare {inTransaction : Bool} {content : Content} {instruction : Instruction} {text : String}
    (shown : (Token.tokens text).map Token.lexeme = instruction.lexemes) (allowed : instruction.Allowed content) :
    (service.prepare text).Succeeds (fun c => Holds c.1 inTransaction content)
      fun ready c => Means ready instruction ∧ Holds c.1 inTransaction content := by
  rintro ⟨db, disk⟩ held
  have prepared {statement : Prepared} {count : Nat} (done : db.prepare text = .ok (statement, count)) :
      service.prepare text (db, disk) = (.ok ⟨text, statement, count⟩, (db, disk)) := by
    simp only [service, done]
  cases allowed with
  | @create name columns free named unreserved filled allNamed distinct =>
    obtain ⟨written, offset, read⟩ := Statement.read_createLexemes shown filled distinct
      fun name => (db.find? name).isSome
    have accepted : Statement.checkNewName (fun name => (db.find? name).isSome) name written offset = .ok () := by
      simp [Statement.checkNewName, unreserved, held.found name, free]
    rw [accepted] at read
    exact ⟨_, _, prepared (prepare_eq read rfl), ⟨rfl, filled, distinct, by simp⟩, held⟩
  | @insert name data there =>
    have wide : data.columns.length ≠ 0 := by simpa using (held.proper name data there).filled
    have read := @Statement.read_insertLexemes (fun name => (db.find? name).isSome) _ _ _ shown wide
    exact ⟨_, _, prepared (prepare_eq read (resolve_marks ((held.found name).trans there))), rfl, held⟩
  | @select name data there =>
    have proper := held.proper name data there
    obtain ⟨selection, read, selects⟩ := Statement.read_selectLexemes shown proper.filled
    have unasked : Token.parameterCount (Token.tokens text) = 0 := Token.parameterCount_eq_zero fun index => by
      rw [shown]
      exact Relational.unmarked_selectLexemes name data.columns index
    have resolved := resolve_selects selects ((held.found name).trans there) proper.distinct
    exact ⟨_, _, prepared (prepare_eq read resolved), ⟨rfl, unasked⟩, held⟩

theorem documented : service.Documented .unlimited Holds Means where
  openInMemory disk _ := ⟨_, _, rfl, fun _ => rfl, fun _ _ there => by cases there⟩
  startTransaction c held := ⟨_, _, rfl, held.found, held.proper⟩
  commit c held := ⟨_, _, rfl, held.found, held.proper⟩
  prepare _ _ _ _ shown allowed _ := succeeds_prepare shown allowed
  create inTransaction content statement name columns meant free small c held := by
    obtain ⟨made, proper⟩ := meant
    have run : c.1.run [] statement.statement = .ok (c.1.put name ⟨columns, []⟩, none) := by rw [made]; rfl
    exact ⟨_, _, execute_of_run run c.2, held.put name proper⟩
  insert inTransaction content statement name data row meant there wide small c held := by
    have run := run_marks ((held.found name).trans there) (row.map Value.stored)
    rw [List.length_map, wide, ← meant] at run
    exact ⟨_, _, execute_of_run run c.2, held.put name ((held.proper name data there).append wide)⟩
  columnNames meant := by
    simp only [service, meant.1]
    rfl
  query inTransaction content statement name data meant there c held := by
    obtain ⟨selects, unasked⟩ := meant
    have run := run_select ((held.found name).trans there) (held.proper name data there).wide
    have asked : service.query statement = call statement [] := if_pos unasked
    rw [← selects] at run
    exact ⟨_, _, (congrFun asked c).trans (call_of_run run c.2), rfl, held⟩

theorem inMemory : service.InMemory fun _ => True where
  openInMemory _ := rfl
  calm_of_open _ := trivial
  close _ _ := rfl
  startTransaction _ _ := id
  commit _ _ := id

theorem keeps_call (ready : Ready) (row : List Value) (disk : Disk) :
    (call ready row).Keeps (@Service.Still service (fun _ => True) disk) := by
  rintro ⟨db, _⟩ ⟨-, same⟩
  cases run : db.run (row.map Value.stored) ready.statement <;> simp only [call, run] <;> exact ⟨trivial, same⟩

theorem leavesDisk (text : String) : service.LeavesDisk (fun _ => True) text where
  prepare disk c still := by
    simp only [service]
    split <;> exact still
  execute _ row disk := (keeps_call _ row disk).bind fun _ _ => Action.keeps_pure ()
  executeRaw _ disk := (keeps_call _ [] disk).bind fun _ _ => Action.keeps_pure ()
  query {ready} _ disk := by
    by_cases unasked : Ready.parameters ready = 0
    · have asked : service.query ready = call ready [] := if_pos unasked
      exact asked ▸ keeps_call ready [] disk
    · have refused : service.query ready = _ := if_neg unasked
      exact refused ▸ fun _ => id

end Database

end SolutionCheck.Sql
