import SolutionCheck.Proofs.Indexing
import SolutionCheck.Proofs.Keyed

/-!
Tables under operations. A table is built anew from columns, rows, records or one column, rows are pushed
onto it, and it is sorted. Every table that is reached has rows as wide as its list of columns, because
each operation keeps that: one that offers a row of another width is rejected with the width of the first
such row and changes nothing. So no reader of a reached table takes anything from a place that is not there.
-/

namespace SolutionCheck

namespace Table

inductive Operation where
  | create (columns : List String)
  | build (columns : List String) (rows : List Row)
  | single (name : String) (values : List Cell)
  | gather (columns : List String) (records : List Record)
  | push (row : Row)
  | sort (order : Row → Row → Ordering)

namespace Operation

/-- What an operation answers on a table, and the table after it. A sort whose comparison is no order
leaves the rows in some order; otherwise it is the stable sort. -/
inductive Step (t : Table) : Operation → Option WidthFault → Table → Prop
  | create (columns : List String) : Step t (.create columns) none (ofColumns columns)
  | built {columns : List String} {rows : List Row} {u : Table} (done : ofRows columns rows = .ok u) :
    Step t (.build columns rows) none u
  | notBuilt {columns : List String} {rows : List Row} {fault : WidthFault}
    (rejected : ofRows columns rows = .error fault) : Step t (.build columns rows) (some fault) t
  | single (name : String) (values : List Cell) : Step t (.single name values) none (ofColumn name values)
  | gather (columns : List String) (records : List Record) :
    Step t (.gather columns records) none (ofRecords columns records)
  | pushed {row : Row} {u : Table} (done : t.push row = .ok u) : Step t (.push row) none u
  | notPushed {row : Row} {fault : WidthFault} (rejected : t.push row = .error fault) :
    Step t (.push row) (some fault) t
  | sorted {order : Row → Row → Ordering} {u : Table} (arranged : u.Rearranges t)
    (stable : TotalPreorderOn order (· ∈ t.rows) → u = { t with rows := sortBy order t.rows }) :
    Step t (.sort order) none u

def offered : Operation → List Row
  | build _ rows => rows
  | push row => [row]
  | _ => []

def wanted (t : Table) : Operation → Nat
  | build columns _ => columns.length
  | _ => t.columns.length

end Operation

inductive Reaches : List Operation → Table → Prop
  | start : Reaches [] ⟨[], []⟩
  | next {operations : List Operation} {t u : Table} {op : Operation} {answer : Option WidthFault}
    (reached : Reaches operations t) (step : op.Step t answer u) : Reaches (operations ++ [op]) u

def FirstMisfit (wanted : Nat) (rows : List Row) (fault : WidthFault) : Prop :=
  ∃ before row after, rows = before ++ row :: after ∧ (∀ other ∈ before, other.length = wanted) ∧
    row.length ≠ wanted ∧ fault = ⟨row.length, wanted⟩

theorem ofRows_eq_error_iff {columns : List String} {rows : List Row} {fault : WidthFault} :
    ofRows columns rows = .error fault ↔ FirstMisfit columns.length rows fault := by
  unfold ofRows
  constructor
  · intro rejected
    split at rejected
    · next row found =>
      cases rejected
      obtain ⟨misfit, before, after, split, fits⟩ := List.find?_eq_some_iff_append.1 found
      exact ⟨before, row, after, split, by simpa using fits, by simpa using misfit, rfl⟩
    · cases rejected
  · rintro ⟨before, row, after, rfl, fits, misfit, rfl⟩
    have found : (before ++ row :: after).find? (fun row => row.length ≠ columns.length) = some row :=
      List.find?_eq_some_iff_append.2 ⟨by simpa using misfit, before, after, rfl, by simpa using fits⟩
    simp only [found]

theorem ofRows_eq_ok_iff {columns : List String} {rows : List Row} {u : Table} :
    ofRows columns rows = .ok u ↔ u = ⟨columns, rows⟩ ∧ ∀ row ∈ rows, row.length = columns.length := by
  unfold ofRows
  split
  · next row found =>
    have misfit := List.find?_some found
    simp only [reduceCtorEq, false_iff, not_and]
    intro _ fits
    simp [fits row (List.mem_of_find?_eq_some found)] at misfit
  · next fits =>
    constructor
    · intro done
      cases done
      exact ⟨rfl, fun row mem => by simpa using List.find?_eq_none.1 fits row mem⟩
    · rintro ⟨rfl, -⟩
      rfl

theorem push_eq (t : Table) (row : Row) :
    t.push row = (ofRows t.columns [row]).map fun u => ⟨t.columns, t.rows ++ u.rows⟩ := by
  by_cases fits : row.length = t.columns.length <;> simp [push, ofRows, width, fits, Except.map]

theorem push_eq_error_iff {t : Table} {row : Row} {fault : WidthFault} :
    t.push row = .error fault ↔ FirstMisfit t.columns.length [row] fault := by
  rw [← ofRows_eq_error_iff, push_eq]
  cases ofRows t.columns [row] <;> simp [Except.map]

namespace Operation

variable {t u : Table} {op : Operation} {answer : Option WidthFault}

theorem Step.wellFormed (step : op.Step t answer u) (wide : t.WellFormed) : u.WellFormed := by
  cases step with
  | create columns => exact fun _ mem => absurd mem List.not_mem_nil
  | built done => exact ofRows_wellFormed done
  | notBuilt => exact wide
  | single name values => exact ofColumn_wellFormed name values
  | gather columns records => exact ofRecords_wellFormed columns records
  | pushed done => exact push_wellFormed wide done
  | notPushed => exact wide
  | sorted arranged => exact arranged.wellFormed wide

theorem step_rejected_iff {fault : WidthFault} :
    op.Step t (some fault) u ↔ u = t ∧ FirstMisfit (op.wanted t) op.offered fault := by
  have none (wanted : Nat) : ¬ FirstMisfit wanted [] fault := by
    rintro ⟨before, row, after, split, -⟩
    simp at split
  constructor
  · intro step
    cases step with
    | notBuilt rejected => exact ⟨rfl, ofRows_eq_error_iff.1 rejected⟩
    | notPushed rejected => exact ⟨rfl, push_eq_error_iff.1 rejected⟩
  · rintro ⟨rfl, misfit⟩
    cases op with
    | build columns rows => exact .notBuilt (ofRows_eq_error_iff.2 misfit)
    | push row => exact .notPushed (push_eq_error_iff.2 misfit)
    | _ => exact absurd misfit (none _)

theorem exists_step (op : Operation) (t : Table) : ∃ answer u, op.Step t answer u := by
  cases op with
  | create columns => exact ⟨_, _, .create columns⟩
  | build columns rows =>
    cases built : ofRows columns rows with
    | ok u => exact ⟨_, _, .built built⟩
    | error fault => exact ⟨_, _, .notBuilt built⟩
  | single name values => exact ⟨_, _, .single name values⟩
  | gather columns records => exact ⟨_, _, .gather columns records⟩
  | push row =>
    cases pushed : t.push row with
    | ok u => exact ⟨_, _, .pushed pushed⟩
    | error fault => exact ⟨_, _, .notPushed pushed⟩
  | sort order =>
    exact ⟨none, { t with rows := sortBy order t.rows }, .sorted ⟨rfl, sortBy_perm order t.rows⟩ fun _ => rfl⟩

theorem step_sortRows [Sorting] {order : Row → Row → Ordering} (sorted : t.sortRows order = some u) :
    (Operation.sort order).Step t none u := by
  obtain ⟨rows, found, rfl⟩ := Option.map_eq_some_iff.1 sorted
  refine .sorted ⟨rfl, Sorting.sort_perm found⟩ fun preorder => ?_
  rw [Sorting.sort_of_preorder preorder] at found
  rw [Option.some.inj found]

theorem step_accepted_iff : (∃ u, op.Step t none u) ↔ ∀ row ∈ op.offered, row.length = op.wanted t := by
  constructor
  · rintro ⟨u, step⟩
    cases step with
    | built done => exact (ofRows_eq_ok_iff.1 done).2
    | pushed done =>
      obtain ⟨u, built, -⟩ := map_eq_ok (push_eq t _ ▸ done)
      exact (ofRows_eq_ok_iff.1 built).2
    | _ => exact fun _ mem => absurd mem List.not_mem_nil
  · intro fits
    obtain ⟨answer, u, step⟩ := exists_step op t
    cases answer with
    | none => exact ⟨u, step⟩
    | some fault =>
      obtain ⟨before, row, after, split, -, misfit, -⟩ := (step_rejected_iff.1 step).2
      exact absurd (fits row (by simp [split])) misfit

end Operation

theorem Reaches.wellFormed {operations : List Operation} {t : Table} (reached : Reaches operations t) :
    t.WellFormed := by
  induction reached with
  | start => exact fun _ mem => absurd mem List.not_mem_nil
  | next _ step wide => exact step.wellFormed wide

/-- The strict readers of the table report nothing and give what the library gives, whatever rows a sort
compares, and a record has all columns. -/
structure Readable (t : Table) : Prop where
  column : ∀ name, Strict.column? t name = .ok (t.column? name)
  record : ∀ index, ((t.record? index).isSome ↔ index < t.size) ∧
    ∀ record, t.record? index = some record → ∀ name, name ∈ record.keys ↔ name ∈ t.columns
  schema : Strict.schema t = .ok (.ofTable t)
  drawing : Strict.draw t = .ok t.draw
  order : ∀ name index, t.columnIndex? name = some index → ∀ a ∈ t.rows, ∀ b ∈ t.rows,
    Strict.orderRows index a b = .ok (Comparison.orderRows index a b)

theorem mem_keys_record_iff {t : Table} (wide : t.WellFormed) {index : Nat} {record : Record}
    (found : t.record? index = some record) (name : String) : name ∈ record.keys ↔ name ∈ t.columns := by
  obtain ⟨row, place, rfl⟩ := Option.map_eq_some_iff.1 found
  have width : row.length = t.columns.length := wide row (List.mem_of_getElem? place)
  rw [toRecord, Keyed.mem_keys_ofList, List.map_fst_zip (Nat.le_of_eq width.symm)]

theorem WellFormed.readable {t : Table} (wide : t.WellFormed) : t.Readable where
  column name := (Strict.column?_eq_ok_iff t name).2 fun _ place _ mem => Strict.index_lt wide place mem
  record index := ⟨by simp [record?, size], fun _ found => mem_keys_record_iff wide found⟩
  schema := (Strict.schema_eq_ok_iff t).2 fun row mem => Nat.le_of_eq (wide row mem).symm
  drawing := by rw [Strict.draw_eq, if_pos fun row mem => Nat.le_of_eq (wide row mem)]
  order _ _ place _ ha _ hb := Strict.orderRows_of_wellFormed wide place ha hb

/-- Whatever operations have led to a table, its rows are as wide as its list of columns. An operation is
accepted just where the rows it offers are as wide as wanted; rejected, it tells the first width that is
not and changes nothing. Sorting a table that is reached leads to one, unless it panics. All that reads the
table, and a comparison with another, finds what it takes. -/
theorem reached_readable [Sorting] {operations : List Operation} {t : Table} (reached : Reaches operations t) :
    t.WellFormed ∧
    (∀ op : Operation,
      ((∃ u, op.Step t none u) ↔ ∀ row ∈ op.offered, row.length = op.wanted t) ∧
      ∀ fault u, op.Step t (some fault) u ↔ u = t ∧ FirstMisfit (op.wanted t) op.offered fault) ∧
    (∀ order u, t.sortRows order = some u → Reaches (operations ++ [.sort order]) u) ∧
    t.Readable ∧
    ∀ others u, Reaches others u → Strict.compareTables t u = .ok (compareTables t u) :=
  have wide := reached.wellFormed
  ⟨wide, fun _ => ⟨Operation.step_accepted_iff, fun _ _ => Operation.step_rejected_iff⟩,
    fun _ _ sorted => .next reached (Operation.step_sortRows sorted), wide.readable,
    fun _ _ other => Strict.compareTables_of_wellFormed wide other.wellFormed⟩

theorem reached_readable_of_people :
    letI := Sorting.guarded
    let order := Comparison.orderRows 0
    let operations : List Operation := [.create ["name", "age"], .push [.text "eve", .int 30],
      .push [.text "bob"], .push [.text "ann", .null], .sort order]
    let t : Table := ⟨["name", "age"], [[.text "ann", .null], [.text "eve", .int 30]]⟩
    Reaches operations t ∧ t.WellFormed ∧
    (Operation.build ["name"] [[.null], [], [.null, .null]]).Step t (some ⟨0, 1⟩) t ∧
    Strict.column? t "age" = .ok (some [.null, .int 30]) ∧ Strict.draw t = .ok t.draw ∧
    Strict.compareTables t t = .ok (compareTables t t) := by
  let _ := Sorting.guarded
  intro order operations t
  have unsorted : Reaches (operations.take 4) ⟨["name", "age"], [[.text "eve", .int 30], [.text "ann", .null]]⟩ :=
    .next (.next (.next (.next .start (.create _)) (.pushed rfl)) (.notPushed rfl)) (.pushed rfl)
  have reached : Reaches operations t :=
    .next unsorted (.sorted ⟨rfl, List.Perm.swap _ _ _⟩ fun _ => by decide)
  obtain ⟨wide, accepted, -, readable, compared⟩ := reached_readable reached
  have misfit : FirstMisfit 1 [[.null], [], [.null, .null]] ⟨0, 1⟩ :=
    ⟨[[.null]], [], [[.null, .null]], rfl, by simp, by simp, rfl⟩
  exact ⟨reached, wide, ((accepted _).2 _ _).2 ⟨rfl, misfit⟩, readable.column "age", readable.drawing,
    compared _ _ reached⟩

end Table

end SolutionCheck
