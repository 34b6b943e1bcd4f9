import SolutionCheck.Proofs.Delivery
import SolutionCheck.Proofs.RowOrder

/-!
The part that the order of records plays in a verdict. The first record gives the columns their order,
and only an answer with the columns of the expected one is accepted. Apart from the keys of the first
record, nothing depends on the order of records that have the same keys and do not tie under the key
column.
-/

namespace SolutionCheck

open Table Comparison

theorem matches_iff_of_rearranges [Sorting] (expected : Table) {actual actual' : Table}
    (rearranged : actual'.Rearranges actual)
    (untied : ∀ key ∈ expected.columns.head?, NoTies (actual.cellsUnder key)) :
    Matches expected actual' ↔ Matches expected actual := by
  have itself := Rearranges.refl expected
  have same (key : String) (comparable : ComparableOn key expected actual) :
      compareTables expected actual' = compareTables expected actual := by
    obtain ⟨index, place⟩ := Option.isSome_iff_exists.1 comparable.present
    rw [(comparable.of_rearranges itself rearranged).compareTables_eq, comparable.compareTables_eq,
      arrangedOn_eq_of_rearranges rearranged place comparable.actualKind (untied key comparable.head)]
  constructor
  · intro matched
    obtain ⟨key, comparable⟩ := exists_comparable_of_matches matched
    rwa [Matches, ← same key (comparable.of_rearranges itself rearranged.symm)]
  · intro matched
    obtain ⟨key, comparable⟩ := exists_comparable_of_matches matched
    rwa [Matches, same key comparable]

theorem Table.ofRecords_rearranges (columns : List String) {records others : List Record}
    (perm : others.Perm records) : (ofRecords columns others).Rearranges (ofRecords columns records) :=
  ⟨rfl, perm.map _⟩

theorem Table.cellsUnder_ofRecords {columns : List String} {key : String} (mem : key ∈ columns)
    (records : List Record) :
    (ofRecords columns records).cellsUnder key =
      records.map fun record => (record.get? key).getD .null := by
  obtain ⟨index, place⟩ : ∃ index, (ofRecords columns records).columnIndex? key = some index := by
    rw [← Option.isSome_iff_exists, columnIndex?, List.findIdx?_isSome, List.any_eq_true]
    exact ⟨key, mem, beq_self_eq_true key⟩
  obtain ⟨inside, found, -⟩ := List.findIdx?_eq_some_iff_getElem.1 place
  have short : index < columns.length := inside
  have here : columns[index] = key := eq_of_beq found
  have shown (f : String → Cell) : cellAt (columns.map f) index = f key := by
    simp [cellAt, short, here]
  rw [cellsUnder_eq place, ofRecords, List.map_map]
  exact List.map_congr_left fun record _ => shown _

theorem NoTies.cellsUnder_ofRecords {columns : List String} {key : String} {records : List Record}
    (untied : NoTies (records.filterMap (·.get? key))) (mem : key ∈ columns)
    (held : ∀ record ∈ records, key ∈ record.keys) :
    NoTies ((ofRecords columns records).cellsUnder key) := by
  have cells : records.filterMap (·.get? key) =
      records.map fun record => (record.get? key).getD .null := by
    rw [← List.filterMap_eq_map]
    exact List.filterMap_congr fun record within =>
      (Keyed.some_getD_get? (held record within) .null).symm
  rwa [Table.cellsUnder_ofRecords mem, ← cells]

section

variable [Sorting]

theorem checkEquals_records_iff (e : Answer) {records others : List Record}
    (same : ∀ r ∈ records, ∀ s ∈ records, r.SameKeys s) (perm : others.Perm records)
    (untied : ∀ key ∈ e.toTable.columns.head?, NoTies (records.filterMap (·.get? key))) :
    checkEquals e (.records others) = .ok () ↔
      others.head?.map Keyed.keys = some e.toTable.columns ∧
        checkEquals e (.table (ofRecords e.toTable.columns records)) = .ok () := by
  cases others with
  | nil =>
    refine iff_of_false (fun accepted => ?_) (by simp)
    obtain ⟨key, head, -⟩ := (columns_of_accepted accepted).2.orderable
    cases head
  | cons first rest =>
    have keys (record : Record) (mem : record ∈ records) : record.SameKeys first :=
      same record mem first (perm.mem_iff.1 List.mem_cons_self)
    have columns : Answer.allKeys (first :: rest) = first.keys :=
      Answer.allKeys_cons fun record mem key inside =>
        (keys record (perm.mem_iff.1 (List.mem_cons_of_mem first mem)) key).1 inside
    have table : (Answer.records (first :: rest)).toTable = ofRecords first.keys (first :: rest) := by
      rw [Answer.toTable, columns]
    have verdict (known : first.keys = e.toTable.columns) :
        checkEquals e (.records (first :: rest)) = .ok () ↔
          checkEquals e (.table (ofRecords e.toTable.columns records)) = .ok () := by
      have blind := matches_iff_of_rearranges e.toTable
        (ofRecords_rearranges e.toTable.columns perm) fun key head => by
          have mem : key ∈ e.toTable.columns := List.mem_of_head? head
          exact (untied key head).cellsUnder_ofRecords mem fun record within =>
            (keys record within key).2 (known ▸ mem)
      rw [checkEquals_eq_ok_iff, checkEquals_eq_ok_iff, table, known, blind]
      rfl
    constructor
    · intro accepted
      have known : first.keys = e.toTable.columns := by
        rw [(columns_of_accepted accepted).1, table]
        rfl
      exact ⟨congrArg some known, (verdict known).1 accepted⟩
    · rintro ⟨known, accepted⟩
      exact (verdict (Option.some.inj known)).2 accepted

/-- The order of records is seen by the keys of the first one alone: they must be the columns of the
expected answer, and what else decides the verdict is blind to it. -/
theorem checkEquals_recordOrder (e : Answer) (records others : List Record)
    (same : ∀ r ∈ records, ∀ s ∈ records, r.SameKeys s) (perm : others.Perm records)
    (untied : ∀ key ∈ e.toTable.columns.head?, NoTies (records.filterMap (·.get? key))) :
    (others.head?.map Keyed.keys = records.head?.map Keyed.keys →
      (checkEquals e (.records others) = .ok () ↔ checkEquals e (.records records) = .ok ())) ∧
    (others.head?.map Keyed.keys ≠ records.head?.map Keyed.keys →
      ¬ (checkEquals e (.records others) = .ok () ∧ checkEquals e (.records records) = .ok ())) ∧
    (checkEquals e (.records others) = .ok () ↔
      others.head?.map Keyed.keys = some e.toTable.columns ∧
        checkEquals e (.table (ofRecords e.toTable.columns records)) = .ok ()) := by
  have turned := checkEquals_records_iff e same perm untied
  have given := checkEquals_records_iff e same (List.Perm.refl records) untied
  refine ⟨fun alike => ?_, fun differ both => differ ?_, turned⟩
  · rw [turned, given, alike]
  · exact (turned.1 both.1).1.trans (given.1 both.2).1.symm

end

theorem checkEquals_recordOrder_of_people :
    letI := Sorting.guarded
    let ann : Record := .ofList [("name", .text "ann"), ("age", .int 3)]
    let bob : Record := .ofList [("age", .null), ("name", .text "bob")]
    let eve : Record := .ofList [("name", .text "eve"), ("age", .float (.nan true))]
    let e : Answer := .table ⟨["name", "age"], [[.text "eve", .float (.nan false)],
      [.text "bob", .null], [.text "ann", .int 3]]⟩
    (∀ r ∈ [ann, bob, eve], ∀ s ∈ [ann, bob, eve], r.SameKeys s) ∧
      checkEquals e (.records [ann, bob, eve]) = .ok () ∧
      checkEquals e (.records [eve, ann, bob]) = .ok () ∧
      checkEquals e (.records [bob, ann, eve]) ≠ .ok () := by
  let _ := Sorting.guarded
  intro ann bob eve e
  have same : ∀ r ∈ [ann, bob, eve], ∀ s ∈ [ann, bob, eve], r.SameKeys s := by decide
  have untied : ∀ key ∈ e.toTable.columns.head?, NoTies ([ann, bob, eve].filterMap (·.get? key)) := by
    decide
  have accepted : checkEquals e (.records [ann, bob, eve]) = .ok () :=
    (checkEquals_eq_ok_iff _ _).2 (by decide +kernel)
  have turned := checkEquals_recordOrder e [ann, bob, eve] [eve, ann, bob] same (by decide) untied
  have other := checkEquals_recordOrder e [ann, bob, eve] [bob, ann, eve] same (by decide) untied
  exact ⟨same, accepted, (turned.1 (by decide)).2 accepted,
    fun taken => other.2.1 (by decide) ⟨taken, accepted⟩⟩

/-- Records that are accepted in one order are rejected in another which puts a record with its keys
turned round first. -/
theorem checkEquals_sees_first_record :
    letI := Sorting.guarded
    let first : Record := .ofList [("a", .int 1), ("b", .int 2)]
    let e : Answer := .records [first, .ofList [("a", .int 3), ("b", .int 4)]]
    let records : List Record := [first, .ofList [("b", .int 4), ("a", .int 3)]]
    (∀ r ∈ records, ∀ s ∈ records, r.SameKeys s) ∧ records.reverse.Perm records ∧
      (∀ key ∈ e.toTable.columns.head?, NoTies (records.filterMap (·.get? key))) ∧
      checkEquals e (.records records) = .ok () ∧ checkEquals e (.records records.reverse) ≠ .ok () := by
  let _ := Sorting.guarded
  intro first e records
  exact ⟨by decide, records.reverse_perm, by decide, (checkEquals_eq_ok_iff _ _).2 (by decide +kernel),
    (checkEquals_eq_ok_iff _ _).not.2 (by decide +kernel)⟩

end SolutionCheck
