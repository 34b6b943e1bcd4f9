import Mathlib.Tactic.Tauto
import SolutionCheck.Sample
import SolutionCheck.Proofs.Keyed
import SolutionCheck.Proofs.Result
import SolutionCheck.Proofs.Sorting

/-!
Sample input made into tables. It fails only on a record whose keys are not those of the first record
of its relation, and names the first such record. Otherwise every record becomes a row that holds all
of its values, each under its key. In both cases the order of keys in the records leaves no trace.
-/

namespace SolutionCheck

theorem textOrder_totalPreorderOn :
    TotalPreorderOn (compare : String → String → Ordering) fun _ => True where
  swap _ _ _ _ := Std.OrientedOrd.eq_swap
  trans a b c _ _ _ ab bc := by
    rw [ne_eq, ← Ordering.isLE_iff_ne_gt] at *
    exact Std.TransCmp.isLE_trans ab bc

theorem lt_of_textOrder {a b : String} (le : compare a b ≠ .gt) (apart : a ≠ b) : a < b := by
  have order : compare a b = compareOfLessAndEq a b := rfl
  rw [order, compareOfLessAndEq, if_neg apart] at le
  split at le
  · assumption
  · exact absurd rfl le

theorem sortTexts_perm (texts : List String) : (sortTexts texts).Perm texts := sortBy_perm compare texts

theorem sortTexts_ascending {texts : List String} (distinct : texts.Nodup) :
    (sortTexts texts).Pairwise (· < ·) := by
  have ascending : (sortTexts texts).Pairwise fun a b => compare a b ≠ .gt :=
    sortBy_ascending textOrder_totalPreorderOn fun _ _ => trivial
  have apart : (sortTexts texts).Pairwise (· ≠ ·) := (sortTexts_perm texts).nodup_iff.2 distinct
  exact (ascending.and apart).imp fun both => lt_of_textOrder both.1 both.2

theorem sortTexts_eq_iff (texts others : List String) :
    sortTexts texts = sortTexts others ↔ texts.Perm others := by
  constructor
  · intro same
    exact (sortTexts_perm texts).symm.trans (same ▸ sortTexts_perm others)
  · intro perm
    exact sortBy_eq_of_perm textOrder_totalPreorderOn (fun _ _ => trivial) perm
      fun _ _ _ _ level => Std.compare_eq_iff_eq.1 level

namespace Sample

def Uniform (records : List Record) : Prop :=
  ∀ first ∈ records.head?, ∀ record ∈ records, record.SameKeys first

/-- The fault is at the first record of the sample that breaks the uniformity of its relation. -/
def FirstFault (sample : Sample) (fault : SampleFault) : Prop :=
  ∃ before relation records after good record rest,
    sample.entries = before ++ (relation, records) :: after ∧ (∀ entry ∈ before, Uniform entry.2) ∧
    records = good ++ record :: rest ∧ Uniform good ∧ ¬ Uniform (good ++ [record]) ∧
    fault = ⟨relation, good.length, sortTexts record.keys, columnsOf records⟩

/-- A table with the keys of the records as its columns and their values as its cells, none of which
is made up. -/
structure Tabulates (records : List Record) (t : Table) : Prop where
  ascending : t.columns.Pairwise (· < ·)
  columns : ∀ key, key ∈ t.columns ↔ ∃ first ∈ records.head?, key ∈ first.keys
  rows : List.Forall₂ (fun record row => row.map some = t.columns.map record.get?) records t.rows

/-- Records with the same entries one by one, in whatever order the entries of each stand. -/
def Reordered (records others : List Record) : Prop :=
  List.Forall₂ (fun r s => r.entries.Perm s.entries) records others

def SameUpToKeyOrder (sample other : Sample) : Prop :=
  List.Forall₂ (fun a b => a.1 = b.1 ∧ Reordered a.2 b.2) sample.entries other.entries

theorem columnsOf_cons (first : Record) (rest : List Record) :
    columnsOf (first :: rest) = sortTexts first.keys := rfl

theorem fits_iff (first record : Record) :
    fits (sortTexts first.keys) record = true ↔ record.SameKeys first := by
  have size : (sortTexts first.keys).length = first.keys.length := (sortTexts_perm _).length_eq
  have columns (key : String) : key ∈ sortTexts first.keys ↔ key ∈ first.keys :=
    (sortTexts_perm _).mem_iff
  have width : record.size = record.keys.length := (List.length_map _).symm
  rw [fits, Bool.and_eq_true, beq_iff_eq, List.all_eq_true, size, width]
  simp only [columns, Keyed.contains, List.contains_iff_mem]
  constructor
  · rintro ⟨long, inside⟩
    have within := first.nodup.subperm inside
    exact (Keyed.sameKeys_iff_perm _ _).2 (within.perm_of_length_le (Nat.le_of_eq long)).symm
  · intro same
    exact ⟨((Keyed.sameKeys_iff_perm _ _).1 same).length_eq, fun key => (same key).2⟩

theorem uniform_iff (first : Record) (rest : List Record) :
    Uniform (first :: rest) ↔
      ∀ record ∈ first :: rest, fits (columnsOf (first :: rest)) record = true := by
  simp [Uniform, columnsOf_cons, fits_iff]

theorem fault?_eq_some_iff (relation : String) (records : List Record) (fault : SampleFault) :
    fault? relation records = some fault ↔ ∃ good record rest, records = good ++ record :: rest ∧
      Uniform good ∧ ¬ Uniform (good ++ [record]) ∧
      fault = ⟨relation, good.length, sortTexts record.keys, columnsOf records⟩ := by
  refine (findSome?_zipIdx_ite_eq_some_iff (fits (columnsOf records))
    (fun record row => ⟨relation, row, sortTexts record.keys, columnsOf records⟩)
    records 0 fault).trans ?_
  refine exists_congr fun good => exists_congr fun record => exists_congr fun rest => ?_
  rw [Nat.zero_add]
  refine and_congr_right fun parts => ?_
  subst parts
  cases good with
  | nil => simp [uniform_iff, columnsOf_cons, fits_iff, Keyed.SameKeys]
  | cons first good =>
    have head : columnsOf (first :: good ++ record :: rest) = sortTexts first.keys := rfl
    have both : Uniform (first :: good ++ [record]) ↔
        Uniform (first :: good) ∧ fits (sortTexts first.keys) record = true := by
      simp [uniform_iff, columnsOf_cons, or_imp, forall_and, and_assoc]
    rw [both, head, ← columnsOf_cons first good, ← uniform_iff, columnsOf_cons]
    tauto

theorem fault?_eq_none_iff (relation : String) (records : List Record) :
    fault? relation records = none ↔ Uniform records := by
  cases records with
  | nil => simp [fault?, Uniform]
  | cons first rest =>
    rw [uniform_iff, ← forall_mem_zipIdx_iff _ _ 0, fault?, List.findSome?_eq_none_iff]
    refine forall₂_congr fun entry _ => ?_
    simp only [ite_eq_left_iff, reduceCtorEq, imp_false, not_not]

theorem tableOf_tabulates {records : List Record} (uniform : Uniform records) :
    Tabulates records (tableOf records) := by
  cases records with
  | nil => exact ⟨List.Pairwise.nil, by simp [tableOf, Table.ofRecords, columnsOf, sortTexts, sortBy],
      List.Forall₂.nil⟩
  | cons first rest =>
    have columns : (tableOf (first :: rest)).columns = sortTexts first.keys := rfl
    refine ⟨columns ▸ sortTexts_ascending first.nodup, fun key => ?_, ?_⟩
    · rw [columns, (sortTexts_perm first.keys).mem_iff]
      simp
    · rw [tableOf, Table.ofRecords, List.forall₂_map_right_iff, List.forall₂_same]
      intro record mem
      rw [List.map_map]
      refine List.map_congr_left fun key within => ?_
      have present : key ∈ record.keys :=
        (uniform first rfl record mem key).2 ((sortTexts_perm first.keys).mem_iff.1 within)
      exact Keyed.some_getD_get? present .null

theorem sorted_keys_eq {r s : Record} (perm : r.entries.Perm s.entries) :
    sortTexts r.keys = sortTexts s.keys :=
  (sortTexts_eq_iff _ _).2 (perm.map Prod.fst)

theorem fits_eq {r s : Record} (perm : r.entries.Perm s.entries) (columns : List String) :
    fits columns r = fits columns s := by
  have size : r.size = s.size := perm.length_eq
  have contains : r.contains = s.contains := by
    funext key
    rw [Bool.eq_iff_iff, Keyed.contains, Keyed.contains, List.contains_iff_mem, List.contains_iff_mem]
    exact (perm.map Prod.fst).mem_iff
  rw [fits, fits, size, contains]

theorem Reordered.columnsOf_eq {records others : List Record} (same : Reordered records others) :
    columnsOf records = columnsOf others := by
  cases same with
  | nil => rfl
  | cons head _ => exact sorted_keys_eq head

theorem Reordered.fault?_eq {records others : List Record} (same : Reordered records others)
    (relation : String) : fault? relation records = fault? relation others := by
  unfold fault?
  rw [same.columnsOf_eq]
  refine findSome?_zipIdx_congr (fun r s row perm => ?_) same 0
  dsimp only
  rw [fits_eq perm, sorted_keys_eq perm]

theorem Reordered.tableOf_eq {records others : List Record} (same : Reordered records others) :
    tableOf records = tableOf others := by
  unfold tableOf Table.ofRecords
  rw [same.columnsOf_eq]
  congr 1
  rw [← forall₂_iff_map_eq]
  exact same.imp fun r s perm => by rw [Keyed.get?_eq_of_perm perm]

def firstFault? (sample : Sample) : Option SampleFault :=
  sample.entries.findSome? fun entry => fault? entry.1 entry.2

theorem materialize_eq_elim (sample : Sample) :
    sample.materialize = sample.firstFault?.elim (.ok (sample.mapValues tableOf)) .error := by
  unfold materialize
  split
  · next fault found =>
    have first : sample.firstFault? = some fault := found
    rw [first, Option.elim_some]
  · next found =>
    have first : sample.firstFault? = none := found
    rw [first, Option.elim_none]

theorem materialize_eq_ok_iff (sample : Sample) (relations : Relations) :
    sample.materialize = .ok relations ↔
      (∀ entry ∈ sample.entries, Uniform entry.2) ∧ sample.mapValues tableOf = relations := by
  have none : sample.firstFault? = none ↔ ∀ entry ∈ sample.entries, Uniform entry.2 := by
    rw [firstFault?, List.findSome?_eq_none_iff]
    exact forall₂_congr fun entry _ => fault?_eq_none_iff entry.1 entry.2
  rw [← none, materialize_eq_elim]
  cases sample.firstFault? <;> simp

theorem materialize_eq_error_iff (sample : Sample) (fault : SampleFault) :
    sample.materialize = .error fault ↔ sample.FirstFault fault := by
  have some : sample.firstFault? = some fault ↔ sample.FirstFault fault := by
    rw [firstFault?, List.findSome?_eq_some_iff]
    simp only [fault?_eq_some_iff, fault?_eq_none_iff, Prod.exists]
    constructor
    · rintro ⟨before, relation, records, after, parts, ⟨good, record, rest, here⟩, fine⟩
      exact ⟨before, relation, records, after, good, record, rest, parts, fine, here⟩
    · rintro ⟨before, relation, records, after, good, record, rest, parts, fine, here⟩
      exact ⟨before, relation, records, after, parts, ⟨good, record, rest, here⟩, fine⟩
  rw [← some, materialize_eq_elim]
  cases sample.firstFault? <;> simp

theorem SameUpToKeyOrder.map_eq {β : Type} {sample other : Sample}
    (same : sample.SameUpToKeyOrder other) {f : String × List Record → β}
    (blind : ∀ relation records others, Reordered records others →
      f (relation, records) = f (relation, others)) :
    sample.entries.map f = other.entries.map f := by
  rw [← forall₂_iff_map_eq]
  refine same.imp fun a b alike => ?_
  obtain ⟨relation, records⟩ := a
  obtain ⟨rfl, reordered⟩ := alike
  exact blind b.1 records b.2 reordered

theorem SameUpToKeyOrder.materialize_eq {sample other : Sample} (same : sample.SameUpToKeyOrder other) :
    sample.materialize = other.materialize := by
  have faults := same.map_eq (f := fun entry => fault? entry.1 entry.2)
    fun relation _ _ reordered => reordered.fault?_eq relation
  have found : sample.firstFault? = other.firstFault? := by
    have first := congrArg (List.findSome? id) faults
    rwa [List.findSome?_map, List.findSome?_map] at first
  have tables := same.map_eq (f := fun entry => (entry.1, tableOf entry.2))
    fun relation _ _ reordered => congrArg (Prod.mk relation) reordered.tableOf_eq
  have keyed : sample.mapValues tableOf = other.mapValues tableOf := by
    simp only [Keyed.mapValues, tables]
  rw [materialize_eq_elim, materialize_eq_elim, found, keyed]

theorem materialize_forall₂ {sample : Sample} {relations : Relations}
    (made : sample.materialize = .ok relations) :
    List.Forall₂ (fun entry relation => relation.1 = entry.1 ∧ Tabulates entry.2 relation.2)
      sample.entries relations.entries := by
  obtain ⟨uniform, rfl⟩ := (materialize_eq_ok_iff sample relations).1 made
  exact forall₂_map_self fun entry mem => ⟨rfl, tableOf_tabulates (uniform entry mem)⟩

/-- Materialization succeeds just on uniform relations, keeps their names, order and records, and else
names the first record that differs in its keys; the order of keys in the records never matters. -/
theorem materialize_exact (sample : Sample) :
    ((∃ relations, sample.materialize = .ok relations) ↔
      ∀ entry ∈ sample.entries, Uniform entry.2) ∧
    (∀ relations, sample.materialize = .ok relations →
      List.Forall₂ (fun entry relation => relation.1 = entry.1 ∧ Tabulates entry.2 relation.2)
        sample.entries relations.entries) ∧
    (∀ fault, sample.materialize = .error fault ↔ sample.FirstFault fault) ∧
    ∀ other, sample.SameUpToKeyOrder other → sample.materialize = other.materialize := by
  refine ⟨?_, fun relations => materialize_forall₂, materialize_eq_error_iff sample,
    fun other => SameUpToKeyOrder.materialize_eq⟩
  simp only [materialize_eq_ok_iff, exists_and_left, exists_eq', and_true]

theorem materialize_exact_of_people :
    let ann : Record := .ofList [("name", .text "ann"), ("age", .int 3)]
    let bob : Record := .ofList [("age", .null), ("name", .text "bob")]
    let turned : Record := .ofList [("age", .int 3), ("name", .text "ann")]
    let sample : Sample := .ofList [("people", [ann, bob]), ("none", [])]
    let other : Sample := .ofList [("people", [turned, bob]), ("none", [])]
    let ragged : Sample := .ofList [("fine", [ann]), ("people", [ann, turned, .ofList [("age", .int 3)]])]
    (∃ relations, sample.materialize = .ok relations ∧
      List.Forall₂ (fun entry relation => relation.1 = entry.1 ∧ Tabulates entry.2 relation.2)
        sample.entries relations.entries) ∧
    (∀ entry ∈ sample.entries, Uniform entry.2) ∧
    ragged.FirstFault ⟨"people", 2, ["age"], ["age", "name"]⟩ ∧
    sample.SameUpToKeyOrder other ∧ sample.materialize = other.materialize := by
  intro ann bob turned sample other ragged
  have made : sample.materialize = .ok (sample.mapValues tableOf) := by rfl
  have refused : ragged.materialize = .error ⟨"people", 2, ["age"], ["age", "name"]⟩ := by rfl
  have reordered : sample.SameUpToKeyOrder other := by
    refine .cons ⟨rfl, .cons (by decide) (.cons (.refl _) .nil)⟩ (.cons ⟨rfl, .nil⟩ .nil)
  obtain ⟨uniform, tables, faults, blind⟩ := materialize_exact sample
  exact ⟨⟨_, made, tables _ made⟩, uniform.1 ⟨_, made⟩, ((materialize_exact ragged).2.2.1 _).1 refused,
    reordered, blind other reordered⟩

end Sample

end SolutionCheck
