import SolutionCheck.Interpreter
import SolutionCheck.Proofs.Materialization
import SolutionCheck.Proofs.Records

/-!
The input document of a script. An engine for tables gets the records of the materialized tables, any
other the records of the sample as they stand. Both documents list the relations of the sample in its
order under the same columns, and record by record they hold the same values under the same keys; only
the order of keys inside a record tells them apart.
-/

namespace SolutionCheck

namespace Sample

theorem mem_columnsOf_iff {records : List Record} (uniform : Uniform records) {record : Record}
    (mem : record ∈ records) (key : String) : key ∈ columnsOf records ↔ key ∈ record.keys := by
  obtain ⟨first, rest, rfl⟩ := List.exists_cons_of_ne_nil (List.ne_nil_of_mem mem)
  rw [columnsOf_cons, (sortTexts_perm first.keys).mem_iff]
  exact (uniform first rfl record mem key).symm

theorem get?_laidOut {columns : List String} {record : Record} (distinct : columns.Nodup)
    (keys : ∀ key, key ∈ columns ↔ key ∈ record.keys) (key : String) :
    (Table.toRecord columns (columns.map fun column => (record.get? column).getD .null)).get? key =
      record.get? key := by
  have cells : columns.zip (columns.map fun column => (record.get? column).getD .null) =
      columns.map fun column => (column, (record.get? column).getD .null) := by
    have paired := @List.zip_map' _ _ _ id (fun column => (record.get? column).getD .null) columns
    rwa [List.map_id] at paired
  apply Option.ext
  intro cell
  rw [Keyed.get?_eq_some_iff, Table.entries_toRecord distinct (List.length_map _), cells, List.mem_map]
  constructor
  · rintro ⟨column, within, same⟩
    obtain ⟨rfl, rfl⟩ := Prod.mk.inj same
    exact (Keyed.some_getD_get? ((keys column).1 within) .null).symm
  · intro held
    have present : key ∈ record.keys := by
      by_contra absent
      rw [(Keyed.get?_eq_none_iff record key).2 absent] at held
      cases held
    exact ⟨key, (keys key).2 present, by rw [held, Option.getD_some]⟩

end Sample

namespace Interpreter

open Sample

/-- What a document lists for a relation: its name, its columns, and the members of its records. -/
structure Listing where
  relation : String
  columns : List String
  records : List (List (String × Json))

namespace Listing

def member (listing : Listing) : String × Json :=
  (listing.relation, .object [("columns", .ofTexts listing.columns),
    ("records", .array (listing.records.map .object))])

/-- A listing shows the records of a relation one by one under the sorted keys of the first of them. The
keys of a record stand in the order of the columns, or in their own. -/
structure Describes (tabular : Bool) (entry : String × List Record) (listing : Listing) : Prop where
  relation : listing.relation = entry.1
  ascending : listing.columns.Pairwise (· < ·)
  columns : ∀ key, key ∈ listing.columns ↔ ∃ first ∈ entry.2.head?, key ∈ first.keys
  records : List.Forall₂ (fun record members =>
    members.map Prod.fst = (if tabular then listing.columns else record.keys) ∧
      ∀ key, valueOf? members key = (record.get? key).map Cell.toJson) entry.2 listing.records

/-- Two listings of one relation that differ at most in the order of keys in their records. -/
structure Agrees (listing other : Listing) : Prop where
  relation : listing.relation = other.relation
  columns : listing.columns = other.columns
  records : List.Forall₂ (fun members others => ∀ key, valueOf? members key = valueOf? others key)
    listing.records other.records

end Listing

def Lists (document : Json) (listings : List Listing) : Prop :=
  ∃ members, document = .object members ∧
    valueOf? members "relations" = some (.object (listings.map Listing.member))

def listedRecords (tabular : Bool) (records : List Record) : List Record :=
  if tabular then (tableOf records).records else records

def listingOf (tabular : Bool) (entry : String × List Record) : Listing :=
  ⟨entry.1, columnsOf entry.2,
    (listedRecords tabular entry.2).map fun record => (record.mapValues Cell.toJson).entries⟩

theorem lists_inputDocument (tabular : Bool) (taskId : String) (sample : Sample) :
    Lists (inputDocument tabular taskId sample (sample.mapValues tableOf))
      (sample.entries.map (listingOf tabular)) := by
  refine ⟨_, rfl, ?_⟩
  have found : valueOf? [("task", Json.string taskId),
      ("program", .string (Engine.interpreter tabular).programFile), ("tabular", .bool tabular),
      ("relations", .object ((sample.entries.map (listingOf tabular)).map Listing.member))] "relations" =
      some (.object ((sample.entries.map (listingOf tabular)).map Listing.member)) := rfl
  rw [← found]
  congr 7
  simp only [Keyed.mapValues, List.map_map]
  refine List.map_congr_left fun entry mem => ?_
  have stored : sample.get? entry.1 = some entry.2 := (sample.get?_eq_some_iff entry.1 entry.2).2 mem
  cases tabular <;>
    simp [listingOf, listedRecords, recordsFor, Listing.member, tableOf, Table.ofRecords, recordJson,
      Json.ofKeyed, stored, Function.comp_def]

theorem nodup_columnsOf (records : List Record) : (columnsOf records).Nodup := by
  cases records with
  | nil => exact List.nodup_nil
  | cons first rest => exact (sortTexts_perm first.keys).nodup_iff.2 first.nodup

theorem records_tableOf (records : List Record) : (tableOf records).records = records.map fun record =>
    Table.toRecord (columnsOf records) ((columnsOf records).map fun column => (record.get? column).getD .null) :=
  List.map_map

theorem forall₂_listedRecords (tabular : Bool) {records : List Record} (uniform : Uniform records) :
    List.Forall₂ (fun record listed => listed.keys = (if tabular then columnsOf records else record.keys) ∧
      listed.get? = record.get?) records (listedRecords tabular records) := by
  cases tabular with
  | false => exact List.forall₂_same.2 fun _ _ => ⟨rfl, rfl⟩
  | true =>
    rw [listedRecords, if_pos rfl, records_tableOf]
    refine forall₂_map_self fun record mem => ⟨Table.keys_toRecord (nodup_columnsOf records) (List.length_map _), ?_⟩
    funext key
    exact get?_laidOut (nodup_columnsOf records) (mem_columnsOf_iff uniform mem) key

theorem describes_listingOf (tabular : Bool) {entry : String × List Record} (uniform : Uniform entry.2) :
    (listingOf tabular entry).Describes tabular entry where
  relation := rfl
  ascending := (tableOf_tabulates uniform).ascending
  columns := (tableOf_tabulates uniform).columns
  records := by
    rw [listingOf, List.forall₂_map_right_iff]
    refine (forall₂_listedRecords tabular uniform).imp fun record listed same => ⟨?_, fun key => ?_⟩
    · rw [← same.1]
      exact listed.keys_mapValues Cell.toJson
    · rw [listed.valueOf?_mapValues, same.2]

theorem agrees_listingOf {entry : String × List Record} (uniform : Uniform entry.2) :
    (listingOf true entry).Agrees (listingOf false entry) where
  relation := rfl
  columns := rfl
  records := by
    have stored : listedRecords false entry.2 = entry.2 := rfl
    rw [listingOf, listingOf, stored, List.forall₂_map_left_iff, List.forall₂_map_right_iff]
    refine List.Forall₂.flip ((forall₂_listedRecords true uniform).imp fun record listed same key => ?_)
    rw [listed.valueOf?_mapValues, record.valueOf?_mapValues, same.2]

/-- The documents for an engine for tables and for any other show the same sample, in which only the
order of keys in a record is their own. -/
theorem inputDocument_agrees (taskId : String) {sample : Sample} {relations : Relations}
    (made : sample.materialize = .ok relations) : ∃ tabular raw : List Listing,
      Lists (inputDocument true taskId sample relations) tabular ∧
      Lists (inputDocument false taskId sample relations) raw ∧
      List.Forall₂ (fun entry listing => listing.Describes true entry) sample.entries tabular ∧
      List.Forall₂ (fun entry listing => listing.Describes false entry) sample.entries raw ∧
      List.Forall₂ Listing.Agrees tabular raw := by
  obtain ⟨uniform, rfl⟩ := (materialize_eq_ok_iff sample relations).1 made
  have described (tabular : Bool) : List.Forall₂ (fun entry listing => listing.Describes tabular entry)
      sample.entries (sample.entries.map (listingOf tabular)) :=
    forall₂_map_self fun entry mem => describes_listingOf tabular (uniform entry mem)
  refine ⟨_, _, lists_inputDocument true taskId sample, lists_inputDocument false taskId sample,
    described true, described false, ?_⟩
  rw [List.forall₂_map_left_iff, List.forall₂_map_right_iff, List.forall₂_same]
  exact fun entry mem => agrees_listingOf (uniform entry mem)

theorem inputDocument_agrees_of_people :
    let ann : Record := .ofList [("name", .text "ann"), ("age", .int 3)]
    let bob : Record := .ofList [("age", .float (.nan false)), ("name", .null)]
    let sample : Sample := .ofList [("people", [ann, bob]), ("none", []), ("blank", [{}, {}])]
    ∃ relations, sample.materialize = .ok relations ∧ ∃ tabular raw : List Listing,
      Lists (inputDocument true "ages" sample relations) tabular ∧
      Lists (inputDocument false "ages" sample relations) raw ∧
      List.Forall₂ (fun entry listing => listing.Describes true entry) sample.entries tabular ∧
      List.Forall₂ (fun entry listing => listing.Describes false entry) sample.entries raw ∧
      List.Forall₂ Listing.Agrees tabular raw := by
  intro ann bob sample
  have made : sample.materialize = .ok (sample.mapValues tableOf) := by rfl
  exact ⟨_, made, inputDocument_agrees "ages" made⟩

end Interpreter

end SolutionCheck
