import SolutionCheck.Proofs.StructuredForm

/-!
Lists of records in structured values. Where the first element is a record every element is taken for
one: an object gives its keys with the cells of its values, and what is no object goes under the
positional name. A written cell is thus kept as that cell at every later place, unless it is a float that
is not finite. Such a float is written as an object, and comes out as a record that holds its word.
-/

namespace SolutionCheck

def Cell.Limitless (cell : Cell) : Prop := ∃ x : Binary64, cell = .float x ∧ x.isFinite = false

namespace Record

def HoldsAlone (record : Record) (cell : Cell) : Prop :=
  ∃ c, record.entries = [("0", c)] ∧ cell.SameContent c

/-- The record has the keys of the members in their order, with the cells of their values. -/
def Converts (record : Record) (members : List (String × Json)) : Prop :=
  record.entries = members.map fun member => (member.1, Cell.ofJson member.2)

end Record

namespace Answer

theorem recordOf_object {members : List (String × Json)} (distinct : (members.map Prod.fst).Nodup) :
    (recordOf (.object members)).Converts members := by
  refine Keyed.entries_ofList ?_
  rwa [List.map_map]

theorem recordOf_toJson {cell : Cell} (limited : ¬ cell.Limitless) :
    (recordOf cell.toJson).entries = [("0", cell.settled)] := by
  have positional (j : Json) (plain : ∀ members, j ≠ .object members) :
      (recordOf j).entries = [("0", .ofJson j)] := by
    cases j with
    | object members => exact absurd rfl (plain members)
    | _ => rfl
  rw [← Cell.ofJson_toJson]
  refine positional _ fun members object => limited ?_
  cases cell with
  | float x =>
    rw [Cell.toJson] at object
    split at object
    · cases object
    · next limitless => exact ⟨x, rfl, by simpa using limitless⟩
  | _ => cases object

theorem recordOf_limitless {x : Binary64} (limitless : x.isFinite = false) :
    (recordOf (Cell.float x).toJson).entries = [("$float", .text (Cell.nonFiniteWord x))] := by
  rw [Cell.toJson, limitless, if_neg Bool.false_ne_true]
  rfl

theorem holdsAlone_recordOf_iff (cell : Cell) :
    (recordOf cell.toJson).HoldsAlone cell ↔ ¬ cell.Limitless := by
  constructor
  · rintro ⟨c, entries, -⟩ ⟨x, rfl, limitless⟩
    rw [recordOf_limitless limitless] at entries
    have key : "$float" = "0" := congrArg Prod.fst (List.singleton_inj.1 entries)
    exact absurd key (by decide)
  · intro limited
    exact ⟨cell.settled, recordOf_toJson limited, cell.sameContent_settled⟩

/-- In a list that begins with a record an object is read as the record of its members, and a written
cell as the record that holds it alone, just where the cell is not a float beyond the finite ones. -/
theorem ofJson_recordList {members : List (String × Json)}
    (record : ¬ ∃ word ∈ ["inf", "-inf", "nan"], members = [("$float", .string word)]) (rest : List Json) :
    ∃ records, ofJson (.array (.object members :: rest)) = .records records ∧
      List.Forall₂ (fun item record =>
        (∀ cell : Cell, item = cell.toJson → (record.HoldsAlone cell ↔ ¬ cell.Limitless)) ∧
        ∀ inner, item = .object inner → (inner.map Prod.fst).Nodup → record.Converts inner)
      (.object members :: rest) records := by
  have first : isRecord (.object members) = true := (isRecord_object_iff members).2 record
  refine ⟨(Json.object members :: rest).map recordOf, if_pos first, forall₂_map_self fun item _ => ⟨?_, ?_⟩⟩
  · rintro cell rfl
    exact holdsAlone_recordOf_iff cell
  · rintro inner rfl distinct
    exact recordOf_object distinct

theorem ofJson_recordList_of_strays :
    let named := [("a", Json.int 1)]
    let two := Cell.float (.ofInt 2)
    let infinity := Cell.float (.infinity false)
    let nested := [("b", infinity.toJson), ("c", .array [])]
    (¬ ∃ word ∈ ["inf", "-inf", "nan"], named = [("$float", .string word)]) ∧
    (nested.map Prod.fst).Nodup ∧
    ∃ first second third fourth,
      ofJson (.array [.object named, two.toJson, infinity.toJson, .object nested]) =
        .records [first, second, third, fourth] ∧
      second.HoldsAlone two ∧ ¬ third.HoldsAlone infinity ∧ fourth.Converts nested := by
  intro named two infinity nested
  have record : ¬ ∃ word ∈ ["inf", "-inf", "nan"], named = [("$float", .string word)] := by simp [named]
  have distinct : (nested.map Prod.fst).Nodup := by decide
  obtain ⟨records, read, kept⟩ :=
    ofJson_recordList record [two.toJson, infinity.toJson, .object nested]
  obtain _ | @⟨_, first, _, _, -, _ | @⟨_, second, _, _, held, _ | @⟨_, third, _, _, lost,
    _ | @⟨_, fourth, _, _, converted, _ | _⟩⟩⟩⟩ := kept
  refine ⟨record, distinct, first, second, third, fourth, read, (held.1 two rfl).2 ?_, fun holds => ?_,
    converted.2 nested rfl distinct⟩
  · rintro ⟨x, same, limitless⟩
    have finite : (Binary64.ofInt 2).isFinite = true := by decide
    rw [← Cell.float.inj same, finite] at limitless
    cases limitless
  · exact (lost.1 infinity rfl).1 holds ⟨_, rfl, by decide⟩

/-- An infinity behind a record is not kept as that float. -/
theorem ofJson_mistakes_infinity :
    ¬ ∃ first second,
      ofJson (.array [.object [("a", .int 1)], (Cell.float (.infinity false)).toJson]) =
        .records [first, second] ∧ second.HoldsAlone (.float (.infinity false)) := by
  rintro ⟨first, second, read, c, entries, -⟩
  have records : [recordOf (.object [("a", .int 1)]), recordOf (Cell.float (.infinity false)).toJson] =
      [first, second] := Answer.records.inj read
  have stray : recordOf (Cell.float (.infinity false)).toJson = second := by simpa using congrArg List.tail records
  rw [← stray, recordOf_limitless (by decide)] at entries
  have key : "$float" = "0" := congrArg Prod.fst (List.singleton_inj.1 entries)
  exact absurd key (by decide)

end Answer

end SolutionCheck
