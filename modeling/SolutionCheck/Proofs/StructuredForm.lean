import SolutionCheck.Proofs.Keyed
import SolutionCheck.Proofs.ReadBack

/-!
Answers in structured values. A cell, a list of cells and a list of records are read back in their own
shape and with their content. One form serves two purposes, the object with a single member: it is a
record with one key, or a float that is not finite. Where the first record of a list reads like such a
float, and only there, the records are taken for cells.
-/

namespace SolutionCheck

def Cell.SameContent (a b : Cell) : Prop := a.equivalent b = true ∧ a.variant = b.variant

namespace Record

/-- The record is written like a float that is not finite. -/
def StandsForFloat (record : Record) : Prop :=
  ∃ word ∈ ["inf", "-inf", "nan"], record.entries = [("$float", .text word)]

def SameContent (record other : Record) : Prop :=
  List.Forall₂ (fun a b => a.1 = b.1 ∧ a.2.SameContent b.2) record.entries other.entries

end Record

namespace Cell

/-- The cell that stands for a cell after it was written: one value stands for all that are no number. -/
def settled : Cell → Cell
  | float x => float (if x.isNaN then .nan false else x)
  | cell => cell

theorem sameContent_settled (cell : Cell) : cell.SameContent cell.settled := by
  cases cell with
  | float x =>
    refine ⟨?_, rfl⟩
    rw [equivalent_iff, settled, representative, representative, Cell.float.injEq]
    split
    · next nan => rw [Binary64.representative, if_pos nan]; rfl
    · rfl
  | _ => exact ⟨(equivalent_iff _ _).2 rfl, rfl⟩

theorem nonFinite?_eq_none_iff (key word : String) :
    nonFinite? (.object [(key, .string word)]) = none ↔
      ¬ (key = "$float" ∧ word ∈ ["inf", "-inf", "nan"]) := by
  have name : nonFiniteKey = "$float" := rfl
  by_cases same : key = "$float"
  · unfold nonFinite?
    dsimp only
    rw [name, if_neg (not_not_intro same)]
    -- one case for each of the words, and one for any other
    split <;> simp_all
  · simp [nonFinite?, name, same]

theorem nonFinite?_written {x : Binary64} (limitless : ¬ x.isFinite = true) :
    nonFinite? (.object [(nonFiniteKey, .string (nonFiniteWord x))]) =
      some (if x.isNaN then .nan false else x) := by
  rcases x.isNaN_or_isInfinite_or_isFinite with nan | infinite | finite
  · rw [nonFiniteWord, if_pos nan, if_pos nan]
    rfl
  · have number := Binary64.isNaN_of_isInfinite infinite
    rw [nonFiniteWord, number, if_neg Bool.false_ne_true, if_neg Bool.false_ne_true,
      Binary64.eq_infinity_of_isInfinite infinite]
    cases x.negative <;> rfl
  · exact absurd finite limitless

theorem ofJson_toJson (cell : Cell) : ofJson cell.toJson = cell.settled := by
  cases cell with
  | int n =>
    have fits : Number.fitsInt64 n.toInt = true := Facts.fitsInt64_toInt n
    rw [toJson, ofJson, ofInt, if_pos fits, Int64.ofInt_toInt]
    rfl
  | float x =>
    rw [toJson, settled]
    split
    · next finite => rw [ofJson, Binary64.isNaN_of_isFinite finite, if_neg Bool.false_ne_true]
    · next limitless => simp only [ofJson, nonFinite?_written limitless]
  | _ => rfl

theorem toJson_eq_string_iff (cell : Cell) (word : String) :
    cell.toJson = .string word ↔ cell = .text word := by
  cases cell with
  | float x =>
    rw [toJson]
    split <;> simp
  | _ => simp [toJson]

end Cell

theorem Record.sameContent_settled (record : Record) :
    record.SameContent (record.mapValues Cell.settled) :=
  forall₂_map_self fun entry _ => ⟨rfl, entry.2.sameContent_settled⟩

namespace Answer

theorem isRecord_object_iff (members : List (String × Json)) :
    isRecord (.object members) = true ↔
      ¬ ∃ word ∈ ["inf", "-inf", "nan"], members = [("$float", .string word)] := by
  rw [isRecord, Option.isNone_iff_eq_none]
  match members with
  | [] => simp [Cell.nonFinite?]
  | _ :: _ :: _ => simp [Cell.nonFinite?]
  | [(key, value)] =>
    cases value with
    | string word => simp [Cell.nonFinite?_eq_none_iff, and_comm]
    | _ => simp [Cell.nonFinite?]

theorem isRecord_recordJson (record : Record) :
    isRecord (recordJson record) = true ↔ ¬ record.StandsForFloat := by
  have written : recordJson record =
      .object (record.entries.map fun entry => (entry.1, entry.2.toJson)) := rfl
  rw [written, isRecord_object_iff, not_iff_not]
  refine exists_congr fun word => and_congr_right fun _ => ?_
  rw [List.map_eq_singleton_iff]
  constructor
  · rintro ⟨⟨key, cell⟩, entries, same⟩
    obtain ⟨rfl, text⟩ := Prod.mk.inj same
    rw [entries, (cell.toJson_eq_string_iff word).1 text]
  · intro entries
    exact ⟨_, entries, rfl⟩

theorem isRecord_toJson (cell : Cell) : isRecord cell.toJson = false := by
  cases cell with
  | float x =>
    rw [Cell.toJson]
    split
    · rfl
    · next limitless => rw [isRecord, Cell.nonFinite?_written limitless, Option.isNone_some]
  | _ => rfl

theorem recordOf_recordJson (record : Record) :
    recordOf (recordJson record) = record.mapValues Cell.settled := by
  have members : recordOf (recordJson record) = .ofList (record.mapValues Cell.settled).entries := by
    simp only [recordOf, recordJson, Json.ofKeyed, Keyed.mapValues, List.map_map, Function.comp_def,
      Cell.ofJson_toJson]
  rw [members]
  exact Keyed.eq_of_entries (Keyed.entries_ofList (record.mapValues Cell.settled).nodup)

theorem ofJson_cell (cell : Cell) : ofJson cell.toJson = .single cell.settled := by
  have single : ofJson cell.toJson =
      if isRecord cell.toJson then .records [recordOf cell.toJson] else .single (.ofJson cell.toJson) := by
    cases cell with
    | float x =>
      rw [Cell.toJson]
      split <;> rfl
    | _ => rfl
  rw [single, isRecord_toJson, if_neg Bool.false_ne_true, Cell.ofJson_toJson]

theorem ofJson_cells (cells : List Cell) :
    ofJson (.array (cells.map Cell.toJson)) = .sequence (cells.map Cell.settled) := by
  have flat : ¬ (cells.map Cell.toJson).head?.any isRecord = true := by
    cases cells <;> simp [isRecord_toJson]
  rw [ofJson, if_neg flat, List.map_map]
  congr 1
  exact List.map_congr_left fun cell _ => cell.ofJson_toJson

theorem ofJson_records (first : Record) (rest : List Record) :
    ofJson (.array ((first :: rest).map recordJson)) =
      if isRecord (recordJson first) then .records ((first :: rest).map (Keyed.mapValues Cell.settled))
      else .sequence ((first :: rest).map fun record => .ofJson (recordJson record)) := by
  have read : ((first :: rest).map recordJson).map recordOf =
      (first :: rest).map (Keyed.mapValues Cell.settled) := by
    rw [List.map_map]
    exact List.map_congr_left fun record _ => recordOf_recordJson record
  rw [ofJson, read, List.map_map]
  rfl

/-- What is written for a cell or for cells is read back as such with the same content, and what is
written for records is so just where the first of them does not stand for a float. -/
theorem ofJson_written :
    (∀ cell : Cell, ∃ c, ofJson cell.toJson = .single c ∧ cell.SameContent c) ∧
    (∀ cells : List Cell, ∃ cs, ofJson (.array (cells.map Cell.toJson)) = .sequence cs ∧
      List.Forall₂ Cell.SameContent cells cs) ∧
    (∀ (first : Record) (rest : List Record),
      (∃ records, ofJson (.array ((first :: rest).map recordJson)) = .records records ∧
        List.Forall₂ Record.SameContent (first :: rest) records) ↔ ¬ first.StandsForFloat) := by
  refine ⟨fun cell => ⟨_, ofJson_cell cell, cell.sameContent_settled⟩,
    fun cells => ⟨_, ofJson_cells cells, forall₂_map_self fun cell _ => cell.sameContent_settled⟩,
    fun first rest => ?_⟩
  rw [← isRecord_recordJson, ofJson_records]
  constructor
  · rintro ⟨records, shape, -⟩
    by_contra flat
    rw [if_neg flat] at shape
    cases shape
  · intro kept
    exact ⟨_, if_pos kept, forall₂_map_self fun record _ => record.sameContent_settled⟩

example : ofJson (.array [recordJson (.ofList [("$float", .text "inf")]), recordJson {}]) =
    .sequence [.float (.infinity false), .text "\x7b\x7d"] := by decide

end Answer

end SolutionCheck
