import SolutionCheck.Proofs.ReadBack

/-!
What is accepted as lines of fields, and what the columns of the table that is read hold. A column of
symbols holds its fields as they are. In any other, whether every field reads as an integer is settled over
all lines before a cell is made, so integers are never among floats, whatever the text is.
-/

namespace SolutionCheck

def Cell.Whole (cells : List Cell) : Prop := ∀ cell ∈ cells, cell.variant = .int ∨ cell.variant = .null

/-- The cells of a column of the type are those that its fields stand for. Symbols are texts. In any other
column just the empty fields are nothing; the rest are integers throughout, or else floats and texts. -/
structure ReadColumn (type : FactType) (fields : List (List Char)) (cells : List Cell) : Prop where
  texts : type = .symbol → cells = fields.map fun field => .text (String.ofList field)
  empty : type ≠ .symbol → List.Forall₂ (fun field cell => field = [] ↔ cell = .null) fields cells
  whole : type ≠ .symbol →
    (Cell.Whole cells ↔ ∀ field ∈ fields, field ≠ [] → ∃ n, Number.readInt? field = some n)
  ints : type ≠ .symbol → Cell.Whole cells →
    List.Forall₂ (fun field cell => ∀ n, cell = .int n ↔ Number.readInt? field = some n) fields cells
  floats : type ≠ .symbol → ¬ Cell.Whole cells → ¬ Cell.Occurs .int cells ∧
    List.Forall₂ (fun field cell => (∀ x, Number.readFloat? field = some x → cell = .float x) ∧
      (field ≠ [] → Number.readFloat? field = none → cell = .text (String.ofList field))) fields cells
  apart : ¬ (Cell.Occurs .int cells ∧ Cell.Occurs .float cells)

namespace FactType

variable {type : FactType}

theorem cellOf_eq_null_iff (value : type ≠ .symbol) (integral : Bool) (field : List Char) :
    type.cellOf integral field = .null ↔ field = [] := by
  by_cases empty : field = []
  · simp [empty, cellOf_empty value]
  · rw [cellOf_of_ne_nil value integral empty]
    cases integral
    · cases Number.readFloat? field <;> simp [empty]
    · cases Number.readInt? field <;> simp [empty]

theorem cellOf_true_eq_int_iff (value : type ≠ .symbol) (field : List Char) (n : Int64) :
    type.cellOf true field = .int n ↔ Number.readInt? field = some n := by
  by_cases empty : field = []
  · subst empty
    rw [cellOf_empty value]
    exact iff_of_false Cell.noConfusion fun reads => ne_nil_of_readInt reads rfl
  · rw [cellOf_of_ne_nil value true empty]
    cases Number.readInt? field <;> simp

theorem variant_cellOf_false (value : type ≠ .symbol) (field : List Char) :
    (type.cellOf false field).variant ≠ .int := by
  by_cases empty : field = []
  · simp [empty, cellOf_empty value, Cell.variant]
  · rw [cellOf_of_ne_nil value false empty]
    cases Number.readFloat? field <;> simp [Cell.variant]

end FactType

namespace Facts

section Columns

variable {type : FactType} {fields : List (List Char)}

theorem not_occurs_float_of_whole {cells : List Cell} (whole : Cell.Whole cells) : ¬ Cell.Occurs .float cells := by
  rintro ⟨cell, mem, float⟩
  have variant := whole cell mem
  simp [float] at variant

theorem readColumn_of_symbol (integral : Bool) :
    ReadColumn .symbol fields (fields.map (FactType.symbol.cellOf integral)) where
  texts _ := rfl
  empty value := absurd rfl value
  whole value := absurd rfl value
  ints value := absurd rfl value
  floats value := absurd rfl value
  apart := by
    rintro ⟨⟨cell, mem, int⟩, -⟩
    obtain ⟨field, -, rfl⟩ := List.mem_map.1 mem
    cases int

theorem readColumn_of_integers (value : type ≠ .symbol)
    (reads : ∀ field ∈ fields, field ≠ [] → ∃ n, Number.readInt? field = some n) :
    ReadColumn type fields (fields.map (type.cellOf true)) := by
  have whole : Cell.Whole (fields.map (type.cellOf true)) := by
    refine List.forall_mem_map.2 fun field mem => ?_
    by_cases empty : field = []
    · exact .inr (by rw [empty, FactType.cellOf_empty value, Cell.variant])
    · obtain ⟨n, int⟩ := reads field mem empty
      exact .inl (by rw [FactType.cellOf_integral value int, Cell.variant])
  exact {
    texts := fun symbol => absurd symbol value
    empty := fun _ => forall₂_map_self fun field _ => (FactType.cellOf_eq_null_iff value true field).symm
    whole := fun _ => iff_of_true whole reads
    ints := fun _ _ => forall₂_map_self fun field _ => FactType.cellOf_true_eq_int_iff value field
    floats := fun _ mixed => absurd whole mixed
    apart := fun both => not_occurs_float_of_whole whole both.2 }

theorem readColumn_of_misread (value : type ≠ .symbol)
    (misread : ¬ ∀ field ∈ fields, field ≠ [] → ∃ n, Number.readInt? field = some n) :
    ReadColumn type fields (fields.map (type.cellOf false)) := by
  have noInt : ¬ Cell.Occurs .int (fields.map (type.cellOf false)) := by
    rintro ⟨cell, mem, int⟩
    obtain ⟨field, -, rfl⟩ := List.mem_map.1 mem
    exact FactType.variant_cellOf_false value field int
  -- a whole column without integers is empty throughout, so each of its fields would read
  have mixed : ¬ Cell.Whole (fields.map (type.cellOf false)) := by
    intro whole
    refine misread fun field mem filled => absurd ?_ filled
    rw [← FactType.cellOf_eq_null_iff value false field]
    obtain int | null := whole _ (List.mem_map_of_mem mem)
    · exact absurd int (FactType.variant_cellOf_false value field)
    · revert null
      cases type.cellOf false field <;> simp [Cell.variant]
  exact {
    texts := fun symbol => absurd symbol value
    empty := fun _ => forall₂_map_self fun field _ => (FactType.cellOf_eq_null_iff value false field).symm
    whole := fun _ => iff_of_false mixed misread
    ints := fun _ whole => absurd whole mixed
    floats := fun _ _ => ⟨noInt, forall₂_map_self fun field _ =>
      ⟨fun _ reads => FactType.cellOf_float value reads,
        fun filled unread => by simp [FactType.cellOf_of_ne_nil value false filled, unread]⟩⟩
    apart := fun both => noInt both.1 }

theorem readColumn_cellOf (type : FactType) {integral : Bool} (flag : integral = true ↔
      ∀ field ∈ fields, field ≠ [] → ∃ n, Number.readInt? field = some n) :
    ReadColumn type fields (fields.map (type.cellOf integral)) := by
  by_cases value : type = .symbol
  · subst value
    exact readColumn_of_symbol integral
  · cases integral with
    | true => exact readColumn_of_integers value (flag.1 rfl)
    | false => exact readColumn_of_misread value fun reads => Bool.false_ne_true (flag.2 reads)

end Columns

section Tables

variable {schema : Schema} {rows : List (List (List Char))} {index : Nat}

theorem isIntegral_eq_true_iff : isIntegral rows index = true ↔
    ∀ field ∈ rows.map (·.getD index []), field ≠ [] → ∃ n, Number.readInt? field = some n := by
  rw [isIntegral, List.all_eq_true, List.forall_mem_map]
  refine forall₂_congr fun fields _ => ?_
  rw [Bool.or_eq_true, List.isEmpty_iff, Option.isSome_iff_exists, or_iff_not_imp_left]

theorem length_cellsOf {integral : List Bool} (flags : integral.length = schema.length) {fields : List (List Char)}
    (wide : fields.length = schema.length) : (cellsOf schema integral fields).length = schema.length := by
  simp [cellsOf, flags, wide]

theorem cellsAt_tableOf (wide : ∀ fields ∈ rows, fields.length = schema.length) {a : Attribute}
    (given : schema[index]? = some a) :
    (tableOf schema rows).cellsAt index =
      (rows.map (·.getD index [])).map (a.type.cellOf (isIntegral rows index)) := by
  obtain ⟨inside, rfl⟩ := List.getElem?_eq_some_iff.1 given
  rw [Table.cellsAt, tableOf, List.map_map, List.map_map]
  refine List.map_congr_left fun fields mem => ?_
  have here : index < fields.length := wide fields mem ▸ inside
  rw [Function.comp_apply, Function.comp_apply, Table.cellAt_of_lt (by simpa [cellsOf, inside] using here)]
  simp [cellsOf, here]

end Tables

def Fits (schema : Schema) (line : List Char) (row : Row) : Prop :=
  (fieldsIn line).length = schema.length ∧ row.length = schema.length

theorem forall₂_fits {schema : Schema} {text : String}
    (wide : ∀ fields ∈ fieldRows text.toList, fields.length = schema.length) :
    List.Forall₂ (Fits schema) (filled (Text.lines text.toList)) (tableOf schema (fieldRows text.toList)).rows := by
  have flags : ((List.range schema.length).map (isIntegral (fieldRows text.toList))).length = schema.length := by simp
  rw [tableOf, fieldRows, List.map_map]
  refine forall₂_map_self fun line mem => ?_
  have fits := wide (fieldsIn line) (List.mem_map_of_mem mem)
  exact ⟨fits, length_cellsOf flags fits⟩

/-- Reading fails just where a line that is not blank has a wrong number of fields, and names the first such
line by its number among all lines. Otherwise the table has a row for each line that is not blank, and every
column holds what its fields stand for under the type of the column. -/
theorem read_exact (schema : Schema) (text : String) :
    ((∃ fault, read schema text = .error fault) ↔ ∃ line ∈ Text.lines text.toList, Misfit schema line) ∧
    (∀ fault, read schema text = .error fault ↔ FirstMisfit schema (Text.lines text.toList) fault) ∧
    (∀ fault, read schema text = .error fault → ∃ rest, fault.message =
      "output line " ++ natText fault.line ++ " has " ++ rest) ∧
    ∀ u, read schema text = .ok u → u.columns = schema.map Attribute.column ∧
      List.Forall₂ (Fits schema) (filled (Text.lines text.toList)) u.rows ∧
      ∀ index a, schema[index]? = some a →
        ReadColumn a.type ((fieldRows text.toList).map (·.getD index [])) (u.cellsAt index) := by
  refine ⟨exists_read_eq_error_iff schema text, read_eq_error_iff schema text, fun fault _ => ?_, fun u done => ?_⟩
  · have message : fault.message = "output line " ++ natText fault.line ++ " has " ++ natText fault.fields ++
        " fields, expected " ++ natText fault.expected := rfl
    exact ⟨_, by rw [message, String.append_assoc, String.append_assoc]⟩
  · obtain ⟨wide, rfl⟩ := (read_eq_ok_iff schema text u).1 done
    refine ⟨rfl, forall₂_fits wide, fun index a given => ?_⟩
    rw [cellsAt_tableOf wide given]
    exact readColumn_cellOf a.type isIntegral_eq_true_iff

theorem read_exact_of_lines :
    let schema : Schema := [⟨"k", "k", .number⟩, ⟨"v", "v", .float⟩, ⟨"s", "s", .symbol⟩]
    let good := "7\t7\t\r\r\n\r\n\tx\t8\n+1\tNaN\ta"
    let bad := "1\t2\t3\n\n1\t2\r\n"
    let u : Table := ⟨["k", "v", "s"], [[.int 7, .float (.ofInt 7), .text ""], [.null, .text "x", .text "8"],
      [.int 1, .float (.nan false), .text "a"]]⟩
    read schema good = .ok u ∧ List.Forall₂ (Fits schema) (filled (Text.lines good.toList)) u.rows ∧
    ReadColumn .number ["7".toList, [], "+1".toList] [.int 7, .null, .int 1] ∧
    read schema bad = .error ⟨3, 2, 3⟩ ∧ FirstMisfit schema (Text.lines bad.toList) ⟨3, 2, 3⟩ := by
  intro schema good bad u
  have done : read schema good = .ok u := by decide +kernel
  have failed : read schema bad = .error ⟨3, 2, 3⟩ := by decide +kernel
  obtain ⟨-, fits, columns⟩ := (read_exact schema good).2.2.2 u done
  have number := columns 0 _ rfl
  have fields : (fieldRows good.toList).map (·.getD 0 []) = ["7".toList, [], "+1".toList] := by decide +kernel
  rw [fields] at number
  exact ⟨done, fits, number, failed, ((read_exact schema bad).2.1 _).1 failed⟩

end Facts

end SolutionCheck
