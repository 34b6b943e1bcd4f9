import SolutionCheck.Proofs.Column
import SolutionCheck.Proofs.WrittenFacts

/-!
The types that columns are declared with. A type follows from the variants that occur among the cells of
a column, wherever and however often they do. The fields that are written in the column agree with it:
those of a number column read as the integers of its cells, those of a float column as the floats nearest
to them, nothing being an empty field.
-/

namespace SolutionCheck

inductive Variant where
  | null
  | bool
  | int
  | float
  | text
deriving DecidableEq

def Cell.variant : Cell → Variant
  | null => .null
  | bool _ => .bool
  | int _ => .int
  | float _ => .float
  | text _ => .text

def Cell.Occurs (variant : Variant) (cells : List Cell) : Prop := ∃ cell ∈ cells, cell.variant = variant

instance (variant : Variant) (cells : List Cell) : Decidable (Cell.Occurs variant cells) :=
  inferInstanceAs (Decidable (∃ cell ∈ cells, cell.variant = variant))

def Table.cellsAt (t : Table) (index : Nat) : List Cell := t.rows.map (Table.cellAt · index)

theorem Table.cellAt_of_lt {row : Row} {index : Nat} (inside : index < row.length) :
    cellAt row index = row[index] := by
  simp [cellAt, inside]

theorem Table.cellsAt_eq {t : Table} (wide : t.WellFormed) {index : Nat} (inside : index < t.columns.length)
    {row : Row} (mem : row ∈ t.rows) :
    ∃ h : index < row.length, Table.cellAt row index = row[index] ∧ row[index] ∈ t.cellsAt index := by
  have h : index < row.length := (wide row mem).symm ▸ inside
  have same := cellAt_of_lt h
  exact ⟨h, same, same ▸ List.mem_map_of_mem mem⟩

theorem Schema.getElem?_ofTable {t : Table} {index : Nat} {a : Attribute}
    (declared : (ofTable t)[index]? = some a) :
    index < t.columns.length ∧ a.type = .infer (t.cellsAt index) := by
  rw [ofTable, List.getElem?_mapIdx, Option.map_eq_some_iff] at declared
  obtain ⟨column, found, rfl⟩ := declared
  exact ⟨(List.getElem?_eq_some_iff.1 found).1, rfl⟩

namespace FactType

open Cell (Occurs)

theorem any_eq_true_iff_occurs {p : Cell → Bool} {variant : Variant}
    (flag : ∀ cell, p cell = true ↔ cell.variant = variant) (cells : List Cell) :
    cells.any p = true ↔ Occurs variant cells := by
  rw [List.any_eq_true]
  exact exists_congr fun cell => and_congr_right fun _ => flag cell

/-- The type asks for nothing but the variants that occur. -/
theorem infer_eq (cells : List Cell) : infer cells =
    if Occurs .bool cells ∨ Occurs .text cells then symbol
    else if Occurs .float cells ∨ Occurs .int cells ∧ Occurs .null cells then float
    else if Occurs .int cells then number
    else symbol := by
  simp only [infer]
  refine if_congr ?_ rfl (if_congr ?_ rfl (if_congr ?_ rfl rfl))
  · rw [List.any_eq_true, Occurs, Occurs, ← exists_or]
    refine exists_congr fun cell => ?_
    rw [← and_or_left]
    cases cell <;> simp [Cell.variant]
  · rw [Bool.or_eq_true, Bool.and_eq_true]
    refine or_congr ?_ (and_congr ?_ ?_)
    all_goals
      refine any_eq_true_iff_occurs (fun cell => ?_) cells
      cases cell <;> simp [Cell.variant, Cell.isNull]
  · refine any_eq_true_iff_occurs (fun cell => ?_) cells
    cases cell <;> simp [Cell.variant]

theorem infer_congr {cells others : List Cell} (same : ∀ variant, Occurs variant cells ↔ Occurs variant others) :
    infer cells = infer others := by
  simp only [infer_eq, same]

theorem forall_number_iff (cells : List Cell) : (∀ cell ∈ cells, cell.kind = .null ∨ cell.kind = .number) ↔
    ¬ (Occurs .bool cells ∨ Occurs .text cells) := by
  simp only [Occurs, not_or, not_exists, not_and, ← forall_and]
  refine forall₂_congr fun cell _ => ?_
  cases cell <;> simp [Cell.variant, Cell.kind]

theorem forall_int_iff (cells : List Cell) : (∀ cell ∈ cells, cell.variant = .int) ↔
    ¬ (Occurs .bool cells ∨ Occurs .text cells) ∧ ¬ (Occurs .float cells ∨ Occurs .null cells) := by
  simp only [Occurs, not_or, not_exists, not_and, ← forall_and]
  refine forall₂_congr fun cell _ => ?_
  cases cell <;> simp [Cell.variant]

theorem infer_eq_number_iff (cells : List Cell) : infer cells = number ↔
    Occurs .int cells ∧ ∀ cell ∈ cells, cell.variant = .int := by
  rw [infer_eq, forall_int_iff]
  split_ifs <;> simp only [true_iff, false_iff] <;> tauto

theorem infer_eq_float_iff (cells : List Cell) : infer cells = float ↔
    (∀ cell ∈ cells, cell.kind = .null ∨ cell.kind = .number) ∧
      (Occurs .float cells ∨ Occurs .int cells ∧ Occurs .null cells) := by
  rw [infer_eq, forall_number_iff]
  split_ifs <;> simp only [true_iff, false_iff] <;> tauto

theorem infer_of_numbers {cells : List Cell} (numbers : ∀ cell ∈ cells, cell.kind = .null ∨ cell.kind = .number)
    (some : ∃ cell ∈ cells, cell.kind = .number) : infer cells ≠ .symbol := by
  obtain ⟨cell, mem, number⟩ := some
  have occurs : Occurs .float cells ∨ Occurs .int cells := by
    cases cell with
    | int n => exact .inr ⟨_, mem, rfl⟩
    | float x => exact .inl ⟨_, mem, rfl⟩
    | _ => cases number
  rw [infer_eq, if_neg ((forall_number_iff cells).1 numbers)]
  split_ifs with floats ints
  · simp
  · simp
  · exact absurd occurs (not_or.2 ⟨fun float => floats (.inl float), ints⟩)

theorem infer_of_texts {cells : List Cell} (texts : ∀ cell ∈ cells, cell.variant = .text) :
    infer cells = .symbol := by
  cases cells with
  | nil => rfl
  | cons cell rest =>
    have text : Occurs .text (cell :: rest) := ⟨cell, List.mem_cons_self, texts cell List.mem_cons_self⟩
    rw [infer_eq, if_pos (.inr text)]

end FactType

namespace Facts

/-- The characters read as the float nearest to the number in the cell. Values that are no number are
not told apart. -/
def ReadsAs (cell : Cell) (chars : List Char) : Prop :=
  ∃ x y, cell.rounded = .float x ∧ Number.readFloat? chars = some y ∧ (y = x ∨ x.isNaN = true ∧ y.isNaN = true)

def Agrees : FactType → Cell → List Char → Prop
  | .number, cell, chars => chars ≠ [] ∧ ∃ n, cell = .int n ∧ Number.readInt? chars = some n
  | .float, cell, chars => (chars = [] ↔ cell = .null) ∧ (cell ≠ .null → ReadsAs cell chars)
  | .symbol, cell, chars => Shows cell chars

/-- The fields at one place of the lines of a text. A line can be too short to have one. -/
def fieldsAt (text : String) (index : Nat) : List (Option (List Char)) :=
  (text.toList.splitOn '\n').dropLast.map fun line => (line.splitOn '\t')[index]?

/-- Each cell of the column has its field in the text, and that is as the type promises. -/
def ColumnAgrees (type : FactType) (t : Table) (text : String) (index : Nat) : Prop :=
  List.Forall₂ (fun cell field => ∃ chars, field = some chars ∧ Agrees type cell chars)
    (t.cellsAt index) (fieldsAt text index)

theorem eq_field_of_shows {cell : Cell} {chars : List Char} (shows : Shows cell chars) : chars = field cell := by
  cases cell <;> exact shows

theorem getElem?_of_shows {row : Row} {line : List Char} {index : Nat} (inside : index < row.length)
    (shown : List.Forall₂ Shows row (line.splitOn '\t')) :
    (line.splitOn '\t')[index]? = some (field (Table.cellAt row index)) := by
  have here := shown.get inside (shown.length_eq ▸ inside)
  rw [Table.cellAt_of_lt inside, List.getElem?_eq_getElem (shown.length_eq ▸ inside)]
  exact congrArg some (eq_field_of_shows here)

theorem fieldsAt_of_renders {t : Table} (wide : t.WellFormed) {index : Nat} (inside : index < t.columns.length)
    {text : String} (renders : Renders t text) :
    fieldsAt text index = (t.cellsAt index).map fun cell => some (field cell) := by
  obtain ⟨lines, -, cut, shown⟩ := renders
  have columned : t.columns ≠ [] := List.ne_nil_of_length_pos (Nat.zero_lt_of_lt inside)
  have fields : List.Forall₂ (fun row line => some (field (Table.cellAt row index)) = (line.splitOn '\t')[index]?)
      t.rows lines := by
    refine ((List.forall₂_and_left _ _).2 ⟨wide, shown⟩).imp ?_
    rintro row line ⟨width, same⟩
    exact (getElem?_of_shows (width.symm ▸ inside) (same columned)).symm
  rw [fieldsAt, cut, List.dropLast_concat, Table.cellsAt, List.map_map]
  exact (forall₂_iff_map_eq.1 fields).symm

theorem ofInt_eq_nearest (n : Int) : Binary64.ofInt n = .nearest (decide (n < 0)) n.natAbs := by
  have whole := Binary64.ofFraction_eq_nearest (decide (n < 0)) n.natAbs Nat.one_pos
  rwa [Nat.cast_one, div_one] at whole

theorem readsAs_field {cell : Cell} (number : cell.kind = .number) : ReadsAs cell (field cell) := by
  cases cell with
  | int n =>
    refine ⟨_, _, rfl, ?_, .inl rfl⟩
    rw [field_int, intDigits_eq, readFloat_toDigits, ofInt_eq_nearest]
  | float x =>
    refine ⟨x, _, rfl, readFloat_field x, ?_⟩
    by_cases nan : x.isNaN = true
    · rw [if_pos nan]
      exact .inr ⟨nan, rfl⟩
    · exact .inl (if_neg nan)
  | _ => cases number

theorem agrees_field {cells : List Cell} {cell : Cell} (mem : cell ∈ cells) :
    Agrees (.infer cells) cell (field cell) := by
  cases type : FactType.infer cells with
  | number =>
    have int := ((FactType.infer_eq_number_iff cells).1 type).2 cell mem
    cases cell with
    | int n => exact ⟨ne_nil_of_readInt (readInt_field n), n, rfl, readInt_field n⟩
    | _ => cases int
  | float =>
    have number := ((FactType.infer_eq_float_iff cells).1 type).1 cell mem
    -- an empty text would leave an empty field too, but no text is in a column of floats
    have apart : cell ≠ .text "" := by
      rintro rfl
      simp [Cell.kind] at number
    refine ⟨by simp [field_eq_nil_iff, apart], fun something => readsAs_field (number.resolve_left fun kind => ?_)⟩
    cases cell <;> cases kind
    exact something rfl
  | symbol => exact shows_field cell

/-- The fields that are written in a column agree with the type that it is declared with. A float column
has a cell that holds something. Columns with the same variants have one type. -/
theorem declared_types {relation text : String} {t : Table} (wide : t.WellFormed)
    (written : write relation t = .ok text) {index : Nat} {a : Attribute}
    (declared : (Schema.ofTable t)[index]? = some a) :
    ColumnAgrees a.type t text index ∧
    (a.type = .float → ∃ cell ∈ t.cellsAt index, cell ≠ .null) ∧
    ∀ (u : Table) place b, (Schema.ofTable u)[place]? = some b →
      (∀ variant, Cell.Occurs variant (t.cellsAt index) ↔ Cell.Occurs variant (u.cellsAt place)) →
      a.type = b.type := by
  obtain ⟨inside, type⟩ := Schema.getElem?_ofTable declared
  refine ⟨?_, fun float => ?_, fun u place b other same => ?_⟩
  · obtain ⟨whole, rfl⟩ := (write_eq_ok_iff relation t text).1 written
    rw [ColumnAgrees, fieldsAt_of_renders wide inside (renders_spell wide whole), type]
    exact forall₂_map_self fun cell mem => ⟨_, rfl, agrees_field mem⟩
  · rw [type, FactType.infer_eq_float_iff] at float
    obtain ⟨cell, mem, variant⟩ | ⟨⟨cell, mem, variant⟩, -⟩ := float.2
    all_goals
      refine ⟨cell, mem, ?_⟩
      rintro rfl
      cases variant
  · rw [type, (Schema.getElem?_ofTable other).2, FactType.infer_congr same]

theorem declared_types_of_columns :
    let t : Table := ⟨["k", "v"], [[.int (-3), .int 9007199254740993], [.int 4, .null], [.int 0, .float (.nan true)]]⟩
    let u : Table := ⟨["w"], [[.null], [.null], [.float (.zero true)], [.int 5]]⟩
    let text := "-3\t9007199254740993\n4\t\n0\tNaN\n"
    t.WellFormed ∧ write "r" t = .ok text ∧
    (Schema.ofTable t)[0]? = some ⟨"k", "k", .number⟩ ∧ ColumnAgrees .number t text 0 ∧
    (Schema.ofTable t)[1]? = some ⟨"v", "v", .float⟩ ∧ ColumnAgrees .float t text 1 ∧
    (∃ cell ∈ t.cellsAt 1, cell ≠ .null) ∧
    (∀ variant, Cell.Occurs variant (t.cellsAt 1) ↔ Cell.Occurs variant (u.cellsAt 0)) ∧
    ∀ b, (Schema.ofTable u)[0]? = some b → .float = b.type := by
  intro t u text
  have wide : t.WellFormed := by decide
  have written : write "r" t = .ok text := by decide +kernel
  have number : (Schema.ofTable t)[0]? = some ⟨"k", "k", .number⟩ := by decide +kernel
  have float : (Schema.ofTable t)[1]? = some ⟨"v", "v", .float⟩ := by decide +kernel
  have same : ∀ variant, Cell.Occurs variant (t.cellsAt 1) ↔ Cell.Occurs variant (u.cellsAt 0) := by
    intro variant
    cases variant <;> decide
  obtain ⟨floats, something, others⟩ := declared_types wide written float
  exact ⟨wide, written, number, (declared_types wide written number).1, float, floats, something rfl, same,
    fun b other => others u 0 b other same⟩

end Facts

end SolutionCheck
