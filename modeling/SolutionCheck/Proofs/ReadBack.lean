import SolutionCheck.Proofs.Table
import SolutionCheck.Proofs.DeclaredTypes

/-!
Tables as texts of fields, read back under the schema that the table itself gives. A column comes back
as a whole: its inferred type and whether all its fields read as integers decide together what every
one of its fields becomes. Written facts come back cell by cell.
-/

namespace SolutionCheck

namespace FactType

theorem cellOf_symbol (integral : Bool) (field : List Char) :
    symbol.cellOf integral field = .text (String.ofList field) := rfl

theorem cellOf_empty {type : FactType} (value : type ≠ .symbol) (integral : Bool) :
    type.cellOf integral [] = .null := by
  rw [cellOf, if_neg value]
  rfl

theorem cellOf_of_ne_nil {type : FactType} (value : type ≠ .symbol) (integral : Bool) {field : List Char}
    (filled : field ≠ []) :
    type.cellOf integral field = (if integral then (Number.readInt? field).map Cell.int
      else (Number.readFloat? field).map Cell.float).getD (.text (String.ofList field)) := by
  cases integral <;> simp [cellOf, value, filled]

theorem cellOf_integral {type : FactType} (value : type ≠ .symbol) {field : List Char} {n : Int64}
    (reads : Number.readInt? field = some n) : type.cellOf true field = .int n := by
  rw [cellOf_of_ne_nil value true (ne_nil_of_readInt reads), reads]
  rfl

theorem cellOf_float {type : FactType} (value : type ≠ .symbol) {field : List Char} {x : Binary64}
    (reads : Number.readFloat? field = some x) : type.cellOf false field = .float x := by
  rw [cellOf_of_ne_nil value false (ne_nil_of_readFloat reads), reads]
  rfl

end FactType

namespace Facts

variable {print : Cell → List Char}

def integral (print : Cell → List Char) (cells : List Cell) : Bool :=
  cells.all fun cell => (print cell).isEmpty || (Number.readInt? (print cell)).isSome

/-- What becomes of a cell of a table when the table is printed and read back. -/
def reread (print : Cell → List Char) (t : Table) (index : Nat) (cell : Cell) : Cell :=
  (FactType.infer (t.cellsAt index)).cellOf (integral print (t.cellsAt index)) (print cell)

theorem isIntegral_print {t : Table} (wide : t.WellFormed) {index : Nat} (inside : index < t.columns.length) :
    isIntegral (t.rows.map fun row => row.map print) index = integral print (t.cellsAt index) := by
  rw [isIntegral, integral, Table.cellsAt, List.all_map, List.all_map, Bool.eq_iff_iff, List.all_eq_true,
    List.all_eq_true]
  refine forall₂_congr fun row mem => ?_
  obtain ⟨here, same, -⟩ := Table.cellsAt_eq wide inside mem
  simp [here, same]

theorem cellsOf_print {t : Table} (wide : t.WellFormed) {row : Row} (mem : row ∈ t.rows) :
    cellsOf (.ofTable t) ((List.range t.columns.length).map (isIntegral (t.rows.map fun row => row.map print)))
      (row.map print) = row.mapIdx (reread print t) := by
  have width := wide row mem
  refine List.ext_getElem (by simp [cellsOf, Schema.ofTable, width]) fun index h _ => ?_
  have inside : index < t.columns.length := by
    simp [cellsOf, Schema.ofTable] at h
    omega
  simp [cellsOf, Schema.ofTable, reread, isIntegral_print wide inside, Table.cellsAt]

theorem length_ofTable (t : Table) : (Schema.ofTable t).length = t.columns.length := by
  simp [Schema.ofTable]

theorem columns_ofTable (t : Table) : (Schema.ofTable t).map Attribute.column = t.columns :=
  List.ext_getElem (by simp [Schema.ofTable]) fun index _ _ => by simp [Schema.ofTable]

theorem forall_clean_print {t : Table} (clean : ∀ row ∈ t.rows, ∀ cell ∈ row, Clean (print cell)) :
    ∀ fields ∈ t.rows.map (fun row => row.map print), ∀ field ∈ fields, Clean field := by
  intro fields mem field inside
  obtain ⟨row, rowMem, rfl⟩ := List.mem_map.1 mem
  obtain ⟨cell, cellMem, rfl⟩ := List.mem_map.1 inside
  exact clean row rowMem cell cellMem

theorem forall_wide_print {t : Table} (wide : t.WellFormed) :
    ∀ fields ∈ t.rows.map (fun row => row.map print), fields.length = (Schema.ofTable t).length := by
  intro fields mem
  obtain ⟨row, rowMem, rfl⟩ := List.mem_map.1 mem
  rw [List.length_map, wide row rowMem, length_ofTable]

theorem ofTable_ne_nil {t : Table} (columned : t.columns ≠ []) : Schema.ofTable t ≠ [] := by
  simpa [Schema.ofTable] using columned

theorem read_print {t : Table} (wide : t.WellFormed) (columned : t.columns ≠ [])
    (clean : ∀ row ∈ t.rows, ∀ cell ∈ row, Clean (print cell))
    (filled : ∀ row ∈ t.rows, row.map print ≠ [[]]) :
    read (.ofTable t) (String.ofList (spell (t.rows.map fun row => row.map print))) =
      .ok ⟨t.columns, t.rows.map fun row => row.mapIdx (reread print t)⟩ := by
  have seen : visible (t.rows.map fun row => row.map print) = t.rows.map fun row => row.map print := by
    rw [visible, List.filter_eq_self]
    intro fields mem
    obtain ⟨row, rowMem, rfl⟩ := List.mem_map.1 mem
    simpa [joined_eq_nil_iff (map_print_ne_nil wide columned rowMem)] using filled row rowMem
  rw [read_spell (ofTable_ne_nil columned) (forall_wide_print wide) (forall_clean_print clean), seen,
    columns_ofTable, length_ofTable, List.map_map]
  congr 2
  exact List.map_congr_left fun row mem => cellsOf_print wide mem

/-- A row of one empty field leaves a blank line, so fewer rows are read. -/
theorem read_print_of_blank {t : Table} (wide : t.WellFormed) (columned : t.columns ≠ [])
    (clean : ∀ row ∈ t.rows, ∀ cell ∈ row, Clean (print cell)) {row : Row} (mem : row ∈ t.rows)
    (blank : row.map print = [[]]) :
    ∃ u, read (.ofTable t) (String.ofList (spell (t.rows.map fun row => row.map print))) = .ok u ∧
      u.rows.length < t.rows.length := by
  refine ⟨_, read_spell (ofTable_ne_nil columned) (forall_wide_print wide) (forall_clean_print clean), ?_⟩
  have all : t.rows.length = (t.rows.map fun row => row.map print).length := (List.length_map _).symm
  rw [List.length_map, all, visible, List.length_filter_lt_length_iff_exists]
  exact ⟨[[]], blank ▸ List.mem_map_of_mem mem, by simp [joined]⟩

end Facts

/-- The cells hold nothing or are of one variant, which does occur. -/
def Cell.Hold (variant : Variant) (cells : List Cell) : Prop :=
  (∀ cell ∈ cells, cell.variant = variant ∨ cell.variant = .null) ∧ ∃ cell ∈ cells, cell.variant = variant

instance (variant : Variant) (cells : List Cell) : Decidable (Cell.Hold variant cells) :=
  inferInstanceAs (Decidable ((∀ cell ∈ cells, cell.variant = variant ∨ cell.variant = .null) ∧
    ∃ cell ∈ cells, cell.variant = variant))

/-- Facts keep the cells of the table: every column has one type that its cells show, texts can be
fields, and no line is blank. -/
structure Table.Writable (t : Table) : Prop where
  wide : t.WellFormed
  columned : t.columns ≠ []
  columns : ∀ index < t.columns.length, Cell.Hold .int (t.cellsAt index) ∨
    Cell.Hold .float (t.cellsAt index) ∨ ∀ cell ∈ t.cellsAt index, cell.variant = .text
  clean : ∀ row ∈ t.rows, ∀ s, Cell.text s ∈ row → Facts.Clean s.toList
  filled : t.columns.length = 1 → ∀ row ∈ t.rows, Cell.null ∉ row ∧ Cell.text "" ∉ row

namespace Facts

theorem infer_of_hold {variant : Variant} (number : variant = .int ∨ variant = .float) {cells : List Cell}
    (hold : Cell.Hold variant cells) : FactType.infer cells ≠ .symbol := by
  have kind {cell : Cell} (same : cell.variant = variant) : cell.kind = .number := by
    rcases number with rfl | rfl <;> cases cell <;> cases same <;> rfl
  refine FactType.infer_of_numbers (fun cell mem => ?_) ?_
  · rcases hold.1 cell mem with same | nothing
    · exact .inr (kind same)
    · cases cell <;> cases nothing
      exact .inl rfl
  · obtain ⟨cell, mem, same⟩ := hold.2
    exact ⟨cell, mem, kind same⟩

section Columns

variable {t : Table} {index : Nat} {cell : Cell}

theorem reread_of_ints (printed : ∀ cell, cell.variant ≠ .float → print cell = field cell)
    (ints : Cell.Hold .int (t.cellsAt index)) (mem : cell ∈ t.cellsAt index) :
    reread print t index cell = cell := by
  have value := infer_of_hold (.inl rfl) ints
  have whole : integral print (t.cellsAt index) = true := by
    refine List.all_eq_true.2 fun cell mem => ?_
    rcases ints.1 cell mem with int | nothing
    · rw [printed cell (by simp [int])]
      cases cell <;> cases int
      simp [readInt_field]
    · rw [printed cell (by simp [nothing])]
      cases cell <;> cases nothing
      rfl
  rw [reread, whole]
  rcases ints.1 cell mem with int | nothing
  · rw [printed cell (by simp [int])]
    cases cell <;> cases int
    exact FactType.cellOf_integral value (readInt_field _)
  · rw [printed cell (by simp [nothing])]
    cases cell <;> cases nothing
    exact FactType.cellOf_empty value _

theorem reread_of_texts (printed : ∀ cell, cell.variant ≠ .float → print cell = field cell)
    (texts : ∀ cell ∈ t.cellsAt index, cell.variant = .text) (mem : cell ∈ t.cellsAt index) :
    reread print t index cell = cell := by
  have text := texts cell mem
  rw [reread, FactType.infer_of_texts texts, FactType.cellOf_symbol, printed cell (by simp [text])]
  cases cell <;> cases text
  simp [field, Cell.display]

theorem reread_of_floats (floats : Cell.Hold .float (t.cellsAt index))
    (mixed : integral print (t.cellsAt index) = false) {x y : Binary64}
    (reads : Number.readFloat? (print (.float x)) = some y) : reread print t index (.float x) = .float y := by
  rw [reread, mixed]
  exact FactType.cellOf_float (infer_of_hold (.inr rfl) floats) reads

end Columns

theorem integral_field_of_floats {cells : List Cell} (floats : Cell.Hold .float cells) :
    integral field cells = false := by
  obtain ⟨cell, mem, float⟩ := floats.2
  cases cell with
  | float x =>
    have filled : field (.float x) ≠ [] := by simp [field_eq_nil_iff]
    rw [field_float] at filled
    refine List.all_eq_false.2 ⟨_, mem, ?_⟩
    simp [filled, field_float, FloatStyle.readInt_digits]
  | _ => cases float

theorem reread_field_of_floats {t : Table} {index : Nat} (floats : Cell.Hold .float (t.cellsAt index))
    {cell : Cell} (mem : cell ∈ t.cellsAt index) :
    cell.equivalent (reread field t index cell) = true ∧ cell.variant = (reread field t index cell).variant := by
  rcases floats.1 cell mem with float | nothing
  · cases cell with
    | float x =>
      rw [reread_of_floats floats (integral_field_of_floats floats) (readFloat_field x), Cell.equivalent_iff]
      refine ⟨?_, rfl⟩
      by_cases nan : x.isNaN = true
      · rw [if_pos nan, Cell.representative, Cell.representative, Binary64.representative, if_pos nan]
        rfl
      · rw [if_neg nan]
    | _ => cases float
  · cases cell with
    | null =>
      have empty : reread field t index .null = .null :=
        FactType.cellOf_empty (infer_of_hold (.inr rfl) floats) _
      rw [empty]
      exact ⟨rfl, rfl⟩
    | _ => cases nothing

/-- What is written as facts and read under the schema of the table is the table, cell by cell. -/
theorem read_write {t : Table} (writable : t.Writable) :
    ∃ text, (∀ name, write name t = .ok text) ∧ ∃ u, read (.ofTable t) text = .ok u ∧ u.columns = t.columns ∧
      List.Forall₂ (List.Forall₂ fun a b => a.equivalent b = true ∧ a.variant = b.variant) t.rows u.rows := by
  have clean : ∀ row ∈ t.rows, ∀ cell ∈ row, Clean (field cell) := fun row mem cell inside =>
    clean_field fun s text => writable.clean row mem s (text ▸ inside)
  have filled : ∀ row ∈ t.rows, row.map field ≠ [[]] := by
    intro row mem blank
    obtain ⟨cell, rfl, empty⟩ := List.map_eq_singleton_iff.1 blank
    obtain ⟨null, text⟩ := writable.filled (writable.wide _ mem).symm _ mem
    rcases (field_eq_nil_iff cell).1 empty with rfl | rfl <;> simp at null text
  refine ⟨_, write_eq_ok writable.clean, _, read_print writable.wide writable.columned clean filled, rfl, ?_⟩
  rw [List.forall₂_map_right_iff, List.forall₂_same]
  intro row mem
  refine List.forall₂_iff_get.2 ⟨by simp, fun index h _ => ?_⟩
  have inside : index < t.columns.length := (writable.wide row mem) ▸ h
  obtain ⟨_, -, here⟩ := Table.cellsAt_eq writable.wide inside mem
  have printed : ∀ cell : Cell, cell.variant ≠ .float → field cell = field cell := fun _ _ => rfl
  have refl (cell : Cell) : cell.equivalent cell = true := (Cell.equivalent_iff cell cell).2 rfl
  simp only [List.get_eq_getElem, List.getElem_mapIdx]
  rcases writable.columns index inside with ints | floats | texts
  · rw [reread_of_ints printed ints here]
    exact ⟨refl _, rfl⟩
  · exact reread_field_of_floats floats here
  · rw [reread_of_texts printed texts here]
    exact ⟨refl _, rfl⟩

theorem read_write_of_columns :
    let t : Table := ⟨["k", "v", "s"], [[.int 3, .float (.nan true), .text "a b"],
      [.null, .float (.zero true), .text ""], [.int (-7), .float ⟨false, 0x3FF8000000000000⟩, .text "7"]]⟩
    t.Writable ∧ ∃ text, (∀ name, write name t = .ok text) ∧ ∃ u, read (.ofTable t) text = .ok u ∧
      u.columns = t.columns ∧
      List.Forall₂ (List.Forall₂ fun a b => a.equivalent b = true ∧ a.variant = b.variant) t.rows u.rows := by
  intro t
  have writable : t.Writable := by
    refine ⟨by decide, by decide, ?_, ?_, by decide⟩
    · have kinds : ∀ index < 3, Cell.Hold .int (t.cellsAt index) ∨
          Cell.Hold .float (t.cellsAt index) ∨ ∀ cell ∈ t.cellsAt index, cell.variant = .text := by
        decide
      exact kinds
    · simp [t, Clean, isSeparator]
  exact ⟨writable, read_write writable⟩

end Facts

end SolutionCheck
