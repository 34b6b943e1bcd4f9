import SolutionCheck.Proofs.Fields

/-!
Facts as they are written. Nothing but a text with a tab or a line break in it cannot be written, and the
first row that holds such a text is reported. Where there is none, no cell adds a line or a field to those
of the others: the text cut at line feeds, and each line of it cut at tabs, gives one field for each cell.
-/

namespace SolutionCheck

namespace Facts

def Breaks (cells : List Cell) : Prop :=
  ∃ s, Cell.text s ∈ cells ∧ ∃ c ∈ s.toList, c = '\t' ∨ c = '\n' ∨ c = '\r'

/-- The fault is at the first such text in the first row that holds one. -/
def FirstBreak (relation : String) (t : Table) (fault : FieldFault) : Prop :=
  ∃ before row after cells rest, t.rows = before ++ row :: after ∧ (∀ other ∈ before, ¬ Breaks other) ∧
    row = cells ++ .text fault.text :: rest ∧ ¬ Breaks cells ∧ Breaks [.text fault.text] ∧
    fault.relation = relation ∧ fault.row = before.length

def Shows (cell : Cell) (chars : List Char) : Prop :=
  chars = if cell = .null then [] else cell.display.toList

/-- The text is one line for each row, and between the tabs of a line stands one field for each cell. -/
def Renders (t : Table) (text : String) : Prop :=
  ∃ lines, text.toList = lines.flatMap (· ++ ['\n']) ∧ text.toList.splitOn '\n' = lines ++ [[]] ∧
    List.Forall₂ (fun row line => t.columns ≠ [] → List.Forall₂ Shows row (line.splitOn '\t')) t.rows lines

section Faults

theorem breaks_iff_exists (cells : List Cell) : Breaks cells ↔ ∃ cell ∈ cells, Breaks [cell] := by
  simp only [Breaks, List.mem_singleton]
  constructor
  · rintro ⟨s, mem, broken⟩
    exact ⟨_, mem, s, rfl, broken⟩
  · rintro ⟨_, mem, s, rfl, broken⟩
    exact ⟨s, mem, broken⟩

theorem breaks_text_iff (s : String) : Breaks [.text s] ↔ s.toList.any isSeparator = true := by
  simp [Breaks, isSeparator, or_assoc]

theorem badText?_eq_some_iff (cell : Cell) (s : String) :
    badText? cell = some s ↔ cell = .text s ∧ Breaks [cell] := by
  cases cell with
  | text r =>
    rw [breaks_text_iff, badText?]
    split <;> simp_all
  | _ => simp [badText?]

theorem badText?_eq_none_iff (cell : Cell) : badText? cell = none ↔ ¬ Breaks [cell] := by
  cases cell with
  | text s =>
    rw [breaks_text_iff, badText?]
    split <;> simp_all
  | _ => simp [badText?, Breaks]

theorem firstText_eq_none_iff (row : Row) : row.findSome? badText? = none ↔ ¬ Breaks row := by
  rw [List.findSome?_eq_none_iff, breaks_iff_exists]
  simp only [badText?_eq_none_iff, not_exists, not_and]

theorem firstText_eq_some_iff (row : Row) (s : String) : row.findSome? badText? = some s ↔
    ∃ cells rest, row = cells ++ .text s :: rest ∧ ¬ Breaks cells ∧ Breaks [.text s] := by
  rw [List.findSome?_eq_some_iff]
  simp only [← firstText_eq_none_iff, List.findSome?_eq_none_iff, badText?_eq_some_iff]
  constructor
  · rintro ⟨cells, cell, rest, parts, ⟨rfl, broken⟩, fine⟩
    exact ⟨cells, rest, parts, fine, broken⟩
  · rintro ⟨cells, rest, parts, fine, broken⟩
    exact ⟨cells, _, rest, parts, ⟨rfl, broken⟩, fine⟩

def firstBreak? (rows : List Row) : Option (Nat × String) :=
  rows.zipIdx.findSome? fun (row, index) => (row.findSome? badText?).map (index, ·)

theorem firstBreak?_eq_some_iff (rows : List Row) (index : Nat) (s : String) :
    firstBreak? rows = some (index, s) ↔ ∃ before row after, rows = before ++ row :: after ∧
      (∀ other ∈ before, ¬ Breaks other) ∧ row.findSome? badText? = some s ∧ before.length = index := by
  rw [firstBreak?, findSome?_zipIdx_eq_some_iff]
  refine exists_congr fun before => exists_congr fun row => exists_congr fun after => and_congr_right fun _ => ?_
  rw [← forall_mem_zipIdx_iff _ before 0]
  simp only [Option.map_eq_none_iff, firstText_eq_none_iff, Option.map_eq_some_iff, Prod.mk.injEq, Nat.zero_add]
  refine and_congr_right fun _ => ⟨?_, ?_⟩
  · rintro ⟨_, found, same, rfl⟩
    exact ⟨found, same⟩
  · rintro ⟨found, same⟩
    exact ⟨s, found, same, rfl⟩

theorem firstBreak?_eq_none_iff (rows : List Row) :
    firstBreak? rows = none ↔ ∀ row ∈ rows, ¬ Breaks row := by
  rw [firstBreak?, List.findSome?_eq_none_iff, ← forall_mem_zipIdx_iff _ rows 0]
  simp only [Option.map_eq_none_iff, firstText_eq_none_iff]

theorem write_eq_elim (relation : String) (t : Table) : write relation t =
    (firstBreak? t.rows).elim (.ok (String.ofList (spell (t.rows.map fun row => row.map field)))) fun entry =>
      .error ⟨relation, entry.1, entry.2⟩ := by
  rw [spell, List.flatMap_map]
  unfold write
  split
  · next row text found =>
    have first : firstBreak? t.rows = some (row, text) := found
    rw [first, Option.elim_some]
  · next found =>
    have first : firstBreak? t.rows = none := found
    rw [first, Option.elim_none]
    rfl

theorem write_eq_error_iff (relation : String) (t : Table) (fault : FieldFault) :
    write relation t = .error fault ↔ FirstBreak relation t fault := by
  rw [write_eq_elim]
  constructor
  · intro failed
    cases first : firstBreak? t.rows with
    | none => simp [first] at failed
    | some entry =>
      obtain ⟨before, row, after, parts, fine, found, place⟩ := (firstBreak?_eq_some_iff _ _ _).1 first
      obtain ⟨cells, rest, row, whole, broken⟩ := (firstText_eq_some_iff _ _).1 found
      rw [first] at failed
      cases failed
      exact ⟨before, _, after, cells, rest, parts, fine, row, whole, broken, rfl, place.symm⟩
  · rintro ⟨before, row, after, cells, rest, parts, fine, found, whole, broken, rfl, place⟩
    have first := (firstText_eq_some_iff row fault.text).2 ⟨cells, rest, found, whole, broken⟩
    rw [(firstBreak?_eq_some_iff t.rows fault.row fault.text).2 ⟨before, row, after, parts, fine, first, place.symm⟩]
    rfl

theorem exists_write_eq_error_iff (relation : String) (t : Table) :
    (∃ fault, write relation t = .error fault) ↔ ∃ row ∈ t.rows, Breaks row := by
  have whole := firstBreak?_eq_none_iff t.rows
  rw [write_eq_elim]
  cases first : firstBreak? t.rows with
  | none => simpa using whole.1 first
  | some entry =>
    simp only [first, reduceCtorEq, false_iff, not_forall, not_not, exists_prop] at whole
    exact iff_of_true ⟨_, rfl⟩ whole

theorem write_eq_ok_iff (relation : String) (t : Table) (text : String) : write relation t = .ok text ↔
    (∀ row ∈ t.rows, ¬ Breaks row) ∧ String.ofList (spell (t.rows.map fun row => row.map field)) = text := by
  rw [write_eq_elim, ← firstBreak?_eq_none_iff]
  cases firstBreak? t.rows <;> simp

theorem not_breaks_iff (cells : List Cell) : ¬ Breaks cells ↔ ∀ s, Cell.text s ∈ cells → Clean s.toList := by
  simp only [Breaks, Clean, isSeparator, not_exists, not_and, Bool.or_eq_false_iff, decide_eq_false_iff_not, not_or,
    and_assoc]

theorem write_eq_ok {t : Table} (clean : ∀ row ∈ t.rows, ∀ s, Cell.text s ∈ row → Clean s.toList) (name : String) :
    write name t = .ok (String.ofList (spell (t.rows.map fun row => row.map field))) :=
  (write_eq_ok_iff name t _).2 ⟨fun row mem => (not_breaks_iff row).2 (clean row mem), rfl⟩

end Faults

section Fields

theorem fitsInt64_toInt (n : Int64) : Number.fitsInt64 n.toInt = true := by
  have lower := n.le_toInt
  have upper := n.toInt_lt
  refine decide_eq_true ?_
  simp only [Number.int64Bound]
  omega

theorem field_int (n : Int64) : field (.int n) = intDigits n.toInt := by
  simp [field, Cell.display, intText]

theorem field_float (x : Binary64) : field (.float x) = FloatStyle.display.digits x := by
  simp [field, Cell.display, FloatStyle.write]

theorem readInt_field (n : Int64) : Number.readInt? (field (.int n)) = some n := by
  rw [field_int, readInt_intDigits (fitsInt64_toInt n), Int64.ofInt_toInt]

theorem readFloat_field (x : Binary64) :
    Number.readFloat? (field (.float x)) = some (if x.isNaN then .nan false else x) := by
  rw [field_float, FloatStyle.readFloat_digits]

theorem field_eq_nil_iff (cell : Cell) : field cell = [] ↔ cell = .null ∨ cell = .text "" := by
  cases cell with
  | null => simp [field]
  | bool b => cases b <;> simp [field, Cell.display]
  | int n => simp [ne_nil_of_readInt (readInt_field n)]
  | float x => simp [ne_nil_of_readFloat (readFloat_field x)]
  | text s => simp [field, Cell.display]

theorem clean_field {cell : Cell} (clean : ∀ s, cell = .text s → Clean s.toList) : Clean (field cell) := by
  cases cell with
  | null => simp [field, Clean]
  | bool b => cases b <;> simp [field, Cell.display, Clean, isSeparator]
  | int n => rw [field_int]; exact clean_intDigits _
  | float x => rw [field_float]; exact clean_digits _ x
  | text s => exact clean s rfl

theorem shows_field (cell : Cell) : Shows cell (field cell) := by
  cases cell <;> simp [Shows, field]

end Fields

theorem splitOn_flatMap_feed {lines : List (List Char)} (whole : ∀ line ∈ lines, '\n' ∉ line) :
    (lines.flatMap (· ++ ['\n'])).splitOn '\n' = lines ++ [[]] := by
  induction lines with
  | nil => rfl
  | cons line lines ih =>
    obtain ⟨here, later⟩ := List.forall_mem_cons.1 whole
    rw [List.flatMap_cons, List.append_assoc, List.singleton_append, List.splitOn_append_cons_self_of_not_mem here,
      ih later, List.cons_append]

theorem map_print_ne_nil {print : Cell → List Char} {t : Table} (wide : t.WellFormed) (columned : t.columns ≠ [])
    {row : Row} (mem : row ∈ t.rows) : row.map print ≠ [] := by
  have width := wide row mem
  have size := List.length_pos_of_ne_nil columned
  rw [ne_eq, List.map_eq_nil_iff, ← List.length_eq_zero_iff]
  omega

theorem renders_spell {t : Table} (wide : t.WellFormed) (whole : ∀ row ∈ t.rows, ¬ Breaks row) :
    Renders t (String.ofList (spell (t.rows.map fun row => row.map field))) := by
  have clean : ∀ row ∈ t.rows, ∀ text ∈ row.map field, Clean text := by
    intro row mem text inside
    obtain ⟨cell, cellMem, rfl⟩ := List.mem_map.1 inside
    exact clean_field fun s same => (not_breaks_iff row).1 (whole row mem) s (same ▸ cellMem)
  refine ⟨t.rows.map fun row => joined (row.map field), ?_, ?_, ?_⟩
  · rw [String.toList_ofList, spell, List.flatMap_map, List.flatMap_map]
  · have feeds : ∀ line ∈ t.rows.map (fun row => joined (row.map field)), '\n' ∉ line := by
      intro line mem
      obtain ⟨row, rowMem, rfl⟩ := List.mem_map.1 mem
      exact (not_mem_joined (clean row rowMem)).1
    rw [String.toList_ofList, ← splitOn_flatMap_feed feeds, spell, List.flatMap_map, List.flatMap_map]
  · rw [List.forall₂_map_right_iff, List.forall₂_same]
    intro row mem columned
    rw [splitOn_joined (map_print_ne_nil wide columned mem) (clean row mem), List.forall₂_map_right_iff,
      List.forall₂_same]
    exact fun cell _ => shows_field cell

/-- Writing fails just where a text holds a tab or a line break, and its message names the first row with
such a text. Otherwise the cells of the table are found again between line feeds and tabs. -/
theorem write_exact (relation : String) {t : Table} (wide : t.WellFormed) :
    ((∃ fault, write relation t = .error fault) ↔ ∃ row ∈ t.rows, Breaks row) ∧
    (∀ fault, write relation t = .error fault ↔ FirstBreak relation t fault) ∧
    (∀ fault, write relation t = .error fault → ∃ rest, fault.message =
      "relation '" ++ relation ++ "' row " ++ natText fault.row ++ ": text " ++ rest) ∧
    ∀ text, write relation t = .ok text → Renders t text := by
  refine ⟨exists_write_eq_error_iff relation t, write_eq_error_iff relation t, fun fault failed => ?_,
    fun text done => ?_⟩
  · obtain ⟨_, _, _, _, _, _, _, _, _, _, rfl, _⟩ := (write_eq_error_iff relation t fault).1 failed
    have message : fault.message = "relation '" ++ fault.relation ++ "' row " ++ natText fault.row ++ ": text " ++
        Text.quoted fault.text ++ " contains a tab or line break and cannot be written as a fact" := rfl
    exact ⟨_, by rw [message, String.append_assoc]⟩
  · obtain ⟨whole, rfl⟩ := (write_eq_ok_iff relation t text).1 done
    exact renders_spell wide whole

theorem write_exact_of_cells :
    let t : Table := ⟨["k", "v"], [[.null, .float (.nan true)], [.int (-3), .text ""], [.bool true, .text "a b"]]⟩
    let broken : Table := ⟨["s", "n"], [[.text "fine", .null], [.int 1, .text "a\tb"], [.text "c\n", .null]]⟩
    t.WellFormed ∧ write "r" t = .ok "\tNaN\n-3\t\ntrue\ta b\n" ∧ Renders t "\tNaN\n-3\t\ntrue\ta b\n" ∧
    broken.WellFormed ∧ FirstBreak "words" broken ⟨"words", 1, "a\tb"⟩ ∧ ∃ row ∈ broken.rows, Breaks row := by
  intro t broken
  have wide : t.WellFormed := by decide
  have brokenWide : broken.WellFormed := by decide
  have done : write "r" t = .ok "\tNaN\n-3\t\ntrue\ta b\n" := by decide +kernel
  have failed : write "words" broken = .error ⟨"words", 1, "a\tb"⟩ := by decide +kernel
  obtain ⟨fails, first, -, -⟩ := write_exact "words" brokenWide
  exact ⟨wide, done, (write_exact "r" wide).2.2.2 _ done, brokenWide, (first _).1 failed, fails.1 ⟨_, failed⟩⟩

end Facts

end SolutionCheck
