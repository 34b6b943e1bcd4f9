import Mathlib.Data.Nat.Cast.Field
import SolutionCheck.Logic
import SolutionCheck.Proofs.Acceptance
import SolutionCheck.Proofs.Delivery
import SolutionCheck.Proofs.ReadBack

/-!
The text that an evaluator prints for the expected rows. Whole floats are printed without a fraction,
so a column of nothing else is read as integers, which no comparison accepts for floats; and the line
of an empty text is blank and skipped. Everything else is read back as it was and accepted.
-/

namespace SolutionCheck

namespace Binary64

def wholePart (x : Binary64) : Nat :=
  x.significand * 2 ^ x.exponent.toNat / 2 ^ (-x.exponent).toNat

def isWhole (x : Binary64) : Bool :=
  x.isFinite && x.significand * 2 ^ x.exponent.toNat % 2 ^ (-x.exponent).toNat == 0

def toInt (x : Binary64) : Int := if x.negative then -x.wholePart else x.wholePart

theorem value_of_isWhole {x : Binary64} (whole : x.isWhole = true) : x.value = x.wholePart := by
  have divides : 2 ^ (-x.exponent).toNat ∣ x.significand * 2 ^ x.exponent.toNat :=
    Nat.dvd_of_mod_eq_zero (eq_of_beq (Bool.and_eq_true_iff.1 whole).2)
  have power : ((2 ^ (-x.exponent).toNat : Nat) : ℚ) ≠ 0 := by positivity
  rw [wholePart, Nat.cast_div divides power, value]
  exact (cast_shift 2 two_ne_zero x.significand x.exponent).symm

def isSmallWhole (x : Binary64) : Bool := x.isWhole && Number.fitsInt64 x.toInt

/-- A float as an evaluator prints it: no fraction is printed where there is none. -/
def printed (style : FloatStyle) (x : Binary64) : List Char :=
  if x.isWhole then signed x.negative (Nat.toDigits 10 x.wholePart) else style.digits x

theorem readFloat_printed (style : FloatStyle) {x : Binary64} (finite : x.isFinite = true) :
    Number.readFloat? (x.printed style) = some x := by
  unfold printed
  split
  · next whole => rw [readFloat_toDigits, ← value_of_isWhole whole, nearest_value finite]
  · rw [FloatStyle.readFloat_digits, isNaN_of_isFinite finite, if_neg Bool.false_ne_true]

theorem readInt_printed (style : FloatStyle) (x : Binary64) :
    Number.readInt? (x.printed style) = if x.isSmallWhole then some (.ofInt x.toInt) else none := by
  unfold printed
  split
  · next whole => rw [readInt_signed, isSmallWhole, whole, Bool.true_and, toInt]
  · next fraction => simp [FloatStyle.readInt_digits, isSmallWhole, fraction]

end Binary64

namespace Cell

theorem kind_of_variant {a b : Cell} (same : a.variant = b.variant) : a.kind = b.kind := by
  cases a <;> cases b <;> cases same <;> rfl

theorem variant_of_equivalent {a b : Cell} (same : a.equivalent b = true) : a.variant = b.variant := by
  rw [equivalent_iff] at same
  cases a <;> cases b <;> simp [representative, variant] at same ⊢

def isFiniteFloat : Cell → Bool
  | float x => x.isFinite
  | _ => false

def isSmallWhole : Cell → Bool
  | float x => x.isSmallWhole
  | _ => false

end Cell

namespace Facts

/-- The field that an evaluator prints for a cell, other floats than the whole ones in some style. -/
def printed (style : FloatStyle) : Cell → List Char
  | .float x => x.printed style
  | cell => field cell

def printedText (style : FloatStyle) (t : Table) : String :=
  String.ofList (spell (t.rows.map fun row => row.map (printed style)))

theorem printed_eq_field (style : FloatStyle) (cell : Cell) (other : cell.variant ≠ .float) :
    printed style cell = field cell := by
  cases cell with
  | float x => exact absurd rfl other
  | _ => rfl

theorem clean_printed (style : FloatStyle) {cell : Cell} (clean : ∀ s, cell = .text s → Clean s.toList) :
    Clean (printed style cell) := by
  cases cell with
  | float x =>
    simp only [printed, Binary64.printed]
    split
    · exact clean_signed _ (clean_toDigits _)
    · exact clean_digits style x
  | _ => exact clean_field clean

theorem printed_eq_nil_iff (style : FloatStyle) (cell : Cell) :
    printed style cell = [] ↔ cell = .null ∨ cell = .text "" := by
  cases cell with
  | float x =>
    simp only [reduceCtorEq, or_self, iff_false, printed, Binary64.printed]
    split
    · exact ne_nil_of_readFloat (readFloat_toDigits _ _)
    · exact ne_nil_of_readFloat (style.readFloat_digits x)
  | _ => rw [printed_eq_field style _ (by simp [Cell.variant]), field_eq_nil_iff]

theorem read_wellFormed {schema : Schema} {text : String} {u : Table} (done : read schema text = .ok u) :
    u.WellFormed := by
  simp only [read] at done
  split at done
  · cases done
  · next fit =>
    cases done
    intro row mem
    obtain ⟨fields, inside, rfl⟩ := List.mem_map.1 mem
    obtain ⟨entry, entryMem, rfl⟩ := List.mem_map.1 inside
    have width : entry.2.length = schema.length := by simpa using List.find?_eq_none.1 fit entry entryMem
    simp [cellsOf, width]

end Facts

/-- The table has rows and columns, every column is of one type, without values that have no decimal,
and texts can be fields. -/
structure Table.Printable (t : Table) : Prop where
  wide : t.WellFormed
  columned : t.columns ≠ []
  filled : t.rows ≠ []
  columns : ∀ index < t.columns.length, (∀ cell ∈ t.cellsAt index, cell.variant = .int) ∨
    (∀ cell ∈ t.cellsAt index, cell.isFiniteFloat = true) ∨ ∀ cell ∈ t.cellsAt index, cell.variant = .text
  clean : ∀ row ∈ t.rows, ∀ s, Cell.text s ∈ row → Facts.Clean s.toList

theorem Answer.wellFormed_of_toTable {e : Answer} (wide : e.toTable.WellFormed) : e.WellFormed := by
  cases e with
  | table t => exact wide
  | _ => trivial

theorem rows_of_accepted [Sorting] {e : Answer} {u : Table} (wide : e.toTable.WellFormed) (other : u.WellFormed)
    (accepted : checkEquals e (.table u) = .ok ()) :
    e.toTable.rows.length = u.rows.length ∧ ∀ row ∈ e.toTable.rows, ∃ found ∈ u.rows, Row.Equivalent row found := by
  obtain ⟨_, -, -, -, -, s, esorted, t, usorted, rows⟩ :=
    (matches_iff wide other).1 ((checkEquals_eq_ok_iff _ _).1 accepted)
  have expected := (Table.arrangedOn_rearranges esorted).rows
  have actual := (Table.arrangedOn_rearranges usorted).rows
  refine ⟨by rw [← expected.length_eq, rows.length_eq, actual.length_eq], fun row mem => ?_⟩
  obtain ⟨size, related⟩ := List.forall₂_iff_get.1 rows
  obtain ⟨index, inside, rfl⟩ := List.getElem_of_mem (expected.mem_iff.2 mem)
  have inside' : index < t.rows.length := size ▸ inside
  exact ⟨_, actual.mem_iff.1 (List.getElem_mem inside'), related index inside inside'⟩

namespace Facts

section Columns

variable {t : Table} {index : Nat} {cell : Cell} (style : FloatStyle)

theorem hold_of_forall {variant : Variant} (filled : t.rows ≠ []) (same : ∀ cell ∈ t.cellsAt index, cell.variant = variant) :
    Cell.Hold variant (t.cellsAt index) := by
  refine ⟨fun cell mem => .inl (same cell mem), ?_⟩
  obtain ⟨row, rest, rows⟩ := List.exists_cons_of_ne_nil filled
  have mem : Table.cellAt row index ∈ t.cellsAt index := by simp [Table.cellsAt, rows]
  exact ⟨_, mem, same _ mem⟩

theorem variant_of_isFiniteFloat (finite : cell.isFiniteFloat = true) : cell.variant = .float := by
  cases cell with
  | float x => rfl
  | _ => cases finite

theorem variant_of_isSmallWhole (whole : cell.isSmallWhole = true) : cell.variant = .float := by
  cases cell with
  | float x => rfl
  | _ => cases whole

theorem integral_printed {cells : List Cell} (floats : ∀ cell ∈ cells, cell.variant = .float) :
    integral (printed style) cells = cells.all Cell.isSmallWhole := by
  rw [integral, Bool.eq_iff_iff, List.all_eq_true, List.all_eq_true]
  refine forall₂_congr fun cell mem => ?_
  have float := floats cell mem
  cases cell with
  | float x =>
    have filled : printed style (.float x) ≠ [] := by simp [printed_eq_nil_iff]
    have reads : Number.readInt? (printed style (.float x)) = _ := x.readInt_printed style
    simp [filled, reads, Cell.isSmallWhole]
  | _ => cases float

theorem reread_printed_of_floats (filled : t.rows ≠ [])
    (floats : ∀ cell ∈ t.cellsAt index, cell.isFiniteFloat = true)
    (mixed : ∃ cell ∈ t.cellsAt index, cell.isSmallWhole = false) (mem : cell ∈ t.cellsAt index) :
    reread (printed style) t index cell = cell := by
  have variants : ∀ cell ∈ t.cellsAt index, cell.variant = .float := fun cell mem =>
    variant_of_isFiniteFloat (floats cell mem)
  have apart : integral (printed style) (t.cellsAt index) = false := by
    obtain ⟨other, inside, fraction⟩ := mixed
    rw [integral_printed style variants]
    exact List.all_eq_false.2 ⟨other, inside, by simp [fraction]⟩
  have finite := floats cell mem
  cases cell with
  | float x => exact reread_of_floats (hold_of_forall filled variants) apart (x.readFloat_printed style finite)
  | _ => cases finite

theorem reread_printed_of_wholes (filled : t.rows ≠ [])
    (wholes : ∀ cell ∈ t.cellsAt index, cell.isSmallWhole = true) (mem : cell ∈ t.cellsAt index) :
    (reread (printed style) t index cell).variant = .int := by
  have variants : ∀ cell ∈ t.cellsAt index, cell.variant = .float := fun cell mem =>
    variant_of_isSmallWhole (wholes cell mem)
  have whole := wholes cell mem
  have value := infer_of_hold (.inr rfl) (hold_of_forall filled variants)
  cases cell with
  | float x =>
    have reads : Number.readInt? (printed style (.float x)) = some (.ofInt x.toInt) := by
      have small : x.isSmallWhole = true := whole
      rw [printed, x.readInt_printed style, if_pos small]
    rw [reread, integral_printed style variants, List.all_eq_true.2 wholes, FactType.cellOf_integral value reads]
    rfl
  | _ => cases whole

end Columns

theorem mapIdx_reread {t : Table} {print : Cell → List Char} (wide : t.WellFormed)
    (same : ∀ index < t.columns.length, ∀ cell ∈ t.cellsAt index, reread print t index cell = cell) {row : Row}
    (mem : row ∈ t.rows) : row.mapIdx (reread print t) = row := by
  refine List.ext_getElem (by simp) fun index h _ => ?_
  have inside : index < t.columns.length := by
    rw [← wide row mem]
    simpa using h
  obtain ⟨_, -, here⟩ := Table.cellsAt_eq wide inside mem
  rw [List.getElem_mapIdx, same index inside _ here]

theorem not_bridged_of_variant {cells : List Cell} {variant : Variant}
    (same : ∀ cell ∈ cells, cell.variant = variant) : ¬ Bridged cells := by
  rintro ⟨x, hx, a, ha, -, -, -, rounds, -⟩
  have alike := (same a ha).trans (same x hx).symm
  cases a <;> cases x <;> first | exact rounds.elim | cases alike

theorem sortable_of_printable [Sorting] {t : Table} (printable : t.Printable) : t.Sortable := by
  obtain ⟨key, rest, columns⟩ := List.exists_cons_of_ne_nil printable.columned
  have head : t.columns.head? = some key := by rw [columns]; rfl
  have size : 0 < t.columns.length := List.length_pos_of_ne_nil printable.columned
  have cells : t.cellsUnder key = t.cellsAt 0 := Table.cellsUnder_eq (Table.columnIndex?_of_head? head)
  have variants : ∃ variant, ∀ cell ∈ t.cellsAt 0, cell.variant = variant := by
    rcases printable.columns 0 size with ints | floats | texts
    · exact ⟨.int, ints⟩
    · exact ⟨.float, fun cell mem => variant_of_isFiniteFloat (floats cell mem)⟩
    · exact ⟨.text, texts⟩
  obtain ⟨variant, same⟩ := variants
  have orderable : t.Orderable := ⟨key, head, cells ▸ fun a ha b hb _ _ =>
    Cell.kind_of_variant ((same a ha).trans (same b hb).symm)⟩
  refine orderable.sortable ?_
  rintro ⟨other, head', bridged⟩
  cases Option.some.inj (head.symm.trans head')
  exact not_bridged_of_variant same (cells ▸ bridged)

theorem map_printed_eq_blank_iff (style : FloatStyle) {t : Table} (printable : t.Printable) {row : Row}
    (mem : row ∈ t.rows) : row.map (printed style) = [[]] ↔ row = [.text ""] := by
  constructor
  · intro blank
    obtain ⟨cell, rfl, empty⟩ := List.map_eq_singleton_iff.1 blank
    rcases (printed_eq_nil_iff style cell).1 empty with rfl | rfl
    · have single : 0 < t.columns.length := (printable.wide _ mem) ▸ Nat.one_pos
      have here : Cell.null ∈ t.cellsAt 0 := List.mem_map_of_mem mem
      rcases printable.columns 0 single with ints | floats | texts
      · cases ints _ here
      · cases floats _ here
      · cases texts _ here
    · rfl
  · rintro rfl
    rfl

theorem not_accepted_of_wholes [Sorting] (style : FloatStyle) {e : Answer} (printable : e.toTable.Printable) {index : Nat}
    (inside : index < e.toTable.columns.length)
    (wholes : ∀ cell ∈ e.toTable.cellsAt index, cell.isSmallWhole = true) {u : Table} (other : u.WellFormed)
    (rows : u.rows = e.toTable.rows.map fun row => row.mapIdx (reread (printed style) e.toTable)) :
    checkEquals e (.table u) ≠ .ok () := by
  intro accepted
  have wide := printable.wide
  obtain ⟨row, rest, split⟩ := List.exists_cons_of_ne_nil printable.filled
  have mem : row ∈ e.toTable.rows := by simp [split]
  obtain ⟨found, foundMem, equivalent⟩ := (rows_of_accepted wide other accepted).2 row mem
  rw [rows] at foundMem
  obtain ⟨source, sourceMem, rfl⟩ := List.mem_map.1 foundMem
  obtain ⟨h, -, here⟩ := Table.cellsAt_eq wide inside mem
  obtain ⟨h', -, there⟩ := Table.cellsAt_eq wide inside sourceMem
  have cells := (List.forall₂_iff_get.1 equivalent).2 index h (by simpa using h')
  simp only [List.get_eq_getElem, List.getElem_mapIdx] at cells
  have float := variant_of_isSmallWhole (wholes _ here)
  have int := reread_printed_of_wholes style printable.filled wholes there
  cases float.symm.trans ((Cell.variant_of_equivalent cells).trans int)

/-- The printed rows of an expected answer are always read, and accepted for it unless a column holds
nothing but whole floats that fit in 64 bits, or the only column holds an empty text. -/
theorem checkEquals_printed [Sorting] (style : FloatStyle) {e : Answer} (printable : e.toTable.Printable) :
    ∃ u, read (Logic.answerSchema e) (printedText style e.toTable) = .ok u ∧
      (checkEquals e (.table u) = .ok () ↔
        (∀ index < e.toTable.columns.length, ∃ cell ∈ e.toTable.cellsAt index, cell.isSmallWhole = false) ∧
          (e.toTable.columns.length = 1 → [.text ""] ∉ e.toTable.rows)) := by
  have wide := printable.wide
  have clean : ∀ row ∈ e.toTable.rows, ∀ cell ∈ row, Clean (printed style cell) := fun row mem cell inside =>
    clean_printed style fun s text => printable.clean row mem s (text ▸ inside)
  by_cases blank : [.text ""] ∈ e.toTable.rows
  · have empty := (map_printed_eq_blank_iff style printable blank).2 rfl
    obtain ⟨u, done, fewer⟩ := read_print_of_blank wide printable.columned clean blank empty
    refine ⟨u, done, iff_of_false (fun accepted => ?_) (fun kept => kept.2 (wide _ blank).symm blank)⟩
    have size := (rows_of_accepted wide (read_wellFormed done) accepted).1
    omega
  · have filled : ∀ row ∈ e.toTable.rows, row.map (printed style) ≠ [[]] := fun row mem empty =>
      blank ((map_printed_eq_blank_iff style printable mem).1 empty ▸ mem)
    have done := read_print wide printable.columned clean filled
    refine ⟨_, done, ?_⟩
    by_cases whole : ∃ index < e.toTable.columns.length, ∀ cell ∈ e.toTable.cellsAt index, cell.isSmallWhole = true
    · obtain ⟨index, inside, wholes⟩ := whole
      refine iff_of_false (not_accepted_of_wholes style printable inside wholes (read_wellFormed done) rfl) ?_
      rintro ⟨kept, -⟩
      obtain ⟨cell, mem, fraction⟩ := kept index inside
      cases fraction.symm.trans (wholes cell mem)
    · have kept : ∀ index < e.toTable.columns.length, ∃ cell ∈ e.toTable.cellsAt index, cell.isSmallWhole = false := by
        simpa using whole
      refine iff_of_true ?_ ⟨kept, fun _ => blank⟩
      have same : ∀ index < e.toTable.columns.length, ∀ cell ∈ e.toTable.cellsAt index,
          reread (printed style) e.toTable index cell = cell := by
        intro index inside cell mem
        rcases printable.columns index inside with ints | floats | texts
        · exact reread_of_ints (printed_eq_field style) (hold_of_forall printable.filled ints) mem
        · exact reread_printed_of_floats style printable.filled floats (kept index inside) mem
        · exact reread_of_texts (printed_eq_field style) texts mem
      have rows : e.toTable.rows.map (fun row => row.mapIdx (reread (printed style) e.toTable)) = e.toTable.rows :=
        (List.map_congr_left fun row mem => mapIdx_reread wide same mem).trans (List.map_id _)
      have itself : checkEquals e e = .ok () :=
        (checkEquals_self_iff (Answer.wellFormed_of_toTable wide)).2 (sortable_of_printable printable)
      rw [rows]
      exact (checkEquals_congr e rfl).trans itself

theorem checkEquals_printed_of_mixed :
    letI := Sorting.guarded
    let e : Answer := .table ⟨["k", "v", "s"], [[.int 2, .float ⟨false, 0x4000000000000000⟩, .text ""],
      [.int (-3), .float ⟨true, 0x3FE0000000000000⟩, .text "b"]]⟩
    printedText .display e.toTable = "2\t2\t\n-3\t-0.5\tb\n" ∧ e.toTable.Printable ∧
      ∃ u, read (Logic.answerSchema e) (printedText .display e.toTable) = .ok u ∧
        checkEquals e (.table u) = .ok () := by
  let _ := Sorting.guarded
  intro e
  have printable : e.toTable.Printable := by
    refine ⟨by decide, by decide, by decide, ?_, ?_⟩
    · have kinds : ∀ index < 3, (∀ cell ∈ e.toTable.cellsAt index, cell.variant = .int) ∨
          (∀ cell ∈ e.toTable.cellsAt index, cell.isFiniteFloat = true) ∨
            ∀ cell ∈ e.toTable.cellsAt index, cell.variant = .text := by
        decide
      exact kinds
    · simp [e, Answer.toTable, Clean, isSeparator]
  obtain ⟨u, done, accepted⟩ := checkEquals_printed .display printable
  have kept : ∀ index < 3, ∃ cell ∈ e.toTable.cellsAt index, cell.isSmallWhole = false := by decide
  exact ⟨by decide +kernel, printable, u, done, accepted.2 ⟨kept, by decide⟩⟩

/-- The rows of an answer of whole floats are printed without points and refused. -/
theorem checkEquals_printed_refused :
    letI := Sorting.guarded
    let e : Answer := .sequence [.float ⟨false, 0x4000000000000000⟩, .float ⟨false, 0x4008000000000000⟩]
    e.toTable.Printable ∧ printedText .display e.toTable = "2\n3\n" ∧
      read (Logic.answerSchema e) "2\n3\n" = .ok ⟨["0"], [[.int 2], [.int 3]]⟩ ∧
      checkEquals e (.table ⟨["0"], [[.int 2], [.int 3]]⟩) ≠ .ok () := by
  let _ := Sorting.guarded
  intro e
  refine ⟨⟨by decide, by decide, by decide, ?_, by simp [e, Answer.toTable, Table.ofColumn]⟩,
    by decide +kernel, by decide +kernel, (checkEquals_eq_ok_iff _ _).not.2 (by decide +kernel)⟩
  have kinds : ∀ index < 1, (∀ cell ∈ e.toTable.cellsAt index, cell.variant = .int) ∨
      (∀ cell ∈ e.toTable.cellsAt index, cell.isFiniteFloat = true) ∨
        ∀ cell ∈ e.toTable.cellsAt index, cell.variant = .text := by
    decide
  exact kinds

end Facts

end SolutionCheck
