import SolutionCheck.Proofs.RowOrder
import SolutionCheck.Proofs.Acceptance

/-!
Tables whose rows are equivalent pair by pair as they arrive, with no float that bridges two integers in the
leading column. Sorting keeps the pairs together where the two leading columns are ordered alike, and only
there when no two rows are equivalent. Equivalent cells need not be ordered alike: the zeros are equivalent,
and so are the values that are no number, yet the order of cells tells them apart.
-/

namespace SolutionCheck

open Table Comparison

/-- In two columns of one length, a later cell counts as smaller than an earlier one in both or in
neither. -/
def OrderedAlike (cells others : List Cell) : Prop :=
  (cells.zip others).Pairwise fun earlier later =>
    orderCells later.1 earlier.1 = .lt ↔ orderCells later.2 earlier.2 = .lt

instance (cells others : List Cell) : Decidable (OrderedAlike cells others) :=
  inferInstanceAs (Decidable ((cells.zip others).Pairwise fun earlier later =>
    orderCells later.1 earlier.1 = .lt ↔ orderCells later.2 earlier.2 = .lt))

theorem orderedAlike_self (cells : List Cell) : OrderedAlike cells cells := by
  have pairs : cells.zip cells = cells.map fun cell => (cell, cell) := by
    simpa using List.zip_map' (f := id) (g := id) (l := cells)
  rw [OrderedAlike, pairs, List.pairwise_map]
  exact List.pairwise_of_forall fun _ _ => Iff.rfl

namespace Cell

/-- Another cell is equivalent to this one: it is a float, and a zero or no number. -/
def HasTwin : Cell → Prop
  | float x => x.isZero = true ∨ x.isNaN = true
  | _ => False

instance : DecidablePred HasTwin
  | .float x => inferInstanceAs (Decidable (x.isZero = true ∨ x.isNaN = true))
  | .null | .bool _ | .int _ | .text _ => isFalse id

theorem eq_of_equivalent {a b : Cell} (alone : ¬ a.HasTwin) (related : a.equivalent b = true) :
    a = b := by
  cases a with
  | float x =>
    cases b with
    | float y =>
      simp only [HasTwin, not_or, Bool.not_eq_true] at alone
      simp only [equivalent, Binary64.equals, alone, Bool.false_and, Bool.false_or, Bool.or_false,
        Bool.and_eq_true, beq_iff_eq] at related
      rw [related.2]
    | _ => cases related
  | _ => exact IsExact.eq_of_equivalent trivial related

end Cell

theorem not_hasTwin_of_roundsTo {x a b : Cell} (different : a ≠ b) (ax : a.RoundsTo x) (bx : b.RoundsTo x) :
    ¬ x.HasTwin := by
  obtain ⟨m, f, rfl, rfl⟩ : ∃ m f, a = .int m ∧ x = .float f := by
    cases a <;> cases x <;> first | exact ax.elim | exact ⟨_, _, rfl, rfl⟩
  obtain ⟨n, rfl⟩ : ∃ n, b = .int n := by
    cases b <;> first | exact bx.elim | exact ⟨_, rfl⟩
  have nearest : Binary64.ofInt m.toInt = f := ax
  have nearest' : Binary64.ofInt n.toInt = f := bx
  rintro (zero | notNumber)
  · have isZero {k : Int64} (rounds : Binary64.ofInt k.toInt = f) : k.toInt = 0 := by
      by_contra nonzero
      rw [← rounds, Binary64.isZero_ofInt nonzero] at zero
      cases zero
    exact different (congrArg Cell.int (Int64.toInt_inj.1 ((isZero nearest).trans (isZero nearest').symm)))
  · rw [← nearest, Binary64.isNaN_ofInt] at notNumber
    cases notNumber

theorem Bridged.of_equivalent {cells others : List Cell}
    (same : cells.map Cell.representative = others.map Cell.representative) (bridged : Bridged cells) :
    Bridged others := by
  obtain ⟨x, hx, a, ha, b, hb, different, ax, bx⟩ := bridged
  have kept {cell : Cell} (mem : cell ∈ cells) (alone : ¬ cell.HasTwin) : cell ∈ others := by
    have shown : cell.representative ∈ others.map Cell.representative := same ▸ List.mem_map_of_mem mem
    obtain ⟨other, mem', alike⟩ := List.mem_map.1 shown
    exact Cell.eq_of_equivalent alone ((Cell.equivalent_iff _ _).2 alike.symm) ▸ mem'
  have exact {cell : Cell} (rounds : cell.RoundsTo x) : ¬ cell.HasTwin := by
    cases cell <;> first | exact rounds.elim | exact id
  exact ⟨x, kept hx (not_hasTwin_of_roundsTo different ax bx), a, kept ha (exact ax), b, kept hb (exact bx),
    different, ax, bx⟩

def orderLeft (a b : Row × Row) : Ordering := orderRows 0 a.1 b.1

def orderRight (a b : Row × Row) : Ordering := orderRows 0 a.2 b.2

section

variable {expected actual : Table}

theorem rows_sortedAt_zip (size : expected.rows.length = actual.rows.length) :
    (expected.sortedAt 0).rows = (sortBy orderLeft (expected.rows.zip actual.rows)).map Prod.fst ∧
    (actual.sortedAt 0).rows = (sortBy orderRight (expected.rows.zip actual.rows)).map Prod.snd := by
  have left : (expected.rows.zip actual.rows).map Prod.fst = expected.rows :=
    List.map_fst_zip size.le
  have right : (expected.rows.zip actual.rows).map Prod.snd = actual.rows :=
    List.map_snd_zip size.ge
  constructor
  · rw [sortedAt]
    conv_lhs => rw [← left]
    exact sortBy_map Prod.fst _
  · rw [sortedAt]
    conv_lhs => rw [← right]
    exact sortBy_map Prod.snd _

/-- Where no two rows are equivalent, a match leaves every row beside the one it arrived with. -/
theorem sorted_eq_of_rows_sortedAt (rows : List.Forall₂ Row.Equivalent expected.rows actual.rows)
    (distinct : expected.rows.Pairwise fun a b => ¬ Row.Equivalent a b)
    (matched : List.Forall₂ Row.Equivalent (expected.sortedAt 0).rows (actual.sortedAt 0).rows) :
    sortBy orderLeft (expected.rows.zip actual.rows) =
      sortBy orderRight (expected.rows.zip actual.rows) := by
  obtain ⟨left, right⟩ := rows_sortedAt_zip rows.length_eq
  rw [left, right, List.forall₂_map_left_iff, List.forall₂_map_right_iff] at matched
  have firsts : (expected.rows.zip actual.rows).map Prod.fst = expected.rows :=
    List.map_fst_zip rows.length_eq.le
  have apart : (expected.rows.zip actual.rows).Pairwise fun a b => ¬ Row.Equivalent a.1 b.1 := by
    rw [← firsts] at distinct
    exact List.pairwise_map.1 distinct
  obtain ⟨size, related⟩ := List.forall₂_iff_zip.1 matched
  rw [← List.forall₂_eq_eq_eq]
  refine List.forall₂_iff_zip.2 ⟨size, fun {a b} mem => ?_⟩
  obtain ⟨amem, bmem⟩ := List.of_mem_zip mem
  have amem := (sortBy_perm orderLeft _).mem_iff.1 amem
  have bmem := (sortBy_perm orderRight _).mem_iff.1 bmem
  have cross := (Row.equivalent_iff _ _).1 (related mem)
  have straight := (Row.equivalent_iff _ _).1 ((List.forall₂_iff_zip.1 rows).2 bmem)
  have same : Row.Equivalent a.1 b.1 := (Row.equivalent_iff _ _).2 (cross.trans straight.symm)
  have same' : Row.Equivalent b.1 a.1 := (Row.equivalent_iff _ _).2 (straight.trans cross.symm)
  by_contra different
  rcases sublist_or_sublist amem bmem different with kept | turned
  · exact List.pairwise_iff_forall_sublist.1 apart kept same
  · exact List.pairwise_iff_forall_sublist.1 apart turned same'

variable {key : String} (ehead : expected.columns.head? = some key) (ahead : actual.columns.head? = some key)

include ehead ahead

theorem orderedAlike_cellsUnder_iff :
    OrderedAlike (expected.cellsUnder key) (actual.cellsUnder key) ↔
      (expected.rows.zip actual.rows).Pairwise fun earlier later =>
        orderLeft later earlier = .lt ↔ orderRight later earlier = .lt := by
  rw [cellsUnder_eq (columnIndex?_of_head? ehead), cellsUnder_eq (columnIndex?_of_head? ahead),
    OrderedAlike, List.zip_map, List.pairwise_map]
  rfl

theorem rows_sortedAt_of_orderedAlike (rows : List.Forall₂ Row.Equivalent expected.rows actual.rows)
    (alike : OrderedAlike (expected.cellsUnder key) (actual.cellsUnder key)) :
    List.Forall₂ Row.Equivalent (expected.sortedAt 0).rows (actual.sortedAt 0).rows := by
  obtain ⟨left, right⟩ := rows_sortedAt_zip rows.length_eq
  have same := sortBy_congr ((orderedAlike_cellsUnder_iff ehead ahead).1 alike)
  rw [left, right, same, List.forall₂_map_left_iff, List.forall₂_map_right_iff, List.forall₂_same]
  intro pair mem
  exact (List.forall₂_iff_zip.1 rows).2 ((sortBy_perm orderRight _).mem_iff.1 mem)

theorem map_representative_cellsUnder (rows : List.Forall₂ Row.Equivalent expected.rows actual.rows) :
    (expected.cellsUnder key).map Cell.representative =
    (actual.cellsUnder key).map Cell.representative := by
  rw [cellsUnder_eq (columnIndex?_of_head? ehead), cellsUnder_eq (columnIndex?_of_head? ahead), List.map_map,
    List.map_map, ← forall₂_iff_map_eq]
  exact rows.imp fun a b related => (Cell.equivalent_iff _ _).1 (related.cellAt 0)

theorem orderedAlike_of_sorted_eq
    (expectedPreorder : TotalPreorderOn orderCells (· ∈ expected.cellsUnder key))
    (actualPreorder : TotalPreorderOn orderCells (· ∈ actual.cellsUnder key))
    (sorted : sortBy orderLeft (expected.rows.zip actual.rows) =
      sortBy orderRight (expected.rows.zip actual.rows)) :
    OrderedAlike (expected.cellsUnder key) (actual.cellsUnder key) := by
  rw [orderedAlike_cellsUnder_iff ehead ahead, List.pairwise_iff_forall_sublist]
  rw [cellsUnder_eq (columnIndex?_of_head? ehead)] at expectedPreorder
  rw [cellsUnder_eq (columnIndex?_of_head? ahead)] at actualPreorder
  have left : TotalPreorderOn orderLeft (· ∈ expected.rows.zip actual.rows) :=
    ((totalPreorderOn_orderRows expectedPreorder).comap Prod.fst).mono fun _ mem => (List.of_mem_zip mem).1
  have right : TotalPreorderOn orderRight (· ∈ expected.rows.zip actual.rows) :=
    ((totalPreorderOn_orderRows actualPreorder).comap Prod.snd).mono fun _ mem => (List.of_mem_zip mem).2
  intro earlier later arrival
  exact ⟨fun smaller => lt_of_sortBy_eq left right (fun _ mem => mem) sorted arrival smaller,
    fun smaller => lt_of_sortBy_eq right left (fun _ mem => mem) sorted.symm arrival smaller⟩

end

/-- Tables of one list of columns, with rows that are equivalent pair by pair as they arrive and no float that
bridges two integers of the leading column, match if their leading columns are ordered alike, and if no two
rows are equivalent only then. Leading columns without a zero or a value that is no number among their floats
are always ordered alike. -/
theorem isMatch_of_equivalent_arrival [Sorting] (expected actual : Table) (ewide : expected.WellFormed)
    (awide : actual.WellFormed) (columns : expected.columns = actual.columns) {key : String}
    (head : expected.columns.head? = some key) (ekind : OfOneKind (expected.cellsUnder key))
    (akind : OfOneKind (actual.cellsUnder key)) (unbridged : ¬ Bridged (expected.cellsUnder key))
    (rows : List.Forall₂ Row.Equivalent expected.rows actual.rows) :
    ∃ c, compareTables expected actual = some c ∧
      (OrderedAlike (expected.cellsUnder key) (actual.cellsUnder key) → c.isMatch = true) ∧
      ((expected.rows.Pairwise fun a b => ¬ Row.Equivalent a b) → c.isMatch = true →
        OrderedAlike (expected.cellsUnder key) (actual.cellsUnder key)) ∧
      ((∀ cell ∈ expected.cellsUnder key, ¬ cell.HasTwin) → c.isMatch = true) := by
  have ahead : actual.columns.head? = some key := columns ▸ head
  have representatives := map_representative_cellsUnder head ahead rows
  have expectedPreorder := totalPreorderOn_of_unbridged ekind unbridged
  have actualPreorder := totalPreorderOn_of_unbridged akind
    fun bridged => unbridged (bridged.of_equivalent representatives.symm)
  have esorted := arrangedOn_of_preorder (columnIndex?_of_head? head) expectedPreorder
  have asorted := arrangedOn_of_preorder (columnIndex?_of_head? ahead) actualPreorder
  have comparable : ComparableOn key expected actual :=
    ⟨head, by simp [columnIndex?_of_head? ahead], ekind, akind⟩
  have compared := comparable.compareTables_eq
  rw [esorted, asorted] at compared
  have matched : (difference? (expected.sortedAt 0) (actual.sortedAt 0)).isNone = true ↔
      List.Forall₂ Row.Equivalent (expected.sortedAt 0).rows (actual.sortedAt 0).rows := by
    rw [Option.isNone_iff_eq_none, difference?_eq_none_iff ((expected.sortedAt_rearranges 0).wellFormed ewide)
      ((actual.sortedAt_rearranges 0).wellFormed awide)]
    exact and_iff_right columns
  have matches_of_alike (alike : OrderedAlike (expected.cellsUnder key) (actual.cellsUnder key)) :=
    matched.2 (rows_sortedAt_of_orderedAlike head ahead rows alike)
  refine ⟨_, compared, matches_of_alike, fun distinct agrees => ?_, fun alone => matches_of_alike ?_⟩
  · exact orderedAlike_of_sorted_eq head ahead expectedPreorder actualPreorder
      (sorted_eq_of_rows_sortedAt rows distinct (matched.1 agrees))
  · have same : expected.cellsUnder key = actual.cellsUnder key := by
      rw [← List.forall₂_eq_eq_eq]
      rw [← forall₂_iff_map_eq] at representatives
      refine List.forall₂_iff_zip.2 ⟨representatives.length_eq, fun {a b} mem => ?_⟩
      exact Cell.eq_of_equivalent (alone _ (List.of_mem_zip mem).1)
        ((Cell.equivalent_iff _ _).2 ((List.forall₂_iff_zip.1 representatives).2 mem))
    rw [← same]
    exact orderedAlike_self _

theorem isMatch_of_equivalent_arrival_of_numbers :
    letI := Sorting.guarded
    let expected : Table := ⟨["k", "v"], [[.float (.zero true), .null], [.null, .float (.nan false)],
      [.float (.zero true), .text "b"], [.int (-2), .int 7]]⟩
    let actual : Table := ⟨["k", "v"], [[.float (.zero false), .null], [.null, .float (.nan true)],
      [.float (.zero false), .text "b"], [.int (-2), .int 7]]⟩
    let plain : Table := ⟨["k", "v"], [[.float (.ofInt 3), .float (.zero true)], [.int 2, .null]]⟩
    let plain' : Table := ⟨["k", "v"], [[.float (.ofInt 3), .float (.zero false)], [.int 2, .null]]⟩
    OrderedAlike (expected.cellsUnder "k") (actual.cellsUnder "k") ∧
      (expected.rows.Pairwise fun a b => ¬ Row.Equivalent a b) ∧ Matches expected actual ∧
      (∀ cell ∈ plain.cellsUnder "k", ¬ cell.HasTwin) ∧ Matches plain plain' := by
  let _ := Sorting.guarded
  intro expected actual plain plain'
  have rows : List.Forall₂ Row.Equivalent expected.rows actual.rows := by
    rw [rows_equivalent_iff]; decide +kernel
  have rows' : List.Forall₂ Row.Equivalent plain.rows plain'.rows := by
    rw [rows_equivalent_iff]; decide +kernel
  have distinct : expected.rows.Pairwise fun a b => ¬ Row.Equivalent a b := by
    simp only [Row.equivalent_iff]; decide +kernel
  obtain ⟨c, compared, sufficient, necessary, -⟩ := isMatch_of_equivalent_arrival expected actual (by decide)
    (by decide) rfl rfl (by decide +kernel) (by decide +kernel) (by decide +kernel) rows
  obtain ⟨c', compared', -, -, untwinned⟩ := isMatch_of_equivalent_arrival plain plain' (by decide) (by decide)
    rfl rfl (by decide +kernel) (by decide +kernel) (by decide +kernel) rows'
  have alike : OrderedAlike (expected.cellsUnder "k") (actual.cellsUnder "k") := by decide +kernel
  have alone : ∀ cell ∈ plain.cellsUnder "k", ¬ cell.HasTwin := by decide +kernel
  have matched := sufficient alike
  have matched' := untwinned alone
  rw [Matches, Matches, compared, compared']
  exact ⟨necessary distinct matched, distinct, matched, alone, matched'⟩

/-- The zeros are equivalent and sorted apart, so rows that arrive pairwise equivalent need not match. -/
theorem not_isMatch_of_zeros :
    letI := Sorting.guarded
    let expected : Table := ⟨["k", "v"], [[.float (.zero false), .int 1], [.float (.zero true), .int 2]]⟩
    let actual : Table := ⟨["k", "v"], [[.float (.zero true), .int 1], [.float (.zero false), .int 2]]⟩
    expected.WellFormed ∧ actual.WellFormed ∧ expected.columns = actual.columns ∧
      OfOneKind (expected.cellsUnder "k") ∧ OfOneKind (actual.cellsUnder "k") ∧
      List.Forall₂ Row.Equivalent expected.rows actual.rows ∧
      ∃ c, compareTables expected actual = some c ∧ c.isMatch = false := by
  let _ := Sorting.guarded
  intro expected actual
  refine ⟨by decide, by decide, rfl, by decide +kernel, by decide +kernel, ?_, _, rfl, by decide +kernel⟩
  rw [rows_equivalent_iff]
  decide +kernel

end SolutionCheck
