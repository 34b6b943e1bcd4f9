import Mathlib.Data.List.Pairwise
import SolutionCheck.Proofs.Comparison

/-!
The part that the order of rows plays in a comparison. On key columns without floats the verdict is
read off the unsorted tables: the rows of every key must be equivalent in their order of arrival.
Where no two keys tie, floats included, rearranging the rows changes neither the verdict nor, as long
as the tables can be sorted, anything else that the comparison returns.
-/

namespace SolutionCheck

open Table Comparison

/-- The first cell may stand before the second in an ascending column, where nothing stands last. -/
def Cell.MayPrecede (a b : Cell) : Prop :=
  b.isNull = true ∨ a.compare? b = some .lt ∨ a.compare? b = some .eq

theorem mayPrecede_of_orderCells {a b : Cell}
    (same : a.isNull = false → b.isNull = false → a.kind = b.kind) (le : orderCells a b ≠ .gt) :
    a.MayPrecede b := by
  rcases orderCells_cases same with ⟨_, nothing, _⟩ | ⟨_, _, gt⟩ | ⟨_, nothing, _⟩ | ⟨_, _, order⟩
  · exact Or.inl nothing
  · exact absurd gt le
  · exact Or.inl nothing
  · refine Or.inr ?_
    cases h : orderCells a b <;> simp_all

/-- A table sorted on a column: ascending there, with rows of one cell in their order of arrival. -/
structure Table.SortedFrom (key : String) (t s : Table) : Prop where
  rearranges : s.Rearranges t
  ascending : (s.cellsUnder key).Pairwise Cell.MayPrecede
  arrival : ∀ cell, s.rowsWith key cell = t.rowsWith key cell

/-- Two tables that agree on a key column group by group, in the order of arrival of their rows. -/
structure Table.SameGroups (key : String) (expected actual : Table) : Prop where
  columns : expected.columns = actual.columns
  expectedKind : OfOneKind (expected.cellsUnder key)
  actualKind : OfOneKind (actual.cellsUnder key)
  groups : ∀ cell,
    List.Forall₂ Row.Equivalent (expected.rowsWith key cell) (actual.rowsWith key cell)

theorem sortedAt_ascending {t : Table} {key : String} {index : Nat}
    (place : t.columnIndex? key = some index) (separates : Separates (t.cellsUnder key)) :
    ((t.sortedAt index).cellsUnder key).Pairwise fun a b => orderCells a b ≠ .gt := by
  rw [cellsUnder_eq place] at separates
  rw [cellsUnder_eq (((t.sortedAt_rearranges index).columnIndex? key).trans place), List.pairwise_map]
  exact sortBy_ascending (totalPreorderOn_orderRows separates.totalPreorderOn) fun _ mem => mem

theorem mem_cellsUnder_sortedAt {t : Table} {key : String} {index : Nat} {cell : Cell} :
    cell ∈ (t.sortedAt index).cellsUnder key ↔ cell ∈ t.cellsUnder key :=
  ((t.sortedAt_rearranges index).cellsUnder key).mem_iff

theorem sortedFrom_sortedAt {t : Table} {key : String} {index : Nat}
    (place : t.columnIndex? key = some index) (kinds : OfOneKind (t.cellsUnder key))
    (exact : ∀ cell ∈ t.cellsUnder key, cell.IsExact) : t.SortedFrom key (t.sortedAt index) where
  rearranges := t.sortedAt_rearranges index
  ascending := by
    refine (sortedAt_ascending place (kinds.separates exact)).imp_of_mem fun ha hb le => ?_
    rw [mem_cellsUnder_sortedAt] at ha hb
    exact mayPrecede_of_orderCells (kinds _ ha _ hb) le
  arrival := rowsWith_sortedAt place

theorem Row.Equivalent.cellAt {a b : Row} (related : Row.Equivalent a b) (index : Nat) :
    (Table.cellAt a index).equivalent (Table.cellAt b index) = true := by
  induction related generalizing index with
  | nil => rfl
  | cons head _ ih =>
    cases index with
    | zero => exact head
    | succ index => exact ih index

theorem groups_of_rows {s t : Table} {key : String} {index : Nat}
    (splace : s.columnIndex? key = some index) (tplace : t.columnIndex? key = some index)
    (exact : ∀ cell ∈ s.cellsUnder key, cell.IsExact)
    (rows : List.Forall₂ Row.Equivalent s.rows t.rows) (cell : Cell) :
    List.Forall₂ Row.Equivalent (s.rowsWith key cell) (t.rowsWith key cell) := by
  rw [rowsWith_eq splace, rowsWith_eq tplace]
  refine forall₂_filter rows fun a mem b related => ?_
  have held : (Table.cellAt a index).IsExact := exact _ (cellAt_mem_cellsUnder splace mem)
  rw [held.eq_of_equivalent (related.cellAt index)]

theorem rows_of_groups {s t : Table} {key : String} {index : Nat}
    (splace : s.columnIndex? key = some index) (tplace : t.columnIndex? key = some index)
    (separates : Separates (s.cellsUnder key))
    (sascending : (s.cellsUnder key).Pairwise fun a b => orderCells a b ≠ .gt)
    (tascending : (t.cellsUnder key).Pairwise fun a b => orderCells a b ≠ .gt)
    (groups : ∀ cell, List.Forall₂ Row.Equivalent (s.rowsWith key cell) (t.rowsWith key cell)) :
    List.Forall₂ Row.Equivalent s.rows t.rows := by
  simp only [rowsWith_eq splace, rowsWith_eq tplace] at groups
  have perm : (s.cellsUnder key).Perm (t.cellsUnder key) := by
    rw [cellsUnder_eq splace, cellsUnder_eq tplace]
    exact map_perm_of_groups groups
  have keys : s.cellsUnder key = t.cellsUnder key := by
    refine List.Perm.eq_of_pairwise (fun a b ha hb ab ba => ?_) sascending tascending perm
    have hb := perm.mem_iff.2 hb
    exact separates a ha b hb (separates.totalPreorderOn.level_of_le ha hb ab ba)
  rw [cellsUnder_eq splace, cellsUnder_eq tplace] at keys
  exact forall₂_of_groups keys groups

theorem rows_sortedAt_iff_groups {expected actual : Table} {key : String} {index : Nat}
    (eplace : expected.columnIndex? key = some index) (aplace : actual.columnIndex? key = some index)
    (exact : ∀ cell ∈ expected.cellsUnder key, cell.IsExact)
    (eseparates : Separates (expected.cellsUnder key))
    (aseparates : Separates (actual.cellsUnder key)) :
    List.Forall₂ Row.Equivalent (expected.sortedAt index).rows (actual.sortedAt index).rows ↔
      ∀ cell,
        List.Forall₂ Row.Equivalent (expected.rowsWith key cell) (actual.rowsWith key cell) := by
  have eplace' := ((expected.sortedAt_rearranges index).columnIndex? key).trans eplace
  have aplace' := ((actual.sortedAt_rearranges index).columnIndex? key).trans aplace
  constructor
  · intro rows cell
    rw [← rowsWith_sortedAt eplace, ← rowsWith_sortedAt aplace]
    exact groups_of_rows eplace' aplace'
      (fun cell mem => exact cell (mem_cellsUnder_sortedAt.1 mem)) rows cell
  · intro groups
    refine rows_of_groups eplace' aplace' (fun a ha b hb => ?_)
      (sortedAt_ascending eplace eseparates) (sortedAt_ascending aplace aseparates) fun cell => ?_
    · exact eseparates a (mem_cellsUnder_sortedAt.1 ha) b (mem_cellsUnder_sortedAt.1 hb)
    · rw [rowsWith_sortedAt eplace, rowsWith_sortedAt aplace]
      exact groups cell

section

variable [Sorting]

theorem isMatch_iff_sameGroups (expected actual : Table) (ewide : expected.WellFormed)
    (awide : actual.WellFormed)
    (exact : ∀ key ∈ expected.columns.head?, (∀ cell ∈ expected.cellsUnder key, cell.IsExact) ∧
      ∀ cell ∈ actual.cellsUnder key, cell.IsExact) :
    ∃ c, compareTables expected actual = some c ∧
      (c.isMatch = true ↔ ∃ key ∈ expected.columns.head?, SameGroups key expected actual) ∧
      (c.isMatch = true → ∃ key ∈ expected.columns.head?,
        SortedFrom key expected c.expected ∧ SortedFrom key actual c.actual) := by
  obtain ⟨c, compared⟩ : ∃ c, compareTables expected actual = some c := exists_compareTables fun key head =>
    ⟨fun _ => not_bridged_of_exact (exact key head).1, fun _ => not_bridged_of_exact (exact key head).2⟩
  -- on equal columns the key stands first in both tables
  have places (key : String) (head : key ∈ expected.columns.head?)
      (columns : expected.columns = actual.columns) :
      expected.columnIndex? key = some 0 ∧ actual.columnIndex? key = some 0 :=
    ⟨columnIndex?_of_head? head, columnIndex?_of_head? (columns ▸ head)⟩
  have sorted (key : String) (head : key ∈ expected.columns.head?)
      (columns : expected.columns = actual.columns) (ekind : OfOneKind (expected.cellsUnder key))
      (akind : OfOneKind (actual.cellsUnder key)) :
      expected.arrangedOn key = some (expected.sortedAt 0) ∧ actual.arrangedOn key = some (actual.sortedAt 0) :=
    ⟨arrangedOn_of_preorder (places key head columns).1 (ekind.separates (exact key head).1).totalPreorderOn,
      arrangedOn_of_preorder (places key head columns).2 (akind.separates (exact key head).2).totalPreorderOn⟩
  have decides (key : String) (head : key ∈ expected.columns.head?)
      (columns : expected.columns = actual.columns) (ekind : OfOneKind (expected.cellsUnder key))
      (akind : OfOneKind (actual.cellsUnder key)) :=
    rows_sortedAt_iff_groups (places key head columns).1 (places key head columns).2
      (exact key head).1 (ekind.separates (exact key head).1) (akind.separates (exact key head).2)
  have matched : c.isMatch = true ↔ Matches expected actual := by
    rw [Matches, compared]
    rfl
  refine ⟨c, compared, ?_, ?_⟩ <;> rw [matched, matches_iff ewide awide]
  · constructor
    · rintro ⟨key, head, columns, ekind, akind, e, esorted, a, asorted, rows⟩
      obtain ⟨eknown, aknown⟩ := sorted key head columns ekind akind
      cases Option.some.inj (esorted.symm.trans eknown)
      cases Option.some.inj (asorted.symm.trans aknown)
      exact ⟨key, head, columns, ekind, akind, (decides key head columns ekind akind).1 rows⟩
    · rintro ⟨key, head, columns, ekind, akind, groups⟩
      obtain ⟨eknown, aknown⟩ := sorted key head columns ekind akind
      exact ⟨key, head, columns, ekind, akind, _, eknown, _, aknown,
        (decides key head columns ekind akind).2 groups⟩
  · rintro ⟨key, head, columns, ekind, akind, -⟩
    obtain ⟨eplace, aplace⟩ := places key head columns
    have comparable : ComparableOn key expected actual := ⟨head, by simp [aplace], ekind, akind⟩
    rw [comparable.compareTables_eq, (sorted key head columns ekind akind).1,
      (sorted key head columns ekind akind).2] at compared
    cases compared
    exact ⟨key, head, sortedFrom_sortedAt eplace ekind (exact key head).1,
      sortedFrom_sortedAt aplace akind (exact key head).2⟩

end

theorem sameGroups_of_repeated_keys :
    letI := Sorting.guarded
    let expected : Table := ⟨["k", "v"], [[.int 2, .text "x"], [.null, .float (.nan false)],
      [.int 1, .null], [.int 2, .text "y"]]⟩
    let actual : Table := ⟨["k", "v"], [[.int 2, .text "x"], [.int 2, .text "y"],
      [.int 1, .null], [.null, .float (.nan true)]]⟩
    Matches expected actual ∧
      (∃ key ∈ expected.columns.head?, SameGroups key expected actual) ∧
      ∃ c, compareTables expected actual = some c ∧ ∃ key ∈ expected.columns.head?,
        SortedFrom key expected c.expected ∧ SortedFrom key actual c.actual := by
  let _ := Sorting.guarded
  intro expected actual
  have matched : Matches expected actual := by decide +kernel
  obtain ⟨c, compared, groups, sorted⟩ :=
    isMatch_iff_sameGroups expected actual (by decide) (by decide) (by decide)
  have agrees : c.isMatch = true := by
    rw [Matches, compared] at matched
    exact matched
  exact ⟨matched, groups.1 agrees, c, compared, sorted agrees⟩

/-- No two cells are both nothing or stand level in the order of cells. -/
def NoTies (cells : List Cell) : Prop :=
  cells.Pairwise fun a b => ¬ (a.isNull = true ∧ b.isNull = true) ∧ a.compare? b ≠ some .eq

instance (cells : List Cell) : Decidable (NoTies cells) :=
  inferInstanceAs (Decidable (cells.Pairwise fun a b =>
    ¬ (a.isNull = true ∧ b.isNull = true) ∧ a.compare? b ≠ some .eq))

theorem NoTies.orderCells_ne_eq {cells : List Cell} (untied : NoTies cells)
    (kinds : OfOneKind cells) : cells.Pairwise fun a b => orderCells a b ≠ .eq := by
  refine List.Pairwise.imp_of_mem (fun ha hb apart => ?_) untied
  rcases orderCells_cases (kinds _ ha _ hb) with
    ⟨anull, bnull, _⟩ | ⟨_, _, order⟩ | ⟨_, _, order⟩ | ⟨_, _, order⟩
  · exact absurd ⟨anull, bnull⟩ apart.1
  · simp [order]
  · simp [order]
  · exact fun level => apart.2 (order.trans (congrArg some level))

theorem eq_of_level {α : Type} (key : α → Cell) {xs : List α}
    (untied : xs.Pairwise fun a b => orderCells (key a) (key b) ≠ .eq) (a b : α) (ha : a ∈ xs)
    (hb : b ∈ xs) (level : orderCells (key a) (key b) = .eq) : a = b := by
  have symmetric : Std.Symm fun a b => orderCells (key a) (key b) ≠ .eq := by
    refine ⟨fun a b apart level => apart ?_⟩
    rw [orderCells_swap, level]
    rfl
  by_contra different
  exact untied.forall ha hb different level

theorem NoTies.separates {cells : List Cell} (untied : NoTies cells) (kinds : OfOneKind cells) :
    Separates cells :=
  fun a ha b hb => eq_of_level id (untied.orderCells_ne_eq kinds) a b ha hb

theorem NoTies.not_bridged {cells : List Cell} (untied : NoTies cells) (kinds : OfOneKind cells) :
    ¬ Bridged cells :=
  not_bridged_of_totalPreorderOn (untied.separates kinds).totalPreorderOn

theorem sortedAt_eq_of_rearranges {s t : Table} {key : String} {index : Nat}
    (rearranged : s.Rearranges t) (place : t.columnIndex? key = some index)
    (kinds : OfOneKind (t.cellsUnder key)) (untied : NoTies (t.cellsUnder key)) :
    s.sortedAt index = t.sortedAt index := by
  have separates := untied.separates kinds
  have apart := untied.orderCells_ne_eq kinds
  rw [cellsUnder_eq place] at separates apart
  -- the cells being apart, a row that stands level with another one is that row
  have sorted : sortBy (orderRows index) t.rows = sortBy (orderRows index) s.rows :=
    sortBy_eq_of_perm (totalPreorderOn_orderRows separates.totalPreorderOn) (fun _ mem => mem)
      rearranged.rows.symm (eq_of_level (cellAt · index) (List.pairwise_map.1 apart))
  simp only [sortedAt, sorted, rearranged.columns]

theorem NoTies.of_perm {cells others : List Cell} (untied : NoTies cells) (perm : others.Perm cells) :
    NoTies others := by
  refine (perm.pairwise_iff fun {a b} apart => ?_).2 untied
  refine ⟨fun both => apart.1 both.symm, fun level => apart.2 ?_⟩
  rw [Cell.compare?_swap, level]
  rfl

theorem ComparableOn.of_rearranges {key : String} {expected actual expected' actual' : Table}
    (comparable : ComparableOn key expected actual) (e : expected'.Rearranges expected)
    (a : actual'.Rearranges actual) : ComparableOn key expected' actual' where
  head := by rw [e.columns, comparable.head]
  present := by rw [a.columnIndex?, comparable.present]
  expectedKind := comparable.expectedKind.of_perm (e.cellsUnder key)
  actualKind := comparable.actualKind.of_perm (a.cellsUnder key)

section

variable [Sorting]

theorem arrangedOn_eq_of_rearranges {s t : Table} {key : String} {index : Nat}
    (rearranged : s.Rearranges t) (place : t.columnIndex? key = some index)
    (kinds : OfOneKind (t.cellsUnder key)) (untied : NoTies (t.cellsUnder key)) :
    s.arrangedOn key = t.arrangedOn key := by
  have perm := rearranged.cellsUnder key
  rw [arrangedOn_of_preorder ((rearranged.columnIndex? key).trans place)
      ((untied.of_perm perm).separates (kinds.of_perm perm)).totalPreorderOn,
    arrangedOn_of_preorder place (untied.separates kinds).totalPreorderOn,
    sortedAt_eq_of_rearranges rearranged place kinds untied]

theorem ComparableOn.compareTables_eq_of_rearranges {key : String}
    {expected actual expected' actual' : Table} (comparable : ComparableOn key expected actual)
    (e : expected'.Rearranges expected) (a : actual'.Rearranges actual)
    (euntied : NoTies (expected.cellsUnder key)) (auntied : NoTies (actual.cellsUnder key)) :
    compareTables expected' actual' = compareTables expected actual := by
  obtain ⟨index, place⟩ := Option.isSome_iff_exists.1 comparable.present
  rw [(comparable.of_rearranges e a).compareTables_eq, comparable.compareTables_eq,
    arrangedOn_eq_of_rearranges e (columnIndex?_of_head? comparable.head) comparable.expectedKind euntied,
    arrangedOn_eq_of_rearranges a place comparable.actualKind auntied]

/-- Where keys do not tie, a comparison does not see the order in which rows arrive, and does not panic. -/
theorem compareTables_rowOrder (expected actual expected' actual' : Table)
    (e : expected'.Rearranges expected) (a : actual'.Rearranges actual)
    (untied : ∀ key ∈ expected.columns.head?,
      NoTies (expected.cellsUnder key) ∧ NoTies (actual.cellsUnder key)) :
    ∃ c c', compareTables expected actual = some c ∧ compareTables expected' actual' = some c' ∧
      c'.isMatch = c.isMatch ∧
      ∀ key ∈ expected.columns.head?, (actual.columnIndex? key).isSome →
        OfOneKind (expected.cellsUnder key) → OfOneKind (actual.cellsUnder key) → c' = c := by
  have same (key : String) (comparable : ComparableOn key expected actual) :
      compareTables expected' actual' = compareTables expected actual :=
    comparable.compareTables_eq_of_rearranges e a (untied key comparable.head).1
      (untied key comparable.head).2
  obtain ⟨c, compared⟩ : ∃ c, compareTables expected actual = some c := exists_compareTables fun key head =>
    ⟨(untied key head).1.not_bridged, (untied key head).2.not_bridged⟩
  obtain ⟨c', compared'⟩ : ∃ c, compareTables expected' actual' = some c := exists_compareTables fun key head =>
    have head : key ∈ expected.columns.head? := e.columns ▸ head
    ⟨((untied key head).1.of_perm (e.cellsUnder key)).not_bridged,
      ((untied key head).2.of_perm (a.cellsUnder key)).not_bridged⟩
  have matched : c.isMatch = true ↔ Matches expected actual := by rw [Matches, compared]; rfl
  have matched' : c'.isMatch = true ↔ Matches expected' actual' := by rw [Matches, compared']; rfl
  refine ⟨c, c', compared, compared', ?_, fun key head present ekind akind => ?_⟩
  · rw [Bool.eq_iff_iff, matched, matched']
    constructor
    · intro found
      obtain ⟨key, comparable⟩ := exists_comparable_of_matches found
      rwa [Matches, ← same key (comparable.of_rearranges e.symm a.symm)]
    · intro found
      obtain ⟨key, comparable⟩ := exists_comparable_of_matches found
      rwa [Matches, same key comparable]
  · have equal := same key ⟨head, present, ekind, akind⟩
    rw [compared, compared'] at equal
    exact Option.some.inj equal

end

theorem compareTables_rowOrder_of_numbers :
    letI := Sorting.guarded
    let expected : Table := ⟨["k"], [[.int 9007199254740993], [.float (.infinity true)], [.null],
      [.int 9007199254740992], [.float (.zero true)], [.float (.zero false)]]⟩
    let expected' : Table := ⟨["k"], [[.float (.zero false)], [.int 9007199254740992], [.null],
      [.float (.zero true)], [.float (.infinity true)], [.int 9007199254740993]]⟩
    NoTies (expected.cellsUnder "k") ∧ OfOneKind (expected.cellsUnder "k") ∧
      ∃ c, compareTables expected expected' = some c ∧ compareTables expected' expected = some c := by
  let _ := Sorting.guarded
  intro expected expected'
  have rearranged : expected'.Rearranges expected := ⟨rfl, by decide +kernel⟩
  have untied : NoTies (expected.cellsUnder "k") := by decide +kernel
  have untied' : NoTies (expected'.cellsUnder "k") := by decide +kernel
  have kind : OfOneKind (expected.cellsUnder "k") := by decide +kernel
  have kind' : OfOneKind (expected'.cellsUnder "k") := by decide +kernel
  obtain ⟨c, c', compared, compared', -, equal⟩ := compareTables_rowOrder expected expected' expected' expected
    rearranged rearranged.symm fun key head => by
      cases head
      exact ⟨untied, untied'⟩
  exact ⟨untied, kind, c, compared, equal "k" rfl (by decide) kind kind' ▸ compared'⟩

end SolutionCheck
