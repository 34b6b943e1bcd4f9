import SolutionCheck.Proofs.Acceptance

/-!
Answers of one column. Two lists of cells are accepted when sorting leaves equivalent cells in equal
places. A list is accepted in every order of its cells just when no integer in it rounds to a float
in it: such a pair stands level, so it keeps its order of arrival, and yet it is not equivalent.
-/

namespace SolutionCheck

open Table Comparison

theorem cellsUnder_ofColumn (name : String) (cells : List Cell) :
    (ofColumn name cells).cellsUnder name = cells := by
  rw [cellsUnder_eq (columnIndex?_of_head? rfl), ofColumn, List.map_map]
  exact List.map_id cells

theorem rows_of_rearranges_ofColumn {t : Table} {name : String} {cells : List Cell}
    (rearranged : t.Rearranges (ofColumn name cells)) : t.rows = (t.cellsUnder name).map fun cell => [cell] := by
  rw [cellsUnder_eq ((rearranged.columnIndex? name).trans (columnIndex?_of_head? rfl)), List.map_map]
  conv_lhs => rw [← List.map_id t.rows]
  refine List.map_congr_left fun row mem => ?_
  obtain ⟨cell, -, rfl⟩ := List.mem_map.1 (rearranged.rows.mem_iff.1 mem)
  rfl

theorem wellFormed_sequence (cells : List Cell) : (Answer.sequence cells).WellFormed := trivial

section

variable [Sorting]

def arrangedCells (cells : List Cell) : Option (List Cell) :=
  ((ofColumn positionalColumn cells).arrangedOn positionalColumn).map (·.cellsUnder positionalColumn)

theorem arrangedCells_perm {cells arranged : List Cell} (sorted : arrangedCells cells = some arranged) :
    arranged.Perm cells := by
  obtain ⟨t, found, rfl⟩ := Option.map_eq_some_iff.1 sorted
  have perm := (arrangedOn_rearranges found).cellsUnder positionalColumn
  rwa [cellsUnder_ofColumn] at perm

theorem arrangedCells_of_preorder {cells : List Cell} (preorder : TotalPreorderOn orderCells (· ∈ cells)) :
    arrangedCells cells = some (sortBy orderCells cells) := by
  have place : (ofColumn positionalColumn cells).columnIndex? positionalColumn = some 0 := columnIndex?_of_head? rfl
  have sorted : ((ofColumn positionalColumn cells).sortedAt 0).cellsUnder positionalColumn =
      sortBy orderCells cells := by
    have rows : sortBy (orderRows 0) (cells.map fun cell => [cell]) =
        (sortBy orderCells cells).map fun cell => [cell] := sortBy_map _ cells
    rw [cellsUnder_eq ((((ofColumn positionalColumn cells).sortedAt_rearranges 0).columnIndex? _).trans place),
      sortedAt, ofColumn, rows, List.map_map]
    exact List.map_id _
  rw [arrangedCells, arrangedOn_of_preorder place (by rwa [cellsUnder_ofColumn]), Option.map_some, sorted]

theorem arrangedCells_of_ascending {cells : List Cell} (ascending : Ascending orderCells cells) :
    arrangedCells cells = some cells := by
  rw [arrangedCells, arrangedOn_of_ascending (columnIndex?_of_head? rfl) (by rwa [cellsUnder_ofColumn]),
    Option.map_some, cellsUnder_ofColumn]

theorem checkEquals_sequence_iff (xs ys : List Cell) :
    checkEquals (.sequence xs) (.sequence ys) = .ok () ↔ OfOneKind xs ∧ OfOneKind ys ∧
      ∃ xs' ∈ arrangedCells xs, ∃ ys' ∈ arrangedCells ys,
        xs'.map Cell.representative = ys'.map Cell.representative := by
  have rows {s t : Table} (left : s.Rearranges (ofColumn positionalColumn xs))
      (right : t.Rearranges (ofColumn positionalColumn ys)) :
      List.Forall₂ Row.Equivalent s.rows t.rows ↔ (s.cellsUnder positionalColumn).map Cell.representative =
        (t.cellsUnder positionalColumn).map Cell.representative := by
    have single : Function.Injective fun cell : Cell => [cell] := fun _ _ same => by simpa using same
    rw [rows_equivalent_iff, rows_of_rearranges_ofColumn left, rows_of_rearranges_ofColumn right, List.map_map,
      List.map_map, ← List.map_injective_iff.2 single |>.eq_iff, List.map_map, List.map_map]
    rfl
  rw [checkEquals_eq_ok_iff, matches_iff (wellFormed_sequence xs).toTable (wellFormed_sequence ys).toTable]
  simp only [Answer.toTable, arrangedCells]
  constructor
  · rintro ⟨key, head, -, xkind, ykind, s, left, t, right, related⟩
    cases head
    rw [cellsUnder_ofColumn] at xkind ykind
    exact ⟨xkind, ykind, s.cellsUnder positionalColumn, Option.mem_map_of_mem _ left,
      t.cellsUnder positionalColumn, Option.mem_map_of_mem _ right,
      (rows (arrangedOn_rearranges left) (arrangedOn_rearranges right)).1 related⟩
  · rintro ⟨xkind, ykind, _, xsorted, _, ysorted, related⟩
    obtain ⟨s, left, rfl⟩ := Option.map_eq_some_iff.1 xsorted
    obtain ⟨t, right, rfl⟩ := Option.map_eq_some_iff.1 ysorted
    refine ⟨positionalColumn, rfl, rfl, ?_, ?_, s, left, t, right,
      (rows (arrangedOn_rearranges left) (arrangedOn_rearranges right)).2 related⟩
    · rwa [cellsUnder_ofColumn]
    · rwa [cellsUnder_ofColumn]

end

theorem eq_of_map_rounded_of_map_representative {xs ys : List Cell}
    (rounded : xs.map Cell.rounded = ys.map Cell.rounded)
    (representatives : xs.map Cell.representative = ys.map Cell.representative) : xs = ys := by
  induction xs generalizing ys with
  | nil => exact (List.map_eq_nil_iff.1 rounded.symm).symm
  | cons x xs ih =>
    cases ys with
    | nil => cases rounded
    | cons y ys =>
      obtain ⟨head, tail⟩ := List.cons.inj rounded
      obtain ⟨head', tail'⟩ := List.cons.inj representatives
      rw [Cell.eq_of_rounded_of_representative head head', ih tail tail']

section

variable [Sorting]

theorem checkEquals_rearranged_iff {xs ys : List Cell} (kinds : OfOneKind xs) (unbridged : ¬ Bridged xs)
    (perm : ys.Perm xs) :
    checkEquals (.sequence xs) (.sequence ys) = .ok () ↔ sortBy orderCells xs = sortBy orderCells ys := by
  have preorder := totalPreorderOn_of_unbridged kinds unbridged
  have preorder' : TotalPreorderOn orderCells (· ∈ ys) := preorder.mono fun _ mem => perm.mem_iff.1 mem
  rw [checkEquals_sequence_iff, arrangedCells_of_preorder preorder, arrangedCells_of_preorder preorder']
  simp only [Option.mem_some_iff, exists_eq_left', kinds, kinds.of_perm perm, true_and]
  constructor
  · intro representatives
    exact eq_of_map_rounded_of_map_representative (map_rounded_sortBy kinds unbridged perm) representatives
  · intro sorted
    rw [sorted]

theorem checkEquals_of_perm {xs ys : List Cell} (kinds : OfOneKind xs)
    (apart : ∀ a ∈ xs, ∀ b ∈ xs, ¬ a.RoundsTo b) (perm : ys.Perm xs) :
    checkEquals (.sequence xs) (.sequence ys) = .ok () := by
  have separates := kinds.separates_of_not_roundsTo apart
  exact (checkEquals_rearranged_iff kinds (not_bridged_of_totalPreorderOn separates.totalPreorderOn) perm).2
    (sortBy_eq_of_perm separates.totalPreorderOn (fun _ mem => mem) perm.symm
      fun a b ha hb => separates a ha b hb)

theorem not_roundsTo_of_accepted {xs : List Cell} (kinds : OfOneKind xs)
    (accepted : ∀ ys, ys.Perm xs → checkEquals (.sequence xs) (.sequence ys) = .ok ()) {a x : Cell}
    (ha : a ∈ xs) (hx : x ∈ xs) : ¬ a.RoundsTo x := by
  intro rounds
  have left (floatsFirst : Bool) : ∃ xs' ∈ arrangedCells xs, xs'.map Cell.representative =
      (sortBy (orderApart floatsFirst) xs).map Cell.representative := by
    obtain ⟨-, -, xs', sorted, ys', sorted', same⟩ :=
      (checkEquals_sequence_iff _ _).1 (accepted _ (sortBy_perm (orderApart floatsFirst) xs))
    rw [arrangedCells_of_ascending (ascending_sortBy_orderApart kinds floatsFirst)] at sorted'
    cases sorted'
    exact ⟨xs', sorted, same⟩
  obtain ⟨first, sorted, same⟩ := left true
  obtain ⟨second, sorted', same'⟩ := left false
  cases Option.some.inj (sorted.symm.trans sorted')
  exact sortBy_orderApart_ne kinds ha hx rounds
    (eq_of_map_rounded_of_map_representative (map_rounded_sortBy_orderApart kinds) (same.symm.trans same'))

/-- A column is accepted in every order just when no integer in it rounds to a float in it. Where no
float bridges two integers, an order is accepted just when level cells arrive as in the other. -/
theorem checkEquals_rearrangements (xs : List Cell) (kinds : OfOneKind xs) :
    ((∀ ys, ys.Perm xs → checkEquals (.sequence xs) (.sequence ys) = .ok ()) ↔
      ∀ a ∈ xs, ∀ b ∈ xs, ¬ a.RoundsTo b) ∧
    (¬ Bridged xs → ∀ ys, ys.Perm xs →
      (checkEquals (.sequence xs) (.sequence ys) = .ok () ↔
        ∀ a ∈ xs, xs.filter (orderCells a · = .eq) = ys.filter (orderCells a · = .eq))) := by
  refine ⟨⟨fun accepted a ha b hb => not_roundsTo_of_accepted kinds accepted ha hb,
    fun apart ys perm => checkEquals_of_perm kinds apart perm⟩, fun unbridged ys perm => ?_⟩
  rw [checkEquals_rearranged_iff kinds unbridged perm]
  exact sortBy_eq_iff_groups (totalPreorderOn_of_unbridged kinds unbridged) (fun _ mem => mem) perm

end

theorem checkEquals_rearrangements_of_numbers :
    letI := Sorting.guarded
    let xs : List Cell := [.int 9007199254740993, .float (.zero true), .null, .int 3, .float (.nan false),
      .float (.zero false), .null, .int 9007199254740992]
    let tied : List Cell := [.int 2, .float (.ofInt 2), .int 1, .int 2]
    OfOneKind xs ∧ checkEquals (.sequence xs) (.sequence xs.reverse) = .ok () ∧
      OfOneKind tied ∧ ¬ Bridged tied ∧
      checkEquals (.sequence tied) (.sequence [.int 1, .int 2, .float (.ofInt 2), .int 2]) = .ok () ∧
      checkEquals (.sequence tied) (.sequence tied.reverse) = .ok () := by
  let _ := Sorting.guarded
  intro xs tied
  have kinds : OfOneKind xs := by decide
  have tiedKinds : OfOneKind tied := by decide
  have unbridged : ¬ Bridged tied := by decide +kernel
  have apart : ∀ a ∈ xs, ∀ b ∈ xs, ¬ a.RoundsTo b := by decide +kernel
  have groups := (checkEquals_rearrangements tied tiedKinds).2 unbridged
  exact ⟨kinds, (checkEquals_rearrangements xs kinds).1.2 apart xs.reverse xs.reverse_perm,
    tiedKinds, unbridged, (groups _ (by decide)).2 (by decide +kernel),
    (groups _ tied.reverse_perm).2 (by decide +kernel)⟩

/-- An integer and the float it rounds to are accepted in one order and rejected in the other. -/
theorem checkEquals_rejects_rearrangement :
    letI := Sorting.guarded
    let xs : List Cell := [.int 2, .float (.ofInt 2)]
    OfOneKind xs ∧ xs.reverse.Perm xs ∧ checkEquals (.sequence xs) (.sequence xs) = .ok () ∧
      checkEquals (.sequence xs) (.sequence xs.reverse) ≠ .ok () := by
  let _ := Sorting.guarded
  intro xs
  exact ⟨by decide, xs.reverse_perm, (checkEquals_eq_ok_iff _ _).2 (by decide +kernel),
    (checkEquals_eq_ok_iff _ _).not.2 (by decide +kernel)⟩

end SolutionCheck
