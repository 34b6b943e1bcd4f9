import Mathlib.Logic.Equiv.Fin.Basic
import SolutionCheck.Proofs.Comparison

/-!
Accepted answers. An accepted answer has the columns of the expected one, and its rows are paired one
to one with equivalent rows of the other. Acceptance is symmetric and transitive, and it holds of an answer
and itself just where the table form of the answer has a first column of one kind and sorting the rows on it
does not panic. It may panic where a float bridges two integers of the column.
-/

namespace SolutionCheck

open Table Comparison

def Answer.WellFormed : Answer → Prop
  | .table t => t.WellFormed
  | _ => True

instance : DecidablePred Answer.WellFormed
  | .table t => inferInstanceAs (Decidable t.WellFormed)
  | .records _ => isTrue trivial
  | .sequence _ => isTrue trivial
  | .single _ => isTrue trivial

theorem Answer.WellFormed.toTable {x : Answer} (wide : x.WellFormed) : x.toTable.WellFormed := by
  cases x with
  | table t => exact wide
  | records rs => exact ofRecords_wellFormed (allKeys rs) rs
  | sequence cs => exact ofColumn_wellFormed positionalColumn cs
  | single cell => exact ofColumn_wellFormed positionalColumn [cell]

section

variable [Sorting]

theorem exists_verify_eq_ok_iff (x y : Answer) :
    (∃ m, verify x y = .ok m) ↔ Matches x.toTable y.toTable := by
  unfold verify Matches
  rcases compareTables x.toTable y.toTable with _ | ⟨e, a, _ | reason⟩ <;> simp [isMatch]

theorem checkEquals_eq_ok_iff (x y : Answer) :
    checkEquals x y = .ok () ↔ Matches x.toTable y.toTable := by
  rw [← exists_verify_eq_ok_iff, checkEquals]
  cases verify x y <;> simp [Except.map]

theorem checkEquals_eq_panicked_iff (x y : Answer) :
    checkEquals x y = .error .panicked ↔ compareTables x.toTable y.toTable = none := by
  unfold checkEquals verify
  rcases compareTables x.toTable y.toTable with _ | ⟨e, a, _ | reason⟩ <;> simp [Except.map]

end

/-- The places of two lists that hold the same elements equally often, paired by equal elements. -/
def placesOfPerm {α : Type} [DecidableEq α] {xs ys : List α} (perm : xs.Perm ys) :
    Fin xs.length ≃ Fin ys.length where
  toFun := perm.idxBij
  invFun := perm.symm.idxBij
  left_inv := perm.symm.idxBij_leftInverse_idxBij_symm
  right_inv := perm.idxBij_leftInverse_idxBij_symm

theorem getElem_placesOfPerm {α : Type} [DecidableEq α] {xs ys : List α} (perm : xs.Perm ys)
    (i : Fin xs.length) : ys[placesOfPerm perm i] = xs[i] :=
  perm.getElem_idxBij_eq_getElem i

theorem exists_pairing {α : Type} [DecidableEq α] {R : α → α → Prop} {xs xs' ys ys' : List α}
    (left : xs'.Perm xs) (right : ys'.Perm ys) (related : List.Forall₂ R xs' ys') :
    ∃ pairing : Fin xs.length ≃ Fin ys.length, ∀ i, R xs[i] ys[pairing i] := by
  obtain ⟨size, places⟩ := List.forall₂_iff_get.1 related
  refine ⟨(placesOfPerm left.symm).trans ((finCongr size).trans (placesOfPerm right)), fun i => ?_⟩
  have step : R xs'[placesOfPerm left.symm i] ys'[finCongr size (placesOfPerm left.symm i)] :=
    places _ (placesOfPerm left.symm i).isLt (finCongr size (placesOfPerm left.symm i)).isLt
  rw [getElem_placesOfPerm, ← getElem_placesOfPerm right] at step
  exact step

theorem Row.equivalent_iff (a b : Row) :
    Row.Equivalent a b ↔ a.map Cell.representative = b.map Cell.representative := by
  simp only [Row.Equivalent, Cell.equivalent_iff, forall₂_iff_map_eq]

theorem rows_equivalent_iff (as bs : List Row) :
    List.Forall₂ Row.Equivalent as bs ↔
      as.map (List.map Cell.representative) = bs.map (List.map Cell.representative) := by
  have relation : Row.Equivalent = fun a b =>
      a.map Cell.representative = b.map Cell.representative := by
    funext a b
    exact propext (Row.equivalent_iff a b)
  rw [relation, forall₂_iff_map_eq]

/-- A table with a first column that holds cells of one kind. -/
def Table.Orderable (t : Table) : Prop := ∃ key ∈ t.columns.head?, OfOneKind (t.cellsUnder key)

instance (t : Table) : Decidable t.Orderable :=
  inferInstanceAs (Decidable (∃ key ∈ t.columns.head?, OfOneKind (t.cellsUnder key)))

/-- A float bridges two integers of the first column. -/
def Table.Knotted (t : Table) : Prop := ∃ key ∈ t.columns.head?, Bridged (t.cellsUnder key)

instance (t : Table) : Decidable t.Knotted :=
  inferInstanceAs (Decidable (∃ key ∈ t.columns.head?, Bridged (t.cellsUnder key)))

section

variable [Sorting]

/-- The rows of a table arranged on a column, with the representatives of their cells. -/
def Table.form (t : Table) (key : String) : Option (List Row) :=
  (t.arrangedOn key).map fun s => s.rows.map (List.map Cell.representative)

/-- A table that a comparison can sort. -/
def Table.Sortable (t : Table) : Prop :=
  ∃ key ∈ t.columns.head?, OfOneKind (t.cellsUnder key) ∧ (t.arrangedOn key).isSome

instance (t : Table) : Decidable t.Sortable :=
  inferInstanceAs (Decidable (∃ key ∈ t.columns.head?, OfOneKind (t.cellsUnder key) ∧ (t.arrangedOn key).isSome))

theorem Table.Sortable.orderable {t : Table} (sortable : t.Sortable) : t.Orderable := by
  obtain ⟨key, head, kinds, -⟩ := sortable
  exact ⟨key, head, kinds⟩

theorem Table.Orderable.sortable {t : Table} (orderable : t.Orderable) (unknotted : ¬ t.Knotted) :
    t.Sortable := by
  obtain ⟨key, head, kinds⟩ := orderable
  refine ⟨key, head, kinds, ?_⟩
  by_contra panicked
  rw [Bool.not_eq_true, Option.isSome_eq_false_iff, Option.isNone_iff_eq_none] at panicked
  exact unknotted ⟨key, head, bridged_of_panicked kinds panicked⟩

theorem Table.sortable_iff_orderable {t : Table} (unknotted : ¬ t.Knotted) : t.Sortable ↔ t.Orderable :=
  ⟨Table.Sortable.orderable, fun orderable => orderable.sortable unknotted⟩

theorem checkEquals_eq_ok_iff_form {x y : Answer} (xwide : x.WellFormed) (ywide : y.WellFormed) :
    checkEquals x y = .ok () ↔ ∃ key ∈ x.toTable.columns.head?,
      x.toTable.columns = y.toTable.columns ∧ OfOneKind (x.toTable.cellsUnder key) ∧
      OfOneKind (y.toTable.cellsUnder key) ∧ (x.toTable.arrangedOn key).isSome ∧
      x.toTable.form key = y.toTable.form key := by
  rw [checkEquals_eq_ok_iff, matches_iff xwide.toTable ywide.toTable]
  simp only [rows_equivalent_iff, Table.form]
  refine exists_congr fun key => and_congr_right fun _ => and_congr_right fun _ => and_congr_right fun _ =>
    and_congr_right fun _ => ?_
  cases x.toTable.arrangedOn key <;> cases y.toTable.arrangedOn key <;> simp

theorem checkEquals_comm {x y : Answer} (xwide : x.WellFormed) (ywide : y.WellFormed)
    (accepted : checkEquals x y = .ok ()) : checkEquals y x = .ok () := by
  rw [checkEquals_eq_ok_iff_form xwide ywide] at accepted
  obtain ⟨key, head, columns, xkind, ykind, sorted, form⟩ := accepted
  have sorted' : (y.toTable.arrangedOn key).isSome := by
    have both := congrArg Option.isSome form
    rwa [Table.form, Table.form, Option.isSome_map, Option.isSome_map, sorted, eq_comm] at both
  exact (checkEquals_eq_ok_iff_form ywide xwide).2
    ⟨key, columns ▸ head, columns.symm, ykind, xkind, sorted', form.symm⟩

theorem checkEquals_trans {x y z : Answer} (xwide : x.WellFormed) (ywide : y.WellFormed)
    (zwide : z.WellFormed) (xy : checkEquals x y = .ok ()) (yz : checkEquals y z = .ok ()) :
    checkEquals x z = .ok () := by
  rw [checkEquals_eq_ok_iff_form xwide ywide] at xy
  rw [checkEquals_eq_ok_iff_form ywide zwide] at yz
  obtain ⟨key, head, columns, xkind, ykind, sorted, form⟩ := xy
  obtain ⟨key', head', columns', _, zkind, -, form'⟩ := yz
  -- equal columns have one first column, so both verdicts were reached on the same key
  have same : key = key' := Option.some.inj (head.symm.trans (columns ▸ head'))
  subst same
  exact (checkEquals_eq_ok_iff_form xwide zwide).2
    ⟨key, head, columns.trans columns', xkind, zkind, sorted, form.trans form'⟩

theorem checkEquals_self_iff {x : Answer} (wide : x.WellFormed) :
    checkEquals x x = .ok () ↔ x.toTable.Sortable := by
  rw [checkEquals_eq_ok_iff_form wide wide]
  constructor
  · rintro ⟨key, head, -, kind, -, sorted, -⟩
    exact ⟨key, head, kind, sorted⟩
  · rintro ⟨key, head, kind, sorted⟩
    exact ⟨key, head, rfl, kind, kind, sorted, rfl⟩

/-- No comparison alters a table beyond the order of its rows, and rows of an accepted answer are
paired one to one with equivalent rows of the expected one. -/
theorem verify_pairs_rows :
    (∀ (expected actual : Table) (c : Comparison), compareTables expected actual = some c →
      c.expected.Rearranges expected ∧ c.actual.Rearranges actual) ∧
    ∀ x y : Answer, x.WellFormed → y.WellFormed → ∀ m, verify x y = .ok m →
      x.toTable.columns = y.toTable.columns ∧
      ∃ pairing : Fin x.toTable.rows.length ≃ Fin y.toTable.rows.length,
        ∀ i, Row.Equivalent x.toTable.rows[i] y.toTable.rows[pairing i] := by
  refine ⟨fun _ _ _ compared => compareTables_rearranges compared, fun x y xwide ywide m accepted => ?_⟩
  have matched := (exists_verify_eq_ok_iff x y).1 ⟨m, accepted⟩
  obtain ⟨key, -, columns, -, -, e, esorted, a, asorted, rows⟩ :=
    (matches_iff xwide.toTable ywide.toTable).1 matched
  exact ⟨columns, exists_pairing (arrangedOn_rearranges esorted).rows (arrangedOn_rearranges asorted).rows rows⟩

end

theorem verify_pairs_rows_of_numbers :
    letI := Sorting.guarded
    let x : Answer := .table ⟨["k", "v"], [[.float (.zero false), .null],
      [.int 2, .float (.nan false)], [.int 2, .text "b"]]⟩
    let y : Answer := .table ⟨["k", "v"], [[.int 2, .float (.nan true)],
      [.float (.zero true), .null], [.int 2, .text "b"]]⟩
    (∃ m, verify x y = .ok m) ∧ x.toTable.columns = y.toTable.columns ∧
      ∃ pairing : Fin x.toTable.rows.length ≃ Fin y.toTable.rows.length,
        ∀ i, Row.Equivalent x.toTable.rows[i] y.toTable.rows[pairing i] := by
  let _ := Sorting.guarded
  intro x y
  obtain ⟨m, accepted⟩ := (exists_verify_eq_ok_iff x y).2 (by decide +kernel)
  exact ⟨⟨m, accepted⟩, verify_pairs_rows.2 x y (by decide) (by decide) m accepted⟩

/-- Acceptance is symmetric and transitive, and reflexive on the answers that can be sorted. These have a
first column of one kind, and where no float bridges two integers of it that is enough. No answer is accepted
where the expected one cannot be sorted, and only such a float makes a comparison panic. -/
theorem checkEquals_partialEquivalence [Sorting] :
    (∀ x y : Answer, x.WellFormed → y.WellFormed →
      (checkEquals x y = .ok () ↔ checkEquals y x = .ok ())) ∧
    (∀ x y z : Answer, x.WellFormed → y.WellFormed → z.WellFormed →
      checkEquals x y = .ok () → checkEquals y z = .ok () → checkEquals x z = .ok ()) ∧
    (∀ x : Answer, x.WellFormed → (checkEquals x x = .ok () ↔ x.toTable.Sortable)) ∧
    (∀ x : Answer, ¬ x.toTable.Knotted → (x.toTable.Sortable ↔ x.toTable.Orderable)) ∧
    (∀ x y : Answer, x.WellFormed → y.WellFormed → ¬ x.toTable.Sortable → checkEquals x y ≠ .ok ()) ∧
    ∀ x y : Answer, checkEquals x y = .error .panicked → ∃ key ∈ x.toTable.columns.head?,
      Bridged (x.toTable.cellsUnder key) ∨ Bridged (y.toTable.cellsUnder key) := by
  refine ⟨fun x y xwide ywide => ⟨checkEquals_comm xwide ywide, checkEquals_comm ywide xwide⟩,
    fun x y z xwide ywide zwide => checkEquals_trans xwide ywide zwide,
    fun x wide => checkEquals_self_iff wide,
    fun x unknotted => Table.sortable_iff_orderable unknotted,
    fun x y xwide ywide unsortable accepted => ?_,
    fun x y panicked => bridged_of_compareTables_eq_none ((checkEquals_eq_panicked_iff x y).1 panicked)⟩
  have itself := checkEquals_trans xwide ywide xwide accepted (checkEquals_comm xwide ywide accepted)
  exact unsortable ((checkEquals_self_iff xwide).1 itself)

theorem checkEquals_partialEquivalence_of_shapes :
    letI := Sorting.guarded
    let x : Answer := .sequence [.float (.zero false), .null, .int 2]
    let y : Answer := .table ⟨["0"], [[.int 2], [.float (.zero true)], [.null]]⟩
    let z : Answer := .records [.ofList [("0", .null)], .ofList [("0", .int 2)],
      .ofList [("0", .float (.zero false))]]
    let mixed : Answer := .sequence [.int 1, .text "1"]
    checkEquals y x = .ok () ∧ checkEquals x z = .ok () ∧ ¬ x.toTable.Knotted ∧ checkEquals x x = .ok () ∧
      checkEquals mixed mixed ≠ .ok () := by
  let _ := Sorting.guarded
  intro x y z mixed
  obtain ⟨symm, trans, self, sortable, never, -⟩ := checkEquals_partialEquivalence
  have xy : checkEquals x y = .ok () := (checkEquals_eq_ok_iff x y).2 (by decide +kernel)
  have yz : checkEquals y z = .ok () := (checkEquals_eq_ok_iff y z).2 (by decide +kernel)
  have unknotted : ¬ x.toTable.Knotted := by decide +kernel
  have mixedKnot : ¬ mixed.toTable.Knotted := by decide +kernel
  have unsortable : ¬ mixed.toTable.Sortable := (sortable mixed mixedKnot).not.2 (by decide +kernel)
  exact ⟨(symm x y (by decide) (by decide)).1 xy,
    trans x y z (by decide) (by decide) (by decide) xy yz, unknotted,
    (self x (by decide)).2 ((sortable x unknotted).2 (by decide +kernel)),
    never mixed mixed (by decide) (by decide) unsortable⟩

/-- A long column that a float makes hard to order: sorting it may panic, and then it is not accepted for
itself, though it is of one kind. -/
theorem checkEquals_self_panics :
    letI := Sorting.guarded
    let cells : List Cell := (List.replicate 7
      [.int 9007199254740992, .float (.ofInt 9007199254740992), .int 9007199254740993]).flatten
    let x : Answer := .sequence cells
    x.WellFormed ∧ x.toTable.Orderable ∧ cells.length = 21 ∧ checkEquals x x = .error .panicked := by
  let _ := Sorting.guarded
  intro cells x
  exact ⟨by decide, by decide +kernel, by decide, by decide +kernel⟩

end SolutionCheck
