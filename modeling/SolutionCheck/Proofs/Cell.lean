import SolutionCheck.Comparison
import SolutionCheck.Proofs.Rounding
import SolutionCheck.Proofs.Sorting

/-!
The two relations between cells. Equivalence is equality of representatives, which puts the values
that are no number together, and the two zeros. The order of a column is strict wherever it decides:
chains of smaller cells compose even where integers meet the floats nearest to them. It is a total
preorder on any cells among which standing level is transitive.
-/

namespace SolutionCheck

namespace Binary64

/-- The value that stands for all values which a comparison does not tell apart. -/
def representative (x : Binary64) : Binary64 :=
  if x.isNaN then nan false else if x.isZero then zero false else x

theorem not_isZero_of_isNaN {x : Binary64} (h : x.isNaN = true) : x.isZero = false := by
  have beyond : infinityMagnitude < x.magnitude.val := of_decide_eq_true h
  exact beq_false_of_ne (Nat.ne_of_gt (Nat.zero_lt_of_lt beyond))

@[simp] theorem isNaN_representative (x : Binary64) : x.representative.isNaN = x.isNaN := by
  unfold representative
  split
  · next h => rw [h]; rfl
  · next h =>
    split
    · rw [eq_false_of_ne_true h]; rfl
    · rfl

@[simp] theorem isZero_representative (x : Binary64) : x.representative.isZero = x.isZero := by
  unfold representative
  split
  · next h => rw [not_isZero_of_isNaN h]; rfl
  · split
    · next h => rw [h]; rfl
    · rfl

theorem representative_eq_iff (x y : Binary64) :
    x.representative = y.representative ↔ ((x.isNaN && y.isNaN) || x.equals y) = true := by
  constructor
  · intro same
    have nan : x.isNaN = y.isNaN := by
      rw [← isNaN_representative x, same, isNaN_representative]
    have zero : x.isZero = y.isZero := by
      rw [← isZero_representative x, same, isZero_representative]
    by_cases ynan : y.isNaN = true
    · simp [nan, ynan]
    · by_cases yzero : y.isZero = true
      · simp [equals, nan, zero, ynan, yzero]
      · have equal : x = y := by simpa [representative, nan, zero, ynan, yzero] using same
        simp [equals, equal, ynan]
  · intro alike
    simp only [Bool.or_eq_true, Bool.and_eq_true, equals, Bool.not_eq_true', beq_iff_eq] at alike
    rcases alike with ⟨xnan, ynan⟩ | ⟨⟨xnan, ynan⟩, rfl | ⟨xzero, yzero⟩⟩
    · simp [representative, xnan, ynan]
    · rfl
    · simp [representative, xnan, ynan, xzero, yzero]

end Binary64

namespace Cell

def representative : Cell → Cell
  | float x => float x.representative
  | cell => cell

theorem equivalent_iff (a b : Cell) : a.equivalent b = true ↔ a.representative = b.representative := by
  cases a <;> cases b <;>
    simp [equivalent, equals, representative, Binary64.representative_eq_iff]

def IsExact : Cell → Prop
  | float _ => False
  | _ => True

instance : DecidablePred IsExact
  | null => isTrue trivial
  | bool _ => isTrue trivial
  | int _ => isTrue trivial
  | float _ => isFalse id
  | text _ => isTrue trivial

theorem IsExact.eq_of_equivalent {a b : Cell} (exact : a.IsExact) (h : a.equivalent b = true) :
    a = b := by
  rw [equivalent_iff] at h
  cases a <;> cases b <;> simp_all [representative, IsExact]

theorem compare?_swap (a b : Cell) : b.compare? a = (a.compare? b).map Ordering.swap := by
  cases a <;> cases b <;> simp only [compare?, Binary64.totalOrder, Option.map_none, Option.map_some]
  all_goals exact congrArg some Std.OrientedOrd.eq_swap

theorem compare?_self {a : Cell} (holds : a.isNull = false) : a.compare? a = some .eq := by
  cases a with
  | null => cases holds
  | bool b => exact congrArg some Std.compare_self
  | int n => exact congrArg some Std.compare_self
  | float x => exact congrArg some Std.compare_self
  | text s => exact congrArg some Std.compare_self

theorem compare?_ne_none {a b : Cell} (holds : a.isNull = false) (same : a.kind = b.kind) :
    a.compare? b ≠ none := by
  cases a <;> cases b <;> simp_all [compare?, kind, isNull]

/-- Smaller cells form chains. Where an integer stands between two floats, or a float between two
integers, this rests on the monotonicity of rounding. -/
theorem compare?_lt_trans {a b c : Cell} (ab : a.compare? b = some .lt)
    (bc : b.compare? c = some .lt) : a.compare? c = some .lt := by
  have mono (m n : Int64) : m.toInt ≤ n.toInt →
      (Binary64.ofInt m.toInt).place ≤ (Binary64.ofInt n.toInt).place := Binary64.place_ofInt_mono
  cases a <;> cases b <;> simp only [compare?, reduceCtorEq, Option.some.injEq] at ab <;>
    cases c <;> simp only [compare?, reduceCtorEq, Option.some.injEq] at bc ⊢
  case bool.bool.bool => exact Std.TransCmp.lt_trans ab bc
  case text.text.text => exact Std.TransCmp.lt_trans ab bc
  all_goals simp only [Binary64.totalOrder, Int.compare_eq_lt] at *
  case int.int.float m n x =>
    have := mono m n (by omega)
    omega
  case float.int.int x m n =>
    have := mono m n (by omega)
    omega
  case int.float.int m x n =>
    -- were the integers the other way round, their nearest floats would be so too
    have := mono n m
    omega
  all_goals omega

end Cell

namespace Comparison

theorem orderCells_self (a : Cell) : orderCells a a = .eq := by
  unfold orderCells
  cases holds : a.isNull with
  | true => rfl
  | false => simp [Cell.compare?_self holds]

theorem orderCells_swap (a b : Cell) : orderCells b a = (orderCells a b).swap := by
  unfold orderCells
  cases a.isNull <;> cases b.isNull <;> simp only [Ordering.swap]
  rw [Cell.compare?_swap a b]
  cases a.compare? b <;> rfl

theorem orderCells_cases {a b : Cell}
    (same : a.isNull = false → b.isNull = false → a.kind = b.kind) :
    a.isNull = true ∧ b.isNull = true ∧ orderCells a b = .eq ∨
    a.isNull = true ∧ b.isNull = false ∧ orderCells a b = .gt ∨
    a.isNull = false ∧ b.isNull = true ∧ orderCells a b = .lt ∨
    a.isNull = false ∧ b.isNull = false ∧ a.compare? b = some (orderCells a b) := by
  unfold orderCells
  cases anull : a.isNull <;> cases bnull : b.isNull <;> simp
  have comparable := Cell.compare?_ne_none anull (same anull bnull)
  cases h : a.compare? b <;> simp_all

theorem orderCells_eq_lt_iff (a b : Cell) :
    orderCells a b = .lt ↔ a.compare? b = some .lt ∨ a.isNull = false ∧ b.isNull = true := by
  cases a <;> cases b <;> simp [orderCells, Cell.isNull, Cell.compare?]

theorem orderCells_lt_trans {a b c : Cell} (ab : orderCells a b = .lt) (bc : orderCells b c = .lt) :
    orderCells a c = .lt := by
  rw [orderCells_eq_lt_iff] at *
  rcases ab with ab | ⟨holds, nothing⟩
  · rcases bc with bc | ⟨_, nothing⟩
    · exact Or.inl (Cell.compare?_lt_trans ab bc)
    · cases a <;> simp_all [Cell.compare?, Cell.isNull]
  · cases b <;> simp_all [Cell.compare?, Cell.isNull]

theorem orderCells_totalPreorderOn {P : Cell → Prop}
    (level : ∀ a b c, P a → P b → P c →
      orderCells a b = .eq → orderCells b c = .eq → orderCells a c = .eq) :
    TotalPreorderOn orderCells P where
  swap a b _ _ := orderCells_swap a b
  trans a b c pa pb pc ab bc := by
    intro ac
    have ca : orderCells c a = .lt := by rw [orderCells_swap, ac]; rfl
    cases hab : orderCells a b with
    | gt => exact ab hab
    | lt =>
      have cb := orderCells_lt_trans ca hab
      rw [orderCells_swap, Ordering.swap_eq_lt] at cb
      exact bc cb
    | eq =>
      cases hbc : orderCells b c with
      | gt => exact bc hbc
      | eq => cases ac.symm.trans (level a b c pa pb pc hab hbc)
      | lt =>
        have ba := orderCells_lt_trans hbc ca
        rw [orderCells_swap, hab] at ba
        cases ba

end Comparison

end SolutionCheck
