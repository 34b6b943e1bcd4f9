import SolutionCheck.Number.Shortest
import SolutionCheck.Proofs.Nearest

/-!
The shortest decimal of a value reads as that value: every candidate on a grid was tried before it is
taken, the exact decimal stands for the very number, and trailing zeros do not change a number.
-/

namespace SolutionCheck

namespace Decimal

def value (d : Decimal) : ℚ := d.digits * 10 ^ d.exponent

theorem readsAs_iff (x : Binary64) (d : Decimal) :
    readsAs x d = true ↔ Binary64.nearest x.negative d.value = x := by
  rw [readsAs, Binary64.ofDecimal_eq_nearest, beq_iff_eq]
  rfl

theorem value_dropZeros (fuel : Nat) (d : Decimal) : (dropZeros fuel d).value = d.value := by
  induction fuel generalizing d with
  | zero => rfl
  | succ fuel ih =>
    unfold dropZeros
    split
    · next trailing =>
      have tens : d.digits = 10 * (d.digits / 10) := by omega
      have cast : (d.digits : ℚ) = 10 * (d.digits / 10 : Nat) := by exact_mod_cast tens
      rw [ih, value, value, cast, zpow_add_one₀ (by norm_num)]
      ring
    · rfl

theorem value_exact (x : Binary64) : (exact x.significand x.exponent).value = x.value := by
  unfold exact
  split
  · next below =>
    have shift : x.exponent = -((-x.exponent).toNat : Int) := by omega
    have powers : (10 : ℚ) ^ (-x.exponent).toNat = 5 ^ (-x.exponent).toNat * 2 ^ (-x.exponent).toNat := by
      rw [← mul_pow]
      norm_num
    simp only [value, Binary64.value, Nat.pow_eq]
    generalize (-x.exponent).toNat = n at shift powers
    rw [shift, zpow_neg, zpow_neg, zpow_natCast, zpow_natCast, powers]
    push_cast
    field_simp
  · next above =>
    have shift : x.exponent = (x.exponent.toNat : Int) := by omega
    simp only [value, Binary64.value, Nat.pow_eq]
    generalize x.exponent.toNat = n at shift
    rw [shift, zpow_zero, zpow_natCast, mul_one]
    push_cast
    rfl

theorem readsAs_onGrid {tie : Tie} {x : Binary64} {num den : Nat} {place : Int} {d : Decimal}
    (found : onGrid? tie x num den place = some d) : readsAs x d = true := by
  simp only [onGrid?] at found
  split at found
  · next below _ =>
    cases found
    exact below
  · next _ above =>
    cases found
    exact above
  · cases found
  · next below above =>
    cases tie <;> split_ifs at found <;> cases found <;> assumption

theorem readsAs_shortest (tie : Tie) {x : Binary64} (finite : x.isFinite = true) :
    readsAs x (shortest tie x) = true := by
  rw [readsAs_iff]
  simp only [shortest, value_dropZeros]
  cases search : (List.range 17).findSome? _ with
  | none =>
    rw [Option.getD_none, value_exact, Binary64.nearest_value finite]
  | some d =>
    obtain ⟨n, -, found⟩ := List.exists_of_findSome?_eq_some search
    exact (readsAs_iff x d).1 (readsAs_onGrid found)

end Decimal

end SolutionCheck
