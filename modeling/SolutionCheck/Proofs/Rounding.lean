import Mathlib.Algebra.Group.Nat.Defs
import Mathlib.Tactic.SplitIfs
import SolutionCheck.Number.Rounding

/-!
Rounding an integer to a floating point value never turns the order of two integers around. The
significand of the nearest value lies between two powers of two, so integers with more bits go to
magnitudes that are no smaller; among integers with equally many bits all divide by the same power.
-/

namespace SolutionCheck

theorem roundHalfEven_bounds (num den : Nat) :
    num / den ≤ roundHalfEven num den ∧ roundHalfEven num den ≤ num / den + 1 := by
  simp only [roundHalfEven]
  split
  · omega
  · split <;> omega

theorem roundHalfEven_mono {a b den : Nat} (le : a ≤ b) :
    roundHalfEven a den ≤ roundHalfEven b den := by
  have whole : a / den ≤ b / den := Nat.div_le_div_right le
  by_cases same : a / den = b / den
  · have rest : a % den ≤ b % den := by
      have ha := Nat.div_add_mod a den
      have hb := Nat.div_add_mod b den
      rw [same] at ha
      omega
    simp only [roundHalfEven, same]
    split_ifs <;> omega
  · have below := (roundHalfEven_bounds a den).2
    have above := (roundHalfEven_bounds b den).1
    omega

theorem roundHalfEven_mul (k : Nat) {den : Nat} (pos : 0 < den) : roundHalfEven (k * den) den = k := by
  simp [roundHalfEven, Nat.mul_div_cancel k pos, pos]

namespace Binary64

/-- The significand of the value nearest to a positive integer; it can reach the next power of two. -/
def nearestSignificand (n : Nat) : Nat := roundHalfEven (n * 2 ^ (52 - n.log2)) (2 ^ (n.log2 - 52))

theorem leadingPower_one {n : Nat} (pos : n ≠ 0) : leadingPower n 1 = n.log2 := by
  have one : Nat.log2 1 = 0 := by decide
  have leading : ¬ n < 2 ^ n.log2 := Nat.not_lt.2 (Nat.log2_self_le pos)
  simp [leadingPower, one, leading]

theorem nearestMagnitude_one {n : Nat} (pos : n ≠ 0) :
    nearestMagnitude n 1 = (n.log2 + 1022) * 2 ^ 52 + nearestSignificand n := by
  have step : max ((n.log2 : Int) - 52) (-1074) = (n.log2 : Int) - 52 := by omega
  have lead : ((n.log2 : Int) - 52 + 1074).toNat = n.log2 + 1022 := by omega
  have up : (-((n.log2 : Int) - 52)).toNat = 52 - n.log2 := by omega
  have down : ((n.log2 : Int) - 52).toNat = n.log2 - 52 := by omega
  simp only [nearestMagnitude, if_neg pos, leadingPower_one pos, step, lead, up, down,
    Nat.one_mul, nearestSignificand]
  rfl

theorem two_pow_shift (bits log : Nat) (le : log ≤ bits) :
    2 ^ bits * 2 ^ (52 - log) = 2 ^ (52 + bits - log) * 2 ^ (log - 52) := by
  rw [← Nat.pow_add, ← Nat.pow_add]
  congr 1
  omega

theorem le_nearestSignificand {n : Nat} (pos : n ≠ 0) : 2 ^ 52 ≤ nearestSignificand n := by
  have shifted : 2 ^ 52 * 2 ^ (n.log2 - 52) ≤ n * 2 ^ (52 - n.log2) := by
    have := two_pow_shift n.log2 n.log2 (Nat.le_refl _)
    rw [Nat.add_sub_cancel] at this
    rw [← this]
    exact Nat.mul_le_mul_right _ (Nat.log2_self_le pos)
  calc 2 ^ 52 = roundHalfEven (2 ^ 52 * 2 ^ (n.log2 - 52)) (2 ^ (n.log2 - 52)) :=
        (roundHalfEven_mul _ (Nat.two_pow_pos _)).symm
    _ ≤ nearestSignificand n := roundHalfEven_mono shifted

theorem nearestSignificand_le (n : Nat) : nearestSignificand n ≤ 2 ^ 53 := by
  have shifted : n * 2 ^ (52 - n.log2) ≤ 2 ^ 53 * 2 ^ (n.log2 - 52) := by
    have := two_pow_shift (n.log2 + 1) n.log2 (Nat.le_succ _)
    rw [show 52 + (n.log2 + 1) - n.log2 = 53 by omega] at this
    rw [← this]
    exact Nat.mul_le_mul_right _ (Nat.le_of_lt Nat.lt_log2_self)
  calc nearestSignificand n ≤ roundHalfEven (2 ^ 53 * 2 ^ (n.log2 - 52)) (2 ^ (n.log2 - 52)) :=
        roundHalfEven_mono shifted
    _ = 2 ^ 53 := roundHalfEven_mul _ (Nat.two_pow_pos _)

theorem log2_mono {a b : Nat} (pos : a ≠ 0) (le : a ≤ b) : a.log2 ≤ b.log2 := by
  have bpos : b ≠ 0 := by omega
  exact (Nat.le_log2 bpos).2 (Nat.le_trans (Nat.log2_self_le pos) le)

theorem nearestMagnitude_one_mono {a b : Nat} (le : a ≤ b) :
    nearestMagnitude a 1 ≤ nearestMagnitude b 1 := by
  by_cases apos : a = 0
  · simp [nearestMagnitude, apos]
  have bpos : b ≠ 0 := by omega
  rw [nearestMagnitude_one apos, nearestMagnitude_one bpos]
  rcases Nat.eq_or_lt_of_le (log2_mono apos le) with same | fewer
  · have significands : nearestSignificand a ≤ nearestSignificand b := by
      rw [nearestSignificand, nearestSignificand, same]
      exact roundHalfEven_mono (Nat.mul_le_mul_right _ le)
    omega
  · have upper := nearestSignificand_le a
    have lower := le_nearestSignificand bpos
    omega

theorem isNaN_ofInt (n : Int) : (ofInt n).isNaN = false := by
  have bound : (ofInt n).magnitude.val ≤ infinityMagnitude := Nat.min_le_right _ _
  exact decide_eq_false (Nat.not_lt.2 bound)

theorem isFinite_ofInt {n : Int} (size : n.natAbs ≤ 2 ^ 64) : (ofInt n).isFinite = true := by
  have magnitude : nearestMagnitude n.natAbs 1 < infinityMagnitude := by
    by_cases zero : n.natAbs = 0
    · rw [zero]
      decide
    · have bits : n.natAbs.log2 < 65 := (Nat.log2_lt zero).2 (by omega)
      have significand := nearestSignificand_le n.natAbs
      rw [nearestMagnitude_one zero, infinityMagnitude]
      omega
  exact decide_eq_true (Nat.lt_of_le_of_lt (Nat.min_le_left _ _) magnitude)

theorem isZero_ofInt {n : Int} (nonzero : n ≠ 0) : (ofInt n).isZero = false := by
  have size : n.natAbs ≠ 0 := Int.natAbs_ne_zero.2 nonzero
  have significand := le_nearestSignificand size
  have positive : 0 < (ofInt n).magnitude.val := by
    simp only [ofInt, ofFraction, nearestMagnitude_one size, infinityMagnitude]
    omega
  exact beq_false_of_ne (Nat.ne_of_gt positive)

theorem place_ofInt_mono {a b : Int} (le : a ≤ b) : (ofInt a).place ≤ (ofInt b).place := by
  have magnitudes : ∀ m n : Nat, m ≤ n →
      min (nearestMagnitude m 1) infinityMagnitude ≤ min (nearestMagnitude n 1) infinityMagnitude := by
    intro m n le
    have := nearestMagnitude_one_mono le
    omega
  simp only [ofInt, ofFraction, place, decide_eq_true_eq]
  split_ifs with aneg bneg
  · have := magnitudes b.natAbs a.natAbs (by omega)
    omega
  · omega
  · omega
  · have := magnitudes a.natAbs b.natAbs (by omega)
    omega

end Binary64

end SolutionCheck
