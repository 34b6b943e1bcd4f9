import Mathlib.Algebra.Order.Field.Power
import Mathlib.Data.Int.Log
import Mathlib.Data.Rat.Floor
import Mathlib.Tactic.NormNum
import Mathlib.Tactic.Positivity
import SolutionCheck.Proofs.Rounding

/-!
The nearest floating point value is a function of the rational number alone: not of the fraction that
stands for it, nor of the digits and the power of ten. The bounds beyond which powers of ten are not
computed change no result, and a finite value is the nearest one to its own rational value.
-/

namespace SolutionCheck

theorem roundHalfEven_scale (num den : Nat) {c : Nat} (pos : 0 < c) :
    roundHalfEven (num * c) (den * c) = roundHalfEven num den := by
  have less (a b : Nat) : 2 * (a * c) < b * c ↔ 2 * a < b := by
    rw [← Nat.mul_assoc, Nat.mul_lt_mul_right pos]
  have more (a b : Nat) : b * c < 2 * (a * c) ↔ b < 2 * a := by
    rw [← Nat.mul_assoc, Nat.mul_lt_mul_right pos]
  simp only [roundHalfEven, Nat.mul_div_mul_right _ _ pos, Nat.mul_mod_mul_right, less, more]

theorem roundHalfEven_congr {num den num' den' : Nat} (pos : 0 < den) (pos' : 0 < den')
    (same : num * den' = num' * den) : roundHalfEven num den = roundHalfEven num' den' := by
  rw [← roundHalfEven_scale num den pos', same, Nat.mul_comm den, roundHalfEven_scale num' den' pos]

theorem zpow_eq_div {b : ℚ} (nonzero : b ≠ 0) (e : Int) : b ^ e = b ^ e.toNat / b ^ (-e).toNat := by
  rw [eq_div_iff (pow_ne_zero _ nonzero), ← zpow_natCast, ← zpow_natCast, ← zpow_add₀ nonzero]
  congr 1
  omega

namespace Binary64

theorem le_shift_iff (num : Nat) {den : Nat} (pos : 0 < den) (k : Nat) (e : Int) :
    k * (den * 2 ^ e.toNat) ≤ num * 2 ^ (-e).toNat ↔ (k : ℚ) * 2 ^ e ≤ (num : ℚ) / den := by
  have den_pos : (0 : ℚ) < den := by exact_mod_cast pos
  have power_pos : (0 : ℚ) < 2 ^ (-e).toNat := by positivity
  rw [zpow_eq_div two_ne_zero, ← mul_div_assoc, div_le_div_iff₀ power_pos den_pos, mul_right_comm,
    mul_assoc]
  norm_cast

theorem log_eq {q : ℚ} {place : Int} (lower : 2 ^ place ≤ q) (upper : q < 2 ^ (place + 1)) :
    Int.log 2 q = place := by
  have pos : 0 < q := lt_of_lt_of_le (by positivity) lower
  have above := (Int.zpow_le_iff_le_log (b := 2) (by decide) pos).1 (by exact_mod_cast lower)
  have below := (Int.lt_zpow_iff_log_lt (b := 2) (by decide) pos).1 (by exact_mod_cast upper)
  omega

theorem log_ratio_bounds {num den : Nat} (pos : 0 < num) (den_pos : 0 < den) :
    (2 : ℚ) ^ ((num.log2 : Int) - den.log2 - 1) ≤ (num : ℚ) / den ∧
      (num : ℚ) / den < 2 ^ ((num.log2 : Int) - den.log2 + 1) := by
  have two : (2 : ℚ) ≠ 0 := two_ne_zero
  have num_lower : ((2 : ℚ) ^ num.log2) ≤ num := by exact_mod_cast Nat.log2_self_le pos.ne'
  have num_upper : (num : ℚ) < 2 ^ (num.log2 + 1) := by exact_mod_cast Nat.lt_log2_self
  have den_lower : ((2 : ℚ) ^ den.log2) ≤ den := by exact_mod_cast Nat.log2_self_le den_pos.ne'
  have den_upper : (den : ℚ) < 2 ^ (den.log2 + 1) := by exact_mod_cast Nat.lt_log2_self
  have den_pos' : (0 : ℚ) < den := by exact_mod_cast den_pos
  constructor
  · rw [le_div_iff₀ den_pos']
    calc (2 : ℚ) ^ ((num.log2 : Int) - den.log2 - 1) * den
        ≤ 2 ^ ((num.log2 : Int) - den.log2 - 1) * 2 ^ (den.log2 + 1) := by gcongr
      _ = 2 ^ num.log2 := by
          rw [← zpow_natCast, ← zpow_natCast, ← zpow_add₀ two]
          congr 1
          omega
      _ ≤ num := num_lower
  · rw [div_lt_iff₀ den_pos']
    calc (num : ℚ) < 2 ^ (num.log2 + 1) := num_upper
      _ = 2 ^ ((num.log2 : Int) - den.log2 + 1) * 2 ^ den.log2 := by
          rw [← zpow_natCast, ← zpow_natCast, ← zpow_add₀ two]
          congr 1
          omega
      _ ≤ 2 ^ ((num.log2 : Int) - den.log2 + 1) * den := by gcongr

theorem leadingPower_eq_log {num den : Nat} (pos : 0 < num) (den_pos : 0 < den) :
    leadingPower num den = Int.log 2 ((num : ℚ) / den) := by
  obtain ⟨lower, upper⟩ := log_ratio_bounds pos den_pos
  have reached := le_shift_iff num den_pos 1 ((num.log2 : Int) - den.log2)
  rw [Nat.one_mul, Nat.cast_one, one_mul] at reached
  simp only [leadingPower, Nat.pow_eq]
  split
  · next short =>
    have under := lt_of_not_ge (reached.not.1 (Nat.not_le.2 short))
    exact (log_eq lower (by rwa [sub_add_cancel])).symm
  · next long => exact (log_eq (reached.1 (Nat.le_of_not_lt long)) upper).symm

theorem nearestMagnitude_congr {num den num' den' : Nat} (pos : 0 < den) (pos' : 0 < den')
    (same : (num : ℚ) / den = num' / den') : nearestMagnitude num den = nearestMagnitude num' den' := by
  have cross : num * den' = num' * den := by
    rw [div_eq_div_iff (by exact_mod_cast pos.ne') (by exact_mod_cast pos'.ne')] at same
    exact_mod_cast same
  by_cases zero : num = 0
  · have zero' : num' = 0 := by simpa [zero, pos.ne'] using cross.symm
    rw [zero, zero', nearestMagnitude, nearestMagnitude, if_pos rfl, if_pos rfl]
  · have nonzero : num' ≠ 0 := by
      rintro rfl
      simp [zero, pos'.ne'] at cross
    have lead : leadingPower num den = leadingPower num' den' := by
      rw [leadingPower_eq_log (Nat.pos_of_ne_zero zero) pos,
        leadingPower_eq_log (Nat.pos_of_ne_zero nonzero) pos', same]
    simp only [nearestMagnitude, if_neg zero, if_neg nonzero, lead, Nat.pow_eq]
    congr 1
    refine roundHalfEven_congr (by positivity) (by positivity) ?_
    rw [mul_mul_mul_comm, cross, mul_mul_mul_comm]

/-- The value nearest to a rational number that is not negative, with a sign. -/
def nearest (negative : Bool) (q : ℚ) : Binary64 := ofFraction negative q.num.natAbs q.den

theorem ofFraction_eq_nearest (negative : Bool) (num : Nat) {den : Nat} (pos : 0 < den) :
    ofFraction negative num den = nearest negative (num / den) := by
  have ratio : (num : ℚ) / den = ((num : ℚ) / den).num.natAbs / ((num : ℚ) / den).den := by
    have nonneg : 0 ≤ (num : ℚ) / den := by positivity
    conv_lhs => rw [← Rat.num_div_den ((num : ℚ) / den)]
    rw [Nat.cast_natAbs, abs_of_nonneg (Rat.num_nonneg.2 nonneg)]
  unfold nearest ofFraction
  congr 3
  exact nearestMagnitude_congr pos (Rat.den_pos _) ratio

theorem nearest_zero (negative : Bool) : nearest negative 0 = zero negative := rfl

theorem nearestMagnitude_of_large {num den : Nat} (pos : 0 < den) (large : (2 : ℚ) ^ 1024 ≤ num / den) :
    infinityMagnitude ≤ nearestMagnitude num den := by
  have ratio_pos : (0 : ℚ) < num / den := lt_of_lt_of_le (by positivity) large
  have nonzero : num ≠ 0 := by
    rintro rfl
    simp at ratio_pos
  have high : 1024 ≤ Int.log 2 ((num : ℚ) / den) :=
    (Int.zpow_le_iff_le_log (b := 2) (by decide) ratio_pos).1 (by exact_mod_cast large)
  have reached := Int.zpow_log_le_self (b := 2) (by decide) ratio_pos
  rw [nearestMagnitude, if_neg nonzero, leadingPower_eq_log (Nat.pos_of_ne_zero nonzero) pos]
  generalize Int.log 2 ((num : ℚ) / den) = lead at high reached ⊢
  have step : max (lead - 52) (-1074) = lead - 52 := by omega
  have significand : 2 ^ 52 ≤ num * 2 ^ (-(lead - 52)).toNat / (den * 2 ^ (lead - 52).toNat) := by
    rw [Nat.le_div_iff_mul_le (by positivity), le_shift_iff _ pos]
    calc ((2 ^ 52 : Nat) : ℚ) * 2 ^ (lead - 52) = 2 ^ lead := by
          rw [Nat.cast_pow, Nat.cast_ofNat, ← zpow_natCast, ← zpow_add₀ two_ne_zero]
          congr 1
          omega
      _ ≤ num / den := by exact_mod_cast reached
  have rounded := (roundHalfEven_bounds (num * 2 ^ (-(lead - 52)).toNat) (den * 2 ^ (lead - 52).toNat)).1
  simp only [step, Nat.pow_eq, infinityMagnitude]
  omega

theorem nearestMagnitude_of_small {num den : Nat} (pos : 0 < den) (small : (num : ℚ) / den < 2 ^ (-1075 : Int)) :
    nearestMagnitude num den = 0 := by
  by_cases zero : num = 0
  · rw [nearestMagnitude, if_pos zero]
  have ratio_pos : (0 : ℚ) < num / den := by positivity
  have low : Int.log 2 ((num : ℚ) / den) < -1075 :=
    (Int.lt_zpow_iff_log_lt (b := 2) (by decide) ratio_pos).1 (by exact_mod_cast small)
  have step : max (Int.log 2 ((num : ℚ) / den) - 52) (-1074) = -1074 := by omega
  have half : 2 * (num * 2 ^ 1074) < den := by
    have den_pos : (0 : ℚ) < den := by exact_mod_cast pos
    rw [div_lt_iff₀ den_pos, zpow_neg, ← div_eq_inv_mul, lt_div_iff₀ (by positivity)] at small
    have whole : num * 2 ^ 1075 < den := by exact_mod_cast small
    omega
  rw [nearestMagnitude, if_neg zero, leadingPower_eq_log (Nat.pos_of_ne_zero zero) pos, step]
  have up : (-(-1074 : Int)).toNat = 1074 := by decide
  have down : (-1074 : Int).toNat = 0 := by decide
  have less : num * 2 ^ 1074 < den := by omega
  simp only [up, down, Nat.pow_eq, roundHalfEven, Nat.pow_zero, Nat.mul_one, Nat.mod_eq_of_lt less, half, if_true,
    Nat.div_eq_of_lt less]
  rfl

theorem cast_shift (b : Nat) (nonzero : b ≠ 0) (n : Nat) (e : Int) :
    ((n * b ^ e.toNat : Nat) : ℚ) / (b ^ (-e).toNat : Nat) = n * b ^ e := by
  rw [zpow_eq_div (Nat.cast_ne_zero.2 nonzero), ← mul_div_assoc]
  norm_cast

theorem two_pow_le_ten_pow : (2 : ℚ) ^ 1024 ≤ 10 ^ (400 : Int) :=
  calc (2 : ℚ) ^ 1024 = (2 ^ 128) ^ 8 := by rw [← pow_mul]
    _ ≤ (10 ^ 50) ^ 8 := by gcongr; norm_num
    _ = 10 ^ (400 : Int) := by rw [← pow_mul]; rfl

theorem ten_pow_lt_two_pow : (10 : ℚ) ^ (-401 : Int) < 2 ^ (-1075 : Int) := by
  have larger : (2 : ℚ) ^ 1075 < 10 ^ 401 :=
    calc (2 : ℚ) ^ 1075 = (2 ^ 43) ^ 25 := by rw [← pow_mul]
      _ < (10 ^ 16) ^ 25 := by gcongr; norm_num
      _ = 10 ^ 400 := by rw [← pow_mul]
      _ ≤ 10 ^ 401 := pow_le_pow_right₀ (by norm_num) (by decide)
  rw [zpow_neg, zpow_neg]
  exact (inv_lt_inv₀ (by positivity) (by positivity)).2 (by exact_mod_cast larger)

theorem ofFraction_of_large (negative : Bool) {num den : Nat} (pos : 0 < den)
    (large : (2 : ℚ) ^ 1024 ≤ num / den) : ofFraction negative num den = infinity negative := by
  simp only [ofFraction, infinity, Nat.min_eq_right (nearestMagnitude_of_large pos large)]

theorem ofFraction_of_small (negative : Bool) {num den : Nat} (pos : 0 < den)
    (small : (num : ℚ) / den < 2 ^ (-1075 : Int)) : ofFraction negative num den = zero negative := by
  simp only [ofFraction, zero, nearestMagnitude_of_small pos small, Nat.zero_min]

theorem toDigits_bounds {n : Nat} (nonzero : n ≠ 0) :
    10 ^ ((Nat.toDigits 10 n).length - 1) ≤ n ∧ n < 10 ^ (Nat.toDigits 10 n).length := by
  have size : 0 < (Nat.toDigits 10 n).length := Nat.length_toDigits_pos
  refine ⟨?_, (Nat.length_toDigits_le_iff (by decide) size).1 (Nat.le_refl _)⟩
  by_cases single : (Nat.toDigits 10 n).length = 1
  · rw [single]
    exact Nat.pos_of_ne_zero nonzero
  · refine Nat.le_of_not_lt fun less => ?_
    have fewer := (Nat.length_toDigits_le_iff (b := 10) (by decide) (by omega)).2 less
    omega

theorem ten_pow_large {digits places : Nat} {exponent : Int} (lower : 10 ^ (places - 1) ≤ digits)
    (far : 400 < exponent + places) : (2 : ℚ) ^ 1024 ≤ digits * 10 ^ exponent :=
  calc (2 : ℚ) ^ 1024 ≤ 10 ^ (400 : Int) := two_pow_le_ten_pow
    _ ≤ 10 ^ (((places - 1 : Nat) : Int) + exponent) := zpow_le_zpow_right₀ (by norm_num) (by omega)
    _ = 10 ^ (places - 1) * 10 ^ exponent := by rw [zpow_add₀ (by norm_num), zpow_natCast]
    _ ≤ digits * 10 ^ exponent := by
      gcongr
      exact_mod_cast lower

theorem ten_pow_small {digits places : Nat} {exponent : Int} (upper : digits < 10 ^ places)
    (near : exponent + places < -400) : (digits : ℚ) * 10 ^ exponent < 2 ^ (-1075 : Int) :=
  calc (digits : ℚ) * 10 ^ exponent < 10 ^ places * 10 ^ exponent := by
        gcongr
        exact_mod_cast upper
    _ = 10 ^ ((places : Int) + exponent) := by rw [zpow_add₀ (by norm_num), zpow_natCast]
    _ ≤ 10 ^ (-401 : Int) := zpow_le_zpow_right₀ (by norm_num) (by omega)
    _ < 2 ^ (-1075 : Int) := ten_pow_lt_two_pow

theorem ofDecimal_eq_ofFraction (negative : Bool) (digits : Nat) (exponent : Int) :
    ofDecimal negative digits exponent =
      ofFraction negative (digits * 10 ^ exponent.toNat) (10 ^ (-exponent).toNat) := by
  have value : ((digits * 10 ^ exponent.toNat : Nat) : ℚ) / (10 ^ (-exponent).toNat : Nat) = digits * 10 ^ exponent :=
    cast_shift 10 (by decide) digits exponent
  have pos : 0 < 10 ^ (-exponent).toNat := by positivity
  unfold ofDecimal
  split
  · next zero =>
    rw [zero, Nat.zero_mul, ofFraction_eq_nearest negative 0 pos, Nat.cast_zero, zero_div]
    rfl
  · next nonzero =>
    obtain ⟨lower, upper⟩ := toDigits_bounds nonzero
    simp only
    split
    · next far => exact (ofFraction_of_large negative pos (value ▸ ten_pow_large lower far)).symm
    · split
      · next near => exact (ofFraction_of_small negative pos (value ▸ ten_pow_small upper near)).symm
      · rfl

theorem ofDecimal_eq_nearest (negative : Bool) (digits : Nat) (exponent : Int) :
    ofDecimal negative digits exponent = nearest negative (digits * 10 ^ exponent) := by
  rw [ofDecimal_eq_ofFraction, ofFraction_eq_nearest _ _ (by positivity)]
  congr 1
  exact cast_shift 10 (by decide) digits exponent

/-- The rational value of a finite magnitude. -/
def value (x : Binary64) : ℚ := x.significand * 2 ^ x.exponent

theorem significand_cases (x : Binary64) :
    (x.exponent = -1074 ∧ x.significand < 2 ^ 52) ∨
      (-1074 ≤ x.exponent ∧ 2 ^ 52 ≤ x.significand ∧ x.significand < 2 ^ 53) := by
  have fraction : x.magnitude.val % 2 ^ 52 < 2 ^ 52 := Nat.mod_lt _ (by decide)
  simp only [exponent, significand, Nat.pow_eq]
  split <;> omega

theorem magnitude_eq (x : Binary64) :
    (x.exponent + 1074).toNat * 2 ^ 52 + x.significand = x.magnitude.val := by
  have parts := Nat.div_add_mod x.magnitude.val (2 ^ 52)
  simp only [exponent, significand, Nat.pow_eq]
  split <;> omega

theorem step_eq_exponent {x : Binary64} (pos : 0 < x.significand) :
    max (Int.log 2 x.value - 52) (-1074) = x.exponent := by
  have power_pos : (0 : ℚ) < 2 ^ x.exponent := by positivity
  rcases significand_cases x with ⟨least, few⟩ | ⟨least, lower, upper⟩
  · have value_pos : 0 < x.value := mul_pos (by exact_mod_cast pos) power_pos
    have less : x.value < 2 ^ (-1022 : Int) :=
      calc x.value < (2 ^ 52 : Nat) * 2 ^ x.exponent :=
            mul_lt_mul_of_pos_right (by exact_mod_cast few) power_pos
        _ = 2 ^ (-1022 : Int) := by
            rw [least, Nat.cast_pow, Nat.cast_ofNat, ← zpow_natCast, ← zpow_add₀ two_ne_zero]
            rfl
    have log := (Int.lt_zpow_iff_log_lt (b := 2) (by decide) value_pos).1 (by exact_mod_cast less)
    omega
  · have power (n : Nat) : ((2 ^ n : Nat) : ℚ) * 2 ^ x.exponent = 2 ^ (n + x.exponent) := by
      rw [Nat.cast_pow, Nat.cast_ofNat, ← zpow_natCast, ← zpow_add₀ two_ne_zero]
    have log : Int.log 2 x.value = 52 + x.exponent := by
      refine log_eq ?_ ?_
      · rw [← Nat.cast_ofNat (R := Int), ← power 52]
        exact mul_le_mul_of_nonneg_right (by exact_mod_cast lower) power_pos.le
      · have next : 52 + x.exponent + 1 = (53 : Nat) + x.exponent := by omega
        rw [next, ← power 53]
        exact mul_lt_mul_of_pos_right (by exact_mod_cast upper) power_pos
    omega

/-- A finite value is the nearest one to its own rational value. -/
theorem nearest_value {x : Binary64} (finite : x.isFinite = true) : nearest x.negative x.value = x := by
  have bounded : x.magnitude.val < infinityMagnitude := of_decide_eq_true finite
  have den_pos : 0 < 2 ^ (-x.exponent).toNat := by positivity
  have fraction : ((x.significand * 2 ^ x.exponent.toNat : Nat) : ℚ) / (2 ^ (-x.exponent).toNat : Nat) = x.value :=
    cast_shift 2 two_ne_zero x.significand x.exponent
  have magnitude : nearestMagnitude (x.significand * 2 ^ x.exponent.toNat) (2 ^ (-x.exponent).toNat) =
      x.magnitude.val := by
    have whole := magnitude_eq x
    rcases Nat.eq_zero_or_pos x.significand with zero | pos
    · have least : x.exponent = -1074 := by
        rcases significand_cases x with ⟨least, -⟩ | ⟨-, lower, -⟩ <;> omega
      rw [← whole, zero, Nat.zero_mul, nearestMagnitude, if_pos rfl, least]
      rfl
    · have num_pos : 0 < x.significand * 2 ^ x.exponent.toNat := by positivity
      rw [nearestMagnitude, if_neg num_pos.ne', leadingPower_eq_log num_pos den_pos, fraction,
        step_eq_exponent pos]
      simp only [Nat.pow_eq, mul_assoc, Nat.mul_comm (2 ^ (-x.exponent).toNat)]
      rw [roundHalfEven_mul _ (by positivity), whole]
  rw [← fraction, ← ofFraction_eq_nearest x.negative _ den_pos]
  simp only [ofFraction, magnitude, Nat.min_eq_left bounded.le]

end Binary64

end SolutionCheck
