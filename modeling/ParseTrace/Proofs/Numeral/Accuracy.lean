import Mathlib.Algebra.Order.Field.Power
import Mathlib.Algebra.Order.Field.Rat
import Mathlib.Tactic.FieldSimp
import Mathlib.Tactic.GCongr
import Mathlib.Tactic.Linarith
import Mathlib.Tactic.NormNum
import Mathlib.Tactic.Positivity
import Mathlib.Tactic.Ring
import ParseTrace.Numeral.Binary64
import ParseTrace.Numeral.Fixed

/-!
# How accurate rounded quotients are

A quotient is scaled by a power of two until it has 53 binary digits before the point, and then it is
rounded to an integer. That moves it by one half at most, which is little beside a number of so many
digits. So the number nearest to a quotient differs from it by at most its `2 ^ 53`rd part, and every
further operation on rounded numbers adds one such error.
-/

namespace ParseTrace.Numeral

variable {numerator denominator integer : Nat}

/-- The rounded quotient is at most half a unit away, as a statement on quotients. -/
theorem abs_roundHalfEven_sub_le (numerator : Nat) (positive : 0 < denominator) :
    |(roundHalfEven numerator denominator : ℚ) - numerator / denominator| ≤ 1 / 2 := by
  rcases roundHalfEven_near numerator positive with ⟨above, below⟩
  generalize roundHalfEven numerator denominator = rounded at *
  have wide : (0 : ℚ) < denominator := by exact_mod_cast positive
  have aboveRat : (2 * numerator : ℚ) ≤ (2 * rounded + 1) * denominator := by exact_mod_cast above
  have belowRat : (2 * rounded * denominator : ℚ) ≤ 2 * numerator + denominator := by
    exact_mod_cast below
  have upper : (rounded : ℚ) - 1 / 2 ≤ numerator / denominator := by
    rw [le_div_iff₀ wide]
    linarith
  have lower : (numerator : ℚ) / denominator ≤ rounded + 1 / 2 := by
    rw [div_le_iff₀ wide]
    linarith
  rw [abs_le]
  constructor
  · linarith
  · linarith

/-- A quotient in units of the last place is rounded by half a unit at most. -/
theorem abs_scaledUnits_sub_le (places : Nat) {ratio : Nat × Nat} (positive : 0 < ratio.2) :
    |(scaledUnits places ratio : ℚ) - ratio.1 / ratio.2 * 10 ^ places| ≤ 1 / 2 := by
  have near := abs_roundHalfEven_sub_le (ratio.1 * Nat.pow 10 places) positive
  have scaled : ((ratio.1 * Nat.pow 10 places : Nat) : ℚ) / ratio.2 =
      ratio.1 / ratio.2 * 10 ^ places := by
    rw [Nat.pow_eq]
    push_cast
    ring
  rwa [scaled] at near

namespace Binary64

/-- The number as a rational number. -/
def value (number : Binary64) : ℚ :=
  number.mantissa * 2 ^ number.exponent

theorem toRatio_snd_pos (number : Binary64) : 0 < number.toRatio.2 := by
  rw [toRatio]
  split
  · exact Nat.one_pos
  · exact Nat.two_pow_pos _

theorem toRatio_div (number : Binary64) :
    (number.toRatio.1 : ℚ) / number.toRatio.2 = number.value := by
  rcases number with ⟨mantissa, power | power⟩
  · simp [toRatio, value]
  · simp [toRatio, value, zpow_negSucc, div_eq_mul_inv]

theorem scale_snd_pos (numerator : Nat) (positive : 0 < denominator) (exponent : Int) :
    0 < (scale numerator denominator exponent).2 := by
  cases exponent with
  | ofNat power => exact Nat.mul_pos positive (Nat.two_pow_pos power)
  | negSucc power => exact positive

theorem scale_div (numerator denominator : Nat) (exponent : Int) :
    ((scale numerator denominator exponent).1 : ℚ) / (scale numerator denominator exponent).2 =
      numerator / denominator / 2 ^ exponent := by
  cases exponent with
  | ofNat power =>
      simp only [scale, Nat.pow_eq, Nat.cast_mul, Nat.cast_pow, Nat.cast_ofNat,
        Int.ofNat_eq_natCast, zpow_natCast]
      rw [div_div]
  | negSucc power =>
      simp only [scale, Nat.pow_eq, Nat.cast_mul, Nat.cast_pow, Nat.cast_ofNat, zpow_negSucc,
        div_inv_eq_mul]
      ring

/-- A quotient is more than half of what the digits of its two parts make it. -/
theorem lt_div_of_log2 (nonzero : numerator ≠ 0) (positive : 0 < denominator) :
    (2 : ℚ) ^ ((numerator.log2 : Int) - denominator.log2 - 1) < numerator / denominator := by
  have wide : (0 : ℚ) < denominator := by exact_mod_cast positive
  have below : (2 : ℚ) ^ numerator.log2 ≤ numerator := by
    exact_mod_cast Nat.log2_self_le nonzero
  have above : (denominator : ℚ) < 2 ^ (denominator.log2 + 1) := by
    exact_mod_cast Nat.lt_log2_self
  rw [lt_div_iff₀ wide]
  calc (2 : ℚ) ^ ((numerator.log2 : Int) - denominator.log2 - 1) * denominator
      < 2 ^ ((numerator.log2 : Int) - denominator.log2 - 1) * 2 ^ (denominator.log2 + 1) := by
        gcongr
    _ = 2 ^ numerator.log2 := by
        rw [← zpow_natCast, ← zpow_natCast, ← zpow_add₀ two_ne_zero]
        congr 1
        push_cast
        ring
    _ ≤ numerator := below

/-- The exponent of a quotient leaves it 53 binary digits. -/
theorem leastMantissa_le_div (nonzero : numerator ≠ 0) (positive : 0 < denominator) :
    (2 : ℚ) ^ 52 ≤ numerator / denominator / 2 ^ exponentOf numerator denominator := by
  have digits := lt_div_of_log2 nonzero positive
  simp only [exponentOf]
  generalize guessed : (numerator.log2 : Int) - denominator.log2 - 52 = guess
  have room := scale_snd_pos numerator positive guess
  have quotient := scale_div numerator denominator guess
  generalize scale numerator denominator guess = scaled at *
  by_cases few : scaled.1 / scaled.2 < leastMantissa
  · -- One digit is missing, so the exponent is one less than it seemed.
    have split : (numerator.log2 : Int) - denominator.log2 - 1 = 52 + (guess - 1) := by omega
    rw [split, zpow_add₀ two_ne_zero] at digits
    rw [if_pos few, le_div_iff₀ (by positivity)]
    exact digits.le
  · have roomRat : (0 : ℚ) < scaled.2 := by exact_mod_cast room
    have enough := (Nat.le_div_iff_mul_le room).mp (Nat.le_of_not_lt few)
    rw [if_neg few, ← quotient, le_div_iff₀ roomRat]
    exact_mod_cast enough

/-- Rounding up to one binary digit more changes how a number is kept, and not the number. -/
theorem value_ofRatio (nonzero : numerator ≠ 0) :
    (ofRatio numerator denominator).value =
      roundHalfEven (scale numerator denominator (exponentOf numerator denominator)).1
          (scale numerator denominator (exponentOf numerator denominator)).2 *
        2 ^ exponentOf numerator denominator := by
  rw [ofRatio, if_neg nonzero]
  dsimp only
  generalize exponentOf numerator denominator = exponent
  generalize roundHalfEven (scale numerator denominator exponent).1
    (scale numerator denominator exponent).2 = mantissa
  by_cases carried : mantissa = 2 * leastMantissa
  · rw [if_pos carried, carried, value, zpow_add_one₀ two_ne_zero]
    push_cast
    ring
  · rw [if_neg carried, value]

/-- The number nearest to a quotient differs from it by its `2 ^ 53`rd part at most. -/
theorem abs_value_ofRatio_sub_le (numerator : Nat) (positive : 0 < denominator) :
    |(ofRatio numerator denominator).value - numerator / denominator| ≤
      numerator / denominator / 2 ^ 53 := by
  by_cases zero : numerator = 0
  · simp [ofRatio, zero, value]
  have near := abs_roundHalfEven_sub_le
    (scale numerator denominator (exponentOf numerator denominator)).1
    (scale_snd_pos numerator positive (exponentOf numerator denominator))
  have digits := leastMantissa_le_div zero positive
  rw [scale_div] at near
  rw [value_ofRatio zero]
  generalize exponentOf numerator denominator = exponent at *
  generalize roundHalfEven (scale numerator denominator exponent).1
    (scale numerator denominator exponent).2 = mantissa at *
  generalize (numerator : ℚ) / denominator = quotient at *
  have step : (0 : ℚ) < 2 ^ exponent := by positivity
  rw [le_div_iff₀ step] at digits
  calc |(mantissa : ℚ) * 2 ^ exponent - quotient|
      = |(mantissa : ℚ) - quotient / 2 ^ exponent| * 2 ^ exponent := by
        rw [← abs_of_pos step, ← abs_mul, abs_of_pos step, sub_mul, div_mul_cancel₀ _ step.ne']
    _ ≤ 1 / 2 * 2 ^ exponent := by gcongr
    _ ≤ quotient / 2 ^ 53 := by linarith

/-- The number nearest to an integer. -/
theorem abs_value_ofNat_sub_le (integer : Nat) :
    |(ofNat integer).value - integer| ≤ integer / 2 ^ 53 := by
  simpa [ofNat] using abs_value_ofRatio_sub_le integer Nat.one_pos

/-- An integer that is not too long gets further digits and loses none. -/
theorem exponentOf_one_nonpos (fits : integer.log2 ≤ 52) : exponentOf integer 1 ≤ 0 := by
  have one : Nat.log2 1 = 0 := by decide
  simp only [exponentOf]
  split <;> omega

theorem scale_one_snd {exponent : Int} (nonpos : exponent ≤ 0) (integer : Nat) :
    (scale integer 1 exponent).2 = 1 := by
  cases exponent with
  | ofNat power =>
      obtain rfl : power = 0 := by simpa using nonpos
      rfl
  | negSucc power => rfl

theorem roundHalfEven_one (integer : Nat) : roundHalfEven integer 1 = integer := by
  simp [roundHalfEven, Nat.mod_one]

/-- An integer of at most 53 binary digits is kept. -/
theorem value_ofNat (fits : integer < 2 ^ 53) : (ofNat integer).value = integer := by
  by_cases zero : integer = 0
  · simp [ofNat, ofRatio, zero, value]
  have nonpos : exponentOf integer 1 ≤ 0 := by
    apply exponentOf_one_nonpos
    exact Nat.le_of_lt_succ ((Nat.log2_lt zero).mpr fits)
  have scaled := scale_div integer 1 (exponentOf integer 1)
  rw [scale_one_snd nonpos, Nat.cast_one, div_one, div_one] at scaled
  rw [ofNat, value_ofRatio zero, scale_one_snd nonpos, roundHalfEven_one, scaled]
  exact div_mul_cancel₀ _ (by positivity)

/-- A quotient of two numbers is rounded once. -/
theorem abs_value_div_sub_le (left : Binary64) {right : Binary64} (positive : 0 < right.value) :
    |(left.div right).value - left.value / right.value| ≤ left.value / right.value / 2 ^ 53 := by
  have nonzero : right.toRatio.1 ≠ 0 := by
    intro zero
    simp [← toRatio_div, zero] at positive
  have room : 0 < left.toRatio.2 * right.toRatio.1 :=
    Nat.mul_pos left.toRatio_snd_pos (Nat.pos_of_ne_zero nonzero)
  have quotient : ((left.toRatio.1 * right.toRatio.2 : Nat) : ℚ) /
      (left.toRatio.2 * right.toRatio.1 : Nat) = left.value / right.value := by
    rw [← toRatio_div, ← toRatio_div, div_div_div_eq]
    push_cast
    rfl
  have near := abs_value_ofRatio_sub_le (left.toRatio.1 * right.toRatio.2) room
  rwa [quotient] at near

end Binary64

end ParseTrace.Numeral
