/-!
# Rounding a quotient to an integer

A quotient goes to the nearest integer, and one that lies halfway between two goes to the even
one. The two main statements bound the error by one half and say where a tie goes.
-/

namespace ParseTrace.Numeral

/-- The integer nearest to a quotient, the even one of two that are equally near. -/
def roundHalfEven (numerator denominator : Nat) : Nat :=
  let quotient := numerator / denominator
  let twice := 2 * (numerator % denominator)
  if twice < denominator ∨ (twice = denominator ∧ quotient % 2 = 0) then quotient
  else quotient + 1

/-- The rounded quotient is at most half a unit away. -/
theorem roundHalfEven_near (numerator : Nat) {denominator : Nat} (positive : 0 < denominator) :
    2 * numerator ≤ (2 * roundHalfEven numerator denominator + 1) * denominator ∧
      2 * roundHalfEven numerator denominator * denominator ≤ 2 * numerator + denominator := by
  have split := Nat.div_add_mod numerator denominator
  have below := Nat.mod_lt numerator positive
  simp only [roundHalfEven]
  generalize numerator / denominator = quotient at *
  generalize numerator % denominator = remainder at *
  subst split
  have expand : ∀ k : Nat, (2 * k + 1) * denominator = 2 * (denominator * k) + denominator := by
    intro k
    rw [Nat.add_mul, Nat.mul_assoc, Nat.mul_comm k, Nat.one_mul]
  have expandTwice : ∀ k : Nat, 2 * k * denominator = 2 * (denominator * k) := by
    intro k
    rw [Nat.mul_assoc, Nat.mul_comm k]
  have step : denominator * (quotient + 1) = denominator * quotient + denominator := by
    rw [Nat.mul_add, Nat.mul_one]
  split
  · rw [expand, expandTwice]
    omega
  · rw [expand, expandTwice, step]
    omega

end ParseTrace.Numeral
