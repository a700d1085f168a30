import ParseTrace.Numeral.Rounding

/-!
# Binary floating-point numbers

Rates and durations are computed in the binary64 format and then printed, so the text depends on
how each step rounds. `Binary64` keeps a nonnegative number of that format as an exact integer
mantissa and a power of two. Every operation computes the exact quotient of two integers and
rounds it once, to the nearest number of the format and a tie to an even mantissa. Quotients of
counts never come near the ends of the format's range, so neither overflow nor subnormal numbers
are provided for.
-/

namespace ParseTrace.Numeral

/-- The number `mantissa * 2 ^ exponent`. A mantissa other than zero has 53 binary digits. -/
structure Binary64 where
  mantissa : Nat
  exponent : Int
  deriving DecidableEq, Repr

namespace Binary64

/-- The smallest mantissa of 53 binary digits. -/
def leastMantissa : Nat := Nat.pow 2 52

/-- The quotient `numerator / denominator / 2 ^ exponent`, as numerator and denominator. -/
def scale (numerator denominator : Nat) : Int → Nat × Nat
  | .ofNat power => (numerator, denominator * Nat.pow 2 power)
  | .negSucc power => (numerator * Nat.pow 2 (power + 1), denominator)

/-- The exponent at which a quotient has 53 binary digits before the point. -/
def exponentOf (numerator denominator : Nat) : Int :=
  let guess : Int := (numerator.log2 : Int) - denominator.log2 - 52
  let scaled := scale numerator denominator guess
  if scaled.1 / scaled.2 < leastMantissa then guess - 1 else guess

/-- The number nearest to a quotient. -/
def ofRatio (numerator denominator : Nat) : Binary64 :=
  if numerator = 0 then ⟨0, 0⟩
  else
    let exponent := exponentOf numerator denominator
    let scaled := scale numerator denominator exponent
    let mantissa := roundHalfEven scaled.1 scaled.2
    if mantissa = 2 * leastMantissa then ⟨leastMantissa, exponent + 1⟩ else ⟨mantissa, exponent⟩

/-- The number nearest to an integer. -/
def ofNat (value : Nat) : Binary64 :=
  ofRatio value 1

/-- The exact value of a number, as numerator and denominator. -/
def toRatio (number : Binary64) : Nat × Nat :=
  match number.exponent with
  | .ofNat power => (number.mantissa * Nat.pow 2 power, 1)
  | .negSucc power => (number.mantissa, Nat.pow 2 (power + 1))

/-- The number nearest to the quotient of two numbers. -/
def div (left right : Binary64) : Binary64 :=
  ofRatio (left.toRatio.1 * right.toRatio.2) (left.toRatio.2 * right.toRatio.1)

/-- The number nearest to the product of two numbers. -/
def mul (left right : Binary64) : Binary64 :=
  ofRatio (left.toRatio.1 * right.toRatio.1) (left.toRatio.2 * right.toRatio.2)

/-- The 64 bits of a number: sign, eleven bits for the exponent, 52 for the mantissa. -/
def toBits (number : Binary64) : Nat :=
  if number.mantissa = 0 then 0
  else (number.exponent + 1075).toNat * leastMantissa + (number.mantissa - leastMantissa)

end Binary64

end ParseTrace.Numeral
