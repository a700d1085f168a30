import ParseTrace.Numeral.Binary64

/-!
# The shortest decimal that reads back

A number of the binary64 format stands for all reals that round to it. Among the decimals that lie
in that interval those with the fewest digits are short, and of the short ones the one nearest to
the number is its text. A grid of decimals hits the interval only if one of the number's two
neighbours on that grid does, so it is enough to look at the neighbours, grid after grid.
-/

namespace ParseTrace.Numeral

/-- The decimal `digits * 10 ^ exponent`. -/
structure Decimal where
  digits : Nat
  exponent : Int
  deriving DecidableEq, Repr

namespace Decimal

/-- The value of a decimal, as numerator and denominator. -/
def toRatio (decimal : Decimal) : Nat × Nat :=
  match decimal.exponent with
  | .ofNat power => (decimal.digits * Nat.pow 10 power, 1)
  | .negSucc power => (decimal.digits, Nat.pow 10 (power + 1))

/-- The same value without zeros at the end, as far as `fuel` steps go. -/
def strip : Nat → Decimal → Decimal
  | 0, decimal => decimal
  | fuel + 1, decimal =>
      if decimal.digits ≠ 0 ∧ decimal.digits % 10 = 0 then
        strip fuel ⟨decimal.digits / 10, decimal.exponent + 1⟩
      else decimal

end Decimal

namespace Binary64

/-- Whether a decimal rounds to the given number. -/
def isReadBy (number : Binary64) (decimal : Decimal) : Bool :=
  let value := decimal.toRatio
  let quarter := (⟨1, number.exponent - 2⟩ : Binary64).toRatio
  let position := value.1 * quarter.2
  let unit := value.2 * quarter.1
  let gapBelow := if number.mantissa = leastMantissa then 1 else 2
  let low := (4 * number.mantissa - gapBelow) * unit
  let high := (4 * number.mantissa + 2) * unit
  if number.mantissa % 2 = 0 then low ≤ position && position ≤ high
  else low < position && position < high

/-- The exponent of the first decimal digit of a quotient other than zero. -/
def leadingExponent (ratio : Nat × Nat) : Int :=
  if ratio.2 ≤ ratio.1 then ((Nat.toDigits 10 (ratio.1 / ratio.2)).length : Int) - 1
  else -((Nat.toDigits 10 ((ratio.2 + ratio.1 - 1) / ratio.1 - 1)).length : Int)

/-- The neighbour with so many digits that the number reads back from, if there is one. Of two the
nearer wins, and the even one of two that are equally near. -/
def neighbour? (number : Binary64) (count : Nat) : Option Decimal :=
  let ratio := number.toRatio
  let exponent := leadingExponent ratio - (count - 1 : Nat)
  let unit := (⟨1, exponent⟩ : Decimal).toRatio
  let numerator := ratio.1 * unit.2
  let denominator := ratio.2 * unit.1
  let nearest := roundHalfEven numerator denominator
  let below := numerator / denominator
  let candidates := [nearest, below, below + 1].map fun digits => (⟨digits, exponent⟩ : Decimal)
  candidates.find? number.isReadBy

/-- The shortest decimal that reads back, zero for zero. -/
def shortest (number : Binary64) : Decimal :=
  if number.mantissa = 0 then ⟨0, 0⟩
  else
    match (List.range 17).findSome? fun index => number.neighbour? (index + 1) with
    | some decimal => decimal.strip 18
    | none => ⟨0, 0⟩

end Binary64

end ParseTrace.Numeral
