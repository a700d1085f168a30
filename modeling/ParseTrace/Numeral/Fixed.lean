import ParseTrace.Numeral.Rounding

/-!
# Decimals with a fixed number of places

A quotient is written with a given number of digits behind the point. The last digit is rounded
from the exact value, and a tie goes to the even digit.
-/

namespace ParseTrace.Numeral

/-- The digits of a number, padded with zeros on the left. -/
def padDigits (width value : Nat) : List Char :=
  let digits := Nat.toDigits 10 value
  List.replicate (width - digits.length) '0' ++ digits

/-- A number of units of the last place, written with the point. -/
def writeScaled (places units : Nat) : List Char :=
  if places = 0 then Nat.toDigits 10 units
  else
    let unit := Nat.pow 10 places
    Nat.toDigits 10 (units / unit) ++ '.' :: padDigits places (units % unit)

/-- A quotient in units of the last of so many places. -/
def scaledUnits (places : Nat) (ratio : Nat × Nat) : Nat :=
  roundHalfEven (ratio.1 * Nat.pow 10 places) ratio.2

/-- A quotient with a fixed number of places. -/
def writeFixed (places : Nat) (ratio : Nat × Nat) : List Char :=
  writeScaled places (scaledUnits places ratio)

end ParseTrace.Numeral
