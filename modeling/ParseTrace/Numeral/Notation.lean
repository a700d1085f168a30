import ParseTrace.Numeral.Shortest

/-!
# Decimals in positional and scientific notation

A decimal is written positionally unless it is very large or very small, and always so that it can
be told from an integer.
-/

namespace ParseTrace.Numeral

/-- Numbers of so many places before the point are still written positionally. -/
def mostPlaces : Int := 16

/-- So many zeros behind the point are still written. -/
def mostZeros : Int := 4

/-- A decimal, positionally if its point lies within the bounds, otherwise with an exponent. -/
def writeDecimal (decimal : Decimal) : List Char :=
  let digits := Nat.toDigits 10 decimal.digits
  let places := digits.length + decimal.exponent
  if 0 ≤ decimal.exponent ∧ places ≤ mostPlaces then
    digits ++ List.replicate decimal.exponent.toNat '0' ++ ['.', '0']
  else if 0 < places ∧ places ≤ mostPlaces then
    digits.take places.toNat ++ '.' :: digits.drop places.toNat
  else if -mostZeros ≤ places ∧ places ≤ 0 then
    '0' :: '.' :: (List.replicate (-places).toNat '0' ++ digits)
  else
    let fraction := match digits.drop 1 with
      | [] => []
      | rest => '.' :: rest
    digits.take 1 ++ fraction ++ 'e' :: writeExponent (places - 1)
where
  /-- An exponent, with a sign only when it is negative. -/
  writeExponent : Int → List Char
    | .ofNat exponent => Nat.toDigits 10 exponent
    | .negSucc exponent => '-' :: Nat.toDigits 10 (exponent + 1)

end ParseTrace.Numeral
