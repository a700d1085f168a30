/-!
# Integers of a bounded range, read from decimal digits

A numeral is an optional sign and at least one digit. Digits are read from the left, and the first
one that is no digit, or that carries the value out of its range, decides how reading fails. A
range without negative numbers knows no minus sign.
-/

namespace ParseTrace.Numeral

/-- Why a text is no integer of a range. -/
inductive IntegerFault where
  | empty
  | invalidDigit
  | tooLarge
  | tooSmall
  deriving DecidableEq, Repr

namespace IntegerFault

/-- The wording of a fault. -/
def message : IntegerFault → String
  | empty => "cannot parse integer from empty string"
  | invalidDigit => "invalid digit found in string"
  | tooLarge => "number too large to fit in target type"
  | tooSmall => "number too small to fit in target type"

end IntegerFault

/-- The integers from `least` to `greatest`. -/
structure IntegerRange where
  least : Int
  greatest : Int
  deriving DecidableEq, Repr

namespace IntegerRange

/-- Unsigned integers of 8 bits. -/
def unsigned8 : IntegerRange := ⟨0, 255⟩

/-- Unsigned integers of 32 bits. -/
def unsigned32 : IntegerRange := ⟨0, 4294967295⟩

/-- Unsigned integers of 64 bits. -/
def unsigned64 : IntegerRange := ⟨0, 18446744073709551615⟩

/-- Signed integers of 32 bits. -/
def signed32 : IntegerRange := ⟨-2147483648, 2147483647⟩

/-- Signed integers of 64 bits. -/
def signed64 : IntegerRange := ⟨-9223372036854775808, 9223372036854775807⟩

/-- Whether an integer lies in the range. -/
def Contains (range : IntegerRange) (value : Int) : Prop :=
  range.least ≤ value ∧ value ≤ range.greatest

instance (range : IntegerRange) (value : Int) : Decidable (range.Contains value) :=
  inferInstanceAs (Decidable (_ ∧ _))

end IntegerRange

/-- The value of a decimal digit. -/
def digit? (char : Char) : Option Nat :=
  if '0' ≤ char ∧ char ≤ '9' then some (char.toNat - '0'.toNat) else none

/-- Reads further digits behind a number already read, up to a limit. -/
def readMagnitude (limit : Nat) (excess : IntegerFault) : Nat → List Char → Except IntegerFault Nat
  | value, [] => .ok value
  | value, char :: rest =>
      match digit? char with
      | none => .error .invalidDigit
      | some digit =>
          if 10 * value + digit ≤ limit then
            readMagnitude limit excess (10 * value + digit) rest
          else .error excess

/-- The integer of the given range that a text spells. -/
def readInteger (range : IntegerRange) (text : List Char) : Except IntegerFault Int :=
  match text with
  | [] => .error .empty
  | ['+'] => .error .invalidDigit
  | ['-'] => .error .invalidDigit
  | '+' :: digits => (readMagnitude range.greatest.toNat .tooLarge 0 digits).map Int.ofNat
  | '-' :: digits =>
      if range.least < 0 then
        (readMagnitude range.least.natAbs .tooSmall 0 digits).map fun magnitude =>
          -(magnitude : Int)
      else .error .invalidDigit
  | digits => (readMagnitude range.greatest.toNat .tooLarge 0 digits).map Int.ofNat

/-- The digits of an integer, with a minus sign when it is negative. -/
def writeInteger : Int → List Char
  | .ofNat magnitude => Nat.toDigits 10 magnitude
  | .negSucc magnitude => '-' :: Nat.toDigits 10 (magnitude + 1)

end ParseTrace.Numeral
