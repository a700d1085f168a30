import ParseTrace.Numeral.Binary64
import ParseTrace.Numeral.Fixed

/-!
# Durations for readers

A duration below a microsecond is written in whole nanoseconds. A longer one is written with two
places in the largest unit that it reaches; it is divided in the binary64 format, and the
quotient is then rounded to two places.
-/

namespace ParseTrace

open Numeral

/-- The units in which durations are written. -/
inductive TimeUnit where
  | nanosecond
  | microsecond
  | millisecond
  | second
  deriving DecidableEq, Repr

namespace TimeUnit

/-- The sign of a unit. -/
def symbol : TimeUnit → String
  | nanosecond => "ns"
  | microsecond => "µs"
  | millisecond => "ms"
  | second => "s"

/-- The length of a unit in nanoseconds. -/
def nanos : TimeUnit → Nat
  | nanosecond => 1
  | microsecond => 1000
  | millisecond => 1000000
  | second => 1000000000

end TimeUnit

namespace Duration

/-- The largest unit that a duration reaches. -/
def unit (nanos : Nat) : TimeUnit :=
  if nanos < TimeUnit.microsecond.nanos then .nanosecond
  else if nanos < TimeUnit.millisecond.nanos then .microsecond
  else if nanos < TimeUnit.second.nanos then .millisecond
  else .second

/-- The number of hundredths of its unit that is written for a duration of a microsecond or more. -/
def hundredths (nanos : Nat) : Nat :=
  scaledUnits 2 ((Binary64.ofNat nanos).div (Binary64.ofNat (unit nanos).nanos)).toRatio

/-- The number that is written for a duration. -/
def number (nanos : Nat) : List Char :=
  if unit nanos = .nanosecond then Nat.toDigits 10 nanos else writeScaled 2 (hundredths nanos)

/-- A duration with its unit. -/
def format (nanos : Nat) : String :=
  let number := String.ofList (number nanos)
  s!"{number} {(unit nanos).symbol}"

end Duration

end ParseTrace
