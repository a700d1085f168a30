import ParseTrace.Numeral.Fixed

/-!
# Dates of the Gregorian calendar

A moment is a number of milliseconds since the start of 1970 in universal time. Years are those of
the proleptic Gregorian calendar, with a year zero. The calendar repeats every 400 years, and
within such a cycle years are counted from March, so that the day added in leap years is the last
of its year.
-/

namespace ParseTrace.Calendar

open Numeral (padDigits)

/-- Milliseconds of a day. -/
def dayMillis : Int := 86400000

/-- The first moment that has a date: the start of the year -262143. -/
def firstMoment : Int := -8334601228800000

/-- The last moment that has a date: the end of the year 262142. -/
def lastMoment : Int := 8210266876799999

/-- Whether a moment has a date. -/
def HasDate (moment : Int) : Prop :=
  firstMoment ≤ moment ∧ moment ≤ lastMoment

instance (moment : Int) : Decidable (HasDate moment) :=
  inferInstanceAs (Decidable (_ ∧ _))

/-- A day of a year. -/
structure Date where
  year : Int
  month : Nat
  day : Nat
  deriving DecidableEq, Repr

/-- The date of a day that is counted from the start of 1970. -/
def dateOfDay (day : Int) : Date :=
  -- Days are counted anew from the first of March of the year zero.
  let shifted := day + 719468
  let cycle := shifted / 146097
  let dayOfCycle := shifted % 146097
  let yearOfCycle :=
    (dayOfCycle - dayOfCycle / 1460 + dayOfCycle / 36524 - dayOfCycle / 146096) / 365
  let dayOfYear := dayOfCycle - (365 * yearOfCycle + yearOfCycle / 4 - yearOfCycle / 100)
  let monthFromMarch := (5 * dayOfYear + 2) / 153
  let dayOfMonth := dayOfYear - (153 * monthFromMarch + 2) / 5 + 1
  let month := if monthFromMarch < 10 then monthFromMarch + 3 else monthFromMarch - 9
  let year := yearOfCycle + 400 * cycle + (if month ≤ 2 then 1 else 0)
  { year, month := month.toNat, day := dayOfMonth.toNat }

/-- A year of four digits, with a sign and more digits where four are not enough. -/
def writeYear (year : Int) : List Char :=
  if 0 ≤ year ∧ year ≤ 9999 then padDigits 4 year.toNat
  else (if year < 0 then '-' else '+') :: padDigits 4 year.natAbs

/-- A moment as date and time, with three digits of a second only where it has a fraction, and
with the given mark for universal time. -/
def writeMoment (zone : String) (moment : Int) : String :=
  let date := dateOfDay (moment / dayMillis)
  let millis := (moment % dayMillis).toNat
  let seconds := millis / 1000
  let fraction := millis % 1000
  let digits :=
    writeYear date.year ++ '-' :: padDigits 2 date.month ++ '-' :: padDigits 2 date.day ++
      'T' :: padDigits 2 (seconds / 3600) ++ ':' :: padDigits 2 (seconds / 60 % 60) ++
      ':' :: padDigits 2 (seconds % 60) ++
      (if fraction = 0 then [] else '.' :: padDigits 3 fraction)
  String.ofList digits ++ zone

end ParseTrace.Calendar
