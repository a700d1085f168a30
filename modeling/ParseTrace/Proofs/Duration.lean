import ParseTrace.Duration
import ParseTrace.Proofs.Numeral.Accuracy
import ParseTrace.Proofs.Numeral.RoundTrip

/-!
# How durations are written

A duration is written as a number and a unit, and the unit is the largest one that it reaches. The
number of units is rounded to two places afterwards. It is at least one, because rounding does not go
that far. It can come to a thousand of a unit above which there is a larger one: this happens to the
durations that are so little below the larger unit that a number with two places does not tell them
from it.
-/

namespace ParseTrace

open Numeral

variable {nanos : Nat} {char : Char}

theorem Numeral.isDigit_of_mem_padDigits {width value : Nat}
    (present : char ∈ padDigits width value) : char.isDigit = true := by
  rcases List.mem_append.mp present with filler | digit
  · rw [List.eq_of_mem_replicate filler]
    rfl
  · exact isDigit_of_mem_toDigits digit

theorem TimeUnit.value_nanos (unit : TimeUnit) :
    (Binary64.ofNat unit.nanos).value = unit.nanos := by
  apply Binary64.value_ofNat
  cases unit <;> decide

theorem TimeUnit.nanos_pos (unit : TimeUnit) : 0 < unit.nanos := by
  cases unit <;> decide

namespace Duration

section Text

/-- A number holds digits and at most a point. -/
theorem isDigit_or_point_of_mem_number (present : char ∈ number nanos) :
    char.isDigit = true ∨ char = '.' := by
  rw [number] at present
  split at present
  · exact Or.inl (isDigit_of_mem_toDigits present)
  · rw [writeScaled, if_neg (by decide)] at present
    rcases List.mem_append.mp present with digit | fraction
    · exact Or.inl (isDigit_of_mem_toDigits digit)
    · rcases List.mem_cons.mp fraction with point | digit
      · exact Or.inr point
      · exact Or.inl (isDigit_of_mem_padDigits digit)

theorem toList_format (nanos : Nat) :
    (format nanos).toList = number nanos ++ ' ' :: (unit nanos).symbol.toList := by
  simp [format, toString]

theorem newline_not_mem_format (nanos : Nat) : '\n' ∉ (format nanos).toList := by
  intro present
  rw [toList_format, List.mem_append, List.mem_cons] at present
  rcases present with inNumber | blank | inSymbol
  · rcases isDigit_or_point_of_mem_number inNumber with digit | point
    · exact absurd digit (by decide)
    · exact absurd point (by decide)
  · exact absurd blank (by decide)
  · revert inSymbol
    cases unit nanos <;> decide

/-- All units are written with an `s` at the end. -/
theorem format_ends (nanos : Nat) : ∃ front, (format nanos).toList = front ++ ['s'] := by
  have ends : ∃ front, (unit nanos).symbol.toList = front ++ ['s'] := by
    cases unit nanos
    · exact ⟨['n'], rfl⟩
    · exact ⟨['µ'], rfl⟩
    · exact ⟨['m'], rfl⟩
    · exact ⟨[], rfl⟩
  rcases ends with ⟨front, symbol⟩
  exact ⟨number nanos ++ ' ' :: front, by rw [toList_format, symbol]; simp⟩

end Text

section Number

/-- The unit of a duration and the durations that have it. -/
theorem unit_cases (nanos : Nat) :
    (unit nanos = .nanosecond ∧ nanos < 1000) ∨
    (unit nanos = .microsecond ∧ 1000 ≤ nanos ∧ nanos < 1000000) ∨
    (unit nanos = .millisecond ∧ 1000000 ≤ nanos ∧ nanos < 1000000000) ∨
    (unit nanos = .second ∧ 1000000000 ≤ nanos) := by
  by_cases short : nanos < 1000
  · exact .inl ⟨if_pos short, short⟩
  by_cases middle : nanos < 1000000
  · exact .inr (.inl ⟨(if_neg short).trans (if_pos middle), Nat.le_of_not_lt short, middle⟩)
  by_cases long : nanos < 1000000000
  · exact .inr (.inr (.inl ⟨(if_neg short).trans ((if_neg middle).trans (if_pos long)),
      Nat.le_of_not_lt middle, long⟩))
  · exact .inr (.inr (.inr ⟨(if_neg short).trans ((if_neg middle).trans (if_neg long)),
      Nat.le_of_not_lt long⟩))

theorem reaches_unit (noNano : unit nanos ≠ .nanosecond) : (unit nanos).nanos ≤ nanos := by
  rcases unit_cases nanos with ⟨nano, _⟩ | ⟨micro, reached, _⟩ | ⟨milli, reached, _⟩ |
    ⟨second, reached⟩
  · exact absurd nano noNano
  · rwa [micro]
  · rwa [milli]
  · rwa [second]

theorem lt_of_nanosecond (nano : unit nanos = .nanosecond) : nanos < 1000 := by
  rcases unit_cases nanos with ⟨_, short⟩ | ⟨micro, _⟩ | ⟨milli, _⟩ | ⟨second, _⟩
  · exact short
  · simp [micro] at nano
  · simp [milli] at nano
  · simp [second] at nano

theorem lt_of_ne_second (noSecond : unit nanos ≠ .second) : nanos < 1000000000 := by
  rcases unit_cases nanos with ⟨_, short⟩ | ⟨_, _, short⟩ | ⟨_, _, short⟩ | ⟨second, _⟩
  · omega
  · omega
  · exact short
  · exact absurd second noSecond

/-- The number of hundredths is off by one half, and by what the two roundings before make of it. -/
theorem abs_hundredths_sub_le (nanos : Nat) :
    |(hundredths nanos : ℚ) - 100 * (nanos / (unit nanos).nanos)| ≤
      1 / 2 + 100 * (nanos / (unit nanos).nanos) / 2 ^ 51 := by
  have long : (0 : ℚ) < (unit nanos).nanos := by exact_mod_cast (unit nanos).nanos_pos
  have exactUnit := (unit nanos).value_nanos
  have converted := Binary64.abs_value_ofNat_sub_le nanos
  have divided := Binary64.abs_value_div_sub_le (Binary64.ofNat nanos) (by rwa [← exactUnit] at long)
  have written := abs_scaledUnits_sub_le 2
    ((Binary64.ofNat nanos).div (Binary64.ofNat (unit nanos).nanos)).toRatio_snd_pos
  rw [Binary64.toRatio_div] at written
  rw [exactUnit] at divided
  change |(hundredths nanos : ℚ) - _| ≤ _ at written
  generalize (Binary64.ofNat nanos).value = rounded at *
  generalize ((Binary64.ofNat nanos).div (Binary64.ofNat (unit nanos).nanos)).value = quotient at *
  have scaled : |rounded / (unit nanos).nanos - nanos / (unit nanos).nanos| ≤
      (nanos : ℚ) / (unit nanos).nanos / 2 ^ 53 := by
    rw [← sub_div, abs_div, abs_of_pos long, div_right_comm]
    gcongr
  have positive : (0 : ℚ) ≤ nanos / (unit nanos).nanos := by positivity
  rw [abs_le] at *
  constructor
  · linarith
  · linarith

/-- The same error in nanoseconds. -/
theorem abs_hundredths_mul_sub_le (nanos : Nat) :
    |(hundredths nanos * (unit nanos).nanos : ℚ) - 100 * nanos| ≤
      (unit nanos).nanos / 2 + 100 * nanos / 2 ^ 51 := by
  have long : (0 : ℚ) < (unit nanos).nanos := by exact_mod_cast (unit nanos).nanos_pos
  have near := abs_hundredths_sub_le nanos
  have counted : (nanos : ℚ) / (unit nanos).nanos * (unit nanos).nanos = nanos :=
    div_mul_cancel₀ _ long.ne'
  generalize (nanos : ℚ) / (unit nanos).nanos = units at *
  rw [← counted]
  calc |(hundredths nanos * (unit nanos).nanos : ℚ) - 100 * (units * (unit nanos).nanos)|
      = |(hundredths nanos : ℚ) - 100 * units| * (unit nanos).nanos := by
        rw [← abs_of_pos long, ← abs_mul, abs_of_pos long, sub_mul, mul_assoc]
    _ ≤ (1 / 2 + 100 * units / 2 ^ 51) * (unit nanos).nanos := by gcongr
    _ = (unit nanos).nanos / 2 + 100 * (units * (unit nanos).nanos) / 2 ^ 51 := by ring

/-- Below a second the number is the nearest one with two places. -/
theorem hundredths_nearest (brief : nanos < 1000000000) :
    2 * (hundredths nanos * (unit nanos).nanos) ≤ 200 * nanos + (unit nanos).nanos ∧
      200 * nanos ≤ 2 * (hundredths nanos * (unit nanos).nanos) + (unit nanos).nanos := by
  have near := abs_le.mp (abs_hundredths_mul_sub_le nanos)
  have small : (nanos : ℚ) < 1000000000 := by exact_mod_cast brief
  -- What the roundings before add is less than one, and all other numbers are integers.
  have upper : (2 * (hundredths nanos * (unit nanos).nanos) : ℚ) <
      200 * nanos + (unit nanos).nanos + 1 := by linarith
  have lower : (200 * nanos : ℚ) <
      2 * (hundredths nanos * (unit nanos).nanos) + (unit nanos).nanos + 1 := by linarith
  constructor
  · exact Nat.le_of_lt_succ (by exact_mod_cast upper)
  · exact Nat.le_of_lt_succ (by exact_mod_cast lower)

/-- The number is off by less than one hundredth. -/
theorem hundredths_close (fits : nanos < 2 ^ 64) :
    hundredths nanos * (unit nanos).nanos < 100 * nanos + (unit nanos).nanos ∧
      100 * nanos < hundredths nanos * (unit nanos).nanos + (unit nanos).nanos := by
  by_cases brief : nanos < 1000000000
  · have nearest := hundredths_nearest brief
    have long := (unit nanos).nanos_pos
    omega
  · have near := abs_le.mp (abs_hundredths_mul_sub_le nanos)
    have isSecond : unit nanos = .second := by
      by_contra noSecond
      exact brief (lt_of_ne_second noSecond)
    have small : (nanos : ℚ) < 2 ^ 64 := by exact_mod_cast fits
    rw [isSecond, TimeUnit.nanos] at near ⊢
    push_cast at near
    have upper : (hundredths nanos * 1000000000 : ℚ) < 100 * nanos + 1000000000 := by linarith
    have lower : (100 * nanos : ℚ) < hundredths nanos * 1000000000 + 1000000000 := by linarith
    exact ⟨by exact_mod_cast upper, by exact_mod_cast lower⟩

/-- A duration that reaches its unit is never written as less than one. -/
theorem le_hundredths (reached : (unit nanos).nanos ≤ nanos) : 100 ≤ hundredths nanos := by
  have long : (0 : ℚ) < (unit nanos).nanos := by exact_mod_cast (unit nanos).nanos_pos
  have one : (1 : ℚ) ≤ nanos / (unit nanos).nanos := by
    rw [one_le_div long]
    exact_mod_cast reached
  have near := (abs_le.mp (abs_hundredths_sub_le nanos)).1
  have more : (99 : ℚ) < hundredths nanos := by linarith
  exact Nat.succ_le_of_lt (by exact_mod_cast more)

/-- The tie between the last number below a thousand and a thousand itself: the quotient of the division
is a little more than the tie. -/
theorem hundredths_tie : hundredths 999995 = 100000 ∧ hundredths 999995000 = 100000 := by
  decide +kernel

/-- Below a second a number comes to a thousand if the duration is within half a hundredth of it. -/
theorem hundredths_lt_iff (noNano : unit nanos ≠ .nanosecond) (noSecond : unit nanos ≠ .second) :
    (hundredths nanos < 100000 ↔ 1000 * nanos < 999995 * (unit nanos).nanos) ∧
      hundredths nanos ≤ 100000 := by
  rcases unit_cases nanos with ⟨nano, _⟩ | ⟨micro, _, below⟩ | ⟨milli, _, below⟩ | ⟨second, _⟩
  · exact absurd nano noNano
  · have nearest := hundredths_nearest (Nat.lt_trans below (by decide))
    rw [micro, TimeUnit.nanos] at nearest ⊢
    by_cases tie : nanos = 999995
    · rw [tie, hundredths_tie.1]
      omega
    · omega
  · have nearest := hundredths_nearest below
    rw [milli, TimeUnit.nanos] at nearest ⊢
    by_cases tie : nanos = 999995000
    · rw [tie, hundredths_tie.2]
      omega
    · omega
  · exact absurd second noSecond

theorem format_of_nanosecond (nano : unit nanos = .nanosecond) : format nanos = s!"{nanos} ns" := by
  simp [format, number, nano, TimeUnit.symbol, toString, Nat.repr, String.append_assoc]

/-- The number in front of the unit has two places, which are the hundredths. -/
theorem format_of_ne_nanosecond (noNano : unit nanos ≠ .nanosecond) :
    format nanos = s!"{hundredths nanos / 100}." ++
      s!"{String.ofList (padDigits 2 (hundredths nanos % 100))} {(unit nanos).symbol}" := by
  simp [format, number, noNano, writeScaled, toString, Nat.repr, String.append_assoc]

/-- What is written for a duration. In nanoseconds it is an integer below a thousand. In a larger unit
it is a number with two places that is not less than one, and it is off by less than a hundredth if the
duration has 64 bits. Below a second it is the nearest such number, and it is less than a thousand
unless the duration is 999.995 units or more: then it is rounded up to a thousand of its unit, although
there is a larger one. -/
theorem number_fits_unit_unless_rounded_up (nanos : Nat) :
    (unit nanos = .nanosecond → nanos < 1000 ∧ format nanos = s!"{nanos} ns") ∧
    (unit nanos ≠ .nanosecond → ∃ whole cents, cents < 100 ∧
      format nanos =
        s!"{whole}." ++ s!"{String.ofList (padDigits 2 cents)} {(unit nanos).symbol}" ∧
      1 ≤ whole ∧
      (nanos < 2 ^ 64 →
        (100 * whole + cents) * (unit nanos).nanos < 100 * nanos + (unit nanos).nanos ∧
        100 * nanos < (100 * whole + cents) * (unit nanos).nanos + (unit nanos).nanos) ∧
      (unit nanos ≠ .second →
        2 * ((100 * whole + cents) * (unit nanos).nanos) ≤ 200 * nanos + (unit nanos).nanos ∧
        200 * nanos ≤ 2 * ((100 * whole + cents) * (unit nanos).nanos) + (unit nanos).nanos ∧
        (1000 * nanos < 999995 * (unit nanos).nanos → whole < 1000) ∧
        (999995 * (unit nanos).nanos ≤ 1000 * nanos → whole = 1000 ∧ cents = 0))) := by
  constructor
  · exact fun nano => ⟨lt_of_nanosecond nano, format_of_nanosecond nano⟩
  · intro noNano
    have parts : 100 * (hundredths nanos / 100) + hundredths nanos % 100 = hundredths nanos :=
      Nat.div_add_mod _ _
    have one := le_hundredths (reaches_unit noNano)
    refine ⟨hundredths nanos / 100, hundredths nanos % 100, Nat.mod_lt _ (by decide),
      format_of_ne_nanosecond noNano, by omega, ?_⟩
    rw [parts]
    refine ⟨hundredths_close, ?_⟩
    intro noSecond
    rcases hundredths_lt_iff noNano noSecond with ⟨less, most⟩
    refine ⟨(hundredths_nearest (lt_of_ne_second noSecond)).1,
      (hundredths_nearest (lt_of_ne_second noSecond)).2, ?_, ?_⟩
    · intro below
      have := less.mpr below
      omega
    · intro close
      have := mt less.mp (Nat.not_lt.mpr close)
      omega

/-- The last duration that is not rounded up. -/
theorem below_rounding_is_below_thousand : unit 999994 = .microsecond ∧ ∃ whole cents,
    format 999994 = s!"{whole}." ++
      s!"{String.ofList (padDigits 2 cents)} {TimeUnit.microsecond.symbol}" ∧
    1 ≤ whole ∧ whole < 1000 := by
  have micro : unit 999994 = .microsecond := by decide
  have noNano : unit 999994 ≠ .nanosecond := by decide
  have noSecond : unit 999994 ≠ .second := by decide
  rcases (number_fits_unit_unless_rounded_up 999994).2 noNano with
    ⟨whole, cents, _, written, one, _, fits⟩
  rw [micro] at written
  exact ⟨micro, whole, cents, written, one, (fits noSecond).2.2.1 (by decide)⟩

/-- A duration just below a millisecond is written as a thousand microseconds. -/
theorem thousand_of_microseconds_is_written :
    999999 < 2 ^ 64 ∧ unit 999999 = .microsecond ∧ format 999999 = "1000.00 µs" := by
  decide +kernel

end Number

end Duration

end ParseTrace
