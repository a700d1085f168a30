import ParseTrace.Numeral.Binary64

/-!
# Rates and averages

Nothing divided by nothing counts as zero in both.
-/

namespace ParseTrace.Statistics

open Numeral

/-- The share of successes among invocations, in the binary64 format. -/
def successRate (successes invocations : Nat) : Binary64 :=
  if invocations = 0 then ⟨0, 0⟩ else (Binary64.ofNat successes).div (Binary64.ofNat invocations)

/-- The average time of an invocation, rounded down. -/
def averageNanos (totalNanos invocations : Nat) : Nat :=
  if invocations = 0 then 0 else totalNanos / invocations

end ParseTrace.Statistics
