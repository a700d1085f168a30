/-!
# Latches

A latch opens once it was counted down a given number of times, and stays open.
-/

namespace ParseTrace

/-- A latch that still has to be counted down so many times. -/
structure Latch where
  remaining : Nat
  deriving DecidableEq, Repr

namespace Latch

/-- Counts down once, which an open latch takes no notice of. -/
def countDown (latch : Latch) : Latch :=
  ⟨latch.remaining - 1⟩

/-- Whether nobody has to wait at the latch. -/
def isOpen (latch : Latch) : Bool :=
  latch.remaining == 0

end Latch

end ParseTrace
