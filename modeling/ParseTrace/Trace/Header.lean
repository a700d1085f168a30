/-!
# What a trace announces about itself

The header of a trace is known before any of its invocations is read. Its counts are what the
trace announces, not what it holds.
-/

namespace ParseTrace

/-- One past the largest unsigned count of 64 bits. -/
def countLimit : Nat := 18446744073709551616

/-- The sum of two counts, if it is still a count of 64 bits. -/
def addCounts? (left right : Nat) : Option Nat :=
  if left + right < countLimit then some (left + right) else none

/-- The summary at the start of a trace. -/
structure Header where
  /-- When the trace was taken, in milliseconds since 1970 in universal time. -/
  capturedAt : Int
  /-- Announced number of rules. -/
  ruleCount : Nat
  /-- Announced number of invocations. -/
  nodeCount : Nat
  /-- Announced number of levels of the parse tree. -/
  depth : Nat
  deriving DecidableEq, Repr

namespace Header

/-- The number of records that loading should bring, none past the largest count. -/
def totalRecords? (header : Header) : Option Nat :=
  addCounts? header.ruleCount header.nodeCount

end Header

end ParseTrace
