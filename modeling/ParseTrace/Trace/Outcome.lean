import ParseTrace.Trace.Error

/-!
# How a request ends

Most requests end with a value or with an error that their caller handles. A few can crash: the
request is then abandoned, and what it had already changed stays changed.
-/

namespace ParseTrace

/-- Why a request was abandoned. -/
inductive Crash where
  /-- A count or an identifier left the range of its type. -/
  | overflow
  /-- Room was asked for more records or bytes than can be addressed. -/
  | capacity
  /-- A view gave up while it was refreshed. -/
  | view
  deriving DecidableEq, Repr

/-- How a request ends. -/
inductive Outcome (α : Type) where
  | ok (value : α)
  | error (cause : TraceError)
  | crash (cause : Crash)
  deriving DecidableEq, Repr

namespace Outcome

/-- A request that can fail but not crash. -/
def ofExcept : Except TraceError α → Outcome α
  | .ok value => .ok value
  | .error cause => .error cause

/-- Changes the value of a request that succeeded. -/
def map (change : α → β) : Outcome α → Outcome β
  | .ok value => .ok (change value)
  | .error cause => .error cause
  | .crash cause => .crash cause

/-- Goes on with the value of a request that succeeded. -/
def bind (first : Outcome α) (next : α → Outcome β) : Outcome β :=
  match first with
  | .ok value => next value
  | .error cause => .error cause
  | .crash cause => .crash cause

instance : Monad Outcome where
  pure := .ok
  bind := bind

@[simp]
theorem ok_bind {value : α} {next : α → Outcome β} : (Outcome.ok value >>= next) = next value :=
  rfl

@[simp]
theorem error_bind {cause : TraceError} {next : α → Outcome β} :
    (Outcome.error cause >>= next) = .error cause :=
  rfl

@[simp]
theorem crash_bind {cause : Crash} {next : α → Outcome β} :
    (Outcome.crash cause >>= next) = .crash cause :=
  rfl

/-- A value that is there unless computing it overflowed. -/
def ofChecked : Option α → Outcome α
  | some value => .ok value
  | none => .crash .overflow

end Outcome

end ParseTrace
