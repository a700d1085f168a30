import ParseTrace.Trace.Header

/-!
# Subscriptions

A subscriber is known by the number that it was given when it subscribed. Numbers are given in
order and do not start again when all subscribers are removed, so a stale number can do no harm.
Numbers have 64 bits; only after the last of them do they start again.
-/

namespace ParseTrace

/-- Subscribers in the order in which they subscribed. -/
structure Subscribers (α : Type) where
  /-- The number of the next subscriber. -/
  next : Nat
  entries : List (Nat × α)
  deriving DecidableEq, Repr

namespace Subscribers

variable {α : Type}

/-- No subscriber, and none before. -/
def new : Subscribers α := ⟨0, []⟩

/-- Adds a subscriber and returns its number. -/
def subscribe (subscribers : Subscribers α) (subscriber : α) : Nat × Subscribers α :=
  (subscribers.next,
    ⟨(subscribers.next + 1) % countLimit,
      subscribers.entries ++ [(subscribers.next, subscriber)]⟩)

/-- Removes the subscriber with a number. The answer says whether there was one. -/
def unsubscribe (subscribers : Subscribers α) (id : Nat) : Bool × Subscribers α :=
  (subscribers.entries.any (·.1 == id),
    { subscribers with entries := subscribers.entries.filter (·.1 != id) })

/-- Removes all subscribers. -/
def clear (subscribers : Subscribers α) : Subscribers α :=
  { subscribers with entries := [] }

/-- The subscribers, in order. -/
def snapshot (subscribers : Subscribers α) : List α :=
  subscribers.entries.map Prod.snd

/-- The number of subscribers. -/
def size (subscribers : Subscribers α) : Nat :=
  subscribers.entries.length

/-- Whether there is no subscriber. -/
def isEmpty (subscribers : Subscribers α) : Bool :=
  subscribers.size == 0

/-- What changes who is subscribed. -/
inductive Request (α : Type) where
  | subscribe (subscriber : α)
  | unsubscribe (id : Nat)
  | clear
  deriving DecidableEq, Repr

/-- What such requests are answered with. -/
inductive Reply where
  | subscribed (id : Nat)
  | unsubscribed (found : Bool)
  | cleared
  deriving DecidableEq, Repr

/-- The answer to a request and the subscribers that it leaves behind. -/
def run (subscribers : Subscribers α) : Request α → Reply × Subscribers α
  | .subscribe subscriber =>
      let (id, subscribers) := subscribers.subscribe subscriber
      (.subscribed id, subscribers)
  | .unsubscribe id =>
      let (found, subscribers) := subscribers.unsubscribe id
      (.unsubscribed found, subscribers)
  | .clear => (.cleared, subscribers.clear)

/-- The subscribers after a run. -/
def runAll (subscribers : Subscribers α) (requests : List (Request α)) : Subscribers α :=
  requests.foldl (fun subscribers request => (subscribers.run request).2) subscribers

/-- A request with its answer. -/
structure Entry (α : Type) where
  request : Request α
  reply : Reply
  deriving DecidableEq, Repr

/-- What is asked and answered in a run. -/
def transcript (subscribers : Subscribers α) : List (Request α) → List (Entry α)
  | [] => []
  | request :: rest =>
      let (reply, subscribers) := subscribers.run request
      ⟨request, reply⟩ :: transcript subscribers rest

end Subscribers

end ParseTrace
