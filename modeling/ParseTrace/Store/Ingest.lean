import ParseTrace.Capture.Archive
import ParseTrace.Store.Append
import ParseTrace.Store.Batches

/-!
# Loading a capture into a store

A capture is read record by record and stored in batches of a given size: first the rules, then the
invocations. A full batch is stored as soon as it is complete, and what is left over once the
records have ended well. So everything before the batch in which a fault lies is stored, and
nothing of that batch. The invocations have to be listed under the numbers that the store will
give them. Between batches, and before the rest is stored, a cancelled load stops.
-/

namespace ParseTrace

namespace Store

/-- The largest batch for which room can be reserved. -/
def maxBatch : Nat := 164703072086692425

/-- How many records a load stored. -/
structure LoadSummary where
  rules : Nat
  nodes : Nat
  deriving DecidableEq, Repr

/-- Stores full batches of rules until one fails. -/
def storeRuleBatches (cancelled : Bool) (store : Store) :
    List (List Rule) → Except TraceError Unit × Store
  | [] => (.ok (), store)
  | batch :: rest =>
      if cancelled then (.error .closed, store)
      else
        match store.appendRules batch with
        | (.ok (), store) => storeRuleBatches cancelled store rest
        | (.error error, store) => (.error error, store)

/-- Stores the rules of a capture and returns their number. -/
def ingestRules (store : Store) (delivery : Delivery Rule) (size : Nat) (cancelled : Bool) :
    Except TraceError Nat × Store :=
  let (full, rest) := batches size delivery.items
  match storeRuleBatches cancelled store full with
  | (.error error, store) => (.error error, store)
  | (.ok (), store) =>
      match delivery.ending with
      | .error error => (.error (.ofCapture error), store)
      | .ok () =>
          if cancelled then (.error .closed, store)
          else
            let (result, store) := store.appendRules rest
            ((fun _ => delivery.items.length) <$> result, store)

/-- The invocations that are listed under the numbers they will be given, and the first one that
is not. -/
def splitListed (expected : Nat) :
    List (NodeId × Invocation) → List Invocation × Option Corruption
  | [] => ([], none)
  | (listed, invocation) :: rest =>
      if listed = expected then
        let (invocations, corruption) := splitListed (expected + 1) rest
        (invocation :: invocations, corruption)
      else ([], some (.unexpectedNode expected listed))

/-- Stores one batch of invocations that should begin at the given number. -/
def storeNodeBatch (store : Store) (cancelled : Bool) (expected : Nat) (batch : List Invocation) :
    Outcome Unit × Store :=
  if cancelled then (.error .closed, store)
  else
    match store.appendBatch batch with
    | (.ok first, store) =>
        if first = expected then (.ok (), store)
        else (.error (.corrupt (.misplacedBatch first expected)), store)
    | (.error error, store) => (.error error, store)
    | (.crash crash, store) => (.crash crash, store)

/-- Stores full batches of invocations until one fails. -/
def storeNodeBatches (cancelled : Bool) (expected : Nat) (store : Store) :
    List (List Invocation) → Outcome Unit × Store
  | [] => (.ok (), store)
  | batch :: rest =>
      match store.storeNodeBatch cancelled expected batch with
      | (.ok (), store) => storeNodeBatches cancelled (expected + batch.length) store rest
      | failure => failure

/-- Stores the invocations of a capture and returns their number. -/
def ingestNodes (store : Store) (delivery : Delivery (NodeId × Invocation)) (size : Nat)
    (cancelled : Bool) : Outcome Nat × Store :=
  let (invocations, corruption) := splitListed 0 delivery.items
  let (full, rest) := batches size invocations
  match storeNodeBatches cancelled 0 store full with
  | (.error error, store) => (.error error, store)
  | (.crash crash, store) => (.crash crash, store)
  | (.ok (), store) =>
      match corruption, delivery.ending with
      | some corruption, _ => (.error (.corrupt corruption), store)
      | none, .error error => (.error (.ofCapture error), store)
      | none, .ok () =>
          if rest.isEmpty then (.ok invocations.length, store)
          else
            let (result, store) :=
              store.storeNodeBatch cancelled (invocations.length - rest.length) rest
            (result.map fun _ => invocations.length, store)

/-- Loads a capture in batches of the given size, where zero counts as one. -/
def ingest (store : Store) (capture : Capture) (batchSize : Nat) (cancelled : Bool) :
    Outcome LoadSummary × Store :=
  let size := max batchSize 1
  if maxBatch < size then (.crash .capacity, store)
  else
    match store.ingestRules capture.readRules size cancelled with
    | (.error error, store) => (.error error, store)
    | (.ok rules, store) =>
        let (result, store) := store.ingestNodes capture.readInvocations size cancelled
        (result.map fun nodes => ⟨rules, nodes⟩, store)

/-- Takes a report on the progress of loading. -/
def report (store : Store) (action : Tracker.Action) : Store :=
  { store with tracker := (store.tracker.apply action).2 }

/-- Loads a capture in the background and waits for the end. Only the first load of a store counts;
it moves the load state, and its error is recorded there. -/
def load (store : Store) (capture : Capture) (batchSize : Nat) : Except TraceError Unit × Store :=
  let (started, tracker) := store.tracker.apply .start
  if started then
    match { store with tracker }.ingest capture batchSize false with
    | (.ok _, store) => (.ok (), store.report .finish)
    | (.error error, store) => (.ok (), store.report (.fail error.message))
    | (.crash _, store) => (.error (.storage .ingestionCrashed), store)
  else (.ok (), store)

end Store

end ParseTrace
