import ParseTrace.Load.Tracker

/-!
# Watching a load

Whoever watches a load looks at it once per tick and is told what it sees: that loading is under
way, then one sample per tick, then how it ended. A cancelled ticker ends the watch. The listener
may itself act on the load or cancel the ticker while it hears an event, so a watch is a run in
which every event is followed by the listener's actions.

A load that never ends and is never cancelled is watched for ever; `poll` therefore takes a bound
on the number of samples and says so when it is not enough.
-/

namespace ParseTrace

/-- What a watcher is told. -/
inductive LoadEvent where
  | started (total : Nat)
  | progress (total current : Nat)
  | complete
  | failed (message : String)
  deriving DecidableEq, Repr

/-- How a watch ends. -/
inductive PollOutcome where
  /-- There was nothing left to watch. -/
  | alreadyReady
  | complete
  | failed
  | cancelled
  deriving DecidableEq, Repr

namespace PollOutcome

/-- The name of an outcome. -/
def name : PollOutcome → String
  | alreadyReady => "AlreadyReady"
  | complete => "Complete"
  | failed => "Failed"
  | cancelled => "Cancelled"

end PollOutcome

/-- A load and the ticker by which it is watched. -/
structure Watched where
  tracker : Tracker
  /-- Whether the ticker is cancelled. -/
  cancelled : Bool
  deriving DecidableEq, Repr

namespace Watched

/-- What a listener may do. -/
inductive Action where
  | report (action : Tracker.Action)
  | cancel
  deriving DecidableEq, Repr

/-- Carries out one action. -/
def apply (watched : Watched) : Action → Watched
  | .report action => { watched with tracker := (watched.tracker.apply action).2 }
  | .cancel => { watched with cancelled := true }

/-- Carries out actions in order. -/
def applyAll (watched : Watched) (actions : List Action) : Watched :=
  actions.foldl apply watched

end Watched

/-- What a listener does on hearing an event, given how many it heard before. -/
abbrev Listener := Nat → LoadEvent → List Watched.Action

/-- Where a watch stands: what it watches and the events told so far, in order. -/
structure Watch where
  watched : Watched
  events : List LoadEvent
  deriving DecidableEq, Repr

/-- How far a watch came. -/
inductive Verdict where
  | ended (outcome : PollOutcome)
  /-- A sample exceeded the largest count. -/
  | crashed
  /-- The bound on the number of samples was reached. -/
  | unfinished
  deriving DecidableEq, Repr

namespace Watch

/-- Tells the listener an event and lets it act. -/
def tell (listener : Listener) (watch : Watch) (event : LoadEvent) : Watch where
  watched := watch.watched.applyAll (listener watch.events.length event)
  events := watch.events ++ [event]

/-- Samples the load until it ends, given the state seen last and a bound on the samples. -/
def sample (listener : Listener) (total : Nat) : Nat → LoadState → Watch → Verdict × Watch
  | bound, state, watch =>
      match state with
      | .failed message => (.ended .failed, watch.tell listener (.failed message))
      | .ready => (.ended .complete, watch.tell listener .complete)
      | _ =>
          if watch.watched.cancelled then (.ended .cancelled, watch)
          else
            match bound with
            | 0 => (.unfinished, watch)
            | bound + 1 =>
                let tracker := watch.watched.tracker
                match tracker.records? with
                | none => (.crashed, watch)
                | some current =>
                    sample listener total bound tracker.state
                      (watch.tell listener (.progress total current))

@[simp]
theorem sample_failed (listener : Listener) (total bound : Nat) (message : String)
    (watch : Watch) :
    sample listener total bound (.failed message) watch =
      (.ended .failed, watch.tell listener (.failed message)) := by
  rw [sample]

@[simp]
theorem sample_ready (listener : Listener) (total bound : Nat) (watch : Watch) :
    sample listener total bound .ready watch =
      (.ended .complete, watch.tell listener .complete) := by
  rw [sample]

theorem sample_of_running (listener : Listener) (total : Nat) {state : LoadState}
    (running : state.isFinal = false) (watch : Watch) (bound : Nat) :
    sample listener total bound state watch =
      if watch.watched.cancelled then (.ended .cancelled, watch)
      else
        match bound with
        | 0 => (.unfinished, watch)
        | bound + 1 =>
            match watch.watched.tracker.records? with
            | none => (.crashed, watch)
            | some current =>
                sample listener total bound watch.watched.tracker.state
                  (watch.tell listener (.progress total current)) := by
  cases state with
  | notStarted => rw [sample.eq_def]
  | loading => rw [sample.eq_def]
  | ready => cases running
  | failed message => cases running

end Watch

/-- Watches a load, with a bound on the number of samples. -/
def poll (listener : Listener) (total bound : Nat) (watched : Watched) : Verdict × Watch :=
  let watch : Watch := ⟨watched, []⟩
  if watched.tracker.isReady then (.ended .alreadyReady, watch)
  else
    Watch.sample listener total bound watched.tracker.state (watch.tell listener (.started total))

end ParseTrace
