import ParseTrace.Proofs.Load.Cells
import ParseTrace.Proofs.Load.History

/-!
# What a watcher is told

Whoever watches a load hears that it is under way, then one sample after the other, and at last how
it ended. The listener acts on the load and on the ticker while it hears an event, and the watch goes
on from what it saw before that event. Nothing leads out of a final state, so what was seen is still
true when the last event is told, whatever slipped in between.
-/

namespace ParseTrace

namespace Watched

variable {watched : Watched}

/-- The report that an action makes. -/
def Action.report? : Action → Option Tracker.Action
  | .report action => some action
  | .cancel => none

/-- The reports among actions. -/
def reports (actions : List Action) : List Tracker.Action :=
  actions.filterMap Action.report?

theorem applyAll_append (watched : Watched) (first second : List Action) :
    watched.applyAll (first ++ second) = (watched.applyAll first).applyAll second :=
  List.foldl_append

theorem tracker_applyAll (watched : Watched) (actions : List Action) :
    (watched.applyAll actions).tracker = watched.tracker.applyAll (reports actions) := by
  induction actions generalizing watched with
  | nil => rfl
  | cons action rest ih =>
      cases action with
      | report action => exact ih _
      | cancel => exact ih _

end Watched

/-- All that a listener does while it hears events. -/
def Listener.heard (listener : Listener) (events : List LoadEvent) : List Watched.Action :=
  (events.mapIdx listener).flatten

/-- The start of every watch: that loading is under way, and samples. -/
def told (total : Nat) (counts : List Nat) : List LoadEvent :=
  .started total :: counts.map (.progress total)

theorem told_append (total : Nat) (counts : List Nat) (current : Nat) :
    told total (counts ++ [current]) = told total counts ++ [.progress total current] := by
  simp [told]

variable {listener : Listener} {entry : Watched} {total : Nat}

/-- The load and the ticker after the listener heard events. -/
def Watched.after (entry : Watched) (listener : Listener) (events : List LoadEvent) : Watched :=
  entry.applyAll (listener.heard events)

theorem Watched.after_append (entry : Watched) (listener : Listener) (events : List LoadEvent)
    (event : LoadEvent) :
    entry.after listener (events ++ [event]) =
      (entry.after listener events).applyAll (listener events.length event) := by
  simp [after, Listener.heard, applyAll_append]

theorem Watched.state_after_append {events : List LoadEvent}
    (isFinal : (entry.after listener events).tracker.state.isFinal = true) (event : LoadEvent) :
    (entry.after listener (events ++ [event])).tracker.state =
      (entry.after listener events).tracker.state := by
  rw [after_append, tracker_applyAll]
  exact Tracker.state_applyAll_of_isFinal isFinal _

theorem Watched.failures_eq {history : List Tracker.Action} {cancelled : Bool}
    {events : List LoadEvent} {message : String}
    (failed : (after ⟨Tracker.new.applyAll history, cancelled⟩ listener events).tracker.state =
      .failed message) :
    Tracker.new.failures (history ++ reports (listener.heard events)) = [message] := by
  rw [after, tracker_applyAll, ← Tracker.applyAll_append] at failed
  exact Tracker.failures_eq_of_state failed

namespace Watch

/-- A watch that began at a load and has told events. -/
def behind (listener : Listener) (entry : Watched) (events : List LoadEvent) : Watch :=
  ⟨entry.after listener events, events⟩

theorem tell_behind (listener : Listener) (entry : Watched) (events : List LoadEvent)
    (event : LoadEvent) :
    (behind listener entry events).tell listener event =
      behind listener entry (events ++ [event]) := by
  simp [behind, tell, Watched.after_append]

/-- How a watch stands at its verdict. All that it told before the last event are samples, and the
load was in the state that the last event tells. -/
inductive Fits (listener : Listener) (entry : Watched) (total : Nat) : Verdict → Watch → Prop where
  | complete {counts : List Nat} (sampled : counts ≠ [])
      (ready : (entry.after listener (told total counts)).tracker.state = .ready) :
      Fits listener entry total (.ended .complete)
        (behind listener entry (told total counts ++ [.complete]))
  | failed {counts : List Nat} {message : String}
      (failed : (entry.after listener (told total counts)).tracker.state = .failed message) :
      Fits listener entry total (.ended .failed)
        (behind listener entry (told total counts ++ [.failed message]))
  | cancelled {counts : List Nat}
      (cancelled : (entry.after listener (told total counts)).cancelled = true) :
      Fits listener entry total (.ended .cancelled) (behind listener entry (told total counts))
  | crashed {counts : List Nat}
      (large : (entry.after listener (told total counts)).tracker.records? = none) :
      Fits listener entry total .crashed (behind listener entry (told total counts))
  | unfinished {counts : List Nat} :
      Fits listener entry total .unfinished (behind listener entry (told total counts))

/-- The state seen last: the one on entry or the one before the last sample. -/
structure SeenLast (listener : Listener) (entry : Watched) (total : Nat) (counts : List Nat)
    (state : LoadState) : Prop where
  sampled : state = .ready → counts ≠ []
  lasts : state.isFinal = true → (entry.after listener (told total counts)).tracker.state = state

theorem SeenLast.next (counts : List Nat) (current : Nat) :
    SeenLast listener entry total (counts ++ [current])
      (entry.after listener (told total counts)).tracker.state where
  sampled := by simp
  lasts := by
    intro isFinal
    rw [told_append]
    exact Watched.state_after_append isFinal _

theorem SeenLast.onEntry (notReady : entry.tracker.state ≠ .ready) :
    SeenLast listener entry total [] entry.tracker.state where
  sampled := fun ready => absurd ready notReady
  lasts := by
    intro isFinal
    have start : entry.after listener [] = entry := rfl
    rw [← start] at isFinal
    exact Watched.state_after_append isFinal _

theorem sample_fits_of_isFinal (bound : Nat) {counts : List Nat} {state : LoadState}
    (seen : SeenLast listener entry total counts state) (isFinal : state.isFinal = true) :
    let result := sample listener total bound state (behind listener entry (told total counts))
    Fits listener entry total result.1 result.2 := by
  cases state with
  | ready =>
      rw [sample_ready, tell_behind]
      exact .complete (seen.sampled rfl) (seen.lasts rfl)
  | failed message =>
      rw [sample_failed, tell_behind]
      exact .failed (seen.lasts rfl)
  | notStarted => cases isFinal
  | loading => cases isFinal

/-- However many samples are taken, the verdict fits what was told. -/
theorem sample_fits (bound : Nat) {counts : List Nat} {state : LoadState}
    (seen : SeenLast listener entry total counts state) :
    let result := sample listener total bound state (behind listener entry (told total counts))
    Fits listener entry total result.1 result.2 := by
  induction bound generalizing counts state with
  | zero =>
      cases isFinal : state.isFinal with
      | true => exact sample_fits_of_isFinal 0 seen isFinal
      | false =>
          rw [sample_of_running listener total isFinal]
          split
          next cancelled => exact .cancelled cancelled
          next => exact .unfinished
  | succ bound ih =>
      cases isFinal : state.isFinal with
      | true => exact sample_fits_of_isFinal (bound + 1) seen isFinal
      | false =>
          rw [sample_of_running listener total isFinal]
          split
          next cancelled => exact .cancelled cancelled
          next =>
            dsimp only
            split
            next large => exact .crashed large
            next current _ =>
              -- What is looked at next was sampled before the listener heard of it.
              rw [tell_behind, ← told_append]
              exact ih (.next counts current)

theorem poll_of_ready (bound : Nat) (ready : entry.tracker.state = .ready) :
    poll listener total bound entry = (.ended .alreadyReady, ⟨entry, []⟩) := by
  simp [poll, Tracker.isReady, ready]

theorem poll_of_notReady (bound : Nat) (notReady : entry.tracker.state ≠ .ready) :
    poll listener total bound entry =
      sample listener total bound entry.tracker.state (behind listener entry (told total [])) := by
  simp [poll, Tracker.isReady, notReady, tell, behind, told, Watched.after, Listener.heard]

theorem poll_fits (listener : Listener) (total bound : Nat)
    (notReady : entry.tracker.state ≠ .ready) :
    Fits listener entry total (poll listener total bound entry).1
      (poll listener total bound entry).2 := by
  rw [poll_of_notReady bound notReady]
  exact sample_fits bound (.onEntry notReady)

end Watch

open Watch

/-- What is told in a watch that ends, for every history of the load and every listener. A load that
is ready is not watched. Otherwise the start and the samples come first. Then the watch is complete
after a sample and the load is ready; or it has failed, and the cause is the message of the one
failure that changed the state; or the ticker is cancelled and nothing more is told. A load that
failed before is watched for no sample. All this is so as well when the load is kept in cells, so
that no text has to stand for a missing cause. -/
theorem poll_tells_its_outcome (listener : Listener) (total bound : Nat)
    (history : List Tracker.Action) (cancelled : Bool) {outcome : PollOutcome} {watch : Watch}
    (ended : poll listener total bound ⟨Tracker.new.applyAll history, cancelled⟩ =
      (.ended outcome, watch)) :
    let entry : Watched := ⟨Tracker.new.applyAll history, cancelled⟩
    (outcome = .alreadyReady ∧ watch.events = [] ↔ entry.tracker.state = .ready) ∧
    (entry.tracker.state ≠ .ready → ∃ counts : List Nat,
      (outcome = .complete ∧ watch.events = told total counts ++ [.complete] ∧ counts ≠ [] ∧
        (entry.after listener (told total counts)).tracker.state = .ready) ∨
      (∃ message, outcome = .failed ∧
        watch.events = told total counts ++ [.failed message] ∧
        (entry.after listener (told total counts)).tracker.state = .failed message ∧
        Tracker.new.failures (history ++ Watched.reports (listener.heard watch.events)) =
          [message]) ∨
      (outcome = .cancelled ∧ watch.events = told total counts ∧
        watch.watched.cancelled = true)) ∧
    (∀ message, entry.tracker.state = .failed message →
      watch.events = [.started total, .failed message]) ∧
    ∃ cellWatch, CellWatch.poll listener total bound (Cells.new.applyAll history) cancelled =
      (.ended outcome, cellWatch) ∧ cellWatch.events = watch.events := by
  intro entry
  have fits : entry.tracker.state ≠ .ready →
      Fits listener entry total (.ended outcome) watch := by
    intro notReady
    have all := poll_fits listener total bound notReady
    rwa [ended] at all
  refine ⟨⟨?_, ?_⟩, ?_, ?_, ?_⟩
  · rintro ⟨rfl, _⟩
    by_contra notReady
    cases fits notReady
  · intro ready
    rw [poll_of_ready bound ready] at ended
    cases ended
    exact ⟨rfl, rfl⟩
  · intro notReady
    cases fits notReady with
    | @complete counts sampled ready => exact ⟨counts, Or.inl ⟨rfl, rfl, sampled, ready⟩⟩
    | @failed counts message failed =>
        -- Whatever the listener does while it hears of the failure, the cause stays.
        have still : (entry.after listener (told total counts ++ [.failed message])).tracker.state =
            .failed message := by
          rw [Watched.state_after_append (by rw [failed]; rfl), failed]
        exact ⟨counts, Or.inr (Or.inl ⟨message, rfl, rfl, failed, Watched.failures_eq still⟩)⟩
    | @cancelled counts cancelled =>
        exact ⟨counts, Or.inr (Or.inr ⟨rfl, rfl, cancelled⟩)⟩
  · intro message failed
    have notReady : entry.tracker.state ≠ .ready := by simp [failed]
    rw [poll_of_notReady bound notReady, failed, sample_failed, tell_behind] at ended
    cases ended
    rfl
  · rcases CellWatch.exists_poll ended with ⟨cellWatch, cells, same⟩
    exact ⟨cellWatch, cells, congrArg Watch.events same⟩

/-- A listener that starts the load and lets it fail after the first sample. It cancels the ticker
while it hears the second one, too late. -/
def failingListener : Listener
  | 0, _ => [.report .start]
  | 1, _ => [.report (.addRules 3), .report (.fail "disk full"), .report .finish]
  | _, _ => [.cancel, .report (.fail "too late")]

theorem failingListener_hears_cause :
    ∃ counts message,
      (poll failingListener 5 4 ⟨Tracker.new, false⟩).2.events =
        told 5 counts ++ [.failed message] ∧
      Tracker.new.failures (Watched.reports (failingListener.heard
        (poll failingListener 5 4 ⟨Tracker.new, false⟩).2.events)) = [message] := by
  have ended : poll failingListener 5 4 ⟨Tracker.new.applyAll [], false⟩ =
      (.ended .failed, (poll failingListener 5 4 ⟨Tracker.new, false⟩).2) := by decide
  rcases poll_tells_its_outcome failingListener 5 4 [] false ended with ⟨_, watched, _⟩
  rcases watched (by decide) with
    ⟨counts, ⟨complete, _⟩ | ⟨message, _, events, _, cause⟩ | ⟨cancelled, _⟩⟩
  · cases complete
  · exact ⟨counts, message, events, cause⟩
  · cases cancelled

end ParseTrace
