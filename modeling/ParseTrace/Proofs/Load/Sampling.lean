import ParseTrace.Proofs.Load.Changes
import ParseTrace.Proofs.Load.Watching

/-!
# Samples of a load

A watch tells samples of the load, and each of them is the number of records that were added before it
was taken. So samples never decrease. The loop of a watch looks at the state that was seen before the
last event was told, and it takes the next sample only if that state is not final and the ticker is not
cancelled. Hence a load that ends while an event is heard is seen at the next sample, and there is no
sample after that one.
-/

namespace ParseTrace

namespace Tracker

variable {actions first second : List Action}

/-- The records that reports add. -/
def recordsAdded (actions : List Action) : Nat :=
  (actions.map Action.addedRules).sum + (actions.map Action.addedNodes).sum

/-- Neither counter of a new load wraps around under these reports. -/
structure CountersFit (actions : List Action) : Prop where
  rules : (actions.map Action.addedRules).sum < countLimit
  nodes : (actions.map Action.addedNodes).sum < countLimit

theorem recordsAdded_append (first second : List Action) :
    recordsAdded (first ++ second) = recordsAdded first + recordsAdded second := by
  simp only [recordsAdded, List.map_append, List.sum_append]
  omega

theorem CountersFit.of_append (fit : CountersFit (first ++ second)) : CountersFit first := by
  rcases fit with ⟨rules, nodes⟩
  rw [List.map_append, List.sum_append] at rules nodes
  exact ⟨by omega, by omega⟩

/-- As long as no counter wraps around, the records are those that were added. -/
theorem records?_applyAll (fit : CountersFit actions) :
    (new.applyAll actions).records? =
      if recordsAdded actions < countLimit then some (recordsAdded actions) else none := by
  rcases counters_applyAll actions with ⟨rules, nodes⟩
  rw [Nat.mod_eq_of_lt fit.rules] at rules
  rw [Nat.mod_eq_of_lt fit.nodes] at nodes
  rw [records?, rules, nodes]
  rfl

end Tracker

/-- How a watch ends that sees a state, and the last event that it tells. -/
def LoadState.ending? : LoadState → Option (PollOutcome × LoadEvent)
  | ready => some (.complete, .complete)
  | failed message => some (.failed, .failed message)
  | notStarted => none
  | loading => none

/-- Whether an event tells a sample or the start, so that the watch may go on. -/
def LoadEvent.GoesOn : LoadEvent → Prop
  | started _ => True
  | progress _ _ => True
  | complete => False
  | failed _ => False

theorem LoadState.exists_ending {state : LoadState} (isFinal : state.isFinal = true) :
    ∃ outcome event, state.ending? = some (outcome, event) ∧ ¬event.GoesOn := by
  cases state with
  | ready => exact ⟨.complete, .complete, rfl, id⟩
  | failed message => exact ⟨.failed, .failed message, rfl, id⟩
  | notStarted => cases isFinal
  | loading => cases isFinal

theorem told_starts_told (total : Nat) (counts more : List Nat) :
    told total counts <+: told total (counts ++ more) := by
  rw [told, told, List.map_append, List.prefix_cons_inj]
  exact List.prefix_append _ _

/-- All that is reported of a load before the event at a place is told. -/
def Listener.reportedBefore (listener : Listener) (history : List Tracker.Action)
    (events : List LoadEvent) (place : Nat) : List Tracker.Action :=
  history ++ Watched.reports (listener.heard (events.take place))

variable {listener : Listener} {entry : Watched} {total bound current : Nat} {counts : List Nat}
  {history : List Tracker.Action} {cancelled : Bool} {events : List LoadEvent}

theorem Listener.reports_of_prefix {front : List LoadEvent} (listener : Listener)
    (isFront : front <+: events) :
    ∃ more, Watched.reports (listener.heard events) =
      Watched.reports (listener.heard front) ++ more := by
  rcases isFront with ⟨back, rfl⟩
  simp [heard, Watched.reports, List.mapIdx_append]

theorem Listener.exists_reportedBefore (listener : Listener) (history : List Tracker.Action)
    (events : List LoadEvent) (place : Nat) :
    ∃ more, history ++ Watched.reports (listener.heard events) =
      listener.reportedBefore history events place ++ more := by
  rcases listener.reports_of_prefix (List.take_prefix place events) with ⟨more, whole⟩
  exact ⟨more, by rw [whole, reportedBefore, List.append_assoc]⟩

theorem Listener.recordsAdded_mono (listener : Listener) (history : List Tracker.Action)
    (events : List LoadEvent) {place later : Nat} (le : place ≤ later) :
    Tracker.recordsAdded (listener.reportedBefore history events place) ≤
      Tracker.recordsAdded (listener.reportedBefore history events later) := by
  rcases listener.reports_of_prefix (List.take_prefix_take_left (l := events) le) with
    ⟨more, whole⟩
  rw [reportedBefore, reportedBefore, whole, ← List.append_assoc, Tracker.recordsAdded_append _ more]
  exact Nat.le_add_right _ _

theorem Watched.tracker_after (listener : Listener) (history : List Tracker.Action)
    (cancelled : Bool) (events : List LoadEvent) (place : Nat) :
    (after ⟨Tracker.new.applyAll history, cancelled⟩ listener (events.take place)).tracker =
      Tracker.new.applyAll (listener.reportedBefore history events place) := by
  rw [after, tracker_applyAll, Listener.reportedBefore, Tracker.applyAll_append]

namespace Watch

/-- The state on which the loop decides: what was seen before the last event was told. -/
def lastSeen (listener : Listener) (entry : Watched) (total : Nat) (counts : List Nat) : LoadState :=
  (entry.after listener (told total counts).dropLast).tracker.state

/-- What becomes of a watch that has told the start and some samples. -/
def goOn (listener : Listener) (entry : Watched) (total bound : Nat) (counts : List Nat) :
    Verdict × Watch :=
  sample listener total bound (lastSeen listener entry total counts)
    (behind listener entry (told total counts))

theorem poll_eq_goOn (notReady : entry.tracker.state ≠ .ready) :
    poll listener total bound entry = goOn listener entry total bound [] :=
  poll_of_notReady bound notReady

/-- One turn of the loop. -/
theorem goOn_succ (running : (lastSeen listener entry total counts).isFinal = false)
    (uncancelled : (entry.after listener (told total counts)).cancelled = false)
    (sampled : (entry.after listener (told total counts)).tracker.records? = some current)
    (bound : Nat) :
    goOn listener entry total (bound + 1) counts =
      goOn listener entry total bound (counts ++ [current]) := by
  rw [goOn, sample_of_running listener total running]
  simp only [behind, uncancelled, sampled]
  rw [← behind, tell_behind, ← told_append, goOn, lastSeen, told_append, List.dropLast_concat]
  rfl

/-- What was seen before the last event ends the loop. -/
theorem goOn_of_ending {outcome : PollOutcome} {event : LoadEvent}
    (seen : (lastSeen listener entry total counts).ending? = some (outcome, event)) (bound : Nat) :
    goOn listener entry total bound counts =
      (.ended outcome, behind listener entry (told total counts ++ [event])) := by
  rw [goOn]
  cases state : lastSeen listener entry total counts with
  | ready =>
      rw [state] at seen
      cases seen
      rw [sample_ready, tell_behind]
  | failed message =>
      rw [state] at seen
      cases seen
      rw [sample_failed, tell_behind]
  | notStarted =>
      rw [state] at seen
      cases seen
  | loading =>
      rw [state] at seen
      cases seen

/-- The loop stops and tells at most an end, or it takes a turn. -/
theorem goOn_cases (listener : Listener) (entry : Watched) (total bound : Nat)
    (counts : List Nat) :
    (∃ last : List LoadEvent, (∀ event ∈ last, ¬event.GoesOn) ∧
      (goOn listener entry total bound counts).2.events = told total counts ++ last) ∨
    ∃ rest current, bound = rest + 1 ∧
      (entry.after listener (told total counts)).tracker.records? = some current ∧
      (lastSeen listener entry total counts).isFinal = false ∧
      (entry.after listener (told total counts)).cancelled = false := by
  cases isFinal : (lastSeen listener entry total counts).isFinal with
  | true =>
      rcases LoadState.exists_ending isFinal with ⟨outcome, event, seen, ends⟩
      refine Or.inl ⟨[event], by simpa using ends, ?_⟩
      rw [goOn_of_ending seen]
      rfl
  | false =>
      have stops : ∀ result : Verdict, ∃ last : List LoadEvent, (∀ event ∈ last, ¬event.GoesOn) ∧
          (result, behind listener entry (told total counts)).2.events =
            told total counts ++ last :=
        fun _ => ⟨[], nofun, (List.append_nil _).symm⟩
      rw [goOn, sample_of_running listener total isFinal]
      split
      · exact Or.inl (stops _)
      next uncancelled =>
        rw [Bool.not_eq_true] at uncancelled
        split
        · exact Or.inl (stops _)
        next rest =>
          split
          · exact Or.inl (stops _)
          next current sampled => exact Or.inr ⟨rest, current, rfl, sampled, rfl, uncancelled⟩

/-- Each sample is the number of records at the moment at which it was taken. -/
def Sampled (listener : Listener) (entry : Watched) (total : Nat) (counts : List Nat) : Prop :=
  ∀ place current, counts[place]? = some current →
    (entry.after listener (told total (counts.take place))).tracker.records? = some current

theorem Sampled.concat (exact : Sampled listener entry total counts)
    (sampled : (entry.after listener (told total counts)).tracker.records? = some current) :
    Sampled listener entry total (counts ++ [current]) := by
  intro place other found
  by_cases earlier : place < counts.length
  · rw [List.getElem?_append_left earlier] at found
    rw [List.take_append_of_le_length (Nat.le_of_lt earlier)]
    exact exact place other found
  · rw [List.getElem?_append_right (Nat.not_lt.mp earlier), List.getElem?_singleton] at found
    split at found
    next last =>
      obtain rfl := Option.some.inj found
      rw [List.take_append_of_le_length (by omega), List.take_of_length_le (by omega)]
      exact sampled
    · cases found

/-- All that a watch goes on to tell, up to its end, are samples. -/
theorem exists_more (listener : Listener) (entry : Watched) (total bound : Nat)
    (counts : List Nat) :
    ∃ (more : List Nat) (last : List LoadEvent),
      (Sampled listener entry total counts → Sampled listener entry total (counts ++ more)) ∧
      (∀ event ∈ last, ¬event.GoesOn) ∧
      (goOn listener entry total bound counts).2.events = told total (counts ++ more) ++ last := by
  induction bound using Nat.strongRecOn generalizing counts with
  | ind bound ih =>
      rcases goOn_cases listener entry total bound counts with
        ⟨last, ends, all⟩ | ⟨rest, current, rfl, sampled, running, uncancelled⟩
      · refine ⟨[], last, ?_, ends, ?_⟩
        · rw [List.append_nil]
          exact id
        · rw [List.append_nil]
          exact all
      · rcases ih rest (Nat.lt_succ_self rest) (counts ++ [current]) with ⟨more, last, on, ends, all⟩
        refine ⟨current :: more, last, ?_, ends, ?_⟩
        · intro exact
          rw [List.append_cons]
          exact on (exact.concat sampled)
        · rw [goOn_succ running uncancelled sampled, all, ← List.append_cons]

/-- What has been told stays at the front. -/
theorem told_starts_events (listener : Listener) (entry : Watched) (total bound : Nat)
    (counts : List Nat) :
    told total counts <+: (goOn listener entry total bound counts).2.events := by
  rcases exists_more listener entry total bound counts with ⟨more, last, _, _, all⟩
  rw [all]
  exact (told_starts_told total counts more).trans (List.prefix_append _ _)

/-- Samples that a watch tells within a bound are taken within every larger one. -/
theorem goOn_of_prefix {larger : Nat} (le : bound ≤ larger) (more : List Nat)
    (happens : told total (counts ++ more) <+: (goOn listener entry total bound counts).2.events) :
    more.length ≤ bound ∧
      goOn listener entry total larger counts =
        goOn listener entry total (larger - more.length) (counts ++ more) := by
  induction more generalizing bound larger counts with
  | nil => simp
  | cons next rest ih =>
      rw [List.append_cons] at happens ⊢
      have first : told total (counts ++ [next]) <+:
          (goOn listener entry total bound counts).2.events :=
        (told_starts_told total (counts ++ [next]) rest).trans happens
      rcases goOn_cases listener entry total bound counts with
        ⟨last, ends, all⟩ | ⟨less, current, rfl, sampled, running, uncancelled⟩
      · -- A sample is no end.
        rw [all, told_append, List.prefix_append_right_inj] at first
        have isLast : .progress total next ∈ last := first.subset (List.mem_singleton_self _)
        exact absurd trivial (ends _ isLast)
      · rcases Nat.exists_eq_add_of_le' le with ⟨extra, rfl⟩
        rw [goOn_succ running uncancelled sampled] at happens first
        have same : told total (counts ++ [next]) = told total (counts ++ [current]) :=
          (List.prefix_of_prefix_length_le first (told_starts_events ..) (by simp [told])).eq_of_length
            (by simp [told])
        have isNext : next = current := by simpa [told] using same
        subst isNext
        rcases ih (Nat.le_add_left less extra) happens with ⟨fits, reached⟩
        refine ⟨Nat.succ_le_succ fits, ?_⟩
        rw [← Nat.add_assoc, goOn_succ running uncancelled sampled, reached, List.length_cons,
          Nat.add_sub_add_right]

/-- A load that ends while an event is heard is sampled once more, unless the ticker is cancelled. -/
theorem goOn_of_ended {outcome : PollOutcome} {ending : LoadEvent}
    (running : (lastSeen listener entry total counts).isFinal = false)
    (ended : (entry.after listener (told total counts)).tracker.state.ending? =
      some (outcome, ending)) (bound : Nat) :
    goOn listener entry total (bound + 1) counts =
      if (entry.after listener (told total counts)).cancelled then
        (.ended .cancelled, behind listener entry (told total counts))
      else
        match (entry.after listener (told total counts)).tracker.records? with
        | none => (.crashed, behind listener entry (told total counts))
        | some current =>
            (.ended outcome,
              behind listener entry (told total counts ++ [.progress total current, ending])) := by
  cases isCancelled : (entry.after listener (told total counts)).cancelled with
  | true =>
      rw [goOn, sample_of_running listener total running]
      simp [behind, isCancelled]
  | false =>
      cases sampled : (entry.after listener (told total counts)).tracker.records? with
      | none =>
          rw [goOn, sample_of_running listener total running]
          simp [behind, isCancelled, sampled]
      | some current =>
          have seen : (lastSeen listener entry total (counts ++ [current])).ending? =
              some (outcome, ending) := by
            rwa [lastSeen, told_append, List.dropLast_concat]
          rw [goOn_succ running isCancelled sampled, goOn_of_ending seen, told_append,
            List.append_assoc]
          rfl

/-- What a watch tells. -/
theorem poll_events (listener : Listener) (total bound : Nat) (entry : Watched) :
    (poll listener total bound entry).2.events = [] ∨
    entry.tracker.state ≠ .ready ∧ ∃ (counts : List Nat) (last : List LoadEvent),
      Sampled listener entry total counts ∧ (∀ event ∈ last, ¬event.GoesOn) ∧
      (poll listener total bound entry).2.events = told total counts ++ last := by
  by_cases ready : entry.tracker.state = .ready
  · rw [poll_of_ready bound ready]
    exact Or.inl rfl
  · rcases exists_more listener entry total bound [] with ⟨counts, last, sampled, ends, all⟩
    rw [poll_eq_goOn ready]
    exact Or.inr ⟨ready, counts, last, sampled nofun, ends, all⟩

variable {last : List LoadEvent} {place announced : Nat} {event : LoadEvent}

theorem take_told (total : Nat) (last : List LoadEvent) (within : place ≤ counts.length) :
    (told total counts ++ last).take (place + 1) = told total (counts.take place) := by
  rw [List.take_append_of_le_length (by simpa [told] using within), told, List.take_succ_cons,
    ← List.map_take, told]

theorem dropLast_told_take (total : Nat) (last : List LoadEvent) (within : place ≤ counts.length) :
    (told total (counts.take place)).dropLast = (told total counts ++ last).take place := by
  rw [← take_told total last within, List.dropLast_eq_take, List.take_take, List.length_take]
  congr 1
  simp [told]
  omega

/-- The events with which a watch may go on are the start and the samples. -/
theorem le_length_of_goesOn (ends : ∀ event ∈ last, ¬event.GoesOn)
    (found : (told total counts ++ last)[place]? = some event) (goesOn : event.GoesOn) :
    place ≤ counts.length := by
  by_contra behind
  rw [List.getElem?_append_right (by simp [told]; omega)] at found
  exact ends event (List.mem_of_getElem? found) goesOn

/-- A sample is the number of records that there were before it was told. -/
theorem Sampled.records? (exact : Sampled listener entry total counts)
    (ends : ∀ event ∈ last, ¬event.GoesOn)
    (found : (told total counts ++ last)[place]? = some (.progress announced current)) :
    announced = total ∧
      (entry.after listener ((told total counts ++ last).take place)).tracker.records? =
        some current := by
  have within := le_length_of_goesOn ends found trivial
  rw [List.getElem?_append_left (by simp [told]; omega), told] at found
  cases place with
  | zero => cases found
  | succ index =>
      rw [List.getElem?_cons_succ, List.getElem?_map, Option.map_eq_some_iff] at found
      rcases found with ⟨count, sampled, same⟩
      cases same
      rw [take_told total last (by omega)]
      exact ⟨rfl, exact index current sampled⟩

/-- A load that ends while an event is heard ends the watch, with one more sample at most. -/
theorem poll_of_ended {outcome : PollOutcome} {ending : LoadEvent} {larger : Nat}
    (isTold : (poll listener total bound entry).2.events = events)
    (found : events[place]? = some event) (goesOn : event.GoesOn)
    (running : (entry.after listener (events.take place)).tracker.state.isFinal = false)
    (ended : (entry.after listener (events.take (place + 1))).tracker.state.ending? =
      some (outcome, ending)) (more : bound < larger) :
    poll listener total larger entry =
      if (entry.after listener (events.take (place + 1))).cancelled then
        (.ended .cancelled, behind listener entry (events.take (place + 1)))
      else
        match (entry.after listener (events.take (place + 1))).tracker.records? with
        | none => (.crashed, behind listener entry (events.take (place + 1)))
        | some current =>
            (.ended outcome,
              behind listener entry (events.take (place + 1) ++ [.progress total current, ending])) := by
  rcases poll_events listener total bound entry with none | ⟨notReady, counts, last, _, ends, all⟩
  · rw [← isTold, none] at found
    cases found
  · have isAll : events = told total counts ++ last := isTold.symm.trans all
    have within : place ≤ counts.length := by
      rw [isAll] at found
      exact le_length_of_goesOn ends found goesOn
    have sofar : events.take (place + 1) = told total (counts.take place) := by
      rw [isAll, take_told total last within]
    have seen : (lastSeen listener entry total (counts.take place)).isFinal = false := by
      rwa [lastSeen, dropLast_told_take total last within, ← isAll]
    rw [sofar] at ended ⊢
    rw [poll_eq_goOn notReady] at all ⊢
    have happens : told total ([] ++ counts.take place) <+:
        (goOn listener entry total bound []).2.events := by
      rw [all, List.nil_append, ← take_told total last within]
      exact List.take_prefix _ _
    rcases goOn_of_prefix (Nat.le_of_lt more) _ happens with ⟨few, reached⟩
    -- There is room for one more sample.
    rcases Nat.exists_eq_add_one_of_ne_zero (by omega : larger - (counts.take place).length ≠ 0)
      with ⟨room, isRoom⟩
    rw [reached, isRoom, List.nil_append]
    exact goOn_of_ended seen ended room

end Watch

open Watch

/-- What a watch tells between its start and its end, for every history of the load and every listener
under which no counter wraps around. Each sample is the number of records that were added before it was
taken, so samples never decrease. When the load ends while the listener hears the start or a sample,
the watch ends within one more sample: at once if the ticker is cancelled by then, and otherwise it tells
that sample and how the load ended, or it crashes since there are more records than counts. All this is
so as well when the load is kept in cells. -/
theorem samples_are_exact_and_prompt (listener : Listener) (total bound : Nat)
    (history : List Tracker.Action) (cancelled : Bool)
    (fit : Tracker.CountersFit (history ++ Watched.reports (listener.heard
      (poll listener total bound ⟨Tracker.new.applyAll history, cancelled⟩).2.events))) :
    let entry : Watched := ⟨Tracker.new.applyAll history, cancelled⟩
    let events := (poll listener total bound entry).2.events
    let recordsBefore (place : Nat) :=
      Tracker.recordsAdded (listener.reportedBefore history events place)
    let before (place : Nat) := entry.after listener (events.take place)
    (∀ place announced current, events[place]? = some (.progress announced current) →
      announced = total ∧ current = recordsBefore place) ∧
    (∀ (first second announced earlier later : Nat), first ≤ second →
      events[first]? = some (.progress announced earlier) →
      events[second]? = some (.progress announced later) → earlier ≤ later) ∧
    (∀ place event outcome ending, events[place]? = some event → event.GoesOn →
      (before place).tracker.state.isFinal = false →
      (before (place + 1)).tracker.state.ending? = some (outcome, ending) →
      ∀ larger > bound,
        let result := poll listener total larger entry
        let current := recordsBefore (place + 1)
        ((before (place + 1)).cancelled = true →
          result.1 = .ended .cancelled ∧ result.2.events = events.take (place + 1)) ∧
        ((before (place + 1)).cancelled = false → current < countLimit →
          result.1 = .ended outcome ∧
          result.2.events = events.take (place + 1) ++ [.progress total current, ending]) ∧
        ((before (place + 1)).cancelled = false → countLimit ≤ current →
          result.1 = .crashed ∧ result.2.events = events.take (place + 1))) ∧
    ∃ cellWatch, CellWatch.poll listener total bound (Cells.new.applyAll history) cancelled =
      ((poll listener total bound entry).1, cellWatch) ∧ cellWatch.events = events := by
  intro entry events recordsBefore before
  have fits (place : Nat) :
      Tracker.CountersFit (listener.reportedBefore history events place) := by
    rcases listener.exists_reportedBefore history events place with ⟨more, whole⟩
    rw [whole] at fit
    exact fit.of_append
  have records (place : Nat) : (before place).tracker.records? =
      if recordsBefore place < countLimit then some (recordsBefore place) else none := by
    rw [Watched.tracker_after, Tracker.records?_applyAll (fits place)]
  have exact (place announced current : Nat)
      (found : events[place]? = some (.progress announced current)) :
      announced = total ∧ current = recordsBefore place := by
    rcases poll_events listener total bound entry with none | ⟨_, counts, last, sampled, ends, all⟩
    · rw [show events = [] from none] at found
      cases found
    · rw [show events = _ from all] at found
      rcases sampled.records? ends found with ⟨same, counted⟩
      rw [← all] at counted
      have told := (records place).symm.trans counted
      split at told
      · exact ⟨same, (Option.some.inj told).symm⟩
      · cases told
  refine ⟨exact, ?_, ?_, ?_⟩
  · intro first second announced earlier later le one another
    rw [(exact first announced earlier one).2, (exact second announced later another).2]
    exact listener.recordsAdded_mono history events le
  · intro place event outcome ending found goesOn running ended larger more
    have polled := poll_of_ended rfl found goesOn running ended more
    rw [records (place + 1)] at polled
    simp only [polled]
    refine ⟨?_, ?_, ?_⟩
    · intro isCancelled
      rw [if_pos isCancelled]
      exact ⟨rfl, rfl⟩
    · intro uncancelled countable
      rw [if_neg (Bool.not_eq_true _ ▸ uncancelled), if_pos countable]
      exact ⟨rfl, rfl⟩
    · intro uncancelled tooMany
      rw [if_neg (Bool.not_eq_true _ ▸ uncancelled), if_neg (Nat.not_lt.mpr tooMany)]
      exact ⟨rfl, rfl⟩
  · rcases CellWatch.exists_poll (Eq.refl (poll listener total bound entry)) with
      ⟨cellWatch, cells, same⟩
    exact ⟨cellWatch, cells, congrArg Watch.events same⟩

/-- A listener that starts a load at once and lets it end while it hears the first sample. It cancels the
ticker while it hears the second one, too late. -/
def finishingListener : Listener
  | 0, _ => [.report .start, .report (.addRules 2)]
  | 1, _ => [.report (.addNodes 3), .report .finish]
  | _, _ => [.cancel]

theorem finishingListener_hears_one_more_sample :
    Tracker.CountersFit (Watched.reports (finishingListener.heard
      (poll finishingListener 9 1 ⟨Tracker.new, false⟩).2.events)) ∧
    (poll finishingListener 9 1 ⟨Tracker.new, false⟩).2.events = [.started 9, .progress 9 2] ∧
    (poll finishingListener 9 2 ⟨Tracker.new, false⟩).1 = .ended .complete ∧
    (poll finishingListener 9 2 ⟨Tracker.new, false⟩).2.events =
      [.started 9, .progress 9 2, .progress 9 5, .complete] := by
  have fit : Tracker.CountersFit ([] ++ Watched.reports (finishingListener.heard
      (poll finishingListener 9 1 ⟨Tracker.new.applyAll [], false⟩).2.events)) :=
    ⟨by decide, by decide⟩
  rcases samples_are_exact_and_prompt finishingListener 9 1 [] false fit with ⟨_, _, prompt, _⟩
  rcases prompt 1 (.progress 9 2) .complete .complete rfl trivial rfl rfl 2 (by decide) with
    ⟨_, ends, _⟩
  exact ⟨fit, by decide, ends rfl (by decide)⟩

end ParseTrace
