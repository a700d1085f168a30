import ParseTrace.Load.Poll

/-!
# A load in cells

A load that several threads share is kept in cells of its own: two counters, the phase, and a slot
for the cause of a failure, which is written before the phase. Whoever looks at the load takes a
snapshot of the cells; should a failed load be without a cause, a fixed text stands for it.

The cells stand for a tracker, and all that happens to them happens to it. So a watch over the cells
is the watch over the tracker, event by event.
-/

namespace ParseTrace

/-- How far a load is. -/
inductive Phase where
  | notStarted
  | loading
  | ready
  | failed
  deriving DecidableEq, Repr

/-- The cells of a load. -/
structure Cells where
  rules : Nat
  nodes : Nat
  phase : Phase
  /-- The cause of a failure. -/
  slot : Option String
  deriving DecidableEq, Repr

/-- A snapshot of the cells. -/
structure Snapshot where
  rules : Nat
  nodes : Nat
  phase : Phase
  /-- The cause, if the load failed and left one. -/
  error : Option String
  deriving DecidableEq, Repr

namespace Phase

/-- Whether the load has ended. -/
def isFinal : Phase → Bool
  | ready => true
  | failed => true
  | notStarted => false
  | loading => false

/-- The text that stands for a cause that is missing. -/
def unknownCause : String := "ingestion failed"

/-- The state of a load in a phase. -/
def toState (phase : Phase) (cause : Option String) : LoadState :=
  match phase with
  | notStarted => .notStarted
  | loading => .loading
  | ready => .ready
  | failed => .failed (cause.getD unknownCause)

end Phase

theorem Snapshot.running (status : Snapshot) (failed : ¬status.phase = .failed)
    (ready : ¬status.phase = .ready) : (status.phase.toState status.error).isFinal = false := by
  cases phase : status.phase with
  | notStarted => rfl
  | loading => rfl
  | ready => exact absurd phase ready
  | failed => exact absurd phase failed

namespace Cells

/-- The cells of a load that has not started. -/
def new : Cells := ⟨0, 0, .notStarted, none⟩

/-- Leads from one phase to another, if the load is in the former. -/
def move (cells : Cells) (source target : Phase) : Bool × Cells :=
  if cells.phase = source then (true, { cells with phase := target }) else (false, cells)

/-- Takes a report. The answer says whether it changed the phase. -/
def apply (cells : Cells) : Tracker.Action → Bool × Cells
  | .start => cells.move .notStarted .loading
  | .finish => cells.move .loading .ready
  | .fail message =>
      if cells.phase.isFinal then (false, cells)
      else (true, { cells with slot := some message, phase := .failed })
  | .addRules count => (false, { cells with rules := Tracker.wrapAdd cells.rules count })
  | .addNodes count => (false, { cells with nodes := Tracker.wrapAdd cells.nodes count })

/-- Takes reports one after the other. -/
def applyAll (cells : Cells) (actions : List Tracker.Action) : Cells :=
  actions.foldl (fun cells action => (cells.apply action).2) cells

/-- Takes a snapshot. The slot is looked at only after a failure. -/
def snapshot (cells : Cells) : Snapshot where
  rules := cells.rules
  nodes := cells.nodes
  phase := cells.phase
  error := if cells.phase = .failed then cells.slot else none

/-- The tracker that the cells stand for. -/
def toTracker (cells : Cells) : Tracker :=
  ⟨cells.rules, cells.nodes, cells.phase.toState cells.slot⟩

/-- A report to the cells is a report to the tracker. -/
theorem toTracker_apply (cells : Cells) (action : Tracker.Action) :
    cells.toTracker.apply action = ((cells.apply action).1, (cells.apply action).2.toTracker) := by
  rcases cells with ⟨rules, nodes, phase, slot⟩
  cases action with
  | start => cases phase <;> rfl
  | finish => cases phase <;> rfl
  | fail message => cases phase <;> rfl
  | addRules count => cases phase <;> rfl
  | addNodes count => cases phase <;> rfl

theorem toTracker_applyAll (cells : Cells) (actions : List Tracker.Action) :
    (cells.applyAll actions).toTracker = cells.toTracker.applyAll actions := by
  induction actions generalizing cells with
  | nil => rfl
  | cons action rest ih =>
      simp only [applyAll, Tracker.applyAll, List.foldl_cons] at ih ⊢
      rw [ih, toTracker_apply]

theorem isReady_toTracker (cells : Cells) :
    cells.toTracker.isReady = decide (cells.snapshot.phase = .ready) := by
  rcases cells with ⟨rules, nodes, phase, slot⟩
  cases phase with
  | notStarted => rfl
  | loading => rfl
  | ready => rfl
  | failed => rfl

/-- The slot is read exactly where a state has a cause, and then it tells that cause. -/
theorem toState_snapshot (cells : Cells) :
    cells.snapshot.phase.toState cells.snapshot.error = cells.toTracker.state := by
  rcases cells with ⟨rules, nodes, phase, slot⟩
  cases phase with
  | notStarted => rfl
  | loading => rfl
  | ready => rfl
  | failed => rfl

end Cells

/-- A load in cells and its ticker, and the events told so far. -/
structure CellWatch where
  cells : Cells
  cancelled : Bool
  events : List LoadEvent
  deriving DecidableEq, Repr

namespace CellWatch

/-- Carries out one action. -/
def act (watch : CellWatch) : Watched.Action → CellWatch
  | .report action => { watch with cells := (watch.cells.apply action).2 }
  | .cancel => { watch with cancelled := true }

/-- Tells the listener an event and lets it act. -/
def tell (listener : Listener) (watch : CellWatch) (event : LoadEvent) : CellWatch :=
  { (listener watch.events.length event).foldl act watch with events := watch.events ++ [event] }

/-- Looks at the last snapshot and takes another one at every tick, until the load ends. -/
def sample (listener : Listener) (total : Nat) :
    Nat → Snapshot → CellWatch → Verdict × CellWatch
  | bound, status, watch =>
      if status.phase = .failed then
        (.ended .failed, watch.tell listener (.failed (status.error.getD Phase.unknownCause)))
      else if status.phase = .ready then (.ended .complete, watch.tell listener .complete)
      else if watch.cancelled then (.ended .cancelled, watch)
      else
        match bound with
        | 0 => (.unfinished, watch)
        | bound + 1 =>
            let status := watch.cells.snapshot
            match addCounts? status.rules status.nodes with
            | none => (.crashed, watch)
            | some current =>
                sample listener total bound status (watch.tell listener (.progress total current))

/-- Watches a load in cells, with a bound on the number of samples. -/
def poll (listener : Listener) (total bound : Nat) (cells : Cells) (cancelled : Bool) :
    Verdict × CellWatch :=
  let watch : CellWatch := ⟨cells, cancelled, []⟩
  let status := cells.snapshot
  if status.phase = .ready then (.ended .alreadyReady, watch)
  else sample listener total bound status (watch.tell listener (.started total))

/-- The watch over the tracker that the cells stand for. -/
def toWatch (watch : CellWatch) : Watch :=
  ⟨⟨watch.cells.toTracker, watch.cancelled⟩, watch.events⟩

@[simp]
theorem cancelled_toWatch (watch : CellWatch) :
    watch.toWatch.watched.cancelled = watch.cancelled := rfl

theorem toWatch_foldl_act (watch : CellWatch) (actions : List Watched.Action) :
    (actions.foldl act watch).toWatch.watched = watch.toWatch.watched.applyAll actions := by
  induction actions generalizing watch with
  | nil => rfl
  | cons action rest ih =>
      rw [List.foldl_cons, ih]
      cases action with
      | report action =>
          simp only [act, toWatch, Watched.applyAll, List.foldl_cons, Watched.apply,
            Cells.toTracker_apply]
      | cancel => rfl

theorem toWatch_tell (listener : Listener) (watch : CellWatch) (event : LoadEvent) :
    (watch.tell listener event).toWatch = watch.toWatch.tell listener event := by
  simp only [Watch.tell, ← toWatch_foldl_act]
  rfl

theorem toWatch_sample (listener : Listener) (total bound : Nat) (status : Snapshot)
    (watch : CellWatch) :
    Prod.map id toWatch (sample listener total bound status watch) =
      Watch.sample listener total bound (status.phase.toState status.error) watch.toWatch := by
  -- A case for each branch of the loop. The loop looks at a snapshot that is one event old, so the
  -- induction is over any snapshot, not over that of the cells.
  fun_induction sample listener total bound status watch with
  | case1 bound status watch failed =>
      simp [failed, Phase.toState, toWatch_tell]
  | case2 bound status watch _ ready =>
      simp [ready, Phase.toState, toWatch_tell]
  | case3 bound status watch failed ready cancelled =>
      rw [Watch.sample_of_running _ _ (status.running failed ready)]
      simp [toWatch, cancelled]
  | case4 status watch failed ready cancelled =>
      rw [Watch.sample_of_running _ _ (status.running failed ready)]
      simp [toWatch, cancelled]
  | case5 status watch failed ready cancelled bound last large =>
      have records : watch.toWatch.watched.tracker.records? = none := large
      rw [Watch.sample_of_running _ _ (status.running failed ready)]
      simp [cancelled, records]
  | case6 status watch failed ready cancelled bound last current counted ih =>
      have records : watch.toWatch.watched.tracker.records? = some current := counted
      have seen : last.phase.toState last.error = watch.toWatch.watched.tracker.state :=
        watch.cells.toState_snapshot
      rw [ih, seen, toWatch_tell, Watch.sample_of_running _ _ (status.running failed ready)]
      simp [cancelled, records]

/-- A watch over the cells is the watch over the tracker that they stand for. -/
theorem toWatch_poll (listener : Listener) (total bound : Nat) (cells : Cells)
    (cancelled : Bool) :
    Prod.map id toWatch (poll listener total bound cells cancelled) =
      ParseTrace.poll listener total bound ⟨cells.toTracker, cancelled⟩ := by
  have sampled := toWatch_sample listener total bound cells.snapshot
    (tell listener ⟨cells, cancelled, []⟩ (.started total))
  rw [toWatch_tell, Cells.toState_snapshot] at sampled
  simp only [poll, ParseTrace.poll, Cells.isReady_toTracker, decide_eq_true_eq]
  split
  · rfl
  · exact sampled

theorem exists_poll {listener : Listener} {total bound : Nat} {history : List Tracker.Action}
    {cancelled : Bool} {verdict : Verdict} {watch : Watch}
    (polled : ParseTrace.poll listener total bound ⟨Tracker.new.applyAll history, cancelled⟩ =
      (verdict, watch)) :
    ∃ cellWatch, poll listener total bound (Cells.new.applyAll history) cancelled =
      (verdict, cellWatch) ∧ cellWatch.toWatch = watch := by
  have same := toWatch_poll listener total bound (Cells.new.applyAll history) cancelled
  rw [Cells.toTracker_applyAll] at same
  rcases Prod.mk.inj (same.trans polled) with ⟨verdicts, watches⟩
  exact ⟨_, Prod.ext verdicts rfl, watches⟩

end CellWatch

end ParseTrace
