import Mathlib.Logic.Relation
import ParseTrace.Proofs.Refresh.Handles

/-!
# The barrier of a refresh

A refresh calls the views that were registered when it began, one after the other, and comes to its
barrier when the last of them has returned. The barrier opens as soon as every handle is finished, and
what the refresh comes to depends on the load at that moment. A view that crashes ends the refresh
without a barrier. In the meantime every other refresh is refused, and none is once it has ended.
-/

namespace ParseTrace

namespace ViewAction

def isRefresh : ViewAction → Bool
  | refresh => true
  | _ => false

/-- What is told to the load. -/
def report? : ViewAction → Option Tracker.Action
  | report action => some action
  | _ => none

end ViewAction

namespace LogEntry

def called? : LogEntry → Option View
  | called view => some view
  | _ => none

def nested? : LogEntry → Option RefreshOutcome
  | nested outcome => some outcome
  | _ => none

end LogEntry

namespace Coordinator

open View (calledOf)

variable {state after : Coordinator} {nested : Coordinator → RefreshVerdict × Coordinator}

section Course

/-- Actions are carried out one by one up to the first crash. -/
theorem performAll_eq (run : ViewRun) (actions : List ViewAction) :
    performAll nested run actions =
      (actions.any ViewAction.isCrash,
        (actions.takeWhile fun action => !action.isCrash).foldl (perform nested) run) := by
  induction actions generalizing run with
  | nil => rfl
  | cons action rest ih => cases action <;> simp [performAll, ih, ViewAction.isCrash]

theorem refreshView_eq (state : Coordinator) (view : View) :
    refreshView nested state view =
      (view.crashes,
        (view.performed.foldl (perform nested) ⟨true, state.write (.called view)⟩).complete.state) := by
  simp only [refreshView, performAll_eq]
  rfl

/-- Views are refreshed one by one up to the first that crashes. -/
theorem refreshViews_eq (state : Coordinator) (views : List View) :
    refreshViews nested state views =
      (views.any View.crashes,
        (calledOf views).foldl (fun state view => (refreshView nested state view).2) state) := by
  induction views generalizing state with
  | nil => rfl
  | cons view rest ih =>
      unfold refreshViews calledOf
      cases crashes : view.crashes with
      | true => simp [refreshView_eq, crashes]
      | false => simp [refreshView_eq, crashes, ih]

theorem Follows.refreshView {total given : Nat} {book : HandleBook}
    (refuses : ∀ state, state.refreshing = true → nested state = (.ended .busy, state))
    (follows : Follows total given book ⟨false, state⟩) (free : book.held = none)
    (more : given < total) (view : View) :
    Follows total (given + 1) (book.refreshView given view)
      ⟨false, (Coordinator.refreshView nested state view).2⟩ := by
  have done := ((follows.give free more view).foldl_perform refuses view.performed).complete
  rw [complete_eq] at done
  rw [refreshView_eq, complete_eq]
  exact done

theorem Follows.refreshViews {total given : Nat} {book : HandleBook}
    (refuses : ∀ state, state.refreshing = true → nested state = (.ended .busy, state))
    (follows : Follows total given book ⟨false, state⟩) (free : book.held = none)
    (views : List View) (enough : given + views.length ≤ total) :
    Follows total (given + views.length) (book.refreshViews given views)
      ⟨false, views.foldl (fun state view => (Coordinator.refreshView nested state view).2) state⟩ := by
  induction views generalizing state book given with
  | nil => exact follows
  | cons view rest ih =>
      rw [List.length_cons] at enough ⊢
      have next := follows.refreshView refuses free (by omega) view
      have whole := ih next rfl (by omega)
      rw [show given + (rest.length + 1) = given + 1 + rest.length by omega]
      exact whole

end Course

section Log

/-- What is written down and told to the load while the given views are called and the given actions
are carried out. -/
structure Passes (before after : Coordinator) (views : List View) (actions : List ViewAction) :
    Prop where
  written : ∃ entries, after.log = before.log ++ entries ∧
    entries.filterMap LogEntry.called? = views ∧
    entries.filterMap LogEntry.nested? = List.replicate (actions.countP ViewAction.isRefresh) .busy
  told : after.tracker = before.tracker.applyAll (actions.filterMap ViewAction.report?)

namespace Passes

variable {middle : Coordinator} {views otherViews : List View}
  {actions otherActions : List ViewAction} {run : ViewRun}

theorem silent (log : after.log = state.log) (tracker : after.tracker = state.tracker)
    (refreshes : actions.countP ViewAction.isRefresh = 0)
    (reports : actions.filterMap ViewAction.report? = []) : Passes state after [] actions := by
  refine ⟨⟨[], by simp [log], rfl, by simp [refreshes]⟩, ?_⟩
  rw [reports]
  exact tracker

/-- Only the log and the load matter. -/
theorem congr {state' after' : Coordinator} (passes : Passes state after views actions)
    (log : state'.log = state.log) (tracker : state'.tracker = state.tracker)
    (afterLog : after'.log = after.log) (afterTracker : after'.tracker = after.tracker) :
    Passes state' after' views actions := by
  rcases passes with ⟨written, told⟩
  rw [← log, ← afterLog] at written
  exact ⟨written, by rw [afterTracker, told, tracker]⟩

theorem trans (first : Passes state middle views actions)
    (second : Passes middle after otherViews otherActions) :
    Passes state after (views ++ otherViews) (actions ++ otherActions) := by
  rcases first with ⟨⟨entries, log, called, nested⟩, told⟩
  rcases second with ⟨⟨others, otherLog, otherCalled, otherNested⟩, otherTold⟩
  refine ⟨⟨entries ++ others, ?_, ?_, ?_⟩, ?_⟩
  · rw [otherLog, log, List.append_assoc]
  · rw [List.filterMap_append, called, otherCalled]
  · rw [List.filterMap_append, nested, otherNested, List.countP_append,
      List.replicate_append_replicate]
  · rw [otherTold, told, List.filterMap_append, Tracker.applyAll, Tracker.applyAll,
      Tracker.applyAll, List.foldl_append]

/-- An action writes down at most that a nested refresh was refused, and tells the load at most what it
reports. -/
theorem perform (refuses : ∀ state, state.refreshing = true → nested state = (.ended .busy, state))
    (refreshing : run.state.refreshing = true) (action : ViewAction) :
    Passes run.state (Coordinator.perform nested run action).state [] [action] := by
  have completes : ∀ action, action.isRefresh = false → action.report? = none →
      Passes run.state run.complete.state [] [action] := by
    intro action noRefresh noReport
    rw [complete_eq]
    exact silent rfl rfl (by simp [noRefresh]) (by simp [noReport])
  cases action with
  | signal => exact completes _ rfl rfl
  | letGo => exact completes _ rfl rfl
  | delegate => exact completes _ rfl rfl
  | shelve =>
      simp only [Coordinator.perform]
      split
      · exact silent rfl rfl rfl rfl
      · exact silent rfl rfl rfl rfl
  | release =>
      simp only [Coordinator.perform, ViewRun.update, releaseShelf_eq]
      exact silent rfl rfl rfl rfl
  | releaseLater => exact silent rfl rfl rfl rfl
  | refresh =>
      simp only [Coordinator.perform, refuses run.state refreshing]
      exact ⟨⟨[.nested .busy], rfl, rfl, rfl⟩, rfl⟩
  | askRefreshing => exact ⟨⟨[.flag _], rfl, rfl, rfl⟩, rfl⟩
  | report action => exact ⟨⟨[.flag _], rfl, rfl, rfl⟩, rfl⟩
  | register name actions => exact ⟨⟨[.registered _], rfl, rfl, rfl⟩, rfl⟩
  | unregister id => exact ⟨⟨[.flag _], rfl, rfl, rfl⟩, rfl⟩
  | crash => exact silent rfl rfl rfl rfl

theorem foldl_perform {total given : Nat} {book : HandleBook}
    (refuses : ∀ state, state.refreshing = true → nested state = (.ended .busy, state))
    (follows : Follows total given book run) (actions : List ViewAction) :
    Passes run.state (actions.foldl (Coordinator.perform nested) run).state [] actions := by
  induction actions generalizing book run with
  | nil => exact silent rfl rfl rfl rfl
  | cons action rest ih =>
      exact (perform refuses follows.refreshing action).trans (ih (follows.perform refuses action))

theorem refreshView {total given : Nat} {book : HandleBook}
    (refuses : ∀ state, state.refreshing = true → nested state = (.ended .busy, state))
    (follows : Follows total given book ⟨false, state⟩) (free : book.held = none)
    (more : given < total) (view : View) :
    Passes state (Coordinator.refreshView nested state view).2 [view] view.performed := by
  have called : Passes state (state.write (.called view)) [view] [] :=
    ⟨⟨[.called view], rfl, rfl, rfl⟩, rfl⟩
  have acted := foldl_perform refuses (follows.give free more view) view.performed
  rw [refreshView_eq, complete_eq]
  exact (called.trans acted).congr rfl rfl rfl rfl

theorem refreshViews {total given : Nat} {book : HandleBook}
    (refuses : ∀ state, state.refreshing = true → nested state = (.ended .busy, state))
    (follows : Follows total given book ⟨false, state⟩) (free : book.held = none)
    (views : List View) (enough : given + views.length ≤ total) :
    Passes state (views.foldl (fun state view => (Coordinator.refreshView nested state view).2) state)
      views (views.flatMap View.performed) := by
  induction views generalizing state book given with
  | nil => exact silent rfl rfl rfl rfl
  | cons view rest ih =>
      rw [List.length_cons] at enough
      have more : given < total := by omega
      have others := ih (follows.refreshView refuses free more view) rfl (by omega)
      exact (refreshView refuses follows free more view).trans others

end Passes

end Log

section Refresh

theorem refreshWithin_of_refreshing (depth : Nat) (refreshing : state.refreshing = true) :
    refreshWithin depth state = (.ended .busy, state) := by
  unfold refreshWithin
  rw [if_pos refreshing]

/-- The state in which a refresh comes to its barrier. -/
def atBarrier (state : Coordinator) : Coordinator :=
  ((calledOf state.views.snapshot).foldl
    (fun state view => (refreshView (refreshWithin 0) state view).2)
    (state.begin state.views.snapshot.length)).settle

/-- A refresh is over, unless it waits at its barrier forever. -/
theorem refreshAll_eq (idle : state.refreshing = false) :
    state.refreshAll =
      if state.views.snapshot.any View.crashes then (.crashed, state.atBarrier.finish)
      else if state.atBarrier.latch.isOpen then
        (.ended (if state.atBarrier.tracker.isReady then .loadComplete else .refreshed),
          state.atBarrier.finish)
      else (.stuck, state.atBarrier) := by
  unfold refreshAll refreshWithin
  simp only [idle, Bool.false_eq_true, if_false, refreshViews_eq]
  rfl

theorem refreshAll_fst (idle : state.refreshing = false) :
    state.refreshAll.1 =
      if state.views.snapshot.any View.crashes then .crashed
      else if state.atBarrier.latch.isOpen then
        .ended (if state.atBarrier.tracker.isReady then .loadComplete else .refreshed)
      else .stuck := by
  rw [refreshAll_eq idle]
  split
  · rfl
  · split <;> rfl

/-- Behind its barrier a refresh marks its end and nothing else. -/
theorem refreshAll_snd (idle : state.refreshing = false) :
    ∃ refreshing, state.refreshAll.2 = { state.atBarrier with refreshing } ∧
      (state.refreshAll.1 ≠ .stuck → refreshing = false) := by
  rw [refreshAll_eq idle]
  split
  · exact ⟨false, rfl, fun _ => rfl⟩
  · split
    · exact ⟨false, rfl, fun _ => rfl⟩
    · exact ⟨state.atBarrier.refreshing, rfl, fun notStuck => absurd rfl notStuck⟩

theorem settle_cases (state : Coordinator) :
    state.settle = state ∧ state.releasePending = false ∨
      state.settle = { state.releaseShelf with releasePending := false } := by
  unfold settle
  cases state.releasePending with
  | true => exact .inr rfl
  | false => exact .inl ⟨rfl, rfl⟩

theorem settle_releasePending (state : Coordinator) : state.settle.releasePending = false := by
  rcases settle_cases state with ⟨same, notPending⟩ | released
  · rw [same, notPending]
  · rw [released]

theorem settle_log (state : Coordinator) : state.settle.log = state.log := by
  rcases settle_cases state with ⟨same, _⟩ | released
  · rw [same]
  · rw [released, releaseShelf_eq]

theorem settle_tracker (state : Coordinator) : state.settle.tracker = state.tracker := by
  rcases settle_cases state with ⟨same, _⟩ | released
  · rw [same]
  · rw [released, releaseShelf_eq]

/-- What holds of a coordinator whatever happened to it. -/
structure Settled (state : Coordinator) : Prop where
  shelf_le : ∀ round ∈ state.shelf, round ≤ state.round
  notPending : state.releasePending = false

theorem Settled.follows_begin (settled : state.Settled) (views : Nat) :
    Follows views 0 .empty ⟨false, state.begin views⟩ where
  refreshing := rfl
  holding := rfl
  pending := settled.notPending
  shelf_le := by
    intro round present
    exact Nat.le_succ_of_le (settled.shelf_le round present)
  shelved := by
    apply List.count_eq_zero_of_not_mem
    intro present
    exact absurd (settled.shelf_le _ present) (Nat.not_succ_le_self state.round)
  counted := rfl
  named := .refl _
  given_le := Nat.zero_le views

theorem Settled.follows_atBarrier (settled : state.Settled) :
    Follows state.views.snapshot.length (calledOf state.views.snapshot).length
      (.ofRefresh state.views.snapshot) ⟨false, state.atBarrier⟩ := by
  have enough := View.length_calledOf_le state.views.snapshot
  have follows := (settled.follows_begin state.views.snapshot.length).refreshViews
    (fun _ => refreshWithin_of_refreshing 0) rfl (calledOf state.views.snapshot) (by omega)
  rw [Nat.zero_add] at follows
  exact follows.settle

theorem Settled.passes_atBarrier (settled : state.Settled) :
    Passes state state.atBarrier (calledOf state.views.snapshot)
      ((calledOf state.views.snapshot).flatMap View.performed) := by
  have enough := View.length_calledOf_le state.views.snapshot
  have passes := Passes.refreshViews (fun _ => refreshWithin_of_refreshing 0)
    (settled.follows_begin state.views.snapshot.length) rfl (calledOf state.views.snapshot)
    (by omega)
  exact passes.congr rfl rfl (settle_log _) (settle_tracker _)

theorem Settled.refreshAll (settled : state.Settled) : state.refreshAll.2.Settled := by
  cases refreshing : state.refreshing with
  | true =>
      rw [Coordinator.refreshAll, refreshWithin_of_refreshing 1 refreshing]
      exact settled
  | false =>
      rcases refreshAll_snd refreshing with ⟨refreshing, same, _⟩
      rw [same]
      exact ⟨settled.follows_atBarrier.shelf_le, settle_releasePending _⟩

end Refresh

/-- What can happen to a coordinator between two refreshes, and a refresh. -/
inductive Step : Coordinator → Coordinator → Prop where
  | register {state : Coordinator} (view : View) : Step state (state.register view).2
  | unregister {state : Coordinator} (id : Nat) : Step state (state.unregister id).2
  | release {state : Coordinator} : Step state state.releaseShelf
  | load {state : Coordinator} (tracker : Tracker) : Step state { state with tracker }
  | takeLog {state : Coordinator} : Step state state.takeLog.2
  | refresh {state : Coordinator} : Step state state.refreshAll.2

abbrev Reaches : Coordinator → Coordinator → Prop :=
  Relation.ReflTransGen Step

theorem Settled.step (settled : state.Settled) (step : Step state after) : after.Settled := by
  cases step with
  | register view => exact ⟨settled.shelf_le, settled.notPending⟩
  | unregister id => exact ⟨settled.shelf_le, settled.notPending⟩
  | release =>
      rw [releaseShelf_eq]
      exact ⟨nofun, settled.notPending⟩
  | load tracker => exact ⟨settled.shelf_le, settled.notPending⟩
  | takeLog => exact ⟨settled.shelf_le, settled.notPending⟩
  | refresh => exact settled.refreshAll

theorem Reaches.settled {tracker : Tracker} (reached : Reaches (.new tracker) state) :
    state.Settled := by
  induction reached with
  | refl => exact ⟨nofun, rfl⟩
  | tail _ step ih => exact ih.step step

theorem refreshAll_eq_busy_iff :
    (state.refreshAll).1 = .ended .busy ↔ state.refreshing = true := by
  cases refreshing : state.refreshing with
  | true => simp [refreshAll, refreshWithin_of_refreshing 1 refreshing]
  | false =>
      rw [refreshAll_eq refreshing]
      split
      · simp
      · split
        · split <;> simp
        · simp

theorem Follows.finished_lt {total given : Nat} {book : HandleBook} {run : ViewRun}
    (follows : Follows total given book run) {place : Nat} (finished : place ∈ book.finished) :
    place < given := by
  rw [← List.mem_range, ← follows.named.mem_iff]
  simp [finished]

theorem Follows.nodup_finished {total given : Nat} {book : HandleBook} {run : ViewRun}
    (follows : Follows total given book run) : book.finished.Nodup := by
  have nodup := follows.named.nodup_iff.mpr List.nodup_range
  rw [List.append_assoc] at nodup
  exact (List.nodup_append.mp nodup).1

/-- Once all handles were given out, the latch is open if all of them are finished. -/
theorem Follows.isOpen_iff {total : Nat} {book : HandleBook} {run : ViewRun}
    (follows : Follows total total book run) :
    run.state.latch.isOpen = true ↔ ∀ place < total, place ∈ book.finished := by
  have counted := follows.counted
  have opens : run.state.latch.isOpen = true ↔ book.finished.length = total := by
    rw [Latch.isOpen, beq_iff_eq]
    omega
  rw [opens]
  constructor
  · intro all place inside
    have subset : book.finished ⊆ List.range total := by
      intro place finished
      exact List.mem_range.mpr (follows.finished_lt finished)
    have perm : book.finished.Perm (List.range total) := by
      apply (List.subperm_of_subset follows.nodup_finished subset).perm_of_length_le
      simp [all]
    exact perm.mem_iff.mpr (List.mem_range.mpr inside)
  · intro all
    have subset : List.range total ⊆ book.finished := by
      intro place inside
      exact all place (List.mem_range.mp inside)
    have enough := (List.subperm_of_subset List.nodup_range subset).length_le
    rw [List.length_range] at enough
    omega

theorem refreshAll_eq_crashed_iff (idle : state.refreshing = false) :
    (state.refreshAll).1 = .crashed ↔ state.views.snapshot.any View.crashes = true := by
  rw [refreshAll_fst idle]
  split
  next crashes => exact iff_of_true rfl crashes
  next noCrash =>
    refine iff_of_false ?_ noCrash
    split <;> simp

/-- Without a crash a refresh ends if all handles are finished, and the load then decides how. -/
theorem Settled.refreshAll_eq_ended_iff (settled : state.Settled) (idle : state.refreshing = false)
    (outcome : RefreshOutcome) :
    (state.refreshAll).1 = .ended outcome ↔
      state.views.snapshot.any View.crashes = false ∧
        (∀ place < state.views.snapshot.length,
          place ∈ (HandleBook.ofRefresh state.views.snapshot).finished) ∧
        outcome = if state.atBarrier.tracker.isReady then .loadComplete else .refreshed := by
  have follows := settled.follows_atBarrier
  rw [refreshAll_fst idle]
  cases crashes : state.views.snapshot.any View.crashes with
  | true =>
      rw [if_pos rfl]
      simp
  | false =>
      rw [View.calledOf_of_not_crashes crashes] at follows
      rw [if_neg Bool.false_ne_true]
      by_cases finished : ∀ place < state.views.snapshot.length,
          place ∈ (HandleBook.ofRefresh state.views.snapshot).finished
      · rw [if_pos (follows.isOpen_iff.mpr finished)]
        constructor
        · intro ended
          exact ⟨rfl, finished, (RefreshVerdict.ended.inj ended).symm⟩
        · rintro ⟨_, _, rfl⟩
          rfl
      · rw [if_neg (mt follows.isOpen_iff.mp finished)]
        simp [finished]

/-- A refresh of any coordinator. While another one goes on it is refused and changes nothing.
Otherwise it calls the views that were registered when it began, in order and once each, up to the
first that crashes; whatever they register or remove, and every refresh that they ask for is refused.
The latch is counted down once for each handle that is finished. If no view crashes, the refresh ends
if all handles are finished, and reports whether the load, after all that the views have told it, is
ready. When it has ended or a view has crashed, the next refresh is not refused. -/
theorem refresh_is_a_barrier {tracker : Tracker} (reached : Reaches (.new tracker) state) :
    (state.refreshing = true → state.refreshAll = (.ended .busy, state)) ∧
    (state.refreshing = false →
      let views := state.views.snapshot
      let actions := (calledOf views).flatMap View.performed
      let book := HandleBook.ofRefresh views
      ∃ verdict after entries, state.refreshAll = (verdict, after) ∧
        after.log = state.log ++ entries ∧
        entries.filterMap LogEntry.called? = calledOf views ∧
        entries.filterMap LogEntry.nested? =
          List.replicate (actions.countP ViewAction.isRefresh) .busy ∧
        book.finished.Nodup ∧ (∀ place ∈ book.finished, place < (calledOf views).length) ∧
        after.latch.remaining + book.finished.length = views.length ∧
        after.tracker = state.tracker.applyAll (actions.filterMap ViewAction.report?) ∧
        (verdict = .crashed ↔ views.any View.crashes = true) ∧
        (∀ outcome, verdict = .ended outcome ↔
          views.any View.crashes = false ∧ (∀ place < views.length, place ∈ book.finished) ∧
            outcome = if after.tracker.isReady then .loadComplete else .refreshed) ∧
        (verdict ≠ .stuck →
          after.refreshing = false ∧ (after.refreshAll).1 ≠ .ended .busy)) := by
  refine ⟨refreshWithin_of_refreshing 1, ?_⟩
  intro idle views actions book
  have follows := reached.settled.follows_atBarrier
  rcases reached.settled.passes_atBarrier with ⟨⟨entries, log, called, nested⟩, told⟩
  rcases refreshAll_snd idle with ⟨refreshing, same, released⟩
  refine ⟨state.refreshAll.1, state.refreshAll.2, entries, rfl, ?_, called, nested,
    follows.nodup_finished, fun _ => follows.finished_lt, ?_, ?_, ?_, ?_, ?_⟩
  · rw [same, log]
  · rw [same]
    exact follows.counted
  · rw [same, told]
  · exact refreshAll_eq_crashed_iff idle
  · intro outcome
    rw [same]
    exact reached.settled.refreshAll_eq_ended_iff idle outcome
  · intro notStuck
    rw [same, released notStuck]
    exact ⟨rfl, by simp [refreshAll_eq_busy_iff]⟩

/-- Three views: the first leaves its handle to the second, asks for another refresh and registers a
view that would crash, the second removes the first, and the third finishes the load. -/
def busyViews : List View :=
  [⟨"tree", [.shelve, .refresh, .register "late" [.crash]]⟩,
    ⟨"rules", [.letGo, .signal, .releaseLater, .unregister 0]⟩,
    ⟨"depth", [.report .finish]⟩]

/-- A coordinator of these views, whose load has begun. -/
def busyCoordinator : Coordinator :=
  busyViews.foldl (fun state view => (state.register view).2) (.new ⟨0, 0, .loading⟩)

theorem busyCoordinator_reached : Reaches (.new ⟨0, 0, .loading⟩) busyCoordinator :=
  ((Relation.ReflTransGen.single (.register _)).tail (.register _)).tail (.register _)

theorem busyViews_are_refreshed : ∃ after,
    busyCoordinator.refreshAll = (.ended .loadComplete, after) ∧ after.latch.remaining = 0 ∧
      (after.refreshAll).1 ≠ .ended .busy := by
  rcases (refresh_is_a_barrier busyCoordinator_reached).2 rfl with
    ⟨verdict, after, entries, refreshed, _, _, _, _, _, counted, told, _, ended, next⟩
  have loaded : after.tracker.isReady = true := by
    rw [told]
    rfl
  obtain rfl : verdict = .ended .loadComplete := by
    rw [ended, loaded]
    exact ⟨rfl, by decide, rfl⟩
  have all : (HandleBook.ofRefresh busyCoordinator.views.snapshot).finished.length =
      busyCoordinator.views.snapshot.length := rfl
  exact ⟨after, refreshed, by omega, (next (by simp)).2⟩

end Coordinator

end ParseTrace
