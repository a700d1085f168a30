import ParseTrace.Latch
import ParseTrace.Load.Tracker
import ParseTrace.Subscription

/-!
# Refreshing views

A refresh asks every registered view to reload and waits until all of them are done. Each view is
given a handle. A handle counts the refresh's latch down once, when it is signalled or when it is
let go, and a view may do that at once, leave it to someone else, or put the handle on a shelf
from which another view releases it. While a refresh goes on, every further one is refused.

Whatever a view decides in the course of a refresh, it comes to a list of actions, so a refresh is a
run of the actions of all views. It can end in three ways: with an outcome, with the crash of a view,
or not at all, when a handle is never released.
-/

namespace ParseTrace

/-- What a view does while it is refreshed. -/
inductive ViewAction where
  /-- Signals its handle. -/
  | signal
  /-- Lets its handle go. -/
  | letGo
  /-- Hands its handle to a helper, which signals it. -/
  | delegate
  /-- Puts its handle on the shelf. -/
  | shelve
  /-- Signals all handles on the shelf. -/
  | release
  /-- Has all handles on the shelf signalled a little later. -/
  | releaseLater
  /-- Asks for another refresh. -/
  | refresh
  | askRefreshing
  /-- Reports on the progress of loading. -/
  | report (action : Tracker.Action)
  /-- Registers a view of the given name and actions. -/
  | register (name : String) (actions : List ViewAction)
  | unregister (id : Nat)
  | crash
  deriving Repr

/-- Something that reloads on request. -/
structure View where
  name : String
  actions : List ViewAction
  deriving Repr

/-- How a refresh ends. -/
inductive RefreshOutcome where
  /-- The views are reloaded and loading goes on or has failed. -/
  | refreshed
  /-- The views are reloaded and loading is over. -/
  | loadComplete
  /-- Another refresh is going on. -/
  | busy
  deriving DecidableEq, Repr

namespace RefreshOutcome

/-- The name of an outcome. -/
def name : RefreshOutcome → String
  | refreshed => "Refreshed"
  | loadComplete => "LoadComplete"
  | busy => "Busy"

end RefreshOutcome

/-- What a refresh comes to. -/
inductive RefreshVerdict where
  | ended (outcome : RefreshOutcome)
  /-- A view crashed. -/
  | crashed
  /-- A handle was neither signalled nor let go. -/
  | stuck
  deriving DecidableEq, Repr

/-- What is written down in the course of refreshes. -/
inductive LogEntry where
  /-- A view is being refreshed. -/
  | called (view : View)
  /-- A view has asked for another refresh. -/
  | nested (outcome : RefreshOutcome)
  /-- A view has been told whether something is so, or had an effect. -/
  | flag (value : Bool)
  /-- A view has registered another one under this number. -/
  | registered (id : Nat)
  deriving Repr

/-- The views of a trace and the refresh in progress, if any. -/
structure Coordinator where
  views : Subscribers View
  tracker : Tracker
  refreshing : Bool
  /-- Refreshes begun so far. -/
  round : Nat
  /-- The latch of the last refresh. -/
  latch : Latch
  /-- The rounds of the handles on the shelf. -/
  shelf : List Nat
  /-- Whether the handles on the shelf are about to be signalled. -/
  releasePending : Bool
  log : List LogEntry
  deriving Repr

namespace Coordinator

/-- No view is registered. -/
def new (tracker : Tracker) : Coordinator where
  views := .new
  tracker := tracker
  refreshing := false
  round := 0
  latch := ⟨0⟩
  shelf := []
  releasePending := false
  log := []

/-- Writes down an entry. -/
def write (state : Coordinator) (entry : LogEntry) : Coordinator :=
  { state with log := state.log ++ [entry] }

/-- Signals the handle of a round. Nobody waits for the handles of former rounds. -/
def signal (state : Coordinator) (round : Nat) : Coordinator :=
  if round = state.round then { state with latch := state.latch.countDown } else state

/-- Signals all handles on the shelf. -/
def releaseShelf (state : Coordinator) : Coordinator :=
  let released := state.shelf.foldl signal state
  { released with shelf := [] }

/-- Lets a release that was put off happen. -/
def settle (state : Coordinator) : Coordinator :=
  if state.releasePending then { state.releaseShelf with releasePending := false } else state

/-- Registers a view and returns its number. -/
def register (state : Coordinator) (view : View) : Nat × Coordinator :=
  let (id, views) := state.views.subscribe view
  (id, { state with views })

/-- Removes the view with a number. The answer says whether there was one. -/
def unregister (state : Coordinator) (id : Nat) : Bool × Coordinator :=
  let (known, views) := state.views.unsubscribe id
  (known, { state with views })

/-- Takes a report on the progress of loading and writes down whether it had an effect. -/
def report (state : Coordinator) (action : Tracker.Action) : Coordinator :=
  let (changed, tracker) := state.tracker.apply action
  { state with tracker }.write (.flag changed)

/-- A view in the middle of its actions: whether it still has its handle, and all the rest. -/
structure ViewRun where
  holding : Bool
  state : Coordinator

namespace ViewRun

/-- Signals the handle if the view still has it. -/
def complete (run : ViewRun) : ViewRun :=
  if run.holding then ⟨false, run.state.signal run.state.round⟩ else run

/-- Changes all but the handle. -/
def update (run : ViewRun) (change : Coordinator → Coordinator) : ViewRun :=
  { run with state := change run.state }

end ViewRun

/-- Carries out an action other than a crash. A nested refresh is answered by the given function. -/
def perform (nested : Coordinator → RefreshVerdict × Coordinator) (run : ViewRun) :
    ViewAction → ViewRun
  | .signal => run.complete
  | .letGo => run.complete
  | .delegate => run.complete
  | .shelve =>
      if run.holding then
        ⟨false, { run.state with shelf := run.state.shelf ++ [run.state.round] }⟩
      else run
  | .release => run.update releaseShelf
  | .releaseLater => run.update fun state => { state with releasePending := true }
  | .refresh =>
      match nested run.state with
      | (.ended outcome, state) => { run with state := state.write (.nested outcome) }
      | (_, state) => { run with state }
  | .askRefreshing => run.update fun state => state.write (.flag state.refreshing)
  | .report action => run.update fun state => state.report action
  | .register name actions => run.update fun state =>
      let (id, state) := state.register ⟨name, actions⟩
      state.write (.registered id)
  | .unregister id => run.update fun state =>
      let (known, state) := state.unregister id
      state.write (.flag known)
  | .crash => run

/-- Carries out actions until one crashes. The answer says whether one did. -/
def performAll (nested : Coordinator → RefreshVerdict × Coordinator) (run : ViewRun) :
    List ViewAction → Bool × ViewRun
  | [] => (false, run)
  | .crash :: _ => (true, run)
  | action :: rest => performAll nested (perform nested run action) rest

/-- Refreshes one view, which is let go of its handle at the latest when it returns or crashes. -/
def refreshView (nested : Coordinator → RefreshVerdict × Coordinator) (state : Coordinator)
    (view : View) : Bool × Coordinator :=
  let (crashed, run) := performAll nested ⟨true, state.write (.called view)⟩ view.actions
  (crashed, run.complete.state)

/-- Refreshes views in order until one crashes. -/
def refreshViews (nested : Coordinator → RefreshVerdict × Coordinator) (state : Coordinator) :
    List View → Bool × Coordinator
  | [] => (false, state)
  | view :: rest =>
      match refreshView nested state view with
      | (true, state) => (true, state)
      | (false, state) => refreshViews nested state rest

/-- Marks the beginning of a refresh of so many views. -/
def begin (state : Coordinator) (views : Nat) : Coordinator :=
  { state with refreshing := true, round := state.round + 1, latch := ⟨views⟩ }

/-- Marks the end of a refresh. -/
def finish (state : Coordinator) : Coordinator :=
  { state with refreshing := false }

/-- Refreshes all views registered now, unless a refresh is going on. The number bounds how deep
refreshes may be nested; since a nested one is refused, none gets deeper than one. -/
def refreshWithin : Nat → Coordinator → RefreshVerdict × Coordinator
  | depth, state =>
      if state.refreshing then (.ended .busy, state)
      else
        match depth with
        | 0 => (.stuck, state)
        | depth + 1 =>
            let views := state.views.snapshot
            let begun := state.begin views.length
            let (crashed, state) := refreshViews (refreshWithin depth) begun views
            let state := state.settle
            if crashed then (.crashed, state.finish)
            else if state.latch.isOpen then
              (.ended (if state.tracker.isReady then .loadComplete else .refreshed), state.finish)
            else (.stuck, state)

/-- Refreshes all views and waits for them. -/
def refreshAll (state : Coordinator) : RefreshVerdict × Coordinator :=
  refreshWithin 1 state

/-- What was written down since it was last taken. -/
def takeLog (state : Coordinator) : List LogEntry × Coordinator :=
  (state.log, { state with log := [] })

/-- The coordinator in one line. -/
def describe (state : Coordinator) : String :=
  s!"RefreshCoordinator \x7b views: {state.views.size}, refreshing: {state.refreshing} \x7d"

end Coordinator

end ParseTrace
