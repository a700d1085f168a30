import Mathlib.Data.List.Perm.Basic
import ParseTrace.Refresh

/-!
# The handles of a refresh

`HandleBook` keeps an account of the handles of one refresh by name: a handle is held by the view that
is being refreshed, lies on the shelf, or is finished, which it is as soon as it is signalled or let
go. The account is kept from what the views do and knows nothing of the latch. A refresh follows it:
its latch was counted down once for each finished handle and for nothing else, whatever handles of
former refreshes are signalled in the meantime.
-/

namespace ParseTrace

namespace ViewAction

def isCrash : ViewAction → Bool
  | crash => true
  | _ => false

end ViewAction

namespace View

/-- What a view does in a refresh: all its actions, or those in front of its first crash. -/
def performed (view : View) : List ViewAction :=
  view.actions.takeWhile fun action => !action.isCrash

def crashes (view : View) : Bool :=
  view.actions.any ViewAction.isCrash

/-- The views that a refresh calls: all of them, or those up to the first that crashes. -/
def calledOf : List View → List View
  | [] => []
  | view :: rest => view :: if view.crashes then [] else calledOf rest

theorem length_calledOf_le (views : List View) : (calledOf views).length ≤ views.length := by
  induction views with
  | nil => exact Nat.le_refl 0
  | cons view rest ih =>
      unfold calledOf
      split
      · simp
      · simpa using ih

theorem calledOf_of_not_crashes {views : List View} (none : views.any crashes = false) :
    calledOf views = views := by
  induction views with
  | nil => rfl
  | cons view rest ih =>
      rw [List.any_cons, Bool.or_eq_false_iff] at none
      simp [calledOf, none.1, ih none.2]

end View

/-- Where the handles of a refresh are, each named by the place of its view. -/
structure HandleBook where
  /-- The handle of the view that is being refreshed, as long as it has it. -/
  held : Option Nat
  shelved : List Nat
  /-- Signalled or let go. -/
  finished : List Nat
  releasePending : Bool

namespace HandleBook

def empty : HandleBook := ⟨none, [], [], false⟩

/-- The view's handle is signalled or let go, if the view still has it. -/
def finish (book : HandleBook) : HandleBook :=
  { book with held := none, finished := book.finished ++ book.held.toList }

/-- The handles on the shelf are signalled. -/
def release (book : HandleBook) : HandleBook :=
  { book with shelved := [], finished := book.finished ++ book.shelved }

/-- What an action does to the handles. -/
def perform (book : HandleBook) : ViewAction → HandleBook
  | .signal | .letGo | .delegate => book.finish
  | .shelve => { book with held := none, shelved := book.shelved ++ book.held.toList }
  | .release => book.release
  | .releaseLater => { book with releasePending := true }
  | .refresh | .askRefreshing | .report _ | .register .. | .unregister _ | .crash => book

/-- A view is given its handle, and lets it go at the latest when it returns or crashes. -/
def refreshView (book : HandleBook) (place : Nat) (view : View) : HandleBook :=
  (view.performed.foldl perform { book with held := some place }).finish

def refreshViews (book : HandleBook) (place : Nat) : List View → HandleBook
  | [] => book
  | view :: rest => refreshViews (book.refreshView place view) (place + 1) rest

/-- A release that was put off happens. -/
def settle (book : HandleBook) : HandleBook :=
  if book.releasePending then { book.release with releasePending := false } else book

/-- The handles at the end of a refresh of the given views. -/
def ofRefresh (views : List View) : HandleBook :=
  (empty.refreshViews 0 (View.calledOf views)).settle

end HandleBook

namespace Coordinator

variable {state : Coordinator} {run : ViewRun}

/-- Signalling changes the latch of the present round and nothing else. -/
theorem signal_eq (state : Coordinator) (round : Nat) :
    state.signal round = { state with
      latch := ⟨state.latch.remaining - if round = state.round then 1 else 0⟩ } := by
  unfold signal
  split
  · rfl
  · rfl

theorem foldl_signal (shelf : List Nat) (state : Coordinator) :
    shelf.foldl signal state = { state with
      latch := ⟨state.latch.remaining - shelf.count state.round⟩ } := by
  induction shelf generalizing state with
  | nil => rfl
  | cons round rest ih =>
      rw [List.foldl_cons, ih, signal_eq]
      by_cases same : round = state.round
      · simp [same, Nat.sub_sub, Nat.add_comm]
      · simp [same]

/-- Of the handles on the shelf only those of the present round count. -/
theorem releaseShelf_eq (state : Coordinator) :
    state.releaseShelf = { state with
      latch := ⟨state.latch.remaining - state.shelf.count state.round⟩
      shelf := [] } := by
  rw [releaseShelf, foldl_signal]

theorem complete_eq (run : ViewRun) :
    run.complete = ⟨false, { run.state with
      latch := ⟨run.state.latch.remaining - if run.holding then 1 else 0⟩ }⟩ := by
  rcases run with ⟨holding, state⟩
  cases holding with
  | true => simp [ViewRun.complete, signal_eq]
  | false => rfl

/-- A view in the middle of its actions agrees with the account of the handles. So many handles were
given out, of so many that the refresh is to give out. -/
structure Follows (total given : Nat) (book : HandleBook) (run : ViewRun) : Prop where
  refreshing : run.state.refreshing = true
  holding : run.holding = book.held.isSome
  pending : run.state.releasePending = book.releasePending
  shelf_le : ∀ round ∈ run.state.shelf, round ≤ run.state.round
  shelved : run.state.shelf.count run.state.round = book.shelved.length
  counted : run.state.latch.remaining + book.finished.length = total
  named : (book.finished ++ book.shelved ++ book.held.toList).Perm (List.range given)
  given_le : given ≤ total

namespace Follows

variable {total given : Nat} {book : HandleBook} {after : Coordinator}

theorem length_eq (follows : Follows total given book run) :
    book.finished.length + book.shelved.length + book.held.toList.length = given := by
  simpa [Nat.add_assoc] using follows.named.length_eq

/-- What the account says nothing about may change. -/
theorem congr (follows : Follows total given book run)
    (refreshing : after.refreshing = run.state.refreshing)
    (pending : after.releasePending = run.state.releasePending)
    (shelf : after.shelf = run.state.shelf) (round : after.round = run.state.round)
    (latch : after.latch = run.state.latch) : Follows total given book ⟨run.holding, after⟩ where
  refreshing := refreshing.trans follows.refreshing
  holding := follows.holding
  pending := pending.trans follows.pending
  shelf_le := by
    simp only [shelf, round]
    exact follows.shelf_le
  shelved := by
    simp only [shelf, round]
    exact follows.shelved
  counted := by
    simp only [latch]
    exact follows.counted
  named := follows.named
  given_le := follows.given_le

theorem complete (follows : Follows total given book run) :
    Follows total given book.finish run.complete := by
  have given := follows.length_eq
  have within := follows.given_le
  have counted := follows.counted
  rw [complete_eq]
  refine ⟨follows.refreshing, rfl, follows.pending, follows.shelf_le, follows.shelved, ?_, ?_,
    within⟩
  · simp only [follows.holding, HandleBook.finish, List.length_append]
    cases isHeld : book.held with
    | none => simpa [isHeld] using counted
    | some place =>
        simp only [isHeld, Option.toList_some, List.length_singleton, Option.isSome_some,
          if_true] at given ⊢
        omega
  · simp only [HandleBook.finish, Option.toList_none, List.append_nil]
    refine .trans ?_ follows.named
    rw [List.append_assoc, List.append_assoc]
    exact List.perm_append_comm.append_left _

theorem release (follows : Follows total given book run) :
    Follows total given book.release (run.update releaseShelf) := by
  have given := follows.length_eq
  have within := follows.given_le
  have counted := follows.counted
  simp only [ViewRun.update, releaseShelf_eq]
  refine ⟨follows.refreshing, follows.holding, follows.pending, nofun, rfl, ?_, ?_, within⟩
  · simp only [follows.shelved, HandleBook.release, List.length_append]
    omega
  · simpa [HandleBook.release] using follows.named

theorem shelve (follows : Follows total given book run)
    (nested : Coordinator → RefreshVerdict × Coordinator) :
    Follows total given (book.perform .shelve) (Coordinator.perform nested run .shelve) := by
  cases isHeld : book.held with
  | none =>
      have free : run.holding = false := by simp [follows.holding, isHeld]
      have same : book.perform .shelve = book := by
        rcases book with ⟨held, shelved, finished, pending⟩
        obtain rfl : held = none := isHeld
        simp [HandleBook.perform]
      simpa [Coordinator.perform, free, same] using follows
  | some place =>
      have holds : run.holding = true := by simp [follows.holding, isHeld]
      simp only [Coordinator.perform, holds, if_true, HandleBook.perform, isHeld]
      refine ⟨follows.refreshing, rfl, follows.pending, ?_, ?_, follows.counted, ?_,
        follows.given_le⟩
      · intro round present
        rcases List.mem_append.mp present with old | isNew
        · exact follows.shelf_le round old
        · exact Nat.le_of_eq (List.mem_singleton.mp isNew)
      · simp [follows.shelved]
      · simpa [isHeld] using follows.named

/-- Every action is followed, if a nested refresh is refused. -/
theorem perform {nested : Coordinator → RefreshVerdict × Coordinator}
    (refuses : ∀ state, state.refreshing = true → nested state = (.ended .busy, state))
    (follows : Follows total given book run) (action : ViewAction) :
    Follows total given (book.perform action) (Coordinator.perform nested run action) := by
  cases action with
  | signal => exact follows.complete
  | letGo => exact follows.complete
  | delegate => exact follows.complete
  | shelve => exact follows.shelve nested
  | release => exact follows.release
  | releaseLater =>
      exact ⟨follows.refreshing, follows.holding, rfl, follows.shelf_le, follows.shelved,
        follows.counted, follows.named, follows.given_le⟩
  | refresh =>
      simp only [Coordinator.perform, refuses run.state follows.refreshing]
      exact follows.congr rfl rfl rfl rfl rfl
  | askRefreshing => exact follows.congr rfl rfl rfl rfl rfl
  | report action => exact follows.congr rfl rfl rfl rfl rfl
  | register name actions => exact follows.congr rfl rfl rfl rfl rfl
  | unregister id => exact follows.congr rfl rfl rfl rfl rfl
  | crash => exact follows

theorem foldl_perform {nested : Coordinator → RefreshVerdict × Coordinator}
    (refuses : ∀ state, state.refreshing = true → nested state = (.ended .busy, state))
    (follows : Follows total given book run) (actions : List ViewAction) :
    Follows total given (actions.foldl HandleBook.perform book)
      (actions.foldl (Coordinator.perform nested) run) := by
  induction actions generalizing book run with
  | nil => exact follows
  | cons action rest ih => exact ih (follows.perform refuses action)

/-- The next view is given its handle. -/
theorem give (follows : Follows total given book ⟨false, state⟩) (free : book.held = none)
    (more : given < total) (view : View) :
    Follows total (given + 1) { book with held := some given } ⟨true, state.write (.called view)⟩ where
  refreshing := follows.refreshing
  holding := rfl
  pending := follows.pending
  shelf_le := follows.shelf_le
  shelved := follows.shelved
  counted := follows.counted
  named := by
    have named := follows.named
    simp only [free, Option.toList_none, List.append_nil] at named
    rw [List.range_succ]
    exact named.append_right [given]
  given_le := more

theorem settle (follows : Follows total given book ⟨false, state⟩) :
    Follows total given book.settle ⟨false, state.settle⟩ := by
  have pending : state.releasePending = book.releasePending := follows.pending
  cases isPending : book.releasePending with
  | false =>
      simpa [Coordinator.settle, HandleBook.settle, pending, isPending] using follows
  | true =>
      have released := follows.release
      simp only [Coordinator.settle, HandleBook.settle, pending, isPending, if_true]
      exact ⟨released.refreshing, released.holding, rfl, released.shelf_le, released.shelved,
        released.counted, released.named, released.given_le⟩

end Follows

end Coordinator

end ParseTrace
