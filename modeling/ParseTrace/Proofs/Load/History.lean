import Mathlib.Data.List.Induction
import ParseTrace.Load.Tracker

/-!
# The history of a load

Few of the reports about a load change its state. They make up its history, and there are only five
kinds of it: the load has not started, it is under way, it ended well after a start, or it failed,
after a start or without one. So at most one report ends a load, and the message that a failed load
shows is the message of that report.
-/

namespace ParseTrace.Tracker

variable {tracker : Tracker} {state next : LoadState} {action : Action} {taken : List Action}

/-- The reports that change the state, in order. -/
def effective : Tracker → List Action → List Action
  | _, [] => []
  | tracker, action :: rest =>
      if (tracker.apply action).1 then action :: effective (tracker.apply action).2 rest
      else effective (tracker.apply action).2 rest

/-- The message of a report that the load failed. -/
def Action.failure? : Action → Option String
  | .fail message => some message
  | _ => none

/-- The messages of the failures that changed the state. -/
def failures (tracker : Tracker) (actions : List Action) : List String :=
  (tracker.effective actions).filterMap Action.failure?

@[simp]
theorem applyAll_nil (tracker : Tracker) : tracker.applyAll [] = tracker := rfl

@[simp]
theorem applyAll_cons (tracker : Tracker) (action : Action) (rest : List Action) :
    tracker.applyAll (action :: rest) = (tracker.apply action).2.applyAll rest := rfl

theorem applyAll_append (tracker : Tracker) (first second : List Action) :
    tracker.applyAll (first ++ second) = (tracker.applyAll first).applyAll second :=
  List.foldl_append

theorem effective_append (tracker : Tracker) (first second : List Action) :
    tracker.effective (first ++ second) =
      tracker.effective first ++ (tracker.applyAll first).effective second := by
  induction first generalizing tracker with
  | nil => rfl
  | cons action rest ih =>
      simp only [List.cons_append, effective, applyAll_cons, ih]
      split
      · rfl
      · rfl

theorem apply_eq_none (stays : transition? tracker.state action = none) :
    (tracker.apply action).1 = false ∧ (tracker.apply action).2.state = tracker.state := by
  cases action <;> simp_all [apply]

theorem apply_eq_some (moves : transition? tracker.state action = some next) :
    (tracker.apply action).1 = true ∧ (tracker.apply action).2.state = next := by
  simp [apply, moves]

/-- A start, an end after a start, and a failure before the end: nothing else changes the state. -/
theorem transition?_cases (moves : transition? state action = some next) :
    (state = .notStarted ∧ action = .start ∧ next = .loading) ∨
      (state = .loading ∧ action = .finish ∧ next = .ready) ∨
      (state.isFinal = false ∧ ∃ message, action = .fail message ∧ next = .failed message) := by
  cases action with
  | start =>
      left
      simpa [transition?, eq_comm] using moves
  | finish =>
      right
      left
      simpa [transition?, eq_comm] using moves
  | fail message =>
      right
      right
      simp only [transition?] at moves
      split at moves
      · cases moves
      next running =>
        cases moves
        exact ⟨by simpa using running, message, rfl, rfl⟩
  | addRules count => simp [transition?] at moves
  | addNodes count => simp [transition?] at moves

theorem transition?_of_isFinal (isFinal : state.isFinal = true) (action : Action) :
    transition? state action = none := by
  cases moves : transition? state action with
  | none => rfl
  | some next =>
      rcases transition?_cases moves with ⟨rfl, _⟩ | ⟨rfl, _⟩ | ⟨running, _⟩
      · cases isFinal
      · cases isFinal
      · rw [isFinal] at running
        cases running

theorem state_applyAll_of_isFinal (isFinal : tracker.state.isFinal = true)
    (actions : List Action) : (tracker.applyAll actions).state = tracker.state := by
  induction actions generalizing tracker with
  | nil => rfl
  | cons action rest ih =>
      have stays := (apply_eq_none (transition?_of_isFinal isFinal action)).2
      rw [applyAll_cons, ih (by rwa [stays]), stays]

/-- The reports that lead a new load to a state. -/
inductive Leads : List Action → LoadState → Prop where
  | new : Leads [] .notStarted
  | started : Leads [.start] .loading
  | finished : Leads [.start, .finish] .ready
  | failedAtOnce (message : String) : Leads [.fail message] (.failed message)
  | failed (message : String) : Leads [.start, .fail message] (.failed message)

namespace Leads

theorem step (leads : Leads taken state) (moves : transition? state action = some next) :
    Leads (taken ++ [action]) next := by
  rcases transition?_cases moves with
    ⟨rfl, rfl, rfl⟩ | ⟨rfl, rfl, rfl⟩ | ⟨running, message, rfl, rfl⟩
  · cases leads
    exact .started
  · cases leads
    exact .finished
  · cases leads with
    | new => exact .failedAtOnce message
    | started => exact .failed message
    | finished => cases running
    | failedAtOnce _ => cases running
    | failed _ => cases running

theorem apply (leads : Leads taken tracker.state) (action : Action) :
    Leads (taken ++ tracker.effective [action]) (tracker.apply action).2.state := by
  cases moves : transition? tracker.state action with
  | none =>
      rcases apply_eq_none moves with ⟨refused, same⟩
      simpa [effective, refused, same] using leads
  | some next =>
      rcases apply_eq_some moves with ⟨taken, changed⟩
      simpa [effective, taken, changed] using leads.step moves

theorem failure_eq {message : String} (leads : Leads taken (.failed message)) :
    taken.filterMap Action.failure? = [message] := by
  cases leads with
  | failedAtOnce => rfl
  | failed => rfl

end Leads

/-- The reports that change the state of a new load are one of the five histories. -/
theorem leads_applyAll (actions : List Action) :
    Leads (new.effective actions) (new.applyAll actions).state := by
  -- From the back, since the last report meets the state that all the others led to.
  induction actions using List.reverseRecOn with
  | nil => exact .new
  | append_singleton actions action ih =>
      rw [effective_append, applyAll_append]
      exact ih.apply action

theorem failures_eq_of_state {actions : List Action} {message : String}
    (failed : (new.applyAll actions).state = .failed message) :
    new.failures actions = [message] := by
  have leads := leads_applyAll actions
  rw [failed] at leads
  exact leads.failure_eq

end ParseTrace.Tracker
