import ParseTrace.Trace.Header

/-!
# Progress of a load

A load goes from not started to loading and from there to ready, and it can fail at any time
before it is ready. Nothing leads out of the two final states, so a load has one history. The
counters of loaded records run beside the state and take no notice of it; like the counters of the
header they have 64 bits, and they wrap around.
-/

namespace ParseTrace

/-- The state of a load. -/
inductive LoadState where
  | notStarted
  | loading
  | ready
  | failed (message : String)
  deriving DecidableEq, Repr

namespace LoadState

/-- Whether no transition leads out of the state. -/
def isFinal : LoadState → Bool
  | ready => true
  | failed _ => true
  | notStarted => false
  | loading => false

/-- The name of a state. -/
def name : LoadState → String
  | notStarted => "NotStarted"
  | loading => "Loading"
  | ready => "Ready"
  | failed _ => "Failed"

/-- Why the load failed, if it did. -/
def error? : LoadState → Option String
  | failed message => some message
  | notStarted => none
  | loading => none
  | ready => none

end LoadState

/-- What is known of a load at one moment. -/
structure Tracker where
  /-- Rules loaded so far. -/
  rules : Nat
  /-- Invocations loaded so far. -/
  nodes : Nat
  state : LoadState
  deriving DecidableEq, Repr

namespace Tracker

/-- A load that has not started. -/
def new : Tracker := ⟨0, 0, .notStarted⟩

/-- What the loading side reports. -/
inductive Action where
  | start
  | finish
  | fail (message : String)
  | addRules (count : Nat)
  | addNodes (count : Nat)
  deriving DecidableEq, Repr

/-- The state after a report, none where the report has no effect on the state. -/
def transition? (state : LoadState) : Action → Option LoadState
  | .start => if state = .notStarted then some .loading else none
  | .finish => if state = .loading then some .ready else none
  | .fail message => if state.isFinal then none else some (.failed message)
  | .addRules _ => none
  | .addNodes _ => none

/-- The sum of two counts modulo the number of counts. -/
def wrapAdd (left right : Nat) : Nat :=
  (left + right) % countLimit

theorem wrapAdd_eq_add {left right : Nat} (small : left + right < countLimit) :
    wrapAdd left right = left + right := Nat.mod_eq_of_lt small

theorem wrapAdd_wrapAdd (count first second : Nat) :
    wrapAdd (wrapAdd count first) second = wrapAdd count (first + second) := by
  unfold wrapAdd
  rw [Nat.mod_add_mod, Nat.add_assoc]

/-- Takes a report. The answer says whether it changed the state. -/
def apply (tracker : Tracker) (action : Action) : Bool × Tracker :=
  let counted :=
    match action with
    | .addRules count => { tracker with rules := wrapAdd tracker.rules count }
    | .addNodes count => { tracker with nodes := wrapAdd tracker.nodes count }
    | _ => tracker
  match transition? tracker.state action with
  | some state => (true, { counted with state })
  | none => (false, counted)

@[simp]
theorem apply_addRules (tracker : Tracker) (count : Nat) :
    tracker.apply (.addRules count) =
      (false, { tracker with rules := wrapAdd tracker.rules count }) := rfl

@[simp]
theorem apply_addNodes (tracker : Tracker) (count : Nat) :
    tracker.apply (.addNodes count) =
      (false, { tracker with nodes := wrapAdd tracker.nodes count }) := rfl

/-- A report that counts nothing moves the state of a load and nothing else. -/
theorem apply_eq_move (tracker : Tracker) {action : Action}
    (noCount : ∀ count, action ≠ .addRules count ∧ action ≠ .addNodes count) :
    ∃ state, (tracker.apply action).2 = { tracker with state } := by
  have moved : ∀ next : Option LoadState, ∃ state, (match next with
      | some state => (true, { tracker with state })
      | none => (false, tracker)).2 = { tracker with state } := by
    intro next
    cases next with
    | none => exact ⟨tracker.state, rfl⟩
    | some state => exact ⟨state, rfl⟩
  cases action with
  | start => exact moved _
  | finish => exact moved _
  | fail message => exact moved _
  | addRules count => exact absurd rfl (noCount count).1
  | addNodes count => exact absurd rfl (noCount count).2

/-- Takes reports one after the other. -/
def applyAll (tracker : Tracker) (actions : List Action) : Tracker :=
  actions.foldl (fun tracker action => (tracker.apply action).2) tracker

/-- Whether everything is loaded. -/
def isReady (tracker : Tracker) : Bool :=
  tracker.state == .ready

/-- Records loaded so far, none past the largest count. -/
def records? (tracker : Tracker) : Option Nat :=
  addCounts? tracker.rules tracker.nodes

end Tracker

end ParseTrace
