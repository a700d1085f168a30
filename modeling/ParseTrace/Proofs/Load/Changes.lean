import Mathlib.Algebra.GroupWithZero.Nat
import ParseTrace.Proofs.Load.Cells
import ParseTrace.Proofs.Load.History

/-!
# The reports that change a load

A report changes the state of a load or leaves it alone, and its answer says which. In every run of a
new load at most two reports change the state. If there are two, the first is a start and the second
ends the load; if there is one, it is a start or a failure. Behind the end nothing changes.

The cause that a snapshot shows is the message of the one failure that changed the state. The
counters take no notice of any of this: they are sums modulo the number of counts.
-/

namespace ParseTrace

/-- Whether a report ends a load, if it changes the state. -/
def Tracker.Action.Ends : Tracker.Action → Prop
  | finish => True
  | fail _ => True
  | _ => False

/-- The rules that a report adds. -/
def Tracker.Action.addedRules : Tracker.Action → Nat
  | addRules count => count
  | _ => 0

/-- The invocations that a report adds. -/
def Tracker.Action.addedNodes : Tracker.Action → Nat
  | addNodes count => count
  | _ => 0

namespace Tracker

/-- At a place of a run of a new load stands a report that changes the state. -/
def ChangesAt (actions : List Action) (place : Nat) (action : Action) : Prop :=
  actions[place]? = some action ∧ ((new.applyAll (actions.take place)).apply action).1 = true

variable {actions : List Action} {place first second : Nat} {action other : Action}

theorem applyAll_take_succ (found : actions[place]? = some action) :
    new.applyAll (actions.take (place + 1)) =
      ((new.applyAll (actions.take place)).apply action).2 := by
  rw [List.take_add_one, found, applyAll_append]
  rfl

theorem ChangesAt.moves (changes : ChangesAt actions place action) :
    ∃ next, transition? (new.applyAll (actions.take place)).state action = some next ∧
      (new.applyAll (actions.take (place + 1))).state = next := by
  rcases changes with ⟨found, changed⟩
  rw [applyAll_take_succ found]
  cases moves : transition? (new.applyAll (actions.take place)).state action with
  | none =>
      rw [(apply_eq_none moves).1] at changed
      cases changed
  | some next => exact ⟨next, rfl, (apply_eq_some moves).2⟩

theorem ChangesAt.lt_length (changes : ChangesAt actions place action) :
    place < actions.length :=
  (List.getElem?_eq_some_iff.mp changes.1).1

theorem changesAt_append_iff (within : place < actions.length) (rest : List Action) :
    ChangesAt (actions ++ rest) place action ↔ ChangesAt actions place action := by
  rw [ChangesAt, ChangesAt, List.getElem?_append_left within,
    List.take_append_of_le_length (Nat.le_of_lt within)]

theorem changesAt_take_iff {count : Nat} (within : place < count)
    (enough : count ≤ actions.length) :
    ChangesAt (actions.take count) place action ↔ ChangesAt actions place action := by
  rw [← changesAt_append_iff (by rwa [List.length_take_of_le enough]) (actions.drop count),
    List.take_append_drop]

/-- The effective reports are those that stand at some place. -/
theorem mem_effective_iff :
    action ∈ new.effective actions ↔ ∃ place, ChangesAt actions place action := by
  induction actions using List.reverseRecOn with
  | nil => simp [effective, ChangesAt]
  | append_singleton actions last ih =>
      have atEnd : ∀ action, ChangesAt (actions ++ [last]) actions.length action ↔
          last = action ∧ ((new.applyAll actions).apply action).1 = true := by
        intro action
        simp [ChangesAt]
      have isLast : action ∈ (new.applyAll actions).effective [last] ↔
          last = action ∧ ((new.applyAll actions).apply action).1 = true := by
        simp only [effective]
        split
        next changed =>
          rw [List.mem_singleton, eq_comm]
          exact ⟨fun same => ⟨same, same ▸ changed⟩, And.left⟩
        next refused =>
          simp only [List.not_mem_nil, false_iff]
          rintro ⟨rfl, changed⟩
          exact refused changed
      rw [effective_append, List.mem_append, ih, isLast]
      constructor
      · rintro (⟨place, changes⟩ | atLast)
        · exact ⟨place, (changesAt_append_iff changes.lt_length _).mpr changes⟩
        · exact ⟨actions.length, (atEnd action).mpr atLast⟩
      · rintro ⟨place, changes⟩
        have within := changes.lt_length
        rw [List.length_append, List.length_singleton, Nat.lt_succ_iff] at within
        rcases Nat.lt_or_eq_of_le within with before | rfl
        · exact Or.inl ⟨place, (changesAt_append_iff before _).mp changes⟩
        · exact Or.inr ((atEnd action).mp changes)

theorem ChangesAt.mem_effective (changes : ChangesAt actions first action) (before : first < second)
    (within : second ≤ actions.length) : action ∈ new.effective (actions.take second) :=
  mem_effective_iff.mpr ⟨first, (changesAt_take_iff before within).mpr changes⟩

/-- Of two reports that change the state, the first is a start and the second ends the load. -/
theorem ChangesAt.eq_start_and_ends (earlier : ChangesAt actions first action)
    (later : ChangesAt actions second other) (before : first < second) :
    action = .start ∧ other.Ends := by
  have effective := earlier.mem_effective before (Nat.le_of_lt later.lt_length)
  have leads := leads_applyAll (actions.take second)
  rcases later.moves with ⟨next, moves, _⟩
  -- What changed the state earlier is one of the reports that led to the state met here.
  generalize new.effective (actions.take second) = taken at effective leads
  generalize (new.applyAll (actions.take second)).state = met at leads moves
  cases leads with
  | new => cases effective
  | started =>
      refine ⟨List.mem_singleton.mp effective, ?_⟩
      rcases transition?_cases moves with ⟨met, _⟩ | ⟨_, rfl, _⟩ | ⟨_, message, rfl, _⟩
      · cases met
      · trivial
      · trivial
  | finished =>
      rw [transition?_of_isFinal rfl] at moves
      cases moves
  | failedAtOnce message =>
      rw [transition?_of_isFinal rfl] at moves
      cases moves
  | failed message =>
      rw [transition?_of_isFinal rfl] at moves
      cases moves

theorem ChangesAt.exists_start (changes : ChangesAt actions second .finish) :
    ∃ first < second, ChangesAt actions first .start := by
  have leads := leads_applyAll (actions.take second)
  rcases changes.moves with ⟨next, moves, _⟩
  rcases transition?_cases moves with ⟨_, isStart, _⟩ | ⟨loading, _⟩ | ⟨_, _, isFail, _⟩
  · cases isStart
  · rw [loading] at leads
    have effective : Action.start ∈ new.effective (actions.take second) := by
      generalize new.effective (actions.take second) = taken at leads
      cases leads
      exact List.mem_singleton.mpr rfl
    rcases mem_effective_iff.mp effective with ⟨first, started⟩
    have before : first < second :=
      Nat.lt_of_lt_of_le started.lt_length (List.length_take_le _ _)
    exact ⟨first, before,
      (changesAt_take_iff before (Nat.le_of_lt changes.lt_length)).mp started⟩
  · cases isFail

theorem ChangesAt.isFinal (changes : ChangesAt actions place action) (ends : action.Ends) :
    (new.applyAll (actions.take (place + 1))).state.isFinal = true := by
  rcases changes.moves with ⟨next, moves, reached⟩
  rw [reached]
  rcases transition?_cases moves with ⟨_, rfl, _⟩ | ⟨_, _, rfl⟩ | ⟨_, message, _, rfl⟩
  · cases ends
  · rfl
  · rfl

theorem ChangesAt.state_later (changes : ChangesAt actions first action) (ends : action.Ends)
    (before : first < second) :
    (new.applyAll (actions.take second)).state =
      (new.applyAll (actions.take (first + 1))).state := by
  rcases Nat.exists_eq_add_of_le (Nat.succ_le_of_lt before) with ⟨more, rfl⟩
  rw [List.take_add, applyAll_append]
  exact state_applyAll_of_isFinal (changes.isFinal ends) _

/-- A load has failed exactly if some failure changed its state, and its cause is the message. -/
theorem state_eq_failed_iff {message : String} :
    (new.applyAll actions).state = .failed message ↔
      ∃ place, ChangesAt actions place (.fail message) := by
  constructor
  · intro failed
    have onlyFailure := failures_eq_of_state failed
    have effective : Action.fail message ∈ new.effective actions := by
      have isFailure : message ∈ new.failures actions := by simp [onlyFailure]
      rcases List.mem_filterMap.mp isFailure with ⟨action, effective, same⟩
      cases action with
      | fail other =>
          cases same
          exact effective
      | start => cases same
      | finish => cases same
      | addRules count => cases same
      | addNodes count => cases same
    exact mem_effective_iff.mp effective
  · rintro ⟨place, changes⟩
    have later : (new.applyAll (actions.take actions.length)).state = _ :=
      changes.state_later trivial changes.lt_length
    rw [List.take_length] at later
    rcases changes.moves with ⟨next, moves, reached⟩
    rw [later, reached]
    rcases transition?_cases moves with ⟨_, isFail, _⟩ | ⟨_, isFail, _⟩ | ⟨_, _, isFail, rfl⟩
    · cases isFail
    · cases isFail
    · cases isFail
      rfl

/-- A report that does not change the state leaves it alone. -/
theorem state_of_not_changesAt (found : actions[place]? = some action)
    (refused : ¬ChangesAt actions place action) :
    (new.applyAll (actions.take (place + 1))).state =
      (new.applyAll (actions.take place)).state := by
  rw [applyAll_take_succ found]
  cases moves : transition? (new.applyAll (actions.take place)).state action with
  | none => exact (apply_eq_none moves).2
  | some next => exact absurd ⟨found, (apply_eq_some moves).1⟩ refused

/-- A report adds to the two counters, nothing if it is about the state. -/
theorem counters_apply {tracker : Tracker} (rules : tracker.rules < countLimit)
    (nodes : tracker.nodes < countLimit) (action : Action) :
    (tracker.apply action).2.rules = wrapAdd tracker.rules action.addedRules ∧
      (tracker.apply action).2.nodes = wrapAdd tracker.nodes action.addedNodes := by
  have rulesStay : wrapAdd tracker.rules 0 = tracker.rules := wrapAdd_eq_add rules
  have nodesStay : wrapAdd tracker.nodes 0 = tracker.nodes := wrapAdd_eq_add nodes
  have moves : (∀ count, action ≠ .addRules count ∧ action ≠ .addNodes count) →
      (tracker.apply action).2.rules = wrapAdd tracker.rules 0 ∧
        (tracker.apply action).2.nodes = wrapAdd tracker.nodes 0 := by
    intro noCount
    rcases tracker.apply_eq_move noCount with ⟨state, moved⟩
    rw [moved, rulesStay, nodesStay]
    exact ⟨rfl, rfl⟩
  cases action with
  | addRules count => exact ⟨rfl, nodesStay.symm⟩
  | addNodes count => exact ⟨rulesStay.symm, rfl⟩
  | start => exact moves fun _ => ⟨nofun, nofun⟩
  | finish => exact moves fun _ => ⟨nofun, nofun⟩
  | fail message => exact moves fun _ => ⟨nofun, nofun⟩

/-- The counters are the sums of all that was added, modulo the number of counts. -/
theorem counters_applyAll (actions : List Action) :
    (new.applyAll actions).rules = (actions.map Action.addedRules).sum % countLimit ∧
      (new.applyAll actions).nodes = (actions.map Action.addedNodes).sum % countLimit := by
  have positive : 0 < countLimit := by decide
  induction actions using List.reverseRecOn with
  | nil => exact ⟨rfl, rfl⟩
  | append_singleton actions last ih =>
      rcases ih with ⟨rules, nodes⟩
      have rulesFit : (new.applyAll actions).rules < countLimit := by
        rw [rules]
        exact Nat.mod_lt _ positive
      have nodesFit : (new.applyAll actions).nodes < countLimit := by
        rw [nodes]
        exact Nat.mod_lt _ positive
      have added := counters_apply rulesFit nodesFit last
      rw [rules, nodes] at added
      rw [applyAll_append, List.map_append, List.sum_append, List.map_append, List.sum_append,
        ← Nat.mod_add_mod, ← Nat.mod_add_mod (actions.map Action.addedNodes).sum]
      simpa [wrapAdd] using added

end Tracker

namespace Cells

variable {cells : Cells}

theorem move_of_failed {source target : Phase} (notFailed : target ≠ .failed)
    (failed : (cells.move source target).2.phase = .failed) :
    (cells.move source target).2 = cells := by
  unfold move at failed ⊢
  split
  next isSource =>
    rw [if_pos isSource] at failed
    exact absurd failed notFailed
  next => rfl

/-- A failure leaves its cause behind. -/
theorem exists_cause_apply {action : Tracker.Action}
    (caused : cells.phase = .failed → ∃ message, cells.slot = some message)
    (failed : (cells.apply action).2.phase = .failed) :
    ∃ message, (cells.apply action).2.slot = some message := by
  cases action with
  | addRules count => exact caused failed
  | addNodes count => exact caused failed
  | start =>
      have stays : (cells.apply .start).2 = cells := move_of_failed nofun failed
      rw [stays] at failed ⊢
      exact caused failed
  | finish =>
      have stays : (cells.apply .finish).2 = cells := move_of_failed nofun failed
      rw [stays] at failed ⊢
      exact caused failed
  | fail message =>
      simp only [apply] at failed ⊢
      split
      next isFinal =>
        rw [if_pos isFinal] at failed
        exact caused failed
      next => exact ⟨message, rfl⟩

theorem exists_cause (actions : List Tracker.Action)
    (failed : (new.applyAll actions).phase = .failed) :
    ∃ message, (new.applyAll actions).slot = some message := by
  induction actions using List.reverseRecOn with
  | nil => cases failed
  | append_singleton actions last ih =>
      rw [applyAll, List.foldl_append] at failed ⊢
      exact exists_cause_apply ih failed

theorem toTracker_applyAll_new (actions : List Tracker.Action) :
    (new.applyAll actions).toTracker = Tracker.new.applyAll actions :=
  toTracker_applyAll new actions

/-- A snapshot shows the cause of a failed load, and of no other. -/
theorem error_snapshot (actions : List Tracker.Action) :
    (new.applyAll actions).snapshot.error = (Tracker.new.applyAll actions).state.error? := by
  have caused := exists_cause actions
  rw [← toTracker_applyAll_new]
  generalize new.applyAll actions = cells at caused ⊢
  rcases cells with ⟨rules, nodes, phase, slot⟩
  cases phase with
  | notStarted => rfl
  | loading => rfl
  | ready => rfl
  | failed =>
      rcases caused rfl with ⟨message, rfl⟩
      rfl

theorem error_snapshot_ne_none_iff (actions : List Tracker.Action) :
    (new.applyAll actions).snapshot.error ≠ none ↔
      (new.applyAll actions).snapshot.phase = .failed := by
  have caused := exists_cause actions
  generalize new.applyAll actions = cells at caused ⊢
  rcases cells with ⟨rules, nodes, phase, slot⟩
  cases phase with
  | notStarted => simp [snapshot]
  | loading => simp [snapshot]
  | ready => simp [snapshot]
  | failed =>
      rcases caused rfl with ⟨message, rfl⟩
      simp [snapshot]

theorem error_snapshot_eq_some_iff {actions : List Tracker.Action} {message : String} :
    (new.applyAll actions).snapshot.error = some message ↔
      ∃ place, Tracker.ChangesAt actions place (.fail message) := by
  rw [error_snapshot, ← Tracker.state_eq_failed_iff]
  cases (Tracker.new.applyAll actions).state with
  | notStarted => simp [LoadState.error?]
  | loading => simp [LoadState.error?]
  | ready => simp [LoadState.error?]
  | failed cause => simp [LoadState.error?]

end Cells

open Tracker in
/-- A load has one history, whatever is reported about it and in whatever order. It starts at most
once and not behind a failure, it ends well only behind a start, and it ends at most once; from then
on its state stays, and a report that is refused leaves it as well. A snapshot of its cells shows a
cause if and only if the load has failed. The cause is the message of the one failure that changed
the state, and it stays for good. The counters are the sums of what was added, and the cells answer
every report like the load that they stand for. -/
theorem load_admits_one_history (actions : List Tracker.Action) :
    let cells := Cells.new.applyAll actions
    (∀ first second, ChangesAt actions first .start → ChangesAt actions second .start →
      first = second) ∧
    (∀ first second message, ChangesAt actions first .start →
      ChangesAt actions second (.fail message) → first < second) ∧
    (∀ second, ChangesAt actions second .finish → ∃ first < second,
      ChangesAt actions first .start) ∧
    (∀ first second ending other, ending.Ends → other.Ends → ChangesAt actions first ending →
      ChangesAt actions second other → first = second) ∧
    (∀ first ending, ending.Ends → ChangesAt actions first ending → ∀ second > first,
      (Tracker.new.applyAll (actions.take second)).state =
        (Tracker.new.applyAll (actions.take (first + 1))).state) ∧
    (∀ place action, actions[place]? = some action → ¬ChangesAt actions place action →
      (Tracker.new.applyAll (actions.take (place + 1))).state =
        (Tracker.new.applyAll (actions.take place)).state) ∧
    (cells.snapshot.error ≠ none ↔ cells.snapshot.phase = .failed) ∧
    (∀ message, cells.snapshot.error = some message ↔
      ∃ place, ChangesAt actions place (.fail message)) ∧
    (∀ message later, cells.snapshot.error = some message →
      (Cells.new.applyAll (actions ++ later)).snapshot.error = some message) ∧
    cells.snapshot.rules = (actions.map Action.addedRules).sum % countLimit ∧
    cells.snapshot.nodes = (actions.map Action.addedNodes).sum % countLimit ∧
    cells.toTracker = Tracker.new.applyAll actions ∧
    ∀ action, (cells.apply action).1 = ((Tracker.new.applyAll actions).apply action).1 := by
  intro cells
  have same : cells.toTracker = Tracker.new.applyAll actions := Cells.toTracker_applyAll_new actions
  refine ⟨?_, ?_, fun _ => ChangesAt.exists_start, ?_, ?_, fun _ _ => state_of_not_changesAt,
    Cells.error_snapshot_ne_none_iff actions, fun _ => Cells.error_snapshot_eq_some_iff, ?_, ?_, ?_,
    same, ?_⟩
  · intro first second one another
    rcases Nat.lt_trichotomy first second with before | rfl | behind
    · exact absurd (one.eq_start_and_ends another before).2 id
    · rfl
    · exact absurd (another.eq_start_and_ends one behind).2 id
  · intro first second message started failed
    rcases Nat.lt_trichotomy first second with before | rfl | behind
    · exact before
    · cases started.1.symm.trans failed.1
    · cases (failed.eq_start_and_ends started behind).1
  · intro first second ending other ends otherEnds one another
    rcases Nat.lt_trichotomy first second with before | rfl | behind
    · rw [(one.eq_start_and_ends another before).1] at ends
      exact absurd ends id
    · rfl
    · rw [(another.eq_start_and_ends one behind).1] at otherEnds
      exact absurd otherEnds id
  · intro first ending ends changes second behind
    exact changes.state_later ends behind
  · intro message later shown
    rcases Cells.error_snapshot_eq_some_iff.mp shown with ⟨place, changes⟩
    exact Cells.error_snapshot_eq_some_iff.mpr
      ⟨place, (changesAt_append_iff changes.lt_length later).mpr changes⟩
  · rw [← (counters_applyAll actions).1, ← same]
    rfl
  · rw [← (counters_applyAll actions).2, ← same]
    rfl
  · intro action
    rw [← same, Cells.toTracker_apply]

end ParseTrace
