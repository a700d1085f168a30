import ParseTrace.Proofs.Store.Exhaustion
import ParseTrace.Proofs.Store.Rejection

/-!
# What happens to a closed store

A closed store refuses to be written to, and what is done to it moves at most the state of its load.
Why it refuses depends on its writer, which is asked first: a writer that crashed on the last number
refuses for its own part.
-/

namespace ParseTrace

namespace Store

variable {store after : Store}

theorem whenOpen_of_closed {α : Type} (closed : store.closed = true)
    (answer : Except TraceError α) : store.whenOpen answer = .error .closed := by
  rw [whenOpen, if_pos closed]

theorem close_of_closed (closed : store.closed = true) : store.close = (.ok (), store) := by
  rw [close, if_pos closed]

/-- Why a closed store refuses to be written to. -/
def closedFault (store : Store) : TraceError :=
  match store.writer with
  | none => .storage .writerLost
  | some _ => .closed

theorem appendRules_eq_of_closed (closed : store.closed = true) {rules : List Rule}
    (nonempty : rules ≠ []) : store.appendRules rules = (.error store.closedFault, store) := by
  rw [appendRules_eq_atOnce, if_neg (by simpa using nonempty), closedFault]
  cases store.writer with
  | none => rfl
  | some writer => exact if_pos closed

theorem appendBatch_eq_of_closed (closed : store.closed = true) {invocations : List Invocation}
    (nonempty : invocations ≠ []) :
    store.appendBatch invocations = (.error store.closedFault, store) := by
  rw [closedFault]
  cases written : store.writer with
  | none => exact appendBatch_of_noWriter written invocations
  | some writer => exact appendBatch_of_shut written closed nonempty

/-- Nothing but the state of its load changes in a closed store, and its directory may be lost. -/
theorem Step.eq_of_closed (closed : store.closed = true) (step : Step store after) :
    ∃ state intact, after = { store with tracker := { store.tracker with state }, intact } := by
  cases step with
  | appendRules rules =>
      rw [appendRules_of_closed closed]
      exact ⟨store.tracker.state, store.intact, rfl⟩
  | appendBatch invocations =>
      rw [appendBatch_of_closed closed]
      exact ⟨store.tracker.state, store.intact, rfl⟩
  | load state => exact ⟨state, store.intact, rfl⟩
  | breakStorage => exact ⟨store.tracker.state, false, rfl⟩
  | close =>
      rw [close_of_closed closed]
      exact ⟨store.tracker.state, store.intact, rfl⟩

theorem Reaches.eq_of_closed (closed : store.closed = true) (reaches : Reaches store after) :
    ∃ state intact, after = { store with tracker := { store.tracker with state }, intact } := by
  induction reaches with
  | refl => exact ⟨store.tracker.state, store.intact, rfl⟩
  | tail reached step ih =>
      have stillClosed := (Reaches.persistsIn reached).closed closed
      rcases step.eq_of_closed stillClosed with ⟨lastState, lastIntact, rfl⟩
      rcases ih with ⟨state, intact, rfl⟩
      exact ⟨lastState, lastIntact, rfl⟩

theorem Step.header_eq (step : Step store after) : after.header = store.header := by
  cases step with
  | appendRules rules inRange =>
      rcases (AppendStep.rules rules inRange).eq_grown with ⟨_, _, _, _, _, same⟩
      rw [same]
  | appendBatch invocations =>
      rcases (AppendStep.batch invocations).eq_grown with ⟨_, _, _, _, _, same⟩
      rw [same]
  | load state => rfl
  | breakStorage => rfl
  | close => rw [close_snd]

theorem Reaches.header_eq (reaches : Reaches store after) : after.header = store.header := by
  induction reaches with
  | refl => rfl
  | tail _ step ih => exact step.header_eq.trans ih

/-- A writer is lost only on the last number. -/
theorem closedFault_cases (reaches : Reaches store after) (sound : store.Sound)
    (room : store.nodes.size < 2 ^ 31) :
    after.closedFault = .closed ∨
      (after.closedFault = .storage .writerLost ∧ after.nodes.size = 2 ^ 31) := by
  rcases reaches.sound_or_spent sound room with ⟨afterSound, _⟩ | spent
  · rcases afterSound.described with ⟨writer, written, _⟩
    rw [closedFault, written]
    exact Or.inl rfl
  · rw [closedFault]
    cases after.writer with
    | none => exact Or.inr ⟨rfl, spent.size_eq⟩
    | some writer => exact Or.inl rfl

end Store

end ParseTrace
