import ParseTrace.Proofs.Store.Invariant
import ParseTrace.Proofs.Store.Transaction

/-!
# Rejected writes

A write that ends with an error leaves the store as it was. A batch is checked aside, one invocation
after the other, so it makes no difference how many of them had passed before one failed: rules,
nodes, the writer's notes and the counters all stay the same. Whatever is asked later is then
answered as if the write had never been tried.
-/

namespace ParseTrace

/-- The errors with which a write is rejected. -/
def TraceError.IsRejection : TraceError → Prop
  | corrupt _ => True
  | storage _ => True
  | closed => True
  | _ => False

namespace Store

variable {store after : Store} {cause : TraceError}

theorem appendRules_of_error {rules : List Rule}
    (rejected : store.appendRules rules = (.error cause, after)) :
    after = store ∧ cause.IsRejection := by
  simp only [appendRules_eq_atOnce] at rejected
  split at rejected
  · cases rejected
  split at rejected
  · cases rejected
    exact ⟨rfl, trivial⟩
  split at rejected
  · cases rejected
    exact ⟨rfl, trivial⟩
  split at rejected
  · cases rejected
  · cases rejected
    exact ⟨rfl, trivial⟩

theorem appendRule_eq_error_iff {rule : Rule} :
    store.appendRule rule = (.error cause, after) ↔
      store.appendRules [rule] = (.error cause, after) := by
  rw [appendRule]
  rcases store.appendRules [rule] with ⟨outcome, next⟩
  cases outcome with
  | error other => simp [Except.map]
  | ok value => simp [Except.map]

theorem appendBatch_of_error {invocations : List Invocation}
    (rejected : store.appendBatch invocations = (.error cause, after)) :
    after = store ∧ cause.IsRejection := by
  rw [appendBatch_eq_atOnce] at rejected
  split at rejected
  · cases rejected
    exact ⟨rfl, trivial⟩
  split at rejected
  · cases rejected
  split at rejected
  · cases rejected
    exact ⟨rfl, trivial⟩
  split at rejected
  · cases rejected
    exact ⟨rfl, trivial⟩
  · dsimp only at rejected
    split at rejected
    · cases rejected
    · cases rejected

end Store

namespace Operation

variable {input : InputText} {store after : Store} {operation : Operation} {cause : TraceError}

/-- Whether an operation hands rules or invocations to the writer. -/
def Writes : Operation → Prop
  | appendRule _ => True
  | appendRules _ => True
  | append _ => True
  | appendBatch _ => True
  | _ => False

/-- The answers to a run, in order. -/
def answers (input : InputText) (store : Store) : List Operation → List (Outcome Answer)
  | [] => []
  | operation :: rest =>
      (operation.run input store).1 :: answers input (operation.run input store).2 rest

theorem reply_eq_error_iff {α : Type} {wrap : α → Answer} {result : Except TraceError α × Store} :
    reply wrap result = (.error cause, after) ↔ result = (.error cause, after) := by
  rcases result with ⟨outcome, next⟩
  cases outcome with
  | error other => simp [reply, Query.reply, Outcome.ofExcept, Outcome.map]
  | ok value => simp [reply, Query.reply, Outcome.ofExcept, Outcome.map]

theorem replyOutcome_eq_error_iff {α : Type} {wrap : α → Answer} {result : Outcome α × Store} :
    replyOutcome wrap result = (.error cause, after) ↔ result = (.error cause, after) := by
  rcases result with ⟨outcome, next⟩
  cases outcome with
  | error other => simp [replyOutcome, Outcome.map]
  | ok value => simp [replyOutcome, Outcome.map]
  | crash crash => simp [replyOutcome, Outcome.map]

theorem run_of_rejected (writes : operation.Writes)
    (rejected : operation.run input store = (.error cause, after)) :
    after = store ∧ cause.IsRejection := by
  cases operation with
  | appendRule rule =>
      rw [run, reply_eq_error_iff, Store.appendRule_eq_error_iff] at rejected
      exact Store.appendRules_of_error rejected
  | appendRules rules =>
      rw [run, reply_eq_error_iff] at rejected
      exact Store.appendRules_of_error rejected
  | append invocation =>
      rw [run, replyOutcome_eq_error_iff] at rejected
      exact Store.appendBatch_of_error rejected
  | appendBatch invocations =>
      rw [run, replyOutcome_eq_error_iff] at rejected
      exact Store.appendBatch_of_error rejected
  | ask query => exact absurd writes id
  | ingest file batchSize cancelled => exact absurd writes id
  | load file batchSize => exact absurd writes id
  | breakStorage => exact absurd writes id
  | close => exact absurd writes id

/-- A rejected write leaves no trace, and every later run is answered as if it had not been
tried. -/
theorem rejected_write_leaves_no_trace (writes : operation.Writes)
    (rejected : operation.run input store = (.error cause, after)) :
    cause.IsRejection ∧ after = store ∧ ∀ later : List Operation,
      answers input store (operation :: later) = .error cause :: answers input store later ∧
        runAll input store (operation :: later) = runAll input store later := by
  rcases run_of_rejected writes rejected with ⟨unchanged, isRejection⟩
  subst unchanged
  refine ⟨isRejection, rfl, ?_⟩
  intro later
  constructor
  · rw [answers, rejected]
  · change runAll input (operation.run input after).2 later = runAll input after later
    rw [rejected]

/-- The second invocation of the batch names a parent that is not there. -/
theorem unknown_parent_leaves_no_trace :
    runAll (.ofString "12") .sample
      [.appendBatch [⟨some 0, 1, 7, true, 0, 1, 40⟩, ⟨some (-1), 1, 7, true, 1, 2, 40⟩]] =
      .sample := by
  have refused : Store.sample.appendBatch
      [⟨some 0, 1, 7, true, 0, 1, 40⟩, ⟨some (-1), 1, 7, true, 1, 2, 40⟩] =
      (.error (.corrupt (.unknownParent 2 (-1))), Store.sample) := by decide
  have rejected : run (.ofString "12") .sample (.appendBatch
      [⟨some 0, 1, 7, true, 0, 1, 40⟩, ⟨some (-1), 1, 7, true, 1, 2, 40⟩]) =
      (.error (.corrupt (.unknownParent 2 (-1))), .sample) := congrArg (replyOutcome .id) refused
  rcases rejected_write_leaves_no_trace (by trivial) rejected with ⟨_, _, laterRuns⟩
  exact (laterRuns []).2

end Operation

end ParseTrace
