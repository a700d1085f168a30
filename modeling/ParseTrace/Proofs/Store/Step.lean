import Mathlib.Logic.Relation
import ParseTrace.Proofs.Store.Growth
import ParseTrace.Proofs.Store.Transaction

/-!
# What can happen to a store

Whatever is asked of a store, it moves by a few kinds of steps: it takes rules or a batch of
invocations, its load changes its state, its storage breaks, or it is closed. Loading a capture is
a sequence of such steps, and it may end after any of them; only the first three kinds occur in it,
and the third only at its beginning and at its end, when it is done in the background. What the two
kinds of appending do is said here once, and all else about steps follows from it.
-/

namespace ParseTrace

open Numeral (IntegerRange)
open Relation (ReflTransGen)

namespace Store

/-- What can happen to a store at once. -/
inductive Step (store : Store) : Store → Prop where
  | appendRules (rules : List Rule)
      (inRange : ∀ rule ∈ rules, IntegerRange.signed32.Contains rule.id) :
      Step store (store.appendRules rules).2
  | appendBatch (invocations : List Invocation) : Step store (store.appendBatch invocations).2
  | load (state : LoadState) : Step store { store with tracker := { store.tracker with state } }
  | breakStorage : Step store store.breakStorage
  | close : Step store store.close.2

/-- Some steps lead from one store to another. -/
abbrev Reaches : Store → Store → Prop :=
  ReflTransGen Step

/-- What a load does to a store at once. -/
inductive WriteStep (store : Store) : Store → Prop where
  | appendRules (rules : List Rule)
      (inRange : ∀ rule ∈ rules, IntegerRange.signed32.Contains rule.id) :
      WriteStep store (store.appendRules rules).2
  | appendBatch (invocations : List Invocation) :
      WriteStep store (store.appendBatch invocations).2
  | load (state : LoadState) :
      WriteStep store { store with tracker := { store.tracker with state } }

/-- Loading leads from one store to another. -/
abbrev Writes : Store → Store → Prop :=
  ReflTransGen WriteStep

/-- What appending does to a store at once. -/
inductive AppendStep (store : Store) : Store → Prop where
  | rules (rules : List Rule)
      (inRange : ∀ rule ∈ rules, IntegerRange.signed32.Contains rule.id) :
      AppendStep store (store.appendRules rules).2
  | batch (invocations : List Invocation) : AppendStep store (store.appendBatch invocations).2

/-- Appending leads from one store to another. -/
abbrev Appends : Store → Store → Prop :=
  ReflTransGen AppendStep

variable {store after : Store}

theorem AppendStep.writeStep (step : AppendStep store after) : WriteStep store after := by
  cases step with
  | rules rules inRange => exact .appendRules rules inRange
  | batch invocations => exact .appendBatch invocations

theorem Appends.writes (appends : Appends store after) : Writes store after :=
  ReflTransGen.mono (fun _ _ => AppendStep.writeStep) _ _ appends

theorem WriteStep.step (step : WriteStep store after) : Step store after := by
  cases step with
  | appendRules rules inRange => exact .appendRules rules inRange
  | appendBatch invocations => exact .appendBatch invocations
  | load state => exact .load state

theorem Writes.reaches (writes : Writes store after) : Reaches store after :=
  ReflTransGen.mono (fun _ _ => WriteStep.step) _ _ writes

/-- Rules are not stored, or they are undeclared, and the writer of the store knows them then. -/
theorem appendRules_outcome (store : Store) (rules : List Rule) :
    (∃ cause, store.appendRules rules = (.error cause, store)) ∨
      (rules = [] ∧ store.appendRules rules = (.ok (), store)) ∨
      ∃ writer, store.writer = some writer ∧ store.Undeclared rules ∧
        store.appendRules rules =
          (.ok (),
            { store with
              rules := store.rules ++ rules
              writer := some { writer with known := writer.known ++ rules.map Rule.id }
              tracker := (store.tracker.apply (.addRules rules.length)).2 }) := by
  simp only [appendRules_eq_atOnce]
  split
  next nothing => exact Or.inr (Or.inl ⟨List.isEmpty_iff.mp nothing, rfl⟩)
  split
  · exact Or.inl ⟨_, rfl⟩
  next writer written =>
    split
    · exact Or.inl ⟨_, rfl⟩
    split
    next allNew => exact Or.inr (Or.inr ⟨writer, written, allNew, rfl⟩)
    next => exact Or.inl ⟨_, rfl⟩

/-- Rules are refused, or they go behind the stored ones and are counted. -/
theorem appendRules_cases (store : Store) (rules : List Rule) :
    (∃ cause, store.appendRules rules = (.error cause, store)) ∨
      ∃ writer count, store.appendRules rules =
        (.ok (),
          { store with
            rules := store.rules ++ rules
            writer
            tracker := { store.tracker with rules := count } }) := by
  rcases store.appendRules_outcome rules with refused | ⟨rfl, same⟩ | ⟨_, _, _, stored⟩
  · exact Or.inl refused
  · exact Or.inr ⟨store.writer, store.tracker.rules, by simp [same]⟩
  · exact Or.inr ⟨_, _, stored⟩

/-- A batch is refused, or it is stored as a whole and mostly counted. -/
theorem appendBatch_cases (store : Store) (invocations : List Invocation) :
    (∃ cause, store.appendBatch invocations = (.error cause, store)) ∨
      ∃ rows writer count, rows.size = invocations.length ∧
        (store.appendBatch invocations).2 =
          { store with
            nodes := store.nodes ++ rows
            writer
            tracker := { store.tracker with nodes := count } } := by
  rw [appendBatch_eq_atOnce]
  split
  · exact Or.inl ⟨_, rfl⟩
  split
  next nothing =>
    obtain rfl := List.isEmpty_iff.mp nothing
    exact Or.inr ⟨#[], store.writer, store.tracker.nodes, rfl, by simp⟩
  split
  · exact Or.inl ⟨_, rfl⟩
  split
  · exact Or.inl ⟨_, rfl⟩
  next rows path taken =>
    have grown : rows.size = invocations.length := by simpa using size_of_takeBatch taken
    right
    dsimp only
    split
    · exact ⟨rows, _, _, grown, rfl⟩
    · exact ⟨rows, _, _, grown, rfl⟩

theorem close_snd (store : Store) : store.close.2 = { store with closed := true } := by
  simp only [close]
  split
  next closed => rw [← closed]
  next => rfl

/-- Appending changes what is stored, the writer's notes and the counters, and nothing else. -/
theorem AppendStep.eq_grown (step : AppendStep store after) :
    ∃ rules nodes writer ruleCount nodeCount,
      after =
        { store with
          rules, nodes, writer
          tracker := { store.tracker with rules := ruleCount, nodes := nodeCount } } := by
  cases step with
  | rules rules =>
      rcases appendRules_cases store rules with ⟨_, refused⟩ | ⟨writer, count, grown⟩
      · exact ⟨store.rules, store.nodes, store.writer, store.tracker.rules, store.tracker.nodes,
          by rw [refused]⟩
      · exact ⟨store.rules ++ rules, store.nodes, writer, count, store.tracker.nodes,
          by rw [grown]⟩
  | batch invocations =>
      rcases appendBatch_cases store invocations with
        ⟨_, refused⟩ | ⟨rows, writer, count, _, grown⟩
      · exact ⟨store.rules, store.nodes, store.writer, store.tracker.rules, store.tracker.nodes,
          by rw [refused]⟩
      · exact ⟨store.rules, store.nodes ++ rows, writer, store.tracker.rules, count, grown⟩

/-- Appending never moves the load state. -/
theorem Appends.state_eq (appends : Appends store after) :
    after.tracker.state = store.tracker.state := by
  induction appends with
  | refl => rfl
  | tail _ step ih =>
      rcases step.eq_grown with ⟨_, _, _, _, _, rfl⟩
      exact ih

/-- Whatever is written, the store stays open or closed. -/
theorem Writes.closed_eq (writes : Writes store after) : after.closed = store.closed := by
  induction writes with
  | refl => rfl
  | tail _ step ih =>
      cases step with
      | appendRules rules inRange =>
          rcases (AppendStep.rules rules inRange).eq_grown with ⟨_, _, _, _, _, same⟩
          rw [same]
          exact ih
      | appendBatch invocations =>
          rcases (AppendStep.batch invocations).eq_grown with ⟨_, _, _, _, _, same⟩
          rw [same]
          exact ih
      | load state => exact ih

end Store

end ParseTrace
