import Mathlib.Data.Int.Interval
import ParseTrace.Proofs.Store.Check
import ParseTrace.Store.Operation

/-!
# The store's invariant

`Store.Sound` says how the parts of a store fit together: the nodes form a tree over the declared
rules, the rules have different identifiers of 32 bits, the writer's notes describe what is stored,
and the counters of the load are exact. A new store is sound, and as long as fewer than `2 ^ 31`
nodes are stored every operation keeps a store sound.
-/

namespace ParseTrace

open Numeral (IntegerRange)

/-- The notes of a writer describe what is stored. -/
structure Writer.Describes (writer : Writer) (store : Store) : Prop where
  next_eq : writer.next = store.nodes.size
  known_iff : ∀ id, id ∈ writer.known ↔ ∃ rule ∈ store.rules, rule.id = id
  path_agrees : Store.PathAgrees (Store.levelAt? store.nodes) writer.path

/-- The rules of a store have different identifiers of 32 bits, and all of them are counted. -/
structure Store.Declares (store : Store) : Prop where
  ids_nodup : (store.rules.map Rule.id).Nodup
  ids_inRange : ∀ rule ∈ store.rules, IntegerRange.signed32.Contains rule.id
  ruleCount_eq : store.tracker.rules = store.rules.length

/-- What holds of a store at any time. -/
structure Store.Sound (store : Store) : Prop where
  tree : FormsTree store.rules store.nodes
  ids_nodup : (store.rules.map Rule.id).Nodup
  ids_inRange : ∀ rule ∈ store.rules, IntegerRange.signed32.Contains rule.id
  described : ∃ writer, store.writer = some writer ∧ writer.Describes store
  ruleCount_eq : store.tracker.rules = store.rules.length
  nodeCount_eq : store.tracker.nodes = store.nodes.size

namespace Store

theorem sound_create (label : String) (header : Header) : (create label header).Sound where
  tree := FormsTree.empty []
  ids_nodup := List.nodup_nil
  ids_inRange := by simp [create]
  described := by
    refine ⟨_, rfl, rfl, ?_, ?_⟩
    · simp [create]
    · intro entry onPath
      cases onPath
  ruleCount_eq := rfl
  nodeCount_eq := rfl

theorem Sound.declares {store : Store} (sound : store.Sound) : store.Declares :=
  ⟨sound.ids_nodup, sound.ids_inRange, sound.ruleCount_eq⟩

/-- Only what a store holds matters, and what its writer and its counters say about it. -/
theorem Sound.congr {store after : Store} (sound : store.Sound) (rules : after.rules = store.rules)
    (nodes : after.nodes = store.nodes) (writer : after.writer = store.writer)
    (ruleCount : after.tracker.rules = store.tracker.rules)
    (nodeCount : after.tracker.nodes = store.tracker.nodes) : after.Sound where
  tree := by
    rw [rules, nodes]
    exact sound.tree
  ids_nodup := by
    rw [rules]
    exact sound.ids_nodup
  ids_inRange := by
    rw [rules]
    exact sound.ids_inRange
  described := by
    rcases sound.described with ⟨current, written, describes⟩
    refine ⟨current, writer.trans written, ?_, ?_, ?_⟩
    · rw [nodes]
      exact describes.next_eq
    · rw [rules]
      exact describes.known_iff
    · rw [nodes]
      exact describes.path_agrees
  ruleCount_eq := by rw [ruleCount, rules, sound.ruleCount_eq]
  nodeCount_eq := by rw [nodeCount, nodes, sound.nodeCount_eq]

/-- There are at most as many rules as identifiers of 32 bits, so their counter never wraps. -/
theorem length_rules_le {rules : List Rule} (nodup : (rules.map Rule.id).Nodup)
    (inRange : ∀ rule ∈ rules, IntegerRange.signed32.Contains rule.id) :
    rules.length ≤ 2 ^ 32 := by
  have within : (rules.map Rule.id).toFinset ⊆ Finset.Icc (-2147483648) 2147483647 := by
    intro id present
    rcases List.mem_map.mp (List.mem_toFinset.mp present) with ⟨rule, declared, rfl⟩
    exact Finset.mem_Icc.mpr (inRange rule declared)
  have counted := Finset.card_le_card within
  rw [List.toFinset_card_of_nodup nodup, List.length_map, Int.card_Icc] at counted
  exact counted

end Store

namespace Operation

/-- Whether the rules that an operation declares have identifiers of 32 bits, as every identifier
that a caller can write down has. -/
def Typed : Operation → Prop
  | appendRule rule => IntegerRange.signed32.Contains rule.id
  | appendRules rules => ∀ rule ∈ rules, IntegerRange.signed32.Contains rule.id
  | _ => True

instance : DecidablePred Typed
  | appendRule rule => inferInstanceAs (Decidable (IntegerRange.signed32.Contains rule.id))
  | appendRules rules =>
      inferInstanceAs (Decidable (∀ rule ∈ rules, IntegerRange.signed32.Contains rule.id))
  | ask _ | append _ | appendBatch _ | ingest .. | load .. | breakStorage | close =>
      isTrue trivial

end Operation

/-- A store to which a run of operations leads. -/
def Store.Reachable (store : Store) : Prop :=
  ∃ (input : InputText) (label : String) (header : Header) (operations : List Operation),
    (∀ operation ∈ operations, operation.Typed) ∧
      Operation.runAll input (Store.create label header) operations = store

/-- A small store for examples: one rule, and the root of a tree. -/
def Store.sample : Store :=
  let declared := (create "sample" ⟨0, 1, 3, 2⟩).appendRule ⟨7, "AnyMatcher", .terminal, "Digit"⟩
  (declared.2.append ⟨none, 0, 7, true, 0, 2, 500⟩).2

theorem Store.sample_reachable : Store.sample.Reachable :=
  ⟨.ofString "12", "sample", ⟨0, 1, 3, 2⟩,
    [.appendRule ⟨7, "AnyMatcher", .terminal, "Digit"⟩, .append ⟨none, 0, 7, true, 0, 2, 500⟩],
    by decide, rfl⟩

end ParseTrace
