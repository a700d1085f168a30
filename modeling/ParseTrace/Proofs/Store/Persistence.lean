import ParseTrace.Proofs.Store.Step
import ParseTrace.Store.Lookup

/-!
# What lasts

No step takes away what a store holds or changes it; new rules and new nodes go behind the old ones.
So what a store holds at one moment of a run stands at the beginning of what it holds at every later
one, and whatever is looked up by its number is found again. The children of a node are found in the
order of the nodes, so new children go behind the old ones, too.

A store that is closed stays closed. Therefore a store that is open at some moment was open at every
moment before.
-/

namespace ParseTrace.Store

/-- What a store holds at one moment stands at the beginning of what it holds at a later one. -/
structure PersistsIn (earlier later : Store) : Prop where
  rules : earlier.rules <+: later.rules
  nodes : earlier.nodes.toList <+: later.nodes.toList
  closed : earlier.closed = true → later.closed = true

variable {store after earlier later last : Store}

namespace PersistsIn

theorem refl (store : Store) : store.PersistsIn store :=
  ⟨List.prefix_rfl, List.prefix_rfl, id⟩

theorem trans (first : earlier.PersistsIn later) (second : later.PersistsIn last) :
    earlier.PersistsIn last :=
  ⟨first.rules.trans second.rules, first.nodes.trans second.nodes,
    fun isClosed => second.closed (first.closed isClosed)⟩

theorem isOpen (persists : earlier.PersistsIn later) (isOpen : later.closed = false) :
    earlier.closed = false := by
  cases wasClosed : earlier.closed with
  | false => rfl
  | true =>
      rw [persists.closed wasClosed] at isOpen
      cases isOpen

theorem size_le (persists : earlier.PersistsIn later) : earlier.nodes.size ≤ later.nodes.size := by
  simpa using persists.nodes.length_le

theorem getElem?_eq_some (persists : earlier.PersistsIn later) {place : Nat} {node : StoredNode}
    (found : earlier.nodes[place]? = some node) : later.nodes[place]? = some node := by
  rcases persists.nodes with ⟨others, same⟩
  rw [← Array.getElem?_toList] at found ⊢
  rw [← same]
  exact List.getElem?_append_left (List.getElem?_eq_some_iff.mp found).1 |>.trans found

theorem childIds (persists : earlier.PersistsIn later) (parent : NodeId) :
    earlier.childIds parent <+: later.childIds parent :=
  (persists.nodes.filter _).map _

end PersistsIn

theorem appendRules_persistsIn (store : Store) (rules : List Rule) :
    store.PersistsIn (store.appendRules rules).2 := by
  rcases appendRules_cases store rules with ⟨cause, refused⟩ | ⟨writer, count, grown⟩
  · rw [refused]
    exact .refl store
  · rw [grown]
    exact ⟨List.prefix_append _ _, List.prefix_rfl, id⟩

theorem appendBatch_persistsIn (store : Store) (invocations : List Invocation) :
    store.PersistsIn (store.appendBatch invocations).2 := by
  rcases appendBatch_cases store invocations with
    ⟨cause, refused⟩ | ⟨rows, writer, count, _, grown⟩
  · rw [refused]
    exact .refl store
  · rw [grown]
    exact ⟨List.prefix_rfl, by simp, id⟩

theorem persistsIn_of_appendBatch {invocations : List Invocation} {first : NodeId}
    (accepted : store.appendBatch invocations = (.ok first, after)) : store.PersistsIn after := by
  have persists := appendBatch_persistsIn store invocations
  rwa [accepted] at persists

theorem Step.persistsIn (step : Step store after) : store.PersistsIn after := by
  cases step with
  | appendRules rules => exact appendRules_persistsIn store rules
  | appendBatch invocations => exact appendBatch_persistsIn store invocations
  | load state => exact ⟨List.prefix_rfl, List.prefix_rfl, id⟩
  | breakStorage => exact ⟨List.prefix_rfl, List.prefix_rfl, id⟩
  | close =>
      rw [close_snd]
      exact ⟨List.prefix_rfl, List.prefix_rfl, fun _ => rfl⟩

theorem Reaches.persistsIn (reaches : Reaches earlier later) : earlier.PersistsIn later := by
  induction reaches with
  | refl => exact .refl earlier
  | tail _ step ih => exact ih.trans step.persistsIn

theorem Reaches.size_le (reaches : Reaches store after) : store.nodes.size ≤ after.nodes.size :=
  reaches.persistsIn.size_le

end ParseTrace.Store
