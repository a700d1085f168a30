import ParseTrace.Proofs.Store.Invariant
import ParseTrace.Store.Lookup

/-!
# What a sound store answers

The rules of a sound store come out once each, in the order of their identifiers, and every stored
node comes out under its number, with its rule joined in. Nothing is found under any other number.
-/

namespace ParseTrace

namespace Store

variable {store : Store} {node : StoredNode}

theorem whenOpen_of_open {α : Type} (isOpen : store.closed = false) (answer : Except TraceError α) :
    store.whenOpen answer = answer := by
  simp [whenOpen, isOpen]

theorem getNode_of_absent (isOpen : store.closed = false) {id : NodeId}
    (absent : nodeAt? store.nodes id = none) : store.getNode id = .error (.notFound id) := by
  rw [getNode, whenOpen_of_open isOpen, node?, absent]
  rfl

/-- A node of a tree is found under its number, with its rule. -/
theorem getNode_of_tree (tree : FormsTree store.rules store.nodes) (isOpen : store.closed = false)
    {place : Nat} (stored : store.nodes[place]? = some node) :
    ∃ rule ∈ store.rules, rule.id = node.rule ∧
      store.getNode place = .ok (node.withRule rule (store.childIds place)) := by
  rcases (tree place node stored).rule_declared with ⟨declared, isDeclared, sameId⟩
  cases found : store.rule? node.rule with
  | none =>
      rw [rule?, List.find?_eq_none] at found
      exact absurd sameId (by simpa using found declared isDeclared)
  | some rule =>
      have isStored : rule ∈ store.rules := List.mem_of_find?_eq_some found
      have named : rule.id = node.rule := by simpa using List.find?_some found
      refine ⟨rule, isStored, named, ?_⟩
      rw [getNode, whenOpen_of_open isOpen, node?, nodeAt?_natCast, stored]
      simp only [Option.bind_some, resolve?, found, Option.map_some]

namespace Sound

theorem getRules_eq (sound : store.Sound) (isOpen : store.closed = false) :
    ∃ rules, store.getRules = .ok rules ∧ rules.Perm store.rules ∧
      rules.Pairwise fun left right => left.id < right.id := by
  refine ⟨_, whenOpen_of_open isOpen _, List.mergeSort_perm _ _, ?_⟩
  have sorted : (store.rules.mergeSort fun left right => left.id ≤ right.id).Pairwise
      fun left right => decide (left.id ≤ right.id) = true := by
    apply List.pairwise_mergeSort
    · intro left middle right first second
      rw [decide_eq_true_eq] at first second ⊢
      exact Int.le_trans first second
    · intro left right
      rw [Bool.or_eq_true, decide_eq_true_eq, decide_eq_true_eq]
      exact Int.le_total left.id right.id
  have different : ((store.rules.mergeSort fun left right => left.id ≤ right.id).map
      Rule.id).Nodup :=
    ((List.mergeSort_perm store.rules _).map Rule.id).nodup_iff.mpr sound.ids_nodup
  rw [List.Nodup, List.pairwise_map] at different
  refine (sorted.and different).imp ?_
  rintro left right ⟨ordered, unequal⟩
  exact Int.lt_iff_le_and_ne.mpr ⟨of_decide_eq_true ordered, unequal⟩

/-- A node whose rule is declared is found under its number, with that rule. -/
theorem getNode_eq (sound : store.Sound) (isOpen : store.closed = false) {place : Nat}
    (stored : store.nodes[place]? = some node) :
    ∃ rule ∈ store.rules, rule.id = node.rule ∧
      store.getNode place = .ok (node.withRule rule (store.childIds place)) :=
  getNode_of_tree sound.tree isOpen stored

end Sound

end Store

end ParseTrace
