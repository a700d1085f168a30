import ParseTrace.Proofs.Store.Appended
import ParseTrace.Proofs.Store.Exhaustion

/-!
# Children all at once

The children of a node can be had by one request, or by asking for their numbers and then for every one
of them. Both ways give the same nodes in the same order, with the same children of their own, however
many there are on either level; and the first way fails exactly where the numbers cannot be had.
-/

namespace ParseTrace.Store

variable {label : String} {header : Header} {store : Store} {id : NodeId}

/-- Nodes that are read as they are come out of a traversal of their numbers. -/
theorem mapM_getNode {nodes : List Node} (each : ∀ node ∈ nodes, store.getNode node.id = .ok node) :
    (nodes.map Node.id).mapM store.getNode = .ok nodes := by
  induction nodes with
  | nil => rfl
  | cons node rest ih =>
      rw [List.forall_mem_cons] at each
      rw [List.map_cons, List.mapM_cons, each.1, ih each.2]
      rfl

theorem getChildNodes_of_absent (isOpen : store.closed = false)
    (absent : nodeAt? store.nodes id = none) : store.getChildNodes id = .error (.notFound id) := by
  simp only [getChildNodes, whenOpen_of_open isOpen, node?, absent]

/-- The children of a node of an open store at any moment of its run, however many nodes there are. To
fetch them all is to list them and to fetch each one that is listed. -/
theorem children_fetched_as_listed (reached : Reaches (create label header) store)
    (isOpen : store.closed = false) (id : NodeId) :
    (store.getChildNodes id = do
      let ids ← store.getChildren id
      ids.mapM store.getNode) ∧
    (∀ cause, store.getChildNodes id = .error cause ↔ store.getChildren id = .error cause) ∧
    ∀ ids, store.getChildren id = .ok ids → ∃ nodes,
      store.getChildNodes id = .ok nodes ∧ nodes.map Node.id = ids ∧
        ∀ node ∈ nodes, store.getNode node.id = .ok node ∧
          store.getChildren node.id = .ok node.children := by
  have tree : FormsTree store.rules store.nodes :=
    reached.tree (sound_create label header) (Nat.two_pow_pos 31)
  cases found : nodeAt? store.nodes id with
  | none =>
      rw [getChildNodes_of_absent isOpen found, getChildren_of_absent isOpen found]
      exact ⟨rfl, by simp, nofun⟩
  | some node =>
      rcases tree.getChildNodes_eq isOpen found with ⟨children, fetched, numbers, each⟩
      rw [fetched, getChildren_of_stored isOpen found, ← numbers]
      refine ⟨(mapM_getNode each).symm, fun _ => ⟨nofun, nofun⟩, ?_⟩
      rintro _ ⟨⟩
      refine ⟨children, rfl, rfl, ?_⟩
      intro child isChild
      have got := each child isChild
      rcases tree.exists_of_getNode isOpen got with ⟨stored, present, _, _, _, listed⟩
      rw [listed]
      exact ⟨got, getChildren_of_stored isOpen present⟩

/-- Two children of the root of the sample store, and two children of the second one. -/
def twoGenerations : List Invocation :=
  [⟨some 0, 1, 7, true, 0, 1, 40⟩, ⟨some 0, 1, 7, true, 1, 2, 30⟩, ⟨some 2, 2, 7, false, 1, 1, 5⟩,
    ⟨some 2, 2, 7, true, 1, 2, 8⟩]

theorem grandchildren_are_kept_apart :
    let rule : Rule := ⟨7, "AnyMatcher", .terminal, "Digit"⟩
    (sample.appendBatch twoGenerations).2.getChildNodes 0 =
      .ok [⟨1, some 0, 1, rule, true, 0, 1, 40, []⟩, ⟨2, some 0, 1, rule, true, 1, 2, 30, [3, 4]⟩] := by
  intro rule
  have fetches := children_fetched_as_listed (reaches_sample.tail (.appendBatch twoGenerations))
    (by decide) 0
  exact fetches.1.trans (by decide +kernel)

end ParseTrace.Store
