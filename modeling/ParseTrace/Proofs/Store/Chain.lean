import ParseTrace.Proofs.Store.Reading
import ParseTrace.Store.Tree

/-!
# The way up

From every node of a tree one way leads up to the root, and it takes as many steps as the level of
the node says. A search for ancestors follows this way, so it finds the whole of it if it may go as
many steps up as the level says, and otherwise reports a chain that does not end.
-/

namespace ParseTrace

namespace Store

variable {nodes : Array StoredNode} {id : NodeId} {node : StoredNode} {chain : List NodeId}

/-- The numbers above a node up to the root, nearest first: one for every link from a node to its
parent. -/
inductive WayUp (nodes : Array StoredNode) : NodeId → List NodeId → Prop where
  | root : WayUp nodes rootNode []
  | step {parent child : NodeId} {chain : List NodeId} (isParent : IsParent nodes parent child)
      (above : WayUp nodes parent chain) : WayUp nodes child (parent :: chain)

/-- Every way up ends at the root. -/
theorem WayUp.getLast_eq (way : WayUp nodes id chain) :
    (id :: chain).getLast (List.cons_ne_nil id chain) = rootNode := by
  induction way with
  | root => rfl
  | step isParent above ih =>
      rw [List.getLast_cons (List.cons_ne_nil _ _)]
      exact ih

end Store

namespace FormsTree

open Store (IsParent WayUp nodeAt?)

variable {rules : List Rule} {nodes : Array StoredNode} {id : NodeId} {node : StoredNode}
  {chain : List NodeId}

theorem parent_rootNode (tree : FormsTree rules nodes)
    (found : nodeAt? nodes rootNode = some node) : node.parent = none := by
  have first : nodes[0]? = some node := found
  exact (tree 0 node first).parent_eq_none_iff.mpr rfl

/-- A parent is stored, one level above its child. -/
theorem parent_stored (tree : FormsTree rules nodes) {parent : NodeId}
    (isParent : IsParent nodes parent id) (found : nodeAt? nodes id = some node) :
    node.parent = some parent ∧
      ∃ above, nodeAt? nodes parent = some above ∧ node.level = above.level + 1 := by
  rcases isParent with ⟨child, childFound, named⟩
  obtain rfl : child = node := Option.some.inj (childFound.symm.trans found)
  rcases Store.nodeAt?_eq_some_iff.mp found with ⟨place, rfl, present⟩
  rcases (tree place child present).hangs with
    ⟨_, noParent, _⟩ | ⟨other, above, _, _, otherNamed, aboveFound, level⟩
  · exact absurd (noParent.symm.trans named) (by simp)
  · obtain rfl := Option.some.inj (otherNamed.symm.trans named)
    exact ⟨named, above, aboveFound, level⟩

/-- The level of a node counts the links up to the root. -/
theorem length_wayUp (tree : FormsTree rules nodes) (way : WayUp nodes id chain)
    (found : nodeAt? nodes id = some node) : chain.length = node.level := by
  induction way generalizing node with
  | root =>
      have first : nodes[0]? = some node := found
      exact (Nat.le_zero.mp (tree.level_le first)).symm
  | step isParent above ih =>
      rcases tree.parent_stored isParent found with ⟨_, parentNode, parentFound, level⟩
      rw [List.length_cons, ih parentFound, level]

theorem exists_wayUp (tree : FormsTree rules nodes) {place : Nat}
    (found : nodes[place]? = some node) : ∃ chain, WayUp nodes place chain := by
  induction place using Nat.strongRecOn generalizing node with
  | ind place ih =>
      rcases (tree place node found).hangs with
        ⟨rfl, _, _⟩ | ⟨parent, above, _, earlier, named, aboveFound, _⟩
      · exact ⟨[], .root⟩
      · rcases Store.nodeAt?_eq_some_iff.mp aboveFound with ⟨parentPlace, rfl, present⟩
        rcases ih parentPlace (by omega) present with ⟨chain, way⟩
        exact ⟨parentPlace :: chain, .step ⟨node, found, named⟩ way⟩

end FormsTree

namespace FormsTree

open Store (nodeAt? nodeAt?_eq_some_iff)

variable {store : Store} {id : NodeId} {node : StoredNode}

/-- A node is read with its own parent, its own level and its own children. -/
theorem exists_getNode (tree : FormsTree store.rules store.nodes) (isOpen : store.closed = false)
    (found : nodeAt? store.nodes id = some node) :
    ∃ resolved, store.getNode id = .ok resolved ∧ resolved.id = id ∧
      resolved.parent = node.parent ∧ resolved.level = node.level ∧
      resolved.children = store.childIds id := by
  rcases nodeAt?_eq_some_iff.mp found with ⟨place, rfl, present⟩
  rcases Store.getNode_of_tree tree isOpen present with ⟨rule, _, _, got⟩
  exact ⟨_, got, tree.id_eq_of_getElem? present, rfl, rfl, rfl⟩

/-- What is read is stored. -/
theorem exists_of_getNode (tree : FormsTree store.rules store.nodes) (isOpen : store.closed = false)
    {resolved : Node} (got : store.getNode id = .ok resolved) :
    ∃ node, nodeAt? store.nodes id = some node ∧ resolved.id = id ∧
      resolved.parent = node.parent ∧ resolved.level = node.level ∧
      resolved.children = store.childIds id := by
  cases found : nodeAt? store.nodes id with
  | none =>
      rw [Store.getNode_of_absent isOpen found] at got
      cases got
  | some node =>
      rcases tree.exists_getNode isOpen found with ⟨other, otherGot, matching⟩
      obtain rfl : other = resolved := Except.ok.inj (otherGot.symm.trans got)
      exact ⟨node, rfl, matching⟩

/-- A climb follows the way up, as long as the chain does not outgrow the limit before a step. -/
theorem climb_eq (tree : FormsTree store.rules store.nodes) (isOpen : store.closed = false)
    {chain found : List NodeId} (way : Store.WayUp store.nodes id chain) {resolved : Node}
    (got : store.getNode id = .ok resolved) (origin : NodeId) {limit : Nat}
    (within : found.length ≤ limit + 1) :
    store.climb origin limit found resolved =
      if found.length + chain.length ≤ limit + 1 then .ok (found.reverse ++ chain)
      else .error (.corrupt (.endlessParentChain origin)) := by
  induction way generalizing resolved found with
  | root =>
      rcases tree.exists_of_getNode isOpen got with ⟨node, stored, _, parent, _⟩
      rw [tree.parent_rootNode stored] at parent
      rw [Store.climb, parent, List.append_nil]
      exact (if_pos within).symm
  | @step parentId childId chain isParent above ih =>
      rcases tree.exists_of_getNode isOpen got with ⟨node, stored, _, parent, _⟩
      rcases tree.parent_stored isParent stored with ⟨named, parentNode, parentStored, _⟩
      rcases tree.exists_getNode isOpen parentStored with ⟨next, parentGot, _⟩
      rw [Store.climb, parent, named]
      dsimp only
      by_cases full : limit < found.length
      · have tooLong : ¬found.length + (parentId :: chain).length ≤ limit + 1 := by
          rw [List.length_cons]
          omega
        rw [if_pos full, if_neg tooLong]
      · have room : (parentId :: found).length ≤ limit + 1 := by
          rw [List.length_cons]
          omega
        have further := ih parentGot room
        have sizes : (parentId :: found).length + chain.length =
            found.length + (parentId :: chain).length := by
          rw [List.length_cons, List.length_cons]
          omega
        rw [if_neg full]
        simp only [bind, Except.bind, parentGot]
        rw [further, sizes, List.reverse_cons, List.append_assoc, List.singleton_append]

/-- The ancestors of a node are those on the way up, unless they are more than the announced depth
allows. -/
theorem ancestors_eq (tree : FormsTree store.rules store.nodes) (isOpen : store.closed = false)
    {chain : List NodeId} (found : nodeAt? store.nodes id = some node)
    (way : Store.WayUp store.nodes id chain) :
    store.ancestors id =
      if node.level ≤ max store.header.depth 1 then .ok (id :: chain)
      else .error (.corrupt (.endlessParentChain id)) := by
  rcases tree.exists_getNode isOpen found with ⟨resolved, got, _⟩
  have climbed := tree.climb_eq isOpen way got id
    (show [id].length ≤ max store.header.depth 1 + 1 by simp)
  simp only [Store.ancestors, got, bind, Except.bind]
  rw [climbed, tree.length_wayUp way found, List.length_singleton, Nat.add_comm]
  simp only [Nat.add_le_add_iff_right, List.reverse_singleton, List.singleton_append]

end FormsTree

theorem Store.Sound.ancestors_eq {store : Store} {id : NodeId} {chain : List NodeId}
    {node : StoredNode} (sound : store.Sound) (isOpen : store.closed = false)
    (found : Store.nodeAt? store.nodes id = some node) (way : Store.WayUp store.nodes id chain) :
    store.ancestors id =
      if node.level ≤ max store.header.depth 1 then .ok (id :: chain)
      else .error (.corrupt (.endlessParentChain id)) :=
  sound.tree.ancestors_eq isOpen found way

end ParseTrace
