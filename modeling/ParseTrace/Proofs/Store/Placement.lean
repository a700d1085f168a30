import Mathlib.Logic.Relation
import ParseTrace.Store.Append

/-!
# Nodes at their places

The nodes of a store stand in the order of their numbers. `WellPlaced` says what holds of the node
at a place: it carries the number of that place, its rule is declared, its measures are in range,
and it is the root or hangs one level below an earlier node. Nodes that are all well placed form
one tree, so no path of parents runs in a circle and no level exceeds the number of its node.

Whether a node is well placed depends on the nodes before it alone. So a tree can be cut behind any
node, and it grows by one well-placed node at its end.
-/

namespace ParseTrace

/-- What holds of the node at a place of a tree of invocations. -/
structure WellPlaced (rules : List Rule) (nodes : Array StoredNode) (place : Nat)
    (node : StoredNode) : Prop where
  id_eq : node.id = place
  rule_declared : ∃ rule ∈ rules, rule.id = node.rule
  start_le_stop : node.start ≤ node.stop
  stop_le : node.stop ≤ Store.maxStored
  nanos_le : node.nanos ≤ Store.maxStoredNanos
  /-- The first node is the root, and every other one hangs one level below an earlier one. -/
  hangs : (place = 0 ∧ node.parent = none ∧ node.level = 0) ∨
    ∃ (parent : Int) (above : StoredNode), 0 ≤ parent ∧ parent < place ∧
      node.parent = some parent ∧ Store.nodeAt? nodes parent = some above ∧
      node.level = above.level + 1

/-- The nodes are the nodes of one tree, or there are none. -/
def FormsTree (rules : List Rule) (nodes : Array StoredNode) : Prop :=
  ∀ place node, nodes[place]? = some node → WellPlaced rules nodes place node

namespace Store

variable {nodes : Array StoredNode} {id : NodeId} {node : StoredNode}

@[simp]
theorem nodeAt?_natCast (nodes : Array StoredNode) (place : Nat) :
    nodeAt? nodes (place : Int) = nodes[place]? := rfl

theorem nodeAt?_eq_none_of_neg (nodes : Array StoredNode) (negative : id < 0) :
    nodeAt? nodes id = none := by
  cases id with
  | ofNat place => exact absurd negative (by simp)
  | negSucc place => rfl

theorem nodeAt?_eq_some_iff :
    nodeAt? nodes id = some node ↔ ∃ place : Nat, id = place ∧ nodes[place]? = some node := by
  cases id with
  | ofNat place =>
      constructor
      · intro found
        exact ⟨place, rfl, found⟩
      · rintro ⟨other, same, found⟩
        obtain rfl : place = other := Int.ofNat.inj same
        exact found
  | negSucc place =>
      constructor
      · intro found
        cases found
      · rintro ⟨other, same, _⟩
        cases same

/-- A new node at the end leaves the others where they are. -/
theorem nodeAt?_push_of_eq_some (found : nodeAt? nodes id = some node) (last : StoredNode) :
    nodeAt? (nodes.push last) id = some node := by
  rcases nodeAt?_eq_some_iff.mp found with ⟨place, rfl, present⟩
  have inside : place < nodes.size := (Array.getElem?_eq_some_iff.mp present).1
  rw [nodeAt?_natCast, Array.getElem?_push_lt inside, ← Array.getElem?_eq_getElem inside]
  exact present

/-- The level of the node with a number. -/
def levelAt? (nodes : Array StoredNode) (id : NodeId) : Option Nat :=
  (nodeAt? nodes id).map fun node => node.level

theorem levelAt?_eq_none_of_neg (nodes : Array StoredNode) (negative : id < 0) :
    levelAt? nodes id = none := by
  simp [levelAt?, nodeAt?_eq_none_of_neg nodes negative]

/-- A new node at the end changes no level. -/
theorem levelAt?_push_of_eq_some {level : Nat} (found : levelAt? nodes id = some level)
    (last : StoredNode) : levelAt? (nodes.push last) id = some level := by
  rcases Option.map_eq_some_iff.mp found with ⟨node, present, rfl⟩
  rw [levelAt?, nodeAt?_push_of_eq_some present, Option.map_some]

theorem levelAt?_push_size (nodes : Array StoredNode) (last : StoredNode) :
    levelAt? (nodes.push last) (nodes.size : Int) = some last.level := by
  simp [levelAt?]

end Store

/-- Whether a node is the parent of another. -/
def Store.IsParent (nodes : Array StoredNode) (parent child : NodeId) : Prop :=
  ∃ node, Store.nodeAt? nodes child = some node ∧ node.parent = some parent

namespace WellPlaced

variable {rules moreRules : List Rule} {nodes otherNodes : Array StoredNode} {place : Nat}
  {node : StoredNode}

/-- Only the nodes before a place matter to the node there. -/
theorem congr (placed : WellPlaced rules nodes place node)
    (agree : ∀ earlier < place, nodes[earlier]? = otherNodes[earlier]?) :
    WellPlaced rules otherNodes place node := by
  refine { placed with hangs := ?_ }
  rcases placed.hangs with root | ⟨parent, above, nonneg, earlier, named, found, level⟩
  · exact Or.inl root
  · right
    rcases Store.nodeAt?_eq_some_iff.mp found with ⟨parentPlace, rfl, present⟩
    refine ⟨parentPlace, above, nonneg, earlier, named, ?_, level⟩
    rw [Store.nodeAt?_natCast, ← agree parentPlace (by omega)]
    exact present

theorem mono_rules (placed : WellPlaced rules nodes place node)
    (included : ∀ rule ∈ rules, rule ∈ moreRules) : WellPlaced moreRules nodes place node := by
  rcases placed.rule_declared with ⟨rule, declared, same⟩
  exact { placed with rule_declared := ⟨rule, included rule declared, same⟩ }

/-- The root and no other node is without a parent. -/
theorem parent_eq_none_iff (placed : WellPlaced rules nodes place node) :
    node.parent = none ↔ place = 0 := by
  rcases placed.hangs with ⟨first, noParent, _⟩ | ⟨parent, above, nonneg, earlier, named, _⟩
  · simp [first, noParent]
  · simp only [named, reduceCtorEq, false_iff]
    omega

end WellPlaced

namespace FormsTree

variable {rules moreRules : List Rule} {nodes : Array StoredNode} {node : StoredNode}

@[simp]
theorem empty (rules : List Rule) : FormsTree rules #[] := by
  intro place node found
  simp at found

theorem mono_rules (tree : FormsTree rules nodes)
    (included : ∀ rule ∈ rules, rule ∈ moreRules) : FormsTree moreRules nodes := by
  intro place node found
  exact (tree place node found).mono_rules included

/-- A tree can be cut behind any node. -/
theorem of_append {later : Array StoredNode} (tree : FormsTree rules (nodes ++ later)) :
    FormsTree rules nodes := by
  intro place node found
  have inside : place < nodes.size := (Array.getElem?_eq_some_iff.mp found).1
  have placed := tree place node (by rwa [Array.getElem?_append_left inside])
  apply placed.congr
  intro earlier isEarlier
  exact Array.getElem?_append_left (by omega)

/-- A tree grows by one well-placed node at its end. -/
theorem push_iff :
    FormsTree rules (nodes.push node) ↔
      FormsTree rules nodes ∧ WellPlaced rules nodes nodes.size node := by
  have agree : ∀ earlier < nodes.size, (nodes.push node)[earlier]? = nodes[earlier]? := by
    intro earlier inside
    rw [Array.getElem?_push, if_neg (by omega)]
  constructor
  · intro tree
    refine ⟨?_, (tree nodes.size node (by simp)).congr agree⟩
    rw [Array.push_eq_append] at tree
    exact tree.of_append
  · rintro ⟨tree, placed⟩ place other found
    rw [Array.getElem?_push] at found
    split at found
    next last =>
      obtain rfl := Option.some.inj found
      rw [last]
      exact placed.congr fun earlier inside => (agree earlier inside).symm
    next =>
      have inside : place < nodes.size := (Array.getElem?_eq_some_iff.mp found).1
      exact (tree place other found).congr fun earlier isEarlier =>
        (agree earlier (by omega)).symm

/-- No level exceeds the number of its node, since every step up the tree leads to an earlier
node. -/
theorem level_le (tree : FormsTree rules nodes) {place : Nat} (found : nodes[place]? = some node) :
    node.level ≤ place := by
  induction place using Nat.strongRecOn generalizing node with
  | ind place ih =>
      rcases (tree place node found).hangs with
        ⟨_, _, level⟩ | ⟨parent, above, nonneg, earlier, _, aboveFound, level⟩
      · omega
      · rcases Store.nodeAt?_eq_some_iff.mp aboveFound with ⟨parentPlace, rfl, present⟩
        have := ih parentPlace (by omega) present
        omega

theorem lt_of_isParent (tree : FormsTree rules nodes) {parent child : NodeId}
    (isParent : Store.IsParent nodes parent child) : parent < child := by
  rcases isParent with ⟨node, found, named⟩
  rcases Store.nodeAt?_eq_some_iff.mp found with ⟨place, rfl, present⟩
  rcases (tree place node present).hangs with
    ⟨_, noParent, _⟩ | ⟨other, above, _, earlier, otherNamed, _⟩
  · rw [named] at noParent
    cases noParent
  · obtain rfl : other = parent := Option.some.inj (otherNamed.symm.trans named)
    exact earlier

/-- No node is its own ancestor. -/
theorem acyclic (tree : FormsTree rules nodes) (id : NodeId) :
    ¬Relation.TransGen (Store.IsParent nodes) id id := by
  have increases : ∀ {other : NodeId},
      Relation.TransGen (Store.IsParent nodes) id other → id < other := by
    intro other ancestry
    induction ancestry with
    | single isParent => exact tree.lt_of_isParent isParent
    | tail _ isParent ih => exact Int.lt_trans ih (tree.lt_of_isParent isParent)
  intro circle
  exact absurd (increases circle) (Int.lt_irrefl id)

theorem id_eq_of_getElem? (tree : FormsTree rules nodes) {place : Nat}
    (found : nodes[place]? = some node) : node.id = place :=
  (tree place node found).id_eq

/-- To search for a number is to look at its place. -/
theorem find?_id_eq (tree : FormsTree rules nodes) (id : NodeId) :
    (nodes.toList.find? fun node => node.id == id) = Store.nodeAt? nodes id := by
  cases searched : nodes.toList.find? fun node => node.id == id with
  | none =>
      rw [List.find?_eq_none] at searched
      cases found : Store.nodeAt? nodes id with
      | none => rfl
      | some node =>
          rcases Store.nodeAt?_eq_some_iff.mp found with ⟨place, rfl, present⟩
          have isMember : node ∈ nodes.toList :=
            List.mem_of_getElem? (by rwa [Array.getElem?_toList])
          have isSearched := tree.id_eq_of_getElem? present
          exact absurd isSearched (by simpa using searched node isMember)
  | some node =>
      have isSearched : node.id = id := by simpa using List.find?_some searched
      rcases List.mem_iff_getElem?.mp (List.mem_of_find?_eq_some searched) with ⟨place, listed⟩
      have present : nodes[place]? = some node := by rwa [← Array.getElem?_toList]
      rw [← isSearched, tree.id_eq_of_getElem? present, Store.nodeAt?_natCast, present]

end FormsTree

end ParseTrace
