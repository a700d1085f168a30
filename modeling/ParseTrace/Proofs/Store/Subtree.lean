import ParseTrace.Proofs.Store.Chain
import ParseTrace.Proofs.Store.Gathering

/-!
# The way down

The subtree of a node holds the node and whatever is reached from it by going from parents to
children. Expanding a node without a limit shows its subtree: every node with all its children.
Since a node has one parent, no two children of a node share a descendant, so the subtree shows
every node once. Below the root that is every stored node.
-/

namespace ParseTrace

namespace TreeItem

mutual

/-- The nodes of a tree, each before what lies below it. -/
def nodes : TreeItem → List Node
  | item node children => node :: nodesAll children

/-- The nodes of several trees, tree after tree. -/
def nodesAll : List TreeItem → List Node
  | [] => []
  | tree :: rest => tree.nodes ++ nodesAll rest

end

mutual

theorem length_nodes : (tree : TreeItem) → tree.nodes.length = tree.size
  | item node children => by
      rw [nodes, size, List.length_cons, length_nodesAll children, Nat.add_comm]

theorem length_nodesAll : (trees : List TreeItem) → (nodesAll trees).length = sizeAll trees
  | [] => rfl
  | tree :: rest => by
      rw [nodesAll, sizeAll, List.length_append, length_nodes tree, length_nodesAll rest]

end

theorem nodesAll_eq (trees : List TreeItem) : nodesAll trees = trees.flatMap nodes := by
  induction trees with
  | nil => rfl
  | cons tree rest ih => rw [nodesAll, ih, List.flatMap_cons]

/-- The numbers of the nodes of a tree. -/
def ids (tree : TreeItem) : List NodeId :=
  tree.nodes.map Node.id

theorem length_ids (tree : TreeItem) : tree.ids.length = tree.size := by
  rw [ids, List.length_map, length_nodes]

theorem ids_item (node : Node) (children : List TreeItem) :
    (item node children).ids = node.id :: children.flatMap ids := by
  rw [ids, nodes, nodesAll_eq, List.map_cons, List.map_flatMap]
  rfl

/-- A tree that shows every node as it is stored, with all its children. -/
inductive Complete (store : Store) : TreeItem → Prop where
  | item {node : Node} {children : List TreeItem} (got : store.getNode node.id = .ok node)
      (shown : children.map (fun child => child.node.id) = node.children)
      (below : ∀ child ∈ children, Complete store child) : Complete store (.item node children)

end TreeItem

namespace Store

variable {nodes : Array StoredNode} {id other : NodeId} {chain : List NodeId}

/-- Whether a node is another one or lies below it. -/
def Below (nodes : Array StoredNode) : NodeId → NodeId → Prop :=
  Relation.ReflTransGen (IsParent nodes)

theorem WayUp.below_root (way : WayUp nodes id chain) : Below nodes rootNode id := by
  induction way with
  | root => exact .refl
  | step isParent _ ih => exact ih.tail isParent

theorem stored_of_below {node : StoredNode} (found : nodeAt? nodes id = some node)
    (below : Below nodes id other) : ∃ node, nodeAt? nodes other = some node := by
  cases below with
  | refl => exact ⟨node, found⟩
  | tail _ isParent =>
      rcases isParent with ⟨child, present, _⟩
      exact ⟨child, present⟩

/-- A node has one parent. -/
theorem IsParent.unique {first second child : NodeId} (isFirst : IsParent nodes first child)
    (isSecond : IsParent nodes second child) : first = second := by
  rcases isFirst with ⟨node, found, named⟩
  rcases isSecond with ⟨same, sameFound, sameNamed⟩
  obtain rfl : same = node := Option.some.inj (sameFound.symm.trans found)
  exact Option.some.inj (named.symm.trans sameNamed)

/-- Of two nodes above a third one lies below the other. -/
theorem Below.total {first second : NodeId} (isFirst : Below nodes first id)
    (isSecond : Below nodes second id) : Below nodes first second ∨ Below nodes second first := by
  have oneParent : Relator.RightUnique (Function.swap (IsParent nodes)) :=
    fun _ _ _ isParent otherIsParent => isParent.unique otherIsParent
  have upFirst := Relation.reflTransGen_swap.mpr isFirst
  have upSecond := Relation.reflTransGen_swap.mpr isSecond
  rcases upFirst.total_of_right_unique oneParent upSecond with up | up
  · exact Or.inr (Relation.reflTransGen_swap.mp up)
  · exact Or.inl (Relation.reflTransGen_swap.mp up)

end Store

namespace FormsTree

open Store (IsParent Below nodeAt?)

variable {rules : List Rule} {nodes : Array StoredNode} {id other : NodeId} {node : StoredNode}

theorem le_of_below (tree : FormsTree rules nodes) (below : Below nodes id other) :
    id ≤ other := by
  induction below with
  | refl => exact Int.le_refl id
  | tail _ isParent ih => exact Int.le_trans ih (Int.le_of_lt (tree.lt_of_isParent isParent))

/-- A child of a node is not below another child. -/
theorem eq_of_below_sibling (tree : FormsTree rules nodes) {parent first second : NodeId}
    (isFirst : IsParent nodes parent first) (isSecond : IsParent nodes parent second)
    (below : Below nodes first second) : first = second := by
  rcases Relation.ReflTransGen.cases_tail_iff _ _ _ |>.mp below with same | ⟨above, upper, isAbove⟩
  · exact same.symm
  · obtain rfl : above = parent := isAbove.unique isSecond
    have circle : first ≤ above := tree.le_of_below upper
    exact absurd (Int.lt_of_le_of_lt circle (tree.lt_of_isParent isFirst)) (Int.lt_irrefl first)

/-- Nothing lies below two children of a node. -/
theorem eq_of_below_siblings (tree : FormsTree rules nodes) {parent first second : NodeId}
    (isFirst : IsParent nodes parent first) (isSecond : IsParent nodes parent second)
    (belowFirst : Below nodes first id) (belowSecond : Below nodes second id) : first = second := by
  rcases belowFirst.total belowSecond with below | below
  · exact tree.eq_of_below_sibling isFirst isSecond below
  · exact (tree.eq_of_below_sibling isSecond isFirst below).symm

/-- The numbers of the nodes count up from zero. -/
theorem map_id_eq (tree : FormsTree rules nodes) :
    nodes.toList.map StoredNode.id = (List.range nodes.size).map Nat.cast := by
  apply List.ext_getElem?
  intro place
  rw [List.getElem?_map, List.getElem?_map, Array.getElem?_toList]
  cases found : nodes[place]? with
  | none =>
      have past : nodes.size ≤ place := Array.getElem?_eq_none_iff.mp found
      simp [past]
  | some node =>
      have inside : place < nodes.size := (Array.getElem?_eq_some_iff.mp found).1
      simp [inside, tree.id_eq_of_getElem? found]

end FormsTree

namespace Store

variable {store : Store} {id : NodeId} {node : StoredNode}

theorem mem_childIds_iff (tree : FormsTree store.rules store.nodes) {parent child : NodeId} :
    child ∈ store.childIds parent ↔ IsParent store.nodes parent child := by
  simp only [childIds, childNodesOf, List.mem_map, List.mem_filter, beq_iff_eq]
  constructor
  · rintro ⟨node, ⟨stored, named⟩, rfl⟩
    rcases List.mem_iff_getElem?.mp stored with ⟨place, found⟩
    rw [Array.getElem?_toList] at found
    refine ⟨node, ?_, named⟩
    rw [tree.id_eq_of_getElem? found]
    exact found
  · rintro ⟨node, found, named⟩
    rcases nodeAt?_eq_some_iff.mp found with ⟨place, rfl, present⟩
    exact ⟨node, ⟨Array.mem_toList_iff.mpr (Array.mem_of_getElem? present), named⟩,
      tree.id_eq_of_getElem? present⟩

/-- The children of a node are listed once each, in increasing order. -/
theorem pairwise_childIds (tree : FormsTree store.rules store.nodes) (parent : NodeId) :
    (store.childIds parent).Pairwise (· < ·) := by
  have increasing : (store.nodes.toList.map StoredNode.id).Pairwise (· < ·) := by
    rw [tree.map_id_eq, List.pairwise_map]
    exact List.pairwise_lt_range.imp Int.ofNat_lt.mpr
  exact increasing.sublist (List.filter_sublist.map StoredNode.id)

/-- A list whose elements all have a value is mapped to these values. -/
theorem map_filterMap_of_forall {α β γ : Type} {value? : α → Option β} {key : α → γ}
    {keyOf : β → γ} {good : β → Prop} {items : List α}
    (each : ∀ item ∈ items, ∃ result, value? item = some result ∧ key item = keyOf result ∧
      good result) :
    (items.filterMap value?).map keyOf = items.map key ∧
      ∀ result ∈ items.filterMap value?, good result := by
  induction items with
  | nil => simp
  | cons item rest ih =>
      rw [List.forall_mem_cons] at each
      rcases each with ⟨⟨result, found, same, isGood⟩, others⟩
      rw [List.filterMap_cons_some found, List.map_cons, List.map_cons, List.forall_mem_cons,
        (ih others).1, same]
      exact ⟨rfl, isGood, (ih others).2⟩

/-- A traversal none of whose steps fails gives one result for every step. -/
theorem mapM_of_forall {ε α β : Type} {step : α → Except ε β} {itemOf : β → α} {good : β → Prop}
    {items : List α}
    (each : ∀ item ∈ items, ∃ result, step item = .ok result ∧ itemOf result = item ∧
      good result) :
    ∃ results, items.mapM step = .ok results ∧ results.map itemOf = items ∧
      ∀ result ∈ results, good result := by
  induction items with
  | nil => exact ⟨[], rfl, rfl, by simp⟩
  | cons item rest ih =>
      rw [List.forall_mem_cons] at each
      rcases each with ⟨⟨result, done, same, isGood⟩, others⟩
      rcases ih others with ⟨results, doneAll, sameAll, allGood⟩
      refine ⟨result :: results, ?_, ?_, List.forall_mem_cons.mpr ⟨isGood, allGood⟩⟩
      · rw [List.mapM_cons, done, doneAll]
        rfl
      · rw [List.map_cons, same, sameAll]

end Store

namespace FormsTree

open Store

variable {store : Store} {id : NodeId} {node : StoredNode}

theorem exists_rule? (forms : FormsTree store.rules store.nodes) (isOpen : store.closed = false)
    (found : nodeAt? store.nodes id = some node) :
    ∃ rule, store.rule? node.rule = some rule ∧
      store.getNode id = .ok (node.withRule rule (store.childIds id)) := by
  rcases forms.exists_getNode isOpen found with ⟨resolved, got, _⟩
  rw [getNode, whenOpen_of_open isOpen, node?, found, Option.bind_some, resolve?] at got ⊢
  cases declared : store.rule? node.rule with
  | none => simp [declared] at got
  | some rule => exact ⟨rule, rfl, rfl⟩

/-- The children of a node are joined with their rules, and none is left out. -/
theorem childRows_spec (forms : FormsTree store.rules store.nodes) (isOpen : store.closed = false)
    (id : NodeId) :
    ((store.childRows id).map fun row => row.1.id) = store.childIds id ∧
      ∀ row ∈ store.childRows id,
        store.getNode row.1.id = .ok (row.1.withRule row.2 (store.childIds row.1.id)) := by
  apply map_filterMap_of_forall
  intro child isChild
  rcases List.mem_iff_getElem?.mp (List.mem_of_mem_filter isChild) with ⟨place, present⟩
  rw [Array.getElem?_toList] at present
  have stored : nodeAt? store.nodes child.id = some child := by
    rw [forms.id_eq_of_getElem? present]
    exact present
  rcases forms.exists_rule? isOpen stored with ⟨rule, declared, got⟩
  exact ⟨(child, rule), by rw [declared]; rfl, rfl, got⟩

/-- The children of a node are read as they are stored. -/
theorem getChildNodes_eq (forms : FormsTree store.rules store.nodes) (isOpen : store.closed = false)
    (found : nodeAt? store.nodes id = some node) :
    ∃ children, store.getChildNodes id = .ok children ∧
      children.map Node.id = store.childIds id ∧
      ∀ child ∈ children, store.getNode child.id = .ok child := by
  rcases forms.childRows_spec isOpen id with ⟨numbers, each⟩
  have different : ((store.childRows id).map fun row => row.1.id).Nodup := by
    rw [numbers]
    exact (pairwise_childIds forms id).imp Int.ne_of_lt
  rw [getChildNodes, whenOpen_of_open isOpen, node?, found]
  refine ⟨_, rfl, ?_, ?_⟩
  · rw [ChildTable.attach_eq different, ← numbers, List.map_map]
    rfl
  · rw [ChildTable.attach_eq different, List.forall_mem_map]
    intro row listed
    have isParent : row.1.id ∈ (store.childRows id).map fun row => row.1.id :=
      List.mem_map_of_mem listed
    rw [childrenOf_gatherChildren different isParent]
    exact each row listed

/-- Expanding a node shows its subtree. The bound is enough, since numbers grow on the way down. -/
theorem expandNode_eq (forms : FormsTree store.rules store.nodes)
    (isOpen : store.closed = false) {bound : Nat} {resolved : Node}
    (got : store.getNode resolved.id = .ok resolved)
    (enough : (store.nodes.size : Int) ≤ resolved.id + bound) :
    ∃ tree, store.expandNode bound resolved none = .ok tree ∧ tree.node = resolved ∧
      tree.Complete store := by
  induction bound generalizing resolved with
  | zero =>
      rcases forms.exists_of_getNode isOpen got with ⟨node, found, _⟩
      rcases nodeAt?_eq_some_iff.mp found with ⟨place, isPlace, present⟩
      have inside : place < store.nodes.size := (Array.getElem?_eq_some_iff.mp present).1
      rw [isPlace] at enough
      omega
  | succ bound ih =>
      rcases forms.exists_of_getNode isOpen got with ⟨node, found, _, _, _, listed⟩
      unfold expandNode
      by_cases leaf : resolved.hasChildren = false
      · have noChildren : resolved.children = [] := by simpa [Node.hasChildren] using leaf
        rw [if_pos (Or.inr leaf)]
        exact ⟨_, rfl, rfl, .item got noChildren.symm (by simp)⟩
      · rcases forms.getChildNodes_eq isOpen found with ⟨children, gotAll, numbers, each⟩
        have below : ∀ child ∈ children, ∃ tree, store.expandNode bound child none = .ok tree ∧
            tree.node = child ∧ tree.Complete store := by
          intro child isChild
          have isParent : IsParent store.nodes resolved.id child.id := by
            rw [← mem_childIds_iff forms, ← numbers]
            exact List.mem_map_of_mem isChild
          have further : (0 : Int) < child.id - resolved.id :=
            Int.sub_pos_of_lt (forms.lt_of_isParent isParent)
          exact ih (each child isChild) (by omega)
        rcases mapM_of_forall below with ⟨trees, expanded, tops, complete⟩
        rw [if_neg (by simpa using leaf)]
        refine ⟨.item resolved trees, ?_, rfl, .item got ?_ complete⟩
        · simp only [bind, Except.bind, gotAll, Option.map_none, expanded]
          rfl
        · rw [listed, ← numbers, ← tops, List.map_map]
          rfl

/-- Every node of a complete tree lies below its top node, and every node below that is in it. -/
theorem mem_ids_iff (forms : FormsTree store.rules store.nodes)
    (isOpen : store.closed = false) {tree : TreeItem} (complete : tree.Complete store)
    {other : NodeId} :
    other ∈ tree.ids ↔ Below store.nodes tree.node.id other := by
  induction complete with
  | @item node children got shown below ih =>
      rcases forms.exists_of_getNode isOpen got with ⟨_, _, _, _, _, listed⟩
      have isChild : ∀ id, IsParent store.nodes node.id id ↔
          ∃ child ∈ children, child.node.id = id := by
        intro id
        rw [← mem_childIds_iff forms, ← listed, ← shown, List.mem_map]
      rw [TreeItem.ids_item, List.mem_cons, List.mem_flatMap, TreeItem.node, Below,
        Relation.ReflTransGen.cases_head_iff, eq_comm]
      refine or_congr Iff.rfl ⟨?_, ?_⟩
      · rintro ⟨child, present, inside⟩
        exact ⟨child.node.id, (isChild _).mpr ⟨child, present, rfl⟩, (ih child present).mp inside⟩
      · rintro ⟨next, isParent, further⟩
        rcases (isChild next).mp isParent with ⟨child, present, rfl⟩
        exact ⟨child, present, (ih child present).mpr further⟩

theorem nodup_ids (forms : FormsTree store.rules store.nodes)
    (isOpen : store.closed = false) {tree : TreeItem} (complete : tree.Complete store) :
    tree.ids.Nodup := by
  induction complete with
  | @item node children got shown below ih =>
      rcases forms.exists_of_getNode isOpen got with ⟨_, _, _, _, _, listed⟩
      have isParent : ∀ child ∈ children, IsParent store.nodes node.id child.node.id := by
        intro child present
        rw [← mem_childIds_iff forms, ← listed, ← shown]
        exact List.mem_map_of_mem present
      have increasing : children.Pairwise fun first second => first.node.id < second.node.id := by
        rw [← List.pairwise_map, shown, listed]
        exact pairwise_childIds forms node.id
      rw [TreeItem.ids_item, List.nodup_cons, List.nodup_flatMap]
      refine ⟨?_, ih, ?_⟩
      · intro inside
        rcases List.mem_flatMap.mp inside with ⟨child, present, inside⟩
        have circle := forms.le_of_below
          ((forms.mem_ids_iff isOpen (below child present)).mp inside)
        have further := forms.lt_of_isParent (isParent child present)
        exact absurd (Int.lt_of_lt_of_le further circle) (Int.lt_irrefl node.id)
      · refine increasing.imp_of_mem ?_
        intro first second isFirst isSecond ordered id inFirst inSecond
        have same : first.node.id = second.node.id :=
          forms.eq_of_below_siblings (isParent first isFirst) (isParent second isSecond)
            ((forms.mem_ids_iff isOpen (below first isFirst)).mp inFirst)
            ((forms.mem_ids_iff isOpen (below second isSecond)).mp inSecond)
        rw [same] at ordered
        exact Int.lt_irrefl _ ordered

/-- A stored node can be expanded. -/
theorem expandFully_eq (forms : FormsTree store.rules store.nodes) (isOpen : store.closed = false)
    (found : nodeAt? store.nodes id = some node) :
    ∃ tree, store.expandFully id = .ok tree ∧ tree.node.id = id ∧ tree.Complete store := by
  rcases forms.exists_getNode isOpen found with ⟨resolved, got, same, _⟩
  subst same
  rcases nodeAt?_eq_some_iff.mp found with ⟨place, isPlace, _⟩
  have enough : (store.nodes.size : Int) ≤ resolved.id + store.nodes.size := by
    rw [isPlace]
    exact Int.le_add_of_nonneg_left (Int.natCast_nonneg place)
  rcases forms.expandNode_eq isOpen got enough with ⟨tree, expanded, top, complete⟩
  refine ⟨tree, ?_, by rw [top], complete⟩
  simp only [expandFully, expand, got, bind, Except.bind]
  exact expanded

/-- Below the root every stored node is shown once. -/
theorem expandFully_rootNode (forms : FormsTree store.rules store.nodes)
    (isOpen : store.closed = false) (nonempty : 0 < store.nodes.size) :
    ∃ tree, store.expandFully rootNode = .ok tree ∧ tree.Complete store ∧
      tree.ids.Perm ((List.range store.nodes.size).map Nat.cast) := by
  have found : nodeAt? store.nodes rootNode = some store.nodes[0] :=
    Array.getElem?_eq_getElem nonempty
  rcases forms.expandFully_eq isOpen found with ⟨tree, expanded, top, complete⟩
  refine ⟨tree, expanded, complete, ?_⟩
  have numbers : ((List.range store.nodes.size).map (Nat.cast : Nat → NodeId)).Nodup :=
    List.nodup_range.map fun _ _ => Int.ofNat.inj
  rw [List.perm_ext_iff_of_nodup (forms.nodup_ids isOpen complete) numbers]
  intro id
  rw [forms.mem_ids_iff isOpen complete, top, List.mem_map]
  constructor
  · intro below
    rcases stored_of_below found below with ⟨node, present⟩
    rcases nodeAt?_eq_some_iff.mp present with ⟨place, rfl, present⟩
    exact ⟨place, List.mem_range.mpr (Array.getElem?_eq_some_iff.mp present).1, rfl⟩
  · rintro ⟨place, inside, rfl⟩
    rcases forms.exists_wayUp (Array.getElem?_eq_getElem (List.mem_range.mp inside)) with
      ⟨chain, way⟩
    exact way.below_root

end FormsTree

theorem Store.Sound.expandFully_rootNode {store : Store} (sound : store.Sound)
    (isOpen : store.closed = false) (nonempty : 0 < store.nodes.size) :
    ∃ tree, store.expandFully rootNode = .ok tree ∧ tree.Complete store ∧
      tree.ids.Perm ((List.range store.nodes.size).map Nat.cast) :=
  sound.tree.expandFully_rootNode isOpen nonempty

end ParseTrace
