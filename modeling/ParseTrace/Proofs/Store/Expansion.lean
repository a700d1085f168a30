import ParseTrace.Proofs.Store.Exhaustion
import ParseTrace.Proofs.Store.Subtree

/-!
# Expansions with and without a limit

An expansion without a limit shows the subtree of a node: the node and whatever lies below it, once
each, every node under its parent and in the order of the numbers. It never runs out of levels,
however large the store has become. An expansion with a limit shows the same tree cut off below the
limit, so the nodes whose children are left out are those that lie at the limit.
-/

namespace ParseTrace

namespace TreeItem

/-- A tree without what lies more than so many levels below its top. -/
def prune : Nat → TreeItem → TreeItem
  | 0, item node _ => item node []
  | depth + 1, item node children => item node (children.map (prune depth))

@[simp]
theorem node_prune (depth : Nat) (tree : TreeItem) : (tree.prune depth).node = tree.node := by
  cases tree with
  | item node children => cases depth <;> rfl

theorem subtreesAll_eq (depth : Nat) (trees : List TreeItem) :
    subtreesAll depth trees = trees.flatMap (subtrees depth) := by
  induction trees with
  | nil => rfl
  | cons tree rest ih => rw [subtreesAll, ih, List.flatMap_cons]

theorem mem_subtrees_item {top below : Nat} {node : Node} {children : List TreeItem}
    {subtree : TreeItem} :
    (below, subtree) ∈ (item node children).subtrees top ↔
      (below = top ∧ subtree = item node children) ∨
        ∃ child ∈ children, (below, subtree) ∈ child.subtrees (top + 1) := by
  simp [subtrees, subtreesAll_eq]

theorem preorder_item (top : Nat) (node : Node) (children : List TreeItem) :
    (item node children).preorder top =
      (top, node) :: children.flatMap (preorder (top + 1)) := by
  rw [preorder, subtrees, subtreesAll_eq, List.map_cons, List.map_flatMap]
  rfl

mutual

theorem le_of_mem_subtrees {below top : Nat} {subtree : TreeItem} :
    (tree : TreeItem) → (below, subtree) ∈ tree.subtrees top → top ≤ below
  | item node children, present => by
      rw [subtrees] at present
      rcases List.mem_cons.mp present with here | deeper
      · exact Nat.le_of_eq (Prod.mk.inj here).1.symm
      · exact Nat.le_of_succ_le (le_of_mem_subtreesAll children deeper)

theorem le_of_mem_subtreesAll {below top : Nat} {subtree : TreeItem} :
    (trees : List TreeItem) → (below, subtree) ∈ subtreesAll top trees → top ≤ below
  | [], present => nomatch present
  | tree :: rest, present => by
      rw [subtreesAll] at present
      rcases List.mem_append.mp present with inside | later
      · exact le_of_mem_subtrees tree inside
      · exact le_of_mem_subtreesAll rest later

end

theorem le_of_mem_preorder {top : Nat} {tree : TreeItem} {entry : Nat × Node}
    (present : entry ∈ tree.preorder top) : top ≤ entry.1 := by
  rcases List.mem_map.mp present with ⟨⟨below, subtree⟩, shown, rfl⟩
  exact le_of_mem_subtrees tree shown

/-- What is cut off are the nodes below the limit. -/
theorem preorder_prune (depth top : Nat) (tree : TreeItem) :
    (tree.prune depth).preorder top =
      (tree.preorder top).filter fun entry => entry.1 ≤ top + depth := by
  induction depth generalizing top tree with
  | zero =>
      cases tree with
      | item node children =>
          have deeper : (children.flatMap (preorder (top + 1))).filter
              (fun entry => entry.1 ≤ top + 0) = [] := by
            rw [List.filter_eq_nil_iff]
            intro entry present
            rcases List.mem_flatMap.mp present with ⟨child, _, inside⟩
            have below := le_of_mem_preorder inside
            simp only [decide_eq_true_eq]
            omega
          simp only [prune, preorder_item, List.flatMap_nil]
          rw [List.filter_cons_of_pos (by simp), deeper]
  | succ depth ih =>
      cases tree with
      | item node children =>
          have shifted : top + 1 + depth = top + (depth + 1) := by omega
          simp only [prune, preorder_item, List.flatMap_map]
          rw [List.filter_cons_of_pos (by simp), List.filter_flatMap]
          congr 1
          apply List.flatMap_congr
          intro child _
          rw [ih, shifted]

namespace Complete

variable {store : Store} {tree subtree : TreeItem} {top below : Nat}

theorem of_mem_subtrees (complete : tree.Complete store)
    (present : (below, subtree) ∈ tree.subtrees top) : subtree.Complete store := by
  induction complete generalizing top with
  | @item node children got shown deeper ih =>
      rcases mem_subtrees_item.mp present with ⟨_, rfl⟩ | ⟨child, isChild, inside⟩
      · exact .item got shown deeper
      · exact ih child isChild inside

theorem getNode_eq (complete : tree.Complete store) :
    store.getNode tree.node.id = .ok tree.node := by
  cases complete with
  | item got _ _ => exact got

theorem shown_eq (complete : tree.Complete store) :
    tree.children.map (fun child => child.node.id) = tree.node.children := by
  cases complete with
  | item _ shown _ => exact shown

theorem of_mem_children (complete : tree.Complete store) {child : TreeItem}
    (isChild : child ∈ tree.children) : child.Complete store := by
  cases complete with
  | item _ _ deeper => exact deeper child isChild

/-- Of the nodes that are left, those at the limit are the ones whose children are missing. -/
theorem children_prune_eq_nil_iff (complete : tree.Complete store) {depth : Nat}
    (present : (below, subtree) ∈ (tree.prune depth).subtrees top)
    (hasChildren : subtree.node.hasChildren = true) :
    subtree.children = [] ↔ below = top + depth := by
  induction complete generalizing depth top with
  | @item node children got shown deeper ih =>
      cases depth with
      | zero =>
          rcases mem_subtrees_item.mp present with ⟨rfl, rfl⟩ | ⟨child, isChild, _⟩
          · simp [TreeItem.children]
          · cases isChild
      | succ depth =>
          rcases mem_subtrees_item.mp present with ⟨rfl, rfl⟩ | ⟨child, isChild, inside⟩
          · have some : children ≠ [] := by
              rintro rfl
              simp [TreeItem.node, Node.hasChildren, ← shown] at hasChildren
            simp [TreeItem.children, some]
          · rcases List.mem_map.mp isChild with ⟨whole, isWhole, rfl⟩
            rw [ih whole isWhole inside]
            omega

end Complete

end TreeItem

namespace Store

open TreeItem (prune)

variable {store : Store}

/-- A traversal whose steps give changed results gives the changed results. -/
theorem mapM_map_of_forall {ε α β : Type} {step other : α → Except ε β} {change : β → β}
    (each : ∀ item result, step item = .ok result → other item = .ok (change result))
    {items : List α} {results : List β} (done : items.mapM step = .ok results) :
    items.mapM other = .ok (results.map change) := by
  induction items generalizing results with
  | nil =>
      cases done
      rfl
  | cons item rest ih =>
      simp only [List.mapM_cons, bind_eq_ok_iff] at done
      rcases done with ⟨first, isFirst, others, areOthers, same⟩
      cases same
      simp only [List.mapM_cons, bind, Except.bind, each item first isFirst, ih areOthers]
      rfl

/-- A limit cuts an expansion off. -/
theorem expandNode_some {bound : Nat} {node : Node} {tree : TreeItem}
    (expanded : store.expandNode bound node none = .ok tree) (depth : Nat) :
    store.expandNode bound node (some depth) = .ok (tree.prune depth) := by
  induction bound generalizing node tree depth with
  | zero =>
      unfold expandNode at expanded ⊢
      by_cases leaf : node.hasChildren = false
      · simp only [leaf, or_true, if_true] at expanded ⊢
        cases expanded
        cases depth <;> rfl
      · simp [leaf] at expanded
  | succ bound ih =>
      unfold expandNode at expanded ⊢
      by_cases leaf : node.hasChildren = false
      · simp only [leaf, or_true, if_true] at expanded ⊢
        cases expanded
        cases depth <;> rfl
      · rw [if_neg (by simpa using leaf)] at expanded
        simp only [bind_eq_ok_iff] at expanded
        rcases expanded with ⟨children, gotAll, items, expandedAll, same⟩
        cases same
        cases depth with
        | zero => rfl
        | succ depth =>
            have limited := mapM_map_of_forall (fun child _ done => ih done depth) expandedAll
            rw [if_neg (by simpa using leaf)]
            simp only [bind, Except.bind, gotAll, Option.map_some, Nat.add_sub_cancel, limited]
            rfl

theorem expand_some {id : NodeId} {tree : TreeItem} (expanded : store.expandFully id = .ok tree)
    (depth : Nat) : store.expand id (some depth) = .ok (tree.prune depth) := by
  simp only [expandFully, expand, bind_eq_ok_iff] at expanded ⊢
  rcases expanded with ⟨node, got, below⟩
  exact ⟨node, got, expandNode_some below depth⟩

theorem expand_of_absent (isOpen : store.closed = false) {id : NodeId}
    (absent : nodeAt? store.nodes id = none) (depth : Option Nat) :
    store.expand id depth = .error (.notFound id) := by
  rw [expand, getNode_of_absent isOpen absent]
  rfl

end Store

namespace FormsTree

open Store (nodeAt? Below IsParent mem_childIds_iff pairwise_childIds)

variable {store : Store} {tree child subtree : TreeItem} {top below : Nat}

/-- What is shown under a node are its children, in the order of their numbers. -/
theorem children_shown (forms : FormsTree store.rules store.nodes) (isOpen : store.closed = false)
    (complete : tree.Complete store) :
    (tree.children.map fun child => child.node.id).Pairwise (· < ·) ∧
      ∀ child ∈ tree.children, child.node.parent = some tree.node.id ∧
        child.node.level = tree.node.level + 1 := by
  rcases forms.exists_of_getNode isOpen complete.getNode_eq with
    ⟨node, found, _, _, level, listed⟩
  constructor
  · rw [complete.shown_eq, listed]
    exact pairwise_childIds forms tree.node.id
  · intro child isChild
    have isParent : IsParent store.nodes tree.node.id child.node.id := by
      rw [← mem_childIds_iff forms, ← listed, ← complete.shown_eq]
      exact List.mem_map_of_mem isChild
    rcases forms.exists_of_getNode isOpen (complete.of_mem_children isChild).getNode_eq with
      ⟨stored, childFound, _, parent, childLevel, _⟩
    rcases forms.parent_stored isParent childFound with ⟨named, above, aboveFound, oneBelow⟩
    obtain rfl : above = node := Option.some.inj (aboveFound.symm.trans found)
    constructor
    · rw [parent, named]
    · rw [childLevel, oneBelow, level]

/-- A node shown so many levels below the top has a level greater by as many. -/
theorem level_shown (forms : FormsTree store.rules store.nodes) (isOpen : store.closed = false)
    (complete : tree.Complete store) (present : (below, subtree) ∈ tree.subtrees top) :
    subtree.node.level + top = tree.node.level + below := by
  induction complete generalizing top with
  | @item node children got shown deeper ih =>
      rcases TreeItem.mem_subtrees_item.mp present with ⟨rfl, rfl⟩ | ⟨child, isChild, inside⟩
      · rfl
      · have oneBelow := ((forms.children_shown isOpen (.item got shown deeper)).2 child isChild).2
        have further := ih child isChild inside
        omega

theorem size_expandFully (forms : FormsTree store.rules store.nodes)
    (isOpen : store.closed = false) (nonempty : 0 < store.nodes.size)
    (expanded : store.expandFully rootNode = .ok tree) : tree.size = store.nodes.size := by
  rcases forms.expandFully_rootNode isOpen nonempty with ⟨shown, shownEq, _, numbers⟩
  obtain rfl : shown = tree := Except.ok.inj (shownEq.symm.trans expanded)
  rw [← TreeItem.length_ids, numbers.length_eq, List.length_map, List.length_range]

end FormsTree

namespace Store

open TreeItem (prune)

variable {store : Store} {label : String} {header : Header}

/-- What an open store shows below a node at any moment of its run, however many nodes it has. An
expansion without a limit succeeds and shows the node and all that lies below it, once each; what is
shown of a node is what is read of it, and directly under it stand its children in the order of their
numbers. Below the root that is all that is stored. A limit cuts the expansion off, and nothing else
leaves children out. -/
theorem expansion_shows_the_subtree (reached : Reaches (create label header) store)
    (isOpen : store.closed = false) :
    (∀ id, nodeAt? store.nodes id = none →
      store.expandFully id = .error (.notFound id) ∧
        ∀ depth, store.expand id (some depth) = .error (.notFound id)) ∧
    ∀ id node, nodeAt? store.nodes id = some node → ∃ tree,
      store.expandFully id = .ok tree ∧ tree.node.id = id ∧
      tree.ids.Nodup ∧ (∀ other, other ∈ tree.ids ↔ Below store.nodes id other) ∧
      (∀ below item, (below, item) ∈ tree.subtrees 0 →
        store.getNode item.node.id = .ok item.node ∧
        item.children.map (fun child => child.node.id) = item.node.children ∧
        (item.children.map fun child => child.node.id).Pairwise (· < ·) ∧
        (∀ child ∈ item.children, child.node.parent = some item.node.id) ∧
        item.node.level = node.level + below) ∧
      (id = rootNode → tree.size = store.nodes.size) ∧
      ∀ depth, store.expand id (some depth) = .ok (tree.prune depth) ∧
        (tree.prune depth).preorder 0 =
          (tree.preorder 0).filter (fun entry => entry.1 ≤ depth) ∧
        ∀ below item, (below, item) ∈ (tree.prune depth).subtrees 0 →
          item.node.hasChildren = true → (item.children = [] ↔ below = depth) := by
  have forms : FormsTree store.rules store.nodes :=
    reached.tree (sound_create label header) (Nat.two_pow_pos 31)
  constructor
  · intro id absent
    exact ⟨expand_of_absent isOpen absent none,
      fun depth => expand_of_absent isOpen absent (some depth)⟩
  · intro id node found
    rcases forms.expandFully_eq isOpen found with ⟨tree, expanded, rfl, complete⟩
    refine ⟨tree, expanded, rfl, forms.nodup_ids isOpen complete, ?_, ?_, ?_, ?_⟩
    · intro other
      exact forms.mem_ids_iff isOpen complete
    · intro below item present
      have itemComplete := complete.of_mem_subtrees present
      rcases forms.children_shown isOpen itemComplete with ⟨ordered, children⟩
      refine ⟨itemComplete.getNode_eq, itemComplete.shown_eq, ordered, ?_, ?_⟩
      · intro child isChild
        exact (children child isChild).1
      · rcases forms.exists_of_getNode isOpen complete.getNode_eq with
          ⟨stored, storedFound, _, _, level, _⟩
        obtain rfl : stored = node := Option.some.inj (storedFound.symm.trans found)
        have further := forms.level_shown isOpen complete present
        omega
    · intro isRoot
      rw [isRoot] at expanded found
      apply forms.size_expandFully isOpen _ expanded
      exact (Array.getElem?_eq_some_iff.mp found).1
    · intro depth
      refine ⟨expand_some expanded depth, ?_, ?_⟩
      · simpa using TreeItem.preorder_prune depth 0 tree
      · intro below item present hasChildren
        simpa using complete.children_prune_eq_nil_iff present hasChildren

/-- Below the root of the sample store a child with a child of its own, and a second child. -/
def twoLevels : List Invocation :=
  [⟨some 0, 1, 7, true, 0, 1, 40⟩, ⟨some 1, 2, 7, false, 0, 1, 30⟩, ⟨some 0, 1, 7, true, 1, 2, 20⟩]

theorem twoLevels_are_cut_off : ∃ tree,
    (sample.appendBatch twoLevels).2.expandFully 0 = .ok tree ∧ tree.size = 4 ∧
      (sample.appendBatch twoLevels).2.expand 0 (some 1) = .ok (tree.prune 1) ∧
      (sample.appendBatch twoLevels).2.expand 4 none = .error (.notFound 4) := by
  have shows := expansion_shows_the_subtree (reaches_sample.tail (.appendBatch twoLevels))
    (by decide)
  rcases shows.2 0 _ rfl with ⟨tree, expanded, _, _, _, _, whole, limited⟩
  exact ⟨tree, expanded, whole rfl, (limited 1).1, (shows.1 4 rfl).1⟩

end Store

end ParseTrace
