import ParseTrace.Proofs.Store.Reach
import ParseTrace.Proofs.Store.Subtree

/-!
# What is appended is what is read

An accepted batch is stored invocation by invocation, and nothing that happens later changes what was
stored. So every invocation of the batch is read back under its number, as it was handed over, with
the rule that was appended under the identifier that it names. A store takes every identifier once,
so there is one such rule.

The children of a node are the stored nodes that name it as their parent. They are the same list
whether the node is read or its children alone, and every node but the root stands in one list.
-/

namespace ParseTrace

open Numeral (IntegerRange)

namespace Store

variable {label : String} {header : Header} {store after : Store} {rule : Rule}

/-- At some moment of a run of a new store that led here, a rule was appended. -/
def WasAppended (label : String) (header : Header) (store : Store) (rule : Rule) : Prop :=
  ∃ (before behind : Store) (rules : List Rule), Reaches (create label header) before ∧
    before.appendRules rules = (.ok (), behind) ∧ rule ∈ rules ∧ Reaches behind store

theorem WasAppended.step (appended : WasAppended label header store rule)
    (step : Step store after) : WasAppended label header after rule := by
  rcases appended with ⟨before, behind, rules, reached, accepted, isNew, later⟩
  exact ⟨before, behind, rules, reached, accepted, isNew, later.tail step⟩

theorem Step.rules_cases (step : Step store after) :
    after.rules = store.rules ∨
      ∃ rules, store.appendRules rules = (.ok (), after) ∧
        after.rules = store.rules ++ rules := by
  cases step with
  | appendRules rules inRange =>
      rcases appendRules_cases store rules with ⟨cause, refused⟩ | ⟨writer, count, grown⟩
      · left
        rw [refused]
      · right
        refine ⟨rules, ?_, ?_⟩
        · rw [grown]
        · rw [grown]
  | appendBatch invocations =>
      left
      rcases appendBatch_cases store invocations with
        ⟨cause, refused⟩ | ⟨rows, writer, count, _, grown⟩
      · rw [refused]
      · rw [grown]
  | load state => exact Or.inl rfl
  | breakStorage => exact Or.inl rfl
  | close =>
      left
      rw [close_snd]

/-- The rules of a store are those that were appended. -/
theorem mem_rules_iff_wasAppended (reached : Reaches (create label header) store) :
    rule ∈ store.rules ↔ WasAppended label header store rule := by
  constructor
  · intro declared
    induction reached with
    | refl => simp [create] at declared
    | @tail middle last reached step ih =>
        rcases step.rules_cases with same | ⟨rules, accepted, grown⟩
        · rw [same] at declared
          exact (ih declared).step step
        · rw [grown] at declared
          rcases List.mem_append.mp declared with old | isNew
          · exact (ih old).step step
          · exact ⟨middle, last, rules, reached, accepted, isNew, .refl⟩
  · rintro ⟨before, behind, rules, _, accepted, isNew, later⟩
    apply later.persistsIn.rules.subset
    rcases appendRules_cases before rules with ⟨cause, refused⟩ | ⟨writer, count, grown⟩
    · rw [accepted] at refused
      cases refused
    · rw [accepted] at grown
      rw [(Prod.mk.inj grown).2]
      exact List.mem_append_right _ isNew

namespace Sound

theorem eq_of_id_eq (sound : store.Sound) {other : Rule} (declared : rule ∈ store.rules)
    (otherDeclared : other ∈ store.rules) (same : rule.id = other.id) : rule = other :=
  List.inj_on_of_nodup_map sound.ids_nodup declared otherDeclared same

/-- An accepted batch is stored behind the nodes, under the numbers from the one returned on, and it
names rules of the store. -/
theorem nodes_of_appendBatch (sound : store.Sound) (isOpen : store.closed = false)
    {invocations : List Invocation} {first : NodeId} (room : after.nodes.size < 2 ^ 31)
    (accepted : store.appendBatch invocations = (.ok first, after)) :
    first = store.nodes.size ∧
      after.nodes = store.nodes ++ numbered store.nodes.size invocations ∧
      FormsTree store.rules after.nodes := by
  rcases sound.described with ⟨writer, written, _⟩
  have fits : store.nodes.size + invocations.length < 2 ^ 31 := by
    rcases appendBatch_cases store invocations with ⟨cause, refused⟩ | ⟨rows, _, _, size, grown⟩
    · rw [accepted] at refused
      cases refused
    · rw [accepted] at grown
      dsimp only at grown
      rw [grown, Array.size_append, size] at room
      exact room
  rw [sound.appendBatch_eq written isOpen fits] at accepted
  split at accepted
  · cases accepted
  next growth taken =>
    cases accepted
    rcases (sound.consistent written).takeAll (sound.knows written) taken with ⟨consistent, nodes⟩
    exact ⟨rfl, nodes, consistent.tree⟩

/-- Every invocation of an accepted batch is read back, whatever happened later. -/
theorem getNode_of_appendBatch {before behind : Store} {invocations : List Invocation}
    {first : NodeId} (soundBefore : before.Sound)
    (accepted : before.appendBatch invocations = (.ok first, behind))
    (later : Reaches behind store) (sound : store.Sound) (isOpen : store.closed = false)
    (few : store.nodes.size < 2 ^ 31) {offset : Nat} {invocation : Invocation}
    (listed : invocations[offset]? = some invocation) :
    ∃ rule ∈ before.rules, rule.id = invocation.rule ∧
      store.getNode (first + offset) =
        .ok (({ invocation with id := first + offset } : StoredNode).withRule rule
          (store.childIds (first + offset))) := by
  have accepts := persistsIn_of_appendBatch accepted
  have wasOpen := accepts.isOpen (later.persistsIn.isOpen isOpen)
  have room : behind.nodes.size < 2 ^ 31 := Nat.lt_of_le_of_lt later.size_le few
  rcases soundBefore.nodes_of_appendBatch wasOpen room accepted with ⟨rfl, nodes, tree⟩
  have present : behind.nodes[before.nodes.size + offset]? =
      some { invocation with id := (before.nodes.size : Int) + offset } := by
    rw [nodes, Array.getElem?_append_right (Nat.le_add_right ..), Nat.add_sub_cancel_left]
    simp [numbered, listed]
  -- The batch named a rule that was declared then, and reading finds one that is declared now.
  -- Identifiers are unique, so it is the same one.
  rcases (tree _ _ present).rule_declared with ⟨rule, declared, named⟩
  rcases sound.getNode_eq isOpen (later.persistsIn.getElem?_eq_some present) with
    ⟨other, otherDeclared, otherNamed, got⟩
  have kept : rule ∈ store.rules :=
    (accepts.trans later.persistsIn).rules.subset declared
  obtain rfl := sound.eq_of_id_eq kept otherDeclared (named.trans otherNamed.symm)
  exact ⟨rule, declared, named, got⟩

end Sound

section Children

variable {id parent child : NodeId} {node : StoredNode} {children : List NodeId}

theorem getChildren_of_stored (isOpen : store.closed = false)
    (found : nodeAt? store.nodes id = some node) :
    store.getChildren id = .ok (store.childIds id) := by
  simp only [getChildren, whenOpen_of_open isOpen, node?, found]

theorem getChildren_of_absent (isOpen : store.closed = false)
    (absent : nodeAt? store.nodes id = none) : store.getChildren id = .error (.notFound id) := by
  simp only [getChildren, whenOpen_of_open isOpen, node?, absent]

theorem getChildren_eq_ok_iff (isOpen : store.closed = false) :
    store.getChildren id = .ok children ↔
      (∃ node, nodeAt? store.nodes id = some node) ∧ children = store.childIds id := by
  cases found : nodeAt? store.nodes id with
  | none => simp [getChildren_of_absent isOpen found]
  | some node => simp [getChildren_of_stored isOpen found, eq_comm]

theorem getChildren_eq_notFound_iff (isOpen : store.closed = false) :
    store.getChildren id = .error (.notFound id) ↔ nodeAt? store.nodes id = none := by
  cases found : nodeAt? store.nodes id with
  | none => simp [getChildren_of_absent isOpen found]
  | some node => simp [getChildren_of_stored isOpen found]

namespace Sound

theorem getNode_eq_notFound_iff (sound : store.Sound) (isOpen : store.closed = false) :
    store.getNode id = .error (.notFound id) ↔ nodeAt? store.nodes id = none := by
  cases found : nodeAt? store.nodes id with
  | none => simp [getNode_of_absent isOpen found]
  | some node =>
      rcases sound.tree.exists_getNode isOpen found with ⟨resolved, got, _⟩
      simp [got]

theorem map_children_getNode (sound : store.Sound) (isOpen : store.closed = false)
    (id : NodeId) : (store.getNode id).map Node.children = store.getChildren id := by
  cases found : nodeAt? store.nodes id with
  | none =>
      rw [getNode_of_absent isOpen found, getChildren_of_absent isOpen found]
      rfl
  | some node =>
      rcases sound.tree.exists_getNode isOpen found with ⟨resolved, got, _, _, _, listed⟩
      rw [got, getChildren_of_stored isOpen found, ← listed]
      rfl

theorem mem_getChildren_iff (sound : store.Sound) (isOpen : store.closed = false) :
    (∃ children, store.getChildren parent = .ok children ∧ child ∈ children) ↔
      IsParent store.nodes parent child := by
  constructor
  · rintro ⟨children, got, isChild⟩
    rcases (getChildren_eq_ok_iff isOpen).mp got with ⟨_, rfl⟩
    exact (mem_childIds_iff sound.tree).mp isChild
  · intro isParent
    have named := isParent
    rcases named with ⟨node, found, _⟩
    rcases sound.tree.parent_stored isParent found with ⟨_, above, aboveFound, _⟩
    exact ⟨_, getChildren_of_stored isOpen aboveFound, (mem_childIds_iff sound.tree).mpr isParent⟩

end Sound

end Children

theorem existsUnique_parent {rules : List Rule} {nodes : Array StoredNode} {id : NodeId}
    {node : StoredNode} (tree : FormsTree rules nodes) (found : nodeAt? nodes id = some node)
    (notRoot : id ≠ rootNode) : ∃! parent, IsParent nodes parent id := by
  rcases nodeAt?_eq_some_iff.mp found with ⟨place, rfl, present⟩
  rcases (tree place node present).hangs with ⟨first, _⟩ | ⟨parent, _, _, _, named, _⟩
  · exact absurd (congrArg Nat.cast first) notRoot
  · refine ⟨parent, ⟨node, found, named⟩, ?_⟩
    intro other isParent
    exact isParent.unique ⟨node, found, named⟩

/-- Two children of the root of the sample store. -/
def childrenOfRoot : List Invocation :=
  [⟨some 0, 1, 7, true, 0, 1, 40⟩, ⟨some 0, 1, 7, false, 1, 2, 30⟩]

/-- What happens behind them: a rule and a grandchild are added, and a batch without a parent is
refused. -/
def laterOperations : List Operation :=
  [.appendRule ⟨8, "CharMatcher", .terminal, "Plus"⟩, .append ⟨some 2, 2, 8, true, 1, 2, 5⟩,
    .appendBatch [⟨some 9, 1, 7, true, 0, 1, 1⟩], .ask (.node 2)]

end Store

end ParseTrace
