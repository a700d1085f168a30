import ParseTrace.Proofs.Store.Reach

/-!
# Appending without a path

`appendByLookUp` appends a batch without any notes of the writer: it counts the stored nodes, takes
the rules from the store, and searches the stored nodes and the earlier ones of the batch for every
parent. Appending with the writer's path comes to the same end for every batch, in whatever order
its invocations come. The path agrees with the levels of the nodes before and after every
invocation that passes, and as long as it agrees it never changes a verdict.

A batch can outgrow the range of numbers. The number past the largest is either refused or wraps
around to a negative one, and then no invocation passes under it, whatever its parent is.
-/

namespace ParseTrace.Store

/-- The level of the node with a number, searched among the stored nodes and the earlier ones of a
batch. -/
def searchLevel? (stored earlier : Array StoredNode) (id : NodeId) : Option Nat :=
  ((stored.toList ++ earlier.toList).find? fun node => node.id == id).map fun node => node.level

/-- Accepts the rest of a batch, which begins at the number `first`, behind the nodes made of it so
far. -/
def acceptByLookUp (rules : List Rule) (stored : Array StoredNode) (first : NodeId)
    (earlier : Array StoredNode) : List Invocation → Except Corruption (Array StoredNode)
  | [] => .ok earlier
  | invocation :: rest =>
      match idAt? first earlier.size with
      | none => .error .tooManyNodes
      | some id =>
          match checkByLevels (rules.map Rule.id) (searchLevel? stored earlier) id invocation with
          | .error corruption => .error corruption
          | .ok () =>
              match checkMeasures id invocation with
              | .error corruption => .error corruption
              | .ok () =>
                  acceptByLookUp rules stored first (earlier.push { invocation with id }) rest

/-- Appends a batch without notes. The result is the answer and the nodes stored afterwards. -/
def appendByLookUp (store : Store) (invocations : List Invocation) :
    Outcome NodeId × Array StoredNode :=
  let first : NodeId := store.nodes.size
  if invocations.isEmpty then (.ok first, store.nodes)
  else if store.closed then (.error .closed, store.nodes)
  else
    match acceptByLookUp store.rules store.nodes first #[] invocations with
    | .error corruption => (.error (.corrupt corruption), store.nodes)
    | .ok rows =>
        if first + wrapId invocations.length ≤ maxNodeId then (.ok first, store.nodes ++ rows)
        else (.crash .overflow, store.nodes ++ rows)

variable {rules : List Rule} {known : List RuleId} {stored rows : Array StoredNode}
  {path : List PathEntry} {id : NodeId} {invocation : Invocation}

theorem searchLevel?_eq (tree : FormsTree rules (stored ++ rows)) :
    searchLevel? stored rows = levelAt? (stored ++ rows) := by
  funext id
  rw [searchLevel?, levelAt?, ← Array.toList_append, tree.find?_id_eq id]

theorem checkByLevels_congr_known {levelOf? : NodeId → Option Nat} {otherKnown : List RuleId}
    (same : ∀ id, id ∈ known ↔ id ∈ otherKnown) :
    checkByLevels known levelOf? id invocation =
      checkByLevels otherKnown levelOf? id invocation := by
  simp only [checkByLevels, same]

/-- Behind a node the number past the largest is refused. -/
theorem idAt?_of_full {first place : Nat} (behindNode : 0 < first)
    (full : first + place = 2 ^ 31) : idAt? first place = none := by
  have tooLarge : ¬((first + place : Nat) : Int) ≤ maxNodeId := by
    rw [natCast_le_maxNodeId]
    omega
  simp only [idAt?]
  rw [add_wrapId (by omega), if_neg tooLarge]

/-- The number past the largest is either refused or wraps around to a negative one. -/
theorem inRange_or_neg_of_idAt? {first place : Nat} (room : first + place ≤ 2 ^ 31)
    (numbered : idAt? first place = some id) :
    (first + place < 2 ^ 31 ∧ id = ((first + place : Nat) : Int)) ∨ id < 0 := by
  by_cases inRange : first + place < 2 ^ 31
  · left
    rw [idAt?_eq inRange] at numbered
    exact ⟨inRange, (Option.some.inj numbered).symm⟩
  right
  by_cases nothingStored : first = 0
  · have batchFull : place = 2147483648 := by omega
    subst nothingStored batchFull
    have wrapped : id = -2147483648 := (Option.some.inj numbered).symm
    rw [wrapped]
    decide
  · rw [idAt?_of_full (by omega) (by omega)] at numbered
    cases numbered

/-- Nothing passes under a negative number. -/
theorem nonneg_of_checkByLevels {nodes : Array StoredNode}
    (passed : checkByLevels known (levelAt? nodes) id invocation = .ok ()) : ¬id < 0 := by
  intro negative
  rcases checkByLevels_eq_ok_iff.mp passed with
    ⟨_, _, ⟨first, _⟩ | ⟨parent, parentLevel, _, earlier, found, _⟩⟩
  · rw [first] at negative
    exact absurd negative (by decide)
  · rw [levelAt?_eq_none_of_neg nodes (Int.lt_trans earlier negative)] at found
    cases found

/-- Whatever passes is given a number in range. -/
theorem inRange_of_passed {nodes : Array StoredNode} {parentPath : List PathEntry}
    {first place : Nat} (agrees : PathAgrees (levelAt? nodes) path)
    (room : first + place ≤ 2 ^ 31) (numbered : idAt? first place = some id)
    (passed : checkInvocation known (levelAt? nodes) path id invocation = .ok parentPath) :
    first + place < 2 ^ 31 ∧ id = ((first + place : Nat) : Int) := by
  have verdict := checkInvocation_map_unit agrees known id invocation
  rw [passed] at verdict
  exact (inRange_or_neg_of_idAt? room numbered).resolve_right (nonneg_of_checkByLevels verdict.symm)

/-- A batch is accepted by its path exactly as it is by searching. -/
theorem takeBatch_eq_acceptByLookUp (knows : ∀ id, id ∈ known ↔ ∃ rule ∈ rules, rule.id = id)
    (consistent : Growth.Consistent rules ⟨stored ++ rows, path⟩)
    (room : stored.size + rows.size ≤ 2 ^ 31) (invocations : List Invocation) :
    (takeBatch known stored stored.size rows path invocations).map Prod.fst =
      acceptByLookUp rules stored stored.size rows invocations := by
  induction invocations generalizing rows path with
  | nil => rfl
  | cons invocation rest ih =>
      rw [takeBatch, acceptByLookUp, earlierLevel?_eq, searchLevel?_eq consistent.tree]
      cases numbered : idAt? stored.size rows.size with
      | none => rfl
      | some id =>
          dsimp only
          have sameRules : ∀ id, id ∈ known ↔ id ∈ rules.map Rule.id := by
            intro id
            rw [knows id, List.mem_map]
          have verdict := checkInvocation_map_unit consistent.agrees known id invocation
          rw [← checkByLevels_congr_known sameRules]
          cases outcome : checkInvocation known (levelAt? (stored ++ rows)) path id invocation with
          | error corruption =>
              rw [outcome] at verdict
              rw [← verdict]
              rfl
          | ok parentPath =>
              rw [outcome] at verdict
              rw [← verdict]
              simp only [Except.map]
              cases measured : checkMeasures id invocation with
              | error corruption => rfl
              | ok _ =>
                  rcases inRange_of_passed consistent.agrees room numbered outcome with
                    ⟨inRange, rfl⟩
                  have taken : Growth.take known ⟨stored ++ rows, path⟩ invocation = _ :=
                    Growth.take_of_checks (by rw [Array.size_append]; exact outcome)
                      (by rw [Array.size_append]; exact measured)
                  have grown := consistent.take knows taken
                  rw [Array.size_append, ← Array.append_push] at grown
                  exact ih grown (by rw [Array.size_push]; omega)

/-- Appending with the writer's path gives the same answer as appending by search, and it leaves the
same nodes behind. -/
theorem appendBatch_eq_appendByLookUp {store : Store} (reachable : store.Reachable)
    (few : store.nodes.size < 2 ^ 31) (invocations : List Invocation) :
    ((store.appendBatch invocations).1, (store.appendBatch invocations).2.nodes) =
      store.appendByLookUp invocations := by
  have sound : store.Sound := reachable.sound few
  rcases sound.described with ⟨writer, written, _⟩
  have consistent : Growth.Consistent store.rules ⟨store.nodes ++ #[], writer.path⟩ := by
    rw [Array.append_empty]
    exact sound.consistent written
  have accepted := takeBatch_eq_acceptByLookUp (sound.knows written) consistent
    (show store.nodes.size + 0 ≤ 2 ^ 31 by omega) invocations
  simp only [appendBatch_eq_atOnce, appendByLookUp, written, sound.next_eq written, ← accepted]
  split
  · rfl
  split
  · rfl
  cases takeBatch writer.known store.nodes store.nodes.size #[] writer.path invocations with
  | error corruption => rfl
  | ok result =>
      dsimp only [Except.map]
      split
      · rfl
      · rfl

/-- Two children of the root and then a child of each, so every parent but the first is off the path
to the node before. -/
def breadthFirst : List Invocation :=
  [⟨some 0, 1, 7, true, 0, 1, 40⟩, ⟨some 0, 1, 7, true, 1, 2, 40⟩,
    ⟨some 1, 2, 7, false, 0, 1, 20⟩, ⟨some 2, 2, 7, false, 1, 2, 20⟩]

theorem appendByLookUp_breadthFirst :
    ((sample.appendBatch breadthFirst).1, (sample.appendBatch breadthFirst).2.nodes) =
        sample.appendByLookUp breadthFirst ∧
      (sample.appendByLookUp breadthFirst).1 = .ok 1 := by
  constructor
  · exact appendBatch_eq_appendByLookUp sample_reachable (by decide) breadthFirst
  · decide

end ParseTrace.Store
