import ParseTrace.Proofs.Store.Check

/-!
# Growing by a batch

A batch is checked in a part of its own, with numbers counted from its first one, before it goes
behind the stored nodes. `Growth.takeAll` describes the same without the batch: it takes the
invocations one by one behind the nodes so far. As long as the numbers stay in range both come to
the same end, so it makes no difference where one batch ends and the next begins.

Taking invocations keeps the nodes a tree and the path in agreement with it, and it succeeds exactly
when the nodes with the numbered invocations behind them form a tree.
-/

namespace ParseTrace.Store

/-- Invocations as they are stored, the first of them under the given number. -/
def numbered (first : Nat) (invocations : List Invocation) : Array StoredNode :=
  (invocations.mapIdx fun offset invocation =>
    ({ invocation with id := ((first + offset : Nat) : Int) } : StoredNode)).toArray

@[simp]
theorem numbered_nil (first : Nat) : numbered first [] = #[] := rfl

@[simp]
theorem size_numbered (first : Nat) (invocations : List Invocation) :
    (numbered first invocations).size = invocations.length := by
  simp [numbered]

theorem toList_numbered_cons (first : Nat) (invocation : Invocation) (rest : List Invocation) :
    (numbered first (invocation :: rest)).toList =
      { invocation with id := (first : Int) } :: (numbered (first + 1) rest).toList := by
  simp only [numbered, List.mapIdx_cons, Nat.add_zero, List.cons.injEq, true_and]
  congr 1
  funext offset other
  congr 2
  omega

/-- The first of several invocations goes behind the nodes, and the others go behind it. -/
theorem append_numbered_cons (nodes : Array StoredNode) (invocation : Invocation)
    (rest : List Invocation) :
    nodes ++ numbered nodes.size (invocation :: rest) =
      nodes.push { invocation with id := nodes.size } ++ numbered (nodes.size + 1) rest := by
  rw [← Array.toList_inj, Array.toList_append, toList_numbered_cons, Array.toList_append,
    Array.toList_push, List.append_assoc, List.singleton_append]

/-- The nodes of a store and its writer's path while invocations are taken one by one. -/
structure Growth where
  nodes : Array StoredNode
  path : List PathEntry

namespace Growth

/-- Takes one more invocation. -/
def take (known : List RuleId) (growth : Growth) (invocation : Invocation) :
    Except Corruption Growth :=
  let id : NodeId := growth.nodes.size
  match checkInvocation known (levelAt? growth.nodes) growth.path id invocation with
  | .error corruption => .error corruption
  | .ok parentPath =>
      match checkMeasures id invocation with
      | .error corruption => .error corruption
      | .ok () =>
          .ok ⟨growth.nodes.push { invocation with id }, ⟨id, invocation.level⟩ :: parentPath⟩

/-- Takes invocations one after the other, up to the first that does not pass. -/
def takeAll (known : List RuleId) (growth : Growth) (invocations : List Invocation) :
    Except Corruption Growth :=
  invocations.foldlM (take known) growth

/-- The nodes form a tree, and the path agrees with it. -/
structure Consistent (rules : List Rule) (growth : Growth) : Prop where
  tree : FormsTree rules growth.nodes
  agrees : PathAgrees (levelAt? growth.nodes) growth.path

variable {rules : List Rule} {known : List RuleId} {growth after : Growth}
  {invocation : Invocation} {invocations : List Invocation}

@[simp]
theorem takeAll_nil : takeAll known growth [] = .ok growth := rfl

theorem takeAll_cons (rest : List Invocation) :
    takeAll known growth (invocation :: rest) =
      (growth.take known invocation).bind fun next => takeAll known next rest := rfl

theorem takeAll_append (first second : List Invocation) :
    takeAll known growth (first ++ second) =
      (takeAll known growth first).bind fun next => takeAll known next second := by
  simp only [takeAll, List.foldlM_append]
  rfl

/-- What it means that one more invocation passed. -/
theorem take_eq_ok (taken : growth.take known invocation = .ok after) :
    ∃ parentPath,
      checkInvocation known (levelAt? growth.nodes) growth.path growth.nodes.size invocation =
        .ok parentPath ∧
      checkMeasures growth.nodes.size invocation = .ok () ∧
      after = ⟨growth.nodes.push { invocation with id := growth.nodes.size },
        ⟨growth.nodes.size, invocation.level⟩ :: parentPath⟩ := by
  dsimp only [take] at taken
  split at taken
  · cases taken
  next parentPath passed =>
    split at taken
    · cases taken
    next measured =>
      cases taken
      exact ⟨parentPath, passed, measured, rfl⟩

theorem take_of_checks {parentPath : List PathEntry}
    (passed : checkInvocation known (levelAt? growth.nodes) growth.path growth.nodes.size
      invocation = .ok parentPath)
    (measured : checkMeasures growth.nodes.size invocation = .ok ()) :
    growth.take known invocation =
      .ok ⟨growth.nodes.push { invocation with id := growth.nodes.size },
        ⟨growth.nodes.size, invocation.level⟩ :: parentPath⟩ := by
  simp [take, passed, measured]

theorem Consistent.take (consistent : growth.Consistent rules)
    (knows : ∀ id, id ∈ known ↔ ∃ rule ∈ rules, rule.id = id)
    (taken : growth.take known invocation = .ok after) : after.Consistent rules := by
  rcases take_eq_ok taken with ⟨parentPath, passed, measured, rfl⟩
  have verdict :=
    checkInvocation_map_unit consistent.agrees known growth.nodes.size invocation
  rw [passed] at verdict
  refine ⟨FormsTree.push_iff.mpr ⟨consistent.tree, ?_⟩, ?_⟩
  · exact wellPlaced_of_accepts knows verdict.symm measured
  · intro entry onPath
    rcases List.mem_cons.mp onPath with rfl | older
    · exact levelAt?_push_size growth.nodes _
    · exact levelAt?_push_of_eq_some
        (consistent.agrees.of_checkInvocation passed entry older) _

/-- Everything that is taken ends up behind the nodes, in order and numbered, and the nodes stay a
tree. -/
theorem Consistent.takeAll (consistent : growth.Consistent rules)
    (knows : ∀ id, id ∈ known ↔ ∃ rule ∈ rules, rule.id = id)
    (taken : growth.takeAll known invocations = .ok after) :
    after.Consistent rules ∧
      after.nodes = growth.nodes ++ numbered growth.nodes.size invocations := by
  induction invocations generalizing growth with
  | nil =>
      cases taken
      exact ⟨consistent, by simp⟩
  | cons invocation rest ih =>
      rw [takeAll_cons] at taken
      cases first : growth.take known invocation with
      | error corruption => simp [first, Except.bind] at taken
      | ok next =>
          rw [first] at taken
          rcases ih (consistent.take knows first) taken with ⟨afterConsistent, afterNodes⟩
          refine ⟨afterConsistent, ?_⟩
          rcases take_eq_ok first with ⟨parentPath, _, _, rfl⟩
          rw [append_numbered_cons, afterNodes]
          simp

/-- Whatever leaves a tree behind is taken. -/
theorem Consistent.exists_takeAll (consistent : growth.Consistent rules)
    (knows : ∀ id, id ∈ known ↔ ∃ rule ∈ rules, rule.id = id)
    (room : growth.nodes.size + invocations.length ≤ 2 ^ 31)
    (tree : FormsTree rules (growth.nodes ++ numbered growth.nodes.size invocations)) :
    ∃ after, growth.takeAll known invocations = .ok after := by
  induction invocations generalizing growth with
  | nil => exact ⟨growth, rfl⟩
  | cons invocation rest ih =>
      rw [List.length_cons] at room
      rw [append_numbered_cons] at tree
      have placed := (FormsTree.push_iff.mp tree.of_append).2
      rcases accepts_of_wellPlaced consistent.tree knows (by omega) placed with ⟨passed, measured⟩
      have verdict :=
        checkInvocation_map_unit consistent.agrees known growth.nodes.size invocation
      rw [passed] at verdict
      cases outcome : checkInvocation known (levelAt? growth.nodes) growth.path
          growth.nodes.size invocation with
      | error corruption => simp [outcome, Except.map] at verdict
      | ok parentPath =>
          have taken := take_of_checks outcome measured
          rcases ih (consistent.take knows taken) (by simp; omega) (by simpa using tree) with
            ⟨after, rest_taken⟩
          exact ⟨after, by rw [takeAll_cons, taken]; exact rest_taken⟩

end Growth

section Batch

variable {invocations : List Invocation}

/-- The two places where the level of an earlier node is looked up hold all the nodes so far. -/
theorem earlierLevel?_eq (stored rows : Array StoredNode) :
    earlierLevel? stored stored.size rows = levelAt? (stored ++ rows) := by
  funext id
  simp only [earlierLevel?, levelAt?]
  split
  next fromBatch =>
    rcases Int.le.dest fromBatch with ⟨offset, rfl⟩
    have here : (stored.size : Int) + offset - stored.size = offset := by omega
    have there : (stored.size : Int) + offset = ((stored.size + offset : Nat) : Int) := by omega
    rw [here, there, nodeAt?_natCast, nodeAt?_natCast,
      Array.getElem?_append_right (Nat.le_add_right ..), Nat.add_sub_cancel_left]
  next fromStore =>
    cases id with
    | ofNat place =>
        have inside : place < stored.size := Int.ofNat_lt.mp (Int.not_le.mp fromStore)
        simp [nodeAt?, Array.getElem?_append_left inside]
    | negSucc place => rfl

theorem add_wrapId {first place : Nat} (small : place < 2 ^ 31) :
    (first : Int) + wrapId place = ((first + place : Nat) : Int) := by
  rw [wrapId_eq small]
  rfl

theorem natCast_le_maxNodeId {number : Nat} : (number : Int) ≤ maxNodeId ↔ number < 2 ^ 31 := by
  change (number : Int) ≤ 2147483647 ↔ number < 2147483648
  omega

theorem idAt?_eq {first place : Nat} (room : first + place < 2 ^ 31) :
    idAt? first place = some ((first + place : Nat) : Int) := by
  simp only [idAt?]
  rw [add_wrapId (by omega), if_pos (natCast_le_maxNodeId.mpr room)]

/-- A batch is taken like its invocations one by one. -/
theorem takeBatch_eq_takeAll (known : List RuleId) (stored rows : Array StoredNode)
    (path : List PathEntry) (room : stored.size + rows.size + invocations.length ≤ 2 ^ 31) :
    (takeBatch known stored stored.size rows path invocations).map
        (fun taken => (⟨stored ++ taken.1, taken.2⟩ : Growth)) =
      Growth.takeAll known ⟨stored ++ rows, path⟩ invocations := by
  induction invocations generalizing rows path with
  | nil => rfl
  | cons invocation rest ih =>
      rw [List.length_cons] at room
      rw [takeBatch, idAt?_eq (by omega), earlierLevel?_eq, Growth.takeAll_cons, Growth.take,
        Array.size_append]
      dsimp only
      cases checkInvocation known (levelAt? (stored ++ rows)) path
          ((stored.size + rows.size : Nat) : Int) invocation with
      | error corruption => rfl
      | ok parentPath =>
          dsimp only
          cases checkMeasures ((stored.size + rows.size : Nat) : Int) invocation with
          | error corruption => rfl
          | ok _ =>
              dsimp only
              rw [ih _ _ (by simp; omega), Array.append_push]
              rfl

/-- So it is from its first invocation on. -/
theorem takeBatch_empty_eq_takeAll (known : List RuleId) (stored : Array StoredNode)
    (path : List PathEntry) (room : stored.size + invocations.length ≤ 2 ^ 31) :
    (takeBatch known stored stored.size #[] path invocations).map
        (fun taken => (⟨stored ++ taken.1, taken.2⟩ : Growth)) =
      Growth.takeAll known ⟨stored, path⟩ invocations := by
  rw [takeBatch_eq_takeAll known stored #[] path room, Array.append_empty]

theorem size_of_takeBatch {known : List RuleId} {stored rows rowsAfter : Array StoredNode}
    {first : NodeId} {path pathAfter : List PathEntry}
    (taken : takeBatch known stored first rows path invocations = .ok (rowsAfter, pathAfter)) :
    rowsAfter.size = rows.size + invocations.length := by
  induction invocations generalizing rows path with
  | nil =>
      cases taken
      rfl
  | cons invocation rest ih =>
      simp only [takeBatch] at taken
      split at taken
      · cases taken
      split at taken
      · cases taken
      split at taken
      · cases taken
      · rw [ih taken, Array.size_push, List.length_cons]
        omega

/-- The number behind a batch is the number of the nodes that there are with it. -/
theorem next_of_takeBatch {known : List RuleId} {stored rows : Array StoredNode} {first : NodeId}
    {path pathAfter : List PathEntry} (small : invocations.length < 2 ^ 31)
    (taken : takeBatch known stored first #[] path invocations = .ok (rows, pathAfter)) :
    (stored.size : Int) + wrapId invocations.length = ((stored ++ rows).size : Int) := by
  have grown : rows.size = invocations.length := by simpa using size_of_takeBatch taken
  rw [add_wrapId small, Array.size_append, grown]

end Batch

end ParseTrace.Store
