import Mathlib.Algebra.Group.Nat.Defs
import ParseTrace.Proofs.Store.Placement

/-!
# Checking one invocation

The check looks for the parent on the writer's path before it asks for the levels of the earlier
nodes. As long as the path agrees with those levels, it finds the same parent at the same level, so
the check comes to the verdict of `checkByLevels`, which has no path at all, and the path that it
returns agrees with the levels again.

As long as the numbers of nodes stay in range, an invocation passes this check and the check of its
measures exactly when it is well placed behind the nodes so far.
-/

namespace ParseTrace.Store

/-- Every entry of a path has the level of the node that it names. -/
def PathAgrees (levelOf? : NodeId → Option Nat) (path : List PathEntry) : Prop :=
  ∀ entry ∈ path, levelOf? entry.node = some entry.level

/-- The check of an invocation by the levels of the earlier nodes alone. -/
def checkByLevels (known : List RuleId) (levelOf? : NodeId → Option Nat) (id : NodeId)
    (invocation : Invocation) : Except Corruption Unit :=
  if invocation.rule ∉ known then .error (.unknownRule id invocation.rule)
  else if invocation.stop < invocation.start then
    .error (.endsBeforeStart id invocation.start invocation.stop)
  else
    match invocation.parent with
    | none =>
        if id ≠ 0 then .error (.missingParent id)
        else if invocation.level ≠ 0 then .error (.rootLevel invocation.level)
        else .ok ()
    | some parent =>
        if id ≤ parent then .error (.parentNotEarlier id parent)
        else
          match levelOf? parent with
          | none => .error (.unknownParent id parent)
          | some parentLevel =>
              if invocation.level = parentLevel + 1 then .ok ()
              else .error (.levelMismatch id invocation.level parent parentLevel)

variable {known : List RuleId} {levelOf? : NodeId → Option Nat} {path parentPath : List PathEntry}
  {id : NodeId} {invocation : Invocation}

theorem findParent?_eq_none_iff (agrees : PathAgrees levelOf? path) {parent : NodeId} :
    findParent? levelOf? path parent = none ↔ levelOf? parent = none := by
  simp only [findParent?]
  split
  next entry rest found =>
    have onPath : entry ∈ path := (List.dropWhile_sublist _).subset (found ▸ List.mem_cons_self)
    have isParent : entry.node = parent := by
      have stopped := List.head?_dropWhile_not (fun entry => entry.node != parent) path
      rw [found] at stopped
      simpa using stopped
    simp [← isParent, agrees entry onPath]
  next => simp

theorem findParent?_eq_some (agrees : PathAgrees levelOf? path) {parent : NodeId}
    {parentLevel : Nat}
    (found : findParent? levelOf? path parent = some (parentLevel, parentPath)) :
    levelOf? parent = some parentLevel ∧ PathAgrees levelOf? parentPath := by
  simp only [findParent?] at found
  split at found
  next entry rest dropped =>
    have onPath : ∀ other ∈ entry :: rest, other ∈ path :=
      fun other kept => (List.dropWhile_sublist _).subset (dropped ▸ kept)
    have isParent : entry.node = parent := by
      have stopped := List.head?_dropWhile_not (fun entry => entry.node != parent) path
      rw [dropped] at stopped
      simpa using stopped
    simp only [Option.some.injEq, Prod.mk.injEq] at found
    rcases found with ⟨rfl, rfl⟩
    refine ⟨?_, fun other kept => agrees other (onPath other kept)⟩
    rw [← isParent]
    exact agrees entry (onPath entry List.mem_cons_self)
  next =>
    simp only [Option.map_eq_some_iff, Prod.mk.injEq] at found
    rcases found with ⟨level, levelFound, rfl, rfl⟩
    refine ⟨levelFound, ?_⟩
    intro entry isOnly
    rw [List.mem_singleton.mp isOnly]
    exact levelFound

/-- A path that agrees with the levels never changes a verdict. -/
theorem checkInvocation_map_unit (agrees : PathAgrees levelOf? path) (known : List RuleId)
    (id : NodeId) (invocation : Invocation) :
    (checkInvocation known levelOf? path id invocation).map (fun _ => ()) =
      checkByLevels known levelOf? id invocation := by
  simp only [checkInvocation, checkByLevels]
  split
  · rfl
  split
  · rfl
  cases invocation.parent with
  | none =>
      dsimp only
      split
      · rfl
      split
      · rfl
      · rfl
  | some parent =>
      dsimp only
      split
      · rfl
      cases found : findParent? levelOf? path parent with
      | none =>
          rw [(findParent?_eq_none_iff agrees).mp found]
          rfl
      | some result =>
          rcases result with ⟨parentLevel, parentPath⟩
          rw [(findParent?_eq_some agrees found).1]
          dsimp only
          split
          · rfl
          · rfl

/-- The path to the parent agrees with the levels, too. -/
theorem PathAgrees.of_checkInvocation (agrees : PathAgrees levelOf? path)
    (passed : checkInvocation known levelOf? path id invocation = .ok parentPath) :
    PathAgrees levelOf? parentPath := by
  simp only [checkInvocation] at passed
  split at passed
  · cases passed
  split at passed
  · cases passed
  split at passed
  next =>
    split at passed
    · cases passed
    split at passed
    · cases passed
    · cases passed
      exact agrees
  next parent =>
    split at passed
    · cases passed
    split at passed
    · cases passed
    next found =>
      split at passed
      · cases passed
        exact (findParent?_eq_some agrees found).2
      · cases passed

theorem checkByLevels_eq_ok_iff :
    checkByLevels known levelOf? id invocation = .ok () ↔
      invocation.rule ∈ known ∧ invocation.start ≤ invocation.stop ∧
        ((id = 0 ∧ invocation.parent = none ∧ invocation.level = 0) ∨
          ∃ parent parentLevel, invocation.parent = some parent ∧ parent < id ∧
            levelOf? parent = some parentLevel ∧ invocation.level = parentLevel + 1) := by
  simp only [checkByLevels]
  by_cases isKnown : invocation.rule ∈ known
  · by_cases backwards : invocation.stop < invocation.start
    · simp [isKnown, backwards, Nat.not_le.mpr backwards]
    · have forwards : invocation.start ≤ invocation.stop := Nat.not_lt.mp backwards
      cases invocation.parent with
      | none =>
          by_cases first : id = 0 <;> by_cases top : invocation.level = 0 <;>
            simp [isKnown, backwards, forwards, first, top]
      | some parent =>
          by_cases late : id ≤ parent
          · have notEarlier : ¬parent < id := Int.not_lt.mpr late
            simp [isKnown, backwards, late, notEarlier]
          · have earlier : parent < id := Int.not_le.mp late
            cases found : levelOf? parent with
            | none => simp [isKnown, backwards, late, found]
            | some parentLevel => simp [isKnown, backwards, forwards, late, earlier, found]
  · simp [isKnown]

theorem checkMeasures_eq_ok_iff :
    checkMeasures id invocation = .ok () ↔
      invocation.level ≤ maxStored ∧ invocation.start ≤ maxStored ∧
        invocation.stop ≤ maxStored ∧ invocation.nanos ≤ maxStoredNanos := by
  simp only [checkMeasures]
  split
  · simp; omega
  split
  · simp; omega
  split
  · simp; omega
  split
  · simp; omega
  · simp; omega

/-- Whatever passes is well placed behind the nodes so far. -/
theorem wellPlaced_of_accepts {rules : List Rule} {nodes : Array StoredNode}
    (knows : ∀ id, id ∈ known ↔ ∃ rule ∈ rules, rule.id = id)
    (passed : checkByLevels known (levelAt? nodes) nodes.size invocation = .ok ())
    (measured : checkMeasures nodes.size invocation = .ok ()) :
    WellPlaced rules nodes nodes.size { invocation with id := nodes.size } := by
  rcases checkByLevels_eq_ok_iff.mp passed with ⟨isKnown, forwards, hangs⟩
  rcases checkMeasures_eq_ok_iff.mp measured with ⟨_, _, stop, nanos⟩
  refine ⟨rfl, (knows _).mp isKnown, forwards, stop, nanos, ?_⟩
  rcases hangs with ⟨first, noParent, level⟩ | ⟨parent, parentLevel, named, earlier, found, level⟩
  · exact Or.inl ⟨by simpa using first, noParent, level⟩
  · right
    simp only [levelAt?, Option.map_eq_some_iff] at found
    rcases found with ⟨above, aboveFound, rfl⟩
    refine ⟨parent, above, Int.not_lt.mp ?_, earlier, named, aboveFound, level⟩
    intro negative
    rw [nodeAt?_eq_none_of_neg nodes negative] at aboveFound
    cases aboveFound

/-- Whatever is well placed passes, as long as the numbers of nodes stay in range: the level of a
well-placed node is bounded by its number and needs no bound of its own. -/
theorem accepts_of_wellPlaced {rules : List Rule} {nodes : Array StoredNode}
    (tree : FormsTree rules nodes) (knows : ∀ id, id ∈ known ↔ ∃ rule ∈ rules, rule.id = id)
    (room : nodes.size < 2 ^ 31)
    (placed : WellPlaced rules nodes nodes.size { invocation with id := nodes.size }) :
    checkByLevels known (levelAt? nodes) nodes.size invocation = .ok () ∧
      checkMeasures nodes.size invocation = .ok () := by
  rcases placed with ⟨_, declared, forwards, stop, nanos, hangs⟩
  rw [checkByLevels_eq_ok_iff, checkMeasures_eq_ok_iff]
  have levelFits : invocation.level ≤ maxStored := by
    rcases hangs with ⟨_, _, level⟩ | ⟨parent, above, _, _, _, found, level⟩
    · dsimp only at level
      omega
    · rcases nodeAt?_eq_some_iff.mp found with ⟨place, rfl, present⟩
      have := tree.level_le present
      have inside : place < nodes.size := (Array.getElem?_eq_some_iff.mp present).1
      dsimp only at level
      simp only [maxStored]
      omega
  have startFits : invocation.start ≤ maxStored := Nat.le_trans forwards stop
  refine ⟨⟨(knows _).mpr declared, forwards, ?_⟩, levelFits, startFits, stop, nanos⟩
  rcases hangs with ⟨first, noParent, level⟩ | ⟨parent, above, _, earlier, named, found, level⟩
  · exact Or.inl ⟨by simpa using first, noParent, level⟩
  · exact Or.inr ⟨parent, above.level, named, earlier, by simp [levelAt?, found], level⟩

end ParseTrace.Store
