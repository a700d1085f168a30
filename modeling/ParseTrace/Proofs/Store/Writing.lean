import ParseTrace.Proofs.Store.Growth
import ParseTrace.Proofs.Store.Invariant
import ParseTrace.Proofs.Store.Transaction

/-!
# What writing does to a sound store

A closed store refuses to be written to. An open one takes rules as long as all identifiers stay
different, and it takes invocations like `Growth.takeAll` does. Either way the store that is left
behind is sound again, so writing never has to be looked at more closely than here.
-/

namespace ParseTrace.Store

/-- The store with further rules, and with the writer's notes on them. -/
def withRules (store : Store) (writer : Writer) (rules : List Rule) : Store :=
  { store with
    rules := store.rules ++ rules
    writer := some { writer with known := writer.known ++ rules.map Rule.id }
    tracker := { store.tracker with rules := Tracker.wrapAdd store.tracker.rules rules.length } }

/-- The store with the nodes to which it grows, and with the writer's notes on them. -/
def withNodes (store : Store) (writer : Writer) (growth : Growth) : Store :=
  { store with
    nodes := growth.nodes
    writer := some { writer with next := growth.nodes.size, path := growth.path }
    tracker :=
      { store.tracker with
        nodes := Tracker.wrapAdd store.tracker.nodes (growth.nodes.size - store.nodes.size) } }

variable {store : Store} {writer : Writer} {rules : List Rule} {growth : Growth}

theorem appendRules_of_closed (closed : store.closed = true) (rules : List Rule) :
    (store.appendRules rules).2 = store := by
  simp only [appendRules_eq_atOnce]
  split
  · rfl
  · cases store.writer with
    | none => rfl
    | some writer => rfl

theorem appendBatch_of_closed (closed : store.closed = true) (invocations : List Invocation) :
    (store.appendBatch invocations).2 = store := by
  cases written : store.writer with
  | none => rw [appendBatch_of_noWriter written]
  | some writer =>
      by_cases nothing : invocations = []
      · rw [nothing, appendBatch_nil written]
      · rw [appendBatch_of_shut written closed nothing]

/-- All identifiers stay different exactly if the new ones are different and none is declared. -/
theorem nodup_append_iff (nodup : (store.rules.map Rule.id).Nodup) (rules : List Rule) :
    ((store.rules ++ rules).map Rule.id).Nodup ↔ store.Undeclared rules := by
  rw [List.map_append, List.nodup_append]
  simp only [Undeclared, nodup, true_and, rule?_eq_none_iff, List.mem_map, forall_exists_index, and_imp,
    forall_apply_eq_imp_iff₂]
  refine and_congr_right fun _ => ?_
  constructor
  · intro different rule isNew old declared
    exact different old declared rule isNew
  · intro different old declared rule isNew
    exact different rule isNew old declared

namespace Declares

/-- A rule is found under its identifier, as no other one has it. -/
theorem rule?_eq_some_iff (declares : store.Declares) {id : RuleId} {rule : Rule} :
    store.rule? id = some rule ↔ rule ∈ store.rules ∧ rule.id = id := by
  constructor
  · intro found
    exact ⟨List.mem_of_find?_eq_some found, by simpa using List.find?_some found⟩
  · rintro ⟨declared, rfl⟩
    cases found : store.rule? rule.id with
    | none => exact absurd rfl (rule?_eq_none_iff.mp found rule declared)
    | some other =>
        have isDeclared : other ∈ store.rules := List.mem_of_find?_eq_some found
        have same : other.id = rule.id := by simpa using List.find?_some found
        rw [List.inj_on_of_nodup_map declares.ids_nodup isDeclared declared same]

theorem ruleCount_le (declares : store.Declares) : store.tracker.rules ≤ 2 ^ 32 := by
  rw [declares.ruleCount_eq]
  exact length_rules_le declares.ids_nodup declares.ids_inRange

theorem ruleCount_lt (declares : store.Declares) : store.tracker.rules < countLimit := by
  have := declares.ruleCount_le
  simp only [countLimit]
  omega

theorem withRules (declares : store.Declares)
    (allNew : ((store.rules ++ rules).map Rule.id).Nodup)
    (inRange : ∀ rule ∈ rules, Numeral.IntegerRange.signed32.Contains rule.id) :
    (store.withRules writer rules).Declares := by
  have allInRange : ∀ rule ∈ store.rules ++ rules,
      Numeral.IntegerRange.signed32.Contains rule.id :=
    List.forall_mem_append.mpr ⟨declares.ids_inRange, inRange⟩
  refine ⟨allNew, allInRange, ?_⟩
  have fits := length_rules_le allNew allInRange
  rw [List.length_append] at fits
  simp only [Store.withRules, List.length_append, declares.ruleCount_eq]
  exact Tracker.wrapAdd_eq_add (by unfold countLimit; omega)

end Declares

namespace Sound

theorem withRules_nil (sound : store.Sound) (written : store.writer = some writer) :
    store.withRules writer [] = store := by
  have count := Tracker.wrapAdd_eq_add (show store.tracker.rules + 0 < countLimit from
    sound.declares.ruleCount_lt)
  simp [withRules, count, ← written]

/-- An open store takes rules exactly if all identifiers stay different. -/
theorem appendRules_eq (sound : store.Sound) (written : store.writer = some writer)
    (isOpen : store.closed = false) (rules : List Rule) :
    store.appendRules rules =
      if ((store.rules ++ rules).map Rule.id).Nodup then (.ok (), store.withRules writer rules)
      else (.error (.storage .duplicateRule), store) := by
  cases rules with
  | nil => simp [appendRules_eq_atOnce, sound.ids_nodup, sound.withRules_nil written]
  | cons rule rest =>
      rw [if_congr (nodup_append_iff sound.ids_nodup (rule :: rest)) rfl rfl]
      simp [appendRules_eq_atOnce, Store.withRules, written, isOpen]

theorem appendRules_eq_ok_iff {after : Store} (sound : store.Sound)
    (written : store.writer = some writer) (isOpen : store.closed = false) :
    store.appendRules rules = (.ok (), after) ↔
      ((store.rules ++ rules).map Rule.id).Nodup ∧ after = store.withRules writer rules := by
  rw [sound.appendRules_eq written isOpen]
  split
  next allNew => simp only [Prod.mk.injEq, true_and, allNew, eq_comm]
  next repeated => simp only [Prod.mk.injEq, reduceCtorEq, repeated, false_and]

theorem withRules (sound : store.Sound) (written : store.writer = some writer)
    (allNew : ((store.rules ++ rules).map Rule.id).Nodup)
    (inRange : ∀ rule ∈ rules, Numeral.IntegerRange.signed32.Contains rule.id) :
    (store.withRules writer rules).Sound where
  tree := sound.tree.mono_rules fun _ => List.mem_append_left rules
  ids_nodup := allNew
  ids_inRange := (sound.declares.withRules allNew inRange).ids_inRange
  described := by
    rcases sound.described with ⟨current, isCurrent, describes⟩
    obtain rfl : current = writer := Option.some.inj (isCurrent.symm.trans written)
    refine ⟨_, rfl, describes.next_eq, ?_, describes.path_agrees⟩
    intro id
    simp only [Store.withRules, List.mem_append, describes.known_iff id, List.mem_map, or_and_right,
      exists_or]
  ruleCount_eq := (sound.declares.withRules allNew inRange).ruleCount_eq
  nodeCount_eq := sound.nodeCount_eq

theorem consistent (sound : store.Sound) (written : store.writer = some writer) :
    Growth.Consistent store.rules ⟨store.nodes, writer.path⟩ := by
  rcases sound.described with ⟨current, isCurrent, describes⟩
  obtain rfl : current = writer := Option.some.inj (isCurrent.symm.trans written)
  exact ⟨sound.tree, describes.path_agrees⟩

theorem knows (sound : store.Sound) (written : store.writer = some writer) (id : RuleId) :
    id ∈ writer.known ↔ ∃ rule ∈ store.rules, rule.id = id := by
  rcases sound.described with ⟨current, isCurrent, describes⟩
  obtain rfl : current = writer := Option.some.inj (isCurrent.symm.trans written)
  exact describes.known_iff id

theorem next_eq (sound : store.Sound) (written : store.writer = some writer) :
    writer.next = store.nodes.size := by
  rcases sound.described with ⟨current, isCurrent, describes⟩
  obtain rfl : current = writer := Option.some.inj (isCurrent.symm.trans written)
  exact describes.next_eq

theorem nodeCount_lt (sound : store.Sound) (room : store.nodes.size < 2 ^ 31) :
    store.tracker.nodes < countLimit := by
  rw [sound.nodeCount_eq]
  simp only [countLimit]
  omega

theorem withNodes_self (sound : store.Sound) (written : store.writer = some writer)
    (room : store.nodes.size < 2 ^ 31) :
    store.withNodes writer ⟨store.nodes, writer.path⟩ = store := by
  have count := Tracker.wrapAdd_eq_add (show store.tracker.nodes + 0 < countLimit from
    sound.nodeCount_lt room)
  simp [withNodes, count, ← sound.next_eq written, ← written]

/-- An open store takes a batch like its invocations one by one. -/
theorem appendBatch_eq (sound : store.Sound) (written : store.writer = some writer)
    (isOpen : store.closed = false) {invocations : List Invocation}
    (room : store.nodes.size + invocations.length < 2 ^ 31) :
    store.appendBatch invocations =
      match Growth.takeAll writer.known ⟨store.nodes, writer.path⟩ invocations with
      | .error corruption => (.error (.corrupt corruption), store)
      | .ok growth => (.ok store.nodes.size, store.withNodes writer growth) := by
  cases invocations with
  | nil =>
      simp [appendBatch_nil written, sound.next_eq written, sound.withNodes_self written room]
  | cons invocation rest =>
      generalize batch : invocation :: rest = invocations at room ⊢
      have nonempty : invocations ≠ [] := by simp [← batch]
      have asOne := takeBatch_empty_eq_takeAll writer.known store.nodes writer.path
        (Nat.le_of_lt room)
      rw [← asOne, appendBatch_of_open written isOpen nonempty, sound.next_eq written]
      cases taken : takeBatch writer.known store.nodes store.nodes.size #[] writer.path
          invocations with
      | error corruption => rfl
      | ok result =>
          rcases result with ⟨rows, path⟩
          have grown : rows.size = invocations.length := by simpa using size_of_takeBatch taken
          have next := next_of_takeBatch (by omega) taken
          have inRange : ((store.nodes ++ rows).size : Int) ≤ maxNodeId := by
            rw [natCast_le_maxNodeId, Array.size_append, grown]
            exact room
          simp only [next, if_pos inRange]
          simp [withNodes, Except.map, grown, isOpen]

theorem withNodes (sound : store.Sound) (written : store.writer = some writer)
    {invocations : List Invocation}
    (room : store.nodes.size + invocations.length < 2 ^ 31)
    (taken : Growth.takeAll writer.known ⟨store.nodes, writer.path⟩ invocations = .ok growth) :
    (store.withNodes writer growth).Sound := by
  rcases (sound.consistent written).takeAll (sound.knows written) taken with ⟨consistent, nodes⟩
  dsimp only at nodes
  have grown : growth.nodes.size = store.nodes.size + invocations.length := by simp [nodes]
  have knows := sound.knows written
  exact
    { tree := consistent.tree
      ids_nodup := sound.ids_nodup
      ids_inRange := sound.ids_inRange
      described := ⟨_, rfl, rfl, knows, consistent.agrees⟩
      ruleCount_eq := sound.ruleCount_eq
      nodeCount_eq := by
        simp only [Store.withNodes, sound.nodeCount_eq, grown, Nat.add_sub_cancel_left]
        exact Tracker.wrapAdd_eq_add (by unfold countLimit; omega) }

end Sound

end ParseTrace.Store
