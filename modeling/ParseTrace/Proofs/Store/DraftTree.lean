import ParseTrace.Proofs.Capture.RoundTrip
import ParseTrace.Proofs.Store.Exactness
import ParseTrace.Proofs.Store.Subtree

/-!
# From a draft to a stored tree

A draft whose first invocation alone is without a parent describes a tree. The levels that it works
out are the ones that a store accepts, so its written capture can be loaded, and the depth that it
announces is enough for every way up. The order in which the tree was recorded plays no part.
-/

namespace ParseTrace

open Store (WayUp listedNode maxBatch maxStored maxStoredNanos)

/-- Identifiers of 32 bits do not repeat before all are given out. -/
theorem wrapId_inj {first second : Nat} (firstSmall : first < 2 ^ 32) (secondSmall : second < 2 ^ 32)
    (same : wrapId first = wrapId second) : first = second := by
  have sameResidue : (first : Int).bmod 4294967296 = (second : Int).bmod 4294967296 := same
  rw [Int.bmod_def, Int.bmod_def] at sameResidue
  split at sameResidue <;> split at sameResidue <;> omega

namespace Draft

variable {draft : Draft} {capturedAt : Int} {input : String} {requests : List Request}
  {batchSize : Nat}

/-- The invocations of a draft hang together in one tree, and a store can hold them. -/
structure DescribesTree (draft : Draft) : Prop where
  root_first : ∀ (place : Nat) (node : Invocation), draft.nodes[place]? = some node →
    (node.parent = none ↔ place = 0)
  rule_declared : ∀ node ∈ draft.nodes, ∃ rule ∈ draft.rules, rule.id = node.rule
  start_le_stop : ∀ node ∈ draft.nodes, node.start ≤ node.stop
  stop_le : ∀ node ∈ draft.nodes, node.stop ≤ maxStored
  nanos_le : ∀ node ∈ draft.nodes, node.nanos ≤ maxStoredNanos

/-- The invocations of a draft as a store holds them. -/
def stored (draft : Draft) : Array StoredNode :=
  draft.nodes.mapIdx fun place node => { node with id := (place : Int) }

theorem getElem?_stored_eq_some_iff {place : Nat} {record : StoredNode} :
    draft.stored[place]? = some record ↔
      ∃ node, draft.nodes[place]? = some node ∧ record = { node with id := (place : Int) } := by
  simp [stored, eq_comm]

theorem size_stored (draft : Draft) : draft.stored.size = draft.nodes.size := by
  simp [stored]

namespace Sound

theorem nodup_ids (sound : draft.Sound) (few : draft.rules.size ≤ 2 ^ 32) :
    (draft.rules.toList.map Rule.id).Nodup := by
  have numbers : draft.rules.toList.map Rule.id =
      (List.range draft.rules.size).map fun place : Nat => wrapId place := by
    apply List.ext_getElem?
    intro place
    rw [List.getElem?_map, List.getElem?_map, Array.getElem?_toList]
    cases found : draft.rules[place]? with
    | none => simp [Array.getElem?_eq_none_iff.mp found]
    | some rule =>
        have inside : place < draft.rules.size := (Array.getElem?_eq_some_iff.mp found).1
        simp [inside, sound.id_eq place rule found]
  rw [numbers]
  refine List.nodup_range.map_on fun first isFirst second isSecond same => ?_
  rw [List.mem_range] at isFirst isSecond
  exact wrapId_inj (Nat.lt_of_lt_of_le isFirst few) (Nat.lt_of_lt_of_le isSecond few) same

/-- The numbers of a draft that describes a tree have the sizes in which they are handed over. -/
theorem typed (sound : draft.Sound) (describes : draft.DescribesTree) :
    ∀ node ∈ draft.nodes, node.call.Typed := by
  intro node present
  have ordered := describes.start_le_stop node present
  have stop := describes.stop_le node present
  have nanos := describes.nanos_le node present
  simp only [maxStored, maxStoredNanos] at stop nanos
  refine ⟨?_, ?_, ?_, ?_⟩
  · rcases describes.rule_declared node present with ⟨rule, declared, same⟩
    rcases Array.mem_iff_getElem?.mp declared with ⟨place, found⟩
    have given : node.call.rule = wrapId place :=
      same.symm.trans (sound.id_eq place rule found)
    rw [given]
    exact signed32_wrapId place
  all_goals
    simp only [Invocation.call, Numeral.IntegerRange.Contains, Numeral.IntegerRange.unsigned64]
    omega

theorem formsTree (sound : draft.Sound) (describes : draft.DescribesTree) :
    FormsTree draft.rules.toList draft.stored := by
  intro place record found
  rcases getElem?_stored_eq_some_iff.mp found with ⟨node, present, rfl⟩
  have isNode : node ∈ draft.nodes := Array.mem_of_getElem? present
  refine ⟨rfl, ?_, describes.start_le_stop node isNode, describes.stop_le node isNode,
    describes.nanos_le node isNode, ?_⟩
  · rcases describes.rule_declared node isNode with ⟨rule, declared, same⟩
    exact ⟨rule, Array.mem_toList_iff.mpr declared, same⟩
  · rcases sound.hangs place node present with
      ⟨noParent, level⟩ | ⟨parent, above, earlier, named, aboveFound, level⟩
    · exact Or.inl ⟨(describes.root_first place node present).mp noParent, noParent, level⟩
    · refine Or.inr ⟨parent, { above with id := (parent : Int) }, Int.natCast_nonneg parent,
        Int.ofNat_lt.mpr earlier, named, ?_, level⟩
      exact getElem?_stored_eq_some_iff.mpr ⟨above, aboveFound, rfl⟩

end Sound

theorem Writable.recorded_eq (writable : draft.Writable) :
    draft.capture.recorded = draft.stored := by
  rw [Capture.recorded, writable.readInvocations_eq]
  apply Array.ext_getElem?
  intro place
  simp [listed, stored, listedNode, Option.map_map, Function.comp_def]

theorem Writable.recordCounts_eq (writable : draft.Writable) :
    draft.capture.recordCounts = ⟨draft.rules.size, draft.nodes.size⟩ := by
  have nodes : draft.capture.readInvocations.items.length = draft.nodes.size := by
    rw [writable.readInvocations_eq]
    simp [listed]
  rw [Capture.recordCounts_eq (by rw [writable.readRules_eq]) (by rw [writable.readInvocations_eq]),
    nodes, writable.readRules_eq]
  rfl

theorem Writable.few_records (writable : draft.Writable) (fewNodes : draft.nodes.size < 2 ^ 31) :
    draft.capture.nodes.records.length < 2 ^ 31 := by
  have nodes := congrArg Store.LoadSummary.nodes writable.recordCounts_eq
  exact Nat.lt_of_le_of_lt (Nat.le_of_eq nodes) fewNodes

/-- The written capture of a tree can be loaded. -/
theorem Writable.loadable (writable : draft.Writable) (sound : draft.Sound)
    (describes : draft.DescribesTree) (few : draft.rules.size ≤ 2 ^ 32) :
    draft.capture.Loadable := by
  rw [Capture.loadable_iff, writable.readRules_eq, writable.readInvocations_eq,
    writable.recorded_eq]
  exact ⟨rfl, rfl, sound.nodup_ids few, sound.formsTree describes⟩

/-- A new store takes the written capture of a tree, whatever the size of the batches, and then
holds its rules and its invocations under the announced header. -/
theorem Writable.ingest_eq (writable : draft.Writable) (sound : draft.Sound)
    (describes : draft.DescribesTree) (fewRules : draft.rules.size ≤ 2 ^ 32)
    (fewNodes : draft.nodes.size < 2 ^ 31) (label : String) (fits : max batchSize 1 ≤ maxBatch) :
    ∃ after,
      (Store.create label draft.header).ingest draft.capture batchSize false =
        (.ok ⟨draft.rules.size, draft.nodes.size⟩, after) ∧
      after.Sound ∧ after.closed = false ∧ after.header = draft.header ∧
      after.rules = draft.rules.toList ∧ after.nodes = draft.stored := by
  have loadable := writable.loadable sound describes fewRules
  have few := writable.few_records fewNodes
  have short := Nat.le_trans draft.capture.length_readInvocations_le few.le
  rcases Store.exists_growth_of_loadable loadable short with ⟨growth, taken, _⟩
  have loaded := (Store.ingest_eq_ok_iff (Store.sound_create label draft.header) rfl rfl rfl rfl
    fits few).mpr ⟨loadable, rfl, growth, taken, rfl⟩
  rcases Store.contents_of_ingest_create fits few loaded with ⟨afterSound, isOpen, rules, nodes⟩
  rw [writable.recordCounts_eq] at loaded
  refine ⟨_, loaded, afterSound, isOpen, rfl, ?_, ?_⟩
  · rw [rules, writable.readRules_eq]
  · rw [nodes, writable.recorded_eq]

/-- From the requests to the tree: what was recorded of a tree, in whatever order, is written,
opened and loaded, with levels that count the links up to the root and a depth of one more than the
largest level. Every way up can be followed, and the whole tree can be shown. -/
theorem tree_of_requests (dated : Calendar.HasDate capturedAt)
    (taken : (empty capturedAt input).takeAll? requests = some draft)
    (describes : draft.DescribesTree) (fewRules : draft.rules.size ≤ 2 ^ 32)
    (fewNodes : draft.nodes.size < 2 ^ 31) (label : String)
    (fits : max batchSize 1 ≤ maxBatch) :
    ∃ capture after, Capture.open? (.archive draft.toArchive) = .ok capture ∧
      (Store.create label capture.header).ingest capture batchSize false =
        (.ok ⟨draft.rules.size, draft.nodes.size⟩, after) ∧
      after.nodes.size = draft.nodes.size ∧
      (∀ (place : Nat) (node : Invocation), draft.nodes[place]? = some node →
        after.nodes[place]? = some { node with id := (place : Int) } ∧
          ∃ chain, WayUp after.nodes place chain ∧ chain.length = node.level ∧
            after.ancestors place = .ok (place :: chain)) ∧
      (if draft.nodes.size = 0 then capture.header.depth = 0
        else (∀ node ∈ draft.nodes, node.level + 1 ≤ capture.header.depth) ∧
          ∃ node ∈ draft.nodes, node.level + 1 = capture.header.depth) ∧
      (0 < draft.nodes.size →
        ∃ tree, after.expandFully rootNode = .ok tree ∧ tree.size = draft.nodes.size) := by
  have sound := (sound_empty capturedAt input).takeAll? taken
  have writable : draft.Writable := by
    refine sound.writable ?_ (Nat.lt_of_le_of_lt fewRules (by decide)) fewNodes
      (sound.typed describes)
    rwa [(extends_of_takeAll? taken).capturedAt]
  rcases writable.ingest_eq sound describes fewRules fewNodes label fits with
    ⟨after, loaded, afterSound, isOpen, header, _, nodes⟩
  have size : after.nodes.size = draft.nodes.size := by rw [nodes, size_stored]
  refine ⟨draft.capture, after, writable.open?_toArchive, loaded, size, ?_, ?_, ?_⟩
  · intro place node found
    have present : after.nodes[place]? = some { node with id := (place : Int) } := by
      rw [nodes]
      exact getElem?_stored_eq_some_iff.mpr ⟨node, found, rfl⟩
    have isStored : Store.nodeAt? after.nodes place = some { node with id := (place : Int) } :=
      present
    rcases afterSound.tree.exists_wayUp present with ⟨chain, way⟩
    have deepEnough : node.level < draft.header.depth :=
      level_lt_depth (Array.mem_of_getElem? found)
    refine ⟨present, chain, way, afterSound.tree.length_wayUp way isStored, ?_⟩
    rw [afterSound.ancestors_eq isOpen isStored way, header, if_pos]
    change node.level ≤ max draft.header.depth 1
    omega
  · split
    next nothing => exact Nat.le_zero.mp (nothing ▸ sound.depth_le_size)
    next something =>
      refine ⟨fun node present => level_lt_depth present, ?_⟩
      rcases exists_level_eq_depth (Nat.pos_of_ne_zero something) with ⟨node, present, last⟩
      exact ⟨node, present, last.symm⟩
  · intro nonempty
    rcases afterSound.expandFully_rootNode isOpen (by omega) with
      ⟨tree, expanded, _, numbers⟩
    refine ⟨tree, expanded, ?_⟩
    rw [← tree.length_ids, numbers.length_eq, List.length_map, List.length_range, size]

/-- A tree of four nodes, recorded level by level. -/
def breadthFirstRequests : List Request :=
  [.rule ⟨"SequenceMatcher", .composite, "Expr"⟩, .rule ⟨"CharMatcher", .terminal, "Term"⟩,
    .node ⟨none, 0, true, 0, 3, 900⟩, .node ⟨some 0, 1, true, 0, 1, 100⟩,
    .node ⟨some 0, 1, false, 1, 1, 50⟩, .node ⟨some 1, 1, true, 0, 1, 20⟩]

/-- What they put together. -/
def breadthFirstDraft : Draft where
  capturedAt := 0
  input := "a+b"
  rules := #[⟨0, "SequenceMatcher", .composite, "Expr"⟩, ⟨1, "CharMatcher", .terminal, "Term"⟩]
  nodes := #[⟨none, 0, 0, true, 0, 3, 900⟩, ⟨some 0, 1, 1, true, 0, 1, 100⟩,
    ⟨some 0, 1, 1, false, 1, 1, 50⟩, ⟨some 1, 2, 1, true, 0, 1, 20⟩]

theorem breadthFirstDraft_taken :
    (empty 0 "a+b").takeAll? breadthFirstRequests = some breadthFirstDraft := by
  decide +kernel

theorem breadthFirstDraft_describesTree : breadthFirstDraft.DescribesTree where
  root_first := by
    have each : ∀ place : Fin 4, breadthFirstDraft.nodes[place].parent = none ↔ place.val = 0 := by
      decide
    intro place node found
    rcases Array.getElem?_eq_some_iff.mp found with ⟨inside, rfl⟩
    exact each ⟨place, inside⟩
  rule_declared := by decide
  start_le_stop := by decide
  stop_le := by decide
  nanos_le := by decide

theorem breadthFirstDraft_loaded :
    ∃ capture after, Capture.open? (.archive breadthFirstDraft.toArchive) = .ok capture ∧
      (Store.create "trace" capture.header).ingest capture 3 false = (.ok ⟨2, 4⟩, after) ∧
      (∃ chain, after.ancestors 3 = .ok (3 :: chain) ∧ chain.length = 2) ∧
      ∃ tree, after.expandFully rootNode = .ok tree ∧ tree.size = 4 := by
  rcases tree_of_requests (by decide) breadthFirstDraft_taken breadthFirstDraft_describesTree
    (by decide) (by decide) "trace" (show max 3 1 ≤ maxBatch by decide) with
    ⟨capture, after, opened, loaded, _, each, _, whole⟩
  rcases each 3 ⟨some 1, 2, 1, true, 0, 1, 20⟩ rfl with ⟨_, chain, _, length, followed⟩
  exact ⟨capture, after, opened, loaded, ⟨chain, followed, length⟩, whole (by decide)⟩

/-- Declarations of so many rules, all alike. -/
def alikeRules (count : Nat) : List Request :=
  List.replicate count (.rule ⟨"CharMatcher", .terminal, "Term"⟩)

theorem exists_alikeRules (count : Nat) :
    ∃ draft, (empty 0 "").takeAll? (alikeRules count) = some draft ∧
      draft.rules.size = count ∧ draft.nodes = #[] := by
  have taken : ∀ before : Draft, ∃ draft, before.takeAll? (alikeRules count) = some draft := by
    induction count with
    | zero => exact fun before => ⟨before, rfl⟩
    | succ count ih =>
        intro before
        rcases ih (before.addRule "CharMatcher" .terminal "Term").2 with ⟨draft, taken⟩
        exact ⟨draft, takeAll?_cons_eq_some_iff.mpr ⟨_, rfl, taken⟩⟩
  rcases taken (empty 0 "") with ⟨draft, taken⟩
  have holds := extends_of_takeAll? taken
  refine ⟨draft, taken, ?_, ?_⟩
  · have declared : (alikeRules count).filterMap Request.declaration? =
        List.replicate count ⟨"CharMatcher", .terminal, "Term"⟩ :=
      List.filterMap_replicate_of_some rfl
    have lengths := congrArg List.length holds.rules
    rw [declared] at lengths
    simpa [empty] using lengths
  · have noCall : (alikeRules count).filterMap Request.call? = [] := by
      simp [alikeRules, Request.call?, List.filterMap_replicate]
    have calls := holds.nodes
    rw [noCall] at calls
    simpa [empty] using calls

/-- Past 32 bits the identifiers of rules repeat, and no store takes them. -/
theorem Writable.ruleCount_le (writable : draft.Writable) (loadable : draft.capture.Loadable) :
    draft.rules.size ≤ 2 ^ 32 := by
  have bounded := Store.length_rules_le loadable.ids_nodup draft.capture.ids_inRange
  rwa [writable.readRules_eq] at bounded

theorem describesTree_of_empty (nothing : draft.nodes = #[]) : draft.DescribesTree := by
  constructor <;> simp [nothing]

/-- Batches without end find no room, and neither do rules without end. -/
theorem not_loaded_without_bounds :
    (∃ capture, Capture.open? (.archive breadthFirstDraft.toArchive) = .ok capture ∧
      ((Store.create "trace" capture.header).ingest capture 18446744073709551615 false).1 =
        .crash .capacity) ∧
    ∃ draft capture, (empty 0 "").takeAll? (alikeRules (2 ^ 32 + 1)) = some draft ∧
      draft.DescribesTree ∧ Capture.open? (.archive draft.toArchive) = .ok capture ∧
      ¬∃ summary after, (Store.create "trace" capture.header).ingest capture 1000 false =
        (.ok summary, after) := by
  constructor
  · have sound := (sound_empty 0 "a+b").takeAll? breadthFirstDraft_taken
    have writable : breadthFirstDraft.Writable :=
      sound.writable (by decide) (by decide) (by decide)
        (sound.typed breadthFirstDraft_describesTree)
    exact ⟨_, writable.open?_toArchive, by rw [Store.ingest, if_pos (by decide)]⟩
  · rcases exists_alikeRules (2 ^ 32 + 1) with ⟨draft, taken, rules, nodes⟩
    have sound := (sound_empty 0 "").takeAll? taken
    have describes := describesTree_of_empty nodes
    have fewNodes : draft.nodes.size < 2 ^ 31 := by
      rw [nodes]
      decide
    have dated : Calendar.HasDate draft.capturedAt := by
      rw [(extends_of_takeAll? taken).capturedAt]
      decide
    have writable : draft.Writable :=
      sound.writable dated (by rw [rules]; decide) fewNodes (sound.typed describes)
    refine ⟨draft, draft.capture, taken, describes, writable.open?_toArchive, ?_⟩
    rintro ⟨summary, after, loaded⟩
    have loadable := ((Store.ingest_eq_ok_iff (Store.sound_create "trace" draft.capture.header) rfl
      rfl rfl rfl (by decide) (writable.few_records fewNodes)).mp loaded).1
    have bounded := writable.ruleCount_le loadable
    omega

end Draft

end ParseTrace
