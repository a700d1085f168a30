import ParseTrace.Proofs.Store.Ingestion
import ParseTrace.Proofs.Store.Reading

/-!
# Loading is exact

A capture is loadable if its entries are whole and their records describe a tree over its rules. A
new store takes exactly the loadable captures, whatever the size of the batches, and what it holds
afterwards depends on the capture alone: its rules, and its invocations under the numbers with which
they are listed.
-/

namespace ParseTrace

namespace Capture

/-- The invocations of a capture under the numbers with which they are listed. -/
def recorded (capture : Capture) : Array StoredNode :=
  (capture.readInvocations.items.map Store.listedNode).toArray

/-- The entries of a capture are whole, and their records describe a tree over its rules. -/
structure Loadable (capture : Capture) : Prop where
  rules_whole : capture.rules.fault = none
  rules_read : ∀ record ∈ capture.rules.records, Interpretable .rules readRule record
  nodes_whole : capture.nodes.fault = none
  nodes_read : ∀ record ∈ capture.nodes.records, Interpretable .nodes readInvocation record
  ids_nodup : (capture.readRules.items.map Rule.id).Nodup
  tree : FormsTree capture.readRules.items capture.recorded

theorem loadable_iff {capture : Capture} :
    capture.Loadable ↔ capture.readRules.ending = .ok () ∧ capture.readInvocations.ending = .ok () ∧
      (capture.readRules.items.map Rule.id).Nodup ∧
      FormsTree capture.readRules.items capture.recorded := by
  rw [readRules, readInvocations, deliver_ending_iff, deliver_ending_iff]
  constructor
  · rintro ⟨rulesWhole, rulesRead, nodesWhole, nodesRead, nodup, tree⟩
    exact ⟨⟨rulesWhole, rulesRead⟩, ⟨nodesWhole, nodesRead⟩, nodup, tree⟩
  · rintro ⟨⟨rulesWhole, rulesRead⟩, ⟨nodesWhole, nodesRead⟩, nodup, tree⟩
    exact ⟨rulesWhole, rulesRead, nodesWhole, nodesRead, nodup, tree⟩

/-- The numbers of the invocations that name one as their parent, in order. -/
def childrenOf (capture : Capture) (parent : NodeId) : List NodeId :=
  (capture.recorded.toList.filter fun record => record.parent == some parent).map StoredNode.id

/-- How many records a capture has. -/
def recordCounts (capture : Capture) : Store.LoadSummary where
  rules := capture.rules.records.length
  nodes := capture.nodes.records.length

theorem length_readInvocations_le (capture : Capture) :
    capture.readInvocations.items.length ≤ capture.nodes.records.length :=
  length_deliver_le

theorem recordCounts_eq {capture : Capture} (rulesEnded : capture.readRules.ending = .ok ())
    (nodesEnded : capture.readInvocations.ending = .ok ()) :
    capture.recordCounts =
      ⟨capture.readRules.items.length, capture.readInvocations.items.length⟩ := by
  rw [recordCounts, ← length_deliver rulesEnded, ← length_deliver nodesEnded]
  rfl

end Capture

namespace Store

variable {store after : Store} {writer : Writer} {capture : Capture} {batchSize : Nat}
  {summary : LoadSummary}

/-- The invocations of a tree are listed in order. -/
theorem listed_of_tree {rules : List Rule} {items : List (NodeId × Invocation)}
    (tree : FormsTree rules (items.map listedNode).toArray) :
    items.map listedNode = (numbered 0 (items.map Prod.snd)).toList := by
  apply List.ext_getElem?
  intro place
  cases found : items[place]? with
  | none =>
      simp [numbered, found]
  | some item =>
      have placed := tree place (listedNode item) (by simp [found])
      have sameId : item.1 = place := placed.id_eq
      simp [numbered, found, listedNode, sameId]

/-- Loading succeeds if both the rules and the invocations can be stored. -/
theorem ingest_eq_ok_iff_parts (fits : max batchSize 1 ≤ maxBatch) :
    store.ingest capture batchSize false = (.ok summary, after) ↔
      ∃ rules next nodes,
        store.ingestRules capture.readRules (max batchSize 1) false = (.ok rules, next) ∧
        next.ingestNodes capture.readInvocations (max batchSize 1) false = (.ok nodes, after) ∧
        summary = ⟨rules, nodes⟩ := by
  have notTooLarge : ¬maxBatch < max batchSize 1 := Nat.not_lt.mpr fits
  dsimp only [ingest]
  rw [if_neg notTooLarge]
  constructor
  · intro loaded
    split at loaded
    · cases loaded
    next rules next storedRules =>
      rcases storedNodes : next.ingestNodes capture.readInvocations (max batchSize 1) false with
        ⟨outcome, last⟩
      rw [storedNodes] at loaded
      cases outcome with
      | ok nodes =>
          cases loaded
          exact ⟨rules, next, nodes, storedRules, storedNodes, rfl⟩
      | error error => cases loaded
      | crash crash => cases loaded
  · rintro ⟨rules, next, nodes, storedRules, storedNodes, rfl⟩
    rw [storedRules]
    dsimp only
    rw [storedNodes]
    rfl

/-- A store without rules and nodes takes exactly the loadable captures, and what it holds
afterwards does not depend on the size of the batches. -/
theorem ingest_eq_ok_iff (sound : store.Sound) (written : store.writer = some writer)
    (isOpen : store.closed = false) (noRules : store.rules = []) (noNodes : store.nodes = #[])
    (fits : max batchSize 1 ≤ maxBatch)
    (few : capture.nodes.records.length < 2 ^ 31) :
    store.ingest capture batchSize false = (.ok summary, after) ↔
      capture.Loadable ∧ summary = capture.recordCounts ∧
        ∃ growth, Growth.takeAll (writer.known ++ capture.readRules.items.map Rule.id)
            ⟨#[], writer.path⟩ (capture.readInvocations.items.map Prod.snd) = .ok growth ∧
          after = (store.withRules writer capture.readRules.items).withNodes
            { writer with known := writer.known ++ capture.readRules.items.map Rule.id }
            growth := by
  have room : capture.readInvocations.items.length < 2 ^ 31 :=
    Nat.lt_of_le_of_lt capture.length_readInvocations_le few
  have allRules : store.rules ++ capture.readRules.items = capture.readRules.items := by
    rw [noRules, List.nil_append]
  have empty : (store.withRules writer capture.readRules.items).nodes = #[] := noNodes
  rw [ingest_eq_ok_iff_parts fits, Capture.loadable_iff]
  constructor
  · rintro ⟨rules, next, nodes, storedRules, storedNodes, rfl⟩
    rcases (ingestRules_eq_ok_iff sound written isOpen capture.ids_inRange).mp storedRules with
      ⟨rulesEnded, allNew, rfl, rfl⟩
    have grown := sound.withRules written allNew capture.ids_inRange
    rcases (ingestNodes_eq_ok_iff grown rfl isOpen empty room).mp storedNodes with
      ⟨nodesEnded, listed, ⟨growth, taken, kept⟩, rfl⟩
    rcases (grown.consistent rfl).takeAll (grown.knows rfl) taken with ⟨consistent, nodes⟩
    have tree : FormsTree (store.rules ++ capture.readRules.items) growth.nodes := consistent.tree
    have sameNodes : growth.nodes = capture.recorded := by
      rw [nodes, Capture.recorded, listed, empty]
      simp
    rw [allRules] at allNew
    rw [allRules, sameNodes] at tree
    rw [empty] at taken
    exact ⟨⟨rulesEnded, nodesEnded, allNew, tree⟩,
      (Capture.recordCounts_eq rulesEnded nodesEnded).symm, growth, taken, kept⟩
  · rintro ⟨⟨rulesEnded, nodesEnded, nodup, tree⟩, rfl, growth, taken, rfl⟩
    have allNew : ((store.rules ++ capture.readRules.items).map Rule.id).Nodup := by
      rwa [allRules]
    have grown := sound.withRules written allNew capture.ids_inRange
    rw [← empty] at taken
    exact ⟨_, _, _,
      (ingestRules_eq_ok_iff sound written isOpen capture.ids_inRange).mpr
        ⟨rulesEnded, allNew, rfl, rfl⟩,
      (ingestNodes_eq_ok_iff grown rfl isOpen empty room).mpr
        ⟨nodesEnded, listed_of_tree tree, ⟨growth, taken, rfl⟩, rfl⟩,
      Capture.recordCounts_eq rulesEnded nodesEnded⟩

/-- The invocations of a loadable capture pass one after the other. -/
theorem exists_growth_of_loadable (loadable : capture.Loadable)
    (few : capture.readInvocations.items.length ≤ 2 ^ 31) :
    ∃ growth, Growth.takeAll (capture.readRules.items.map Rule.id) ⟨#[], []⟩
        (capture.readInvocations.items.map Prod.snd) = .ok growth ∧
      growth.nodes = capture.recorded := by
  have consistent : Growth.Consistent capture.readRules.items ⟨#[], []⟩ :=
    ⟨FormsTree.empty _, fun entry onPath => by cases onPath⟩
  have knows (id : RuleId) : id ∈ capture.readRules.items.map Rule.id ↔
      ∃ rule ∈ capture.readRules.items, rule.id = id := List.mem_map
  have sameNodes : #[] ++ numbered 0 (capture.readInvocations.items.map Prod.snd) =
      capture.recorded := by
    rw [Capture.recorded, listed_of_tree loadable.tree]
    simp
  have room : (#[] : Array StoredNode).size +
      (capture.readInvocations.items.map Prod.snd).length ≤ 2 ^ 31 := by simpa using few
  have tree : FormsTree capture.readRules.items
      (#[] ++ numbered 0 (capture.readInvocations.items.map Prod.snd)) := by
    rw [sameNodes]
    exact loadable.tree
  rcases consistent.exists_takeAll knows room tree with ⟨growth, taken⟩
  exact ⟨growth, taken, (consistent.takeAll knows taken).2.trans sameNodes⟩

/-- After a capture is loaded, the store holds its rules and its invocations and nothing else. -/
theorem contents_of_ingest_create {label : String} {header : Header}
    (fits : max batchSize 1 ≤ maxBatch)
    (few : capture.nodes.records.length < 2 ^ 31)
    (loaded : (create label header).ingest capture batchSize false = (.ok summary, after)) :
    after.Sound ∧ after.closed = false ∧ after.rules = capture.readRules.items ∧
      after.nodes = capture.recorded := by
  have short : capture.readInvocations.items.length < 2 ^ 31 :=
    Nat.lt_of_le_of_lt capture.length_readInvocations_le few
  rcases (ingest_eq_ok_iff (sound_create label header) rfl rfl rfl rfl fits few).mp loaded with
    ⟨loadable, _, growth, taken, kept⟩
  have nodes : after.nodes = capture.recorded := by
    rcases exists_growth_of_loadable loadable short.le with ⟨other, otherTaken, sameNodes⟩
    obtain rfl : growth = other := Except.ok.inj (taken.symm.trans otherTaken)
    rw [kept]
    exact sameNodes
  have reached : Reaches (create label header)
      ((create label header).ingest capture batchSize false).2 :=
    (writes_ingest capture batchSize).reaches
  rw [loaded] at reached
  have room : after.nodes.size < 2 ^ 31 := by
    rw [nodes, Capture.recorded, List.size_toArray, List.length_map]
    exact short
  refine ⟨(sound_create label header).reaches reached room, ?_, ?_, nodes⟩
  · rw [kept]
    rfl
  · rw [kept]
    rfl

/-- A capture of three rules and three invocations, of which the first calls the others. -/
def tripleCapture : Capture where
  header := ⟨0, 3, 3, 2⟩
  rules := .ofText
    "0;AnyMatcher;TERMINAL;Sum\n1;AnyMatcher;TERMINAL;Digit\n2;AnyMatcher;TERMINAL;Plus"
  nodes := .ofText "-1;0;0;1;0;0;3;900\n0;1;1;1;1;0;1;100\n0;2;1;0;2;1;1;50"
  input := .ofText "1+"

end Store

end ParseTrace
