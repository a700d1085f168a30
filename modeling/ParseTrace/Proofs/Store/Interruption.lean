import ParseTrace.Proofs.Store.Exactness
import ParseTrace.Proofs.Store.Rejection

/-!
# What a failed load leaves behind

A load can fail at any record of a capture, and when it does, the batch in which the record stands
is not stored. So what is left behind is a sequence of whole batches from the start: of rules, or of
all the rules and of invocations. The counters of the load say how much it is. A load that is
cancelled beforehand leaves nothing.
-/

namespace ParseTrace.Store

open Numeral (IntegerRange)

variable {store after : Store} {writer : Writer} {size : Nat}

/-- The first few batches of a list are the elements at its start. -/
theorem flatten_take_batches {α : Type} (size : Nat) (items : List α) :
    ∀ count ≤ (batches size items).1.length,
      ((batches size items).1.take count).flatten = items.take (count * size) ∧
        count * size ≤ items.length := by
  fun_induction batches size items with
  | case1 items fits full rest split ih =>
      intro count within
      cases count with
      | zero => simp
      | succ count =>
          rw [split, List.length_drop] at ih
          rcases ih count (Nat.le_of_succ_le_succ within) with ⟨parts, enough⟩
          rw [List.take_succ_cons, List.flatten_cons, parts, Nat.succ_mul, Nat.add_comm,
            List.take_add]
          exact ⟨rfl, by omega⟩
  | case2 items =>
      intro count within
      obtain rfl := Nat.le_zero.mp within
      simp

section Rules

/-- However storing batches of rules ends, the first few of them are stored. -/
theorem storeRuleBatches_leaves {batches : List (List Rule)} (sound : store.Sound)
    (written : store.writer = some writer) (isOpen : store.closed = false)
    (inRange : ∀ rule ∈ batches.flatten, IntegerRange.signed32.Contains rule.id) :
    ∃ count, count ≤ batches.length ∧
      ((store.rules ++ (batches.take count).flatten).map Rule.id).Nodup ∧
      (storeRuleBatches false store batches).2 =
        store.withRules writer (batches.take count).flatten := by
  induction batches generalizing store writer with
  | nil => exact ⟨0, Nat.le_refl 0, by simpa using sound.ids_nodup, by
      simp [storeRuleBatches, sound.withRules_nil written]⟩
  | cons batch rest ih =>
      rw [List.flatten_cons, List.forall_mem_append] at inRange
      rw [storeRuleBatches, if_neg Bool.false_ne_true, sound.appendRules_eq written isOpen]
      by_cases allNew : ((store.rules ++ batch).map Rule.id).Nodup
      · rw [if_pos allNew]
        have grown := sound.withRules written allNew inRange.1
        rcases ih grown rfl isOpen inRange.2 with ⟨count, within, nodup, left⟩
        rw [withRules_withRules] at left
        refine ⟨count + 1, Nat.succ_le_succ within, ?_, ?_⟩
        · rw [List.take_succ_cons, List.flatten_cons, ← List.append_assoc]
          exact nodup
        · rw [List.take_succ_cons, List.flatten_cons]
          exact left
      · rw [if_neg allNew]
        exact ⟨0, Nat.zero_le _, by simpa using sound.ids_nodup,
          (sound.withRules_nil written).symm⟩

/-- Rules that cannot all be stored leave what their full batches left. -/
theorem ingestRules_of_error {delivery : Delivery Rule} {error : TraceError}
    (failed : store.ingestRules delivery size false = (.error error, after)) :
    after = (storeRuleBatches false store (batches size delivery.items).1).2 := by
  rcases split : batches size delivery.items with ⟨full, rest⟩
  dsimp only [ingestRules] at failed
  rw [split] at failed
  dsimp only at failed
  rcases stored : storeRuleBatches false store full with ⟨result, next⟩
  rw [stored] at failed
  cases result with
  | error fault =>
      cases failed
      rfl
  | ok _ =>
      cases ended : delivery.ending with
      | error fault =>
          rw [ended] at failed
          cases failed
          rfl
      | ok _ =>
          rw [ended] at failed
          dsimp only at failed
          rw [if_neg Bool.false_ne_true] at failed
          rcases leftover : next.appendRules rest with ⟨outcome, last⟩
          rw [leftover] at failed
          cases outcome with
          | error fault =>
              cases failed
              exact (appendRules_of_error leftover).1
          | ok _ => cases failed

/-- Rules that cannot all be stored are stored up to the end of some batch. -/
theorem ingestRules_leaves {delivery : Delivery Rule} {error : TraceError} (sound : store.Sound)
    (written : store.writer = some writer) (isOpen : store.closed = false)
    (inRange : ∀ rule ∈ delivery.items, IntegerRange.signed32.Contains rule.id)
    (failed : store.ingestRules delivery size false = (.error error, after)) :
    ∃ count, count * size ≤ delivery.items.length ∧
      ((store.rules ++ delivery.items.take (count * size)).map Rule.id).Nodup ∧
      after = store.withRules writer (delivery.items.take (count * size)) := by
  have inFull : ∀ rule ∈ (batches size delivery.items).1.flatten,
      IntegerRange.signed32.Contains rule.id := by
    intro rule present
    apply inRange rule
    rw [← batches_flatten size delivery.items]
    exact List.mem_append_left _ present
  rcases storeRuleBatches_leaves sound written isOpen inFull with ⟨count, within, nodup, left⟩
  rcases flatten_take_batches size delivery.items count within with ⟨taken, enough⟩
  rw [taken] at nodup left
  exact ⟨count, enough, nodup, (ingestRules_of_error failed).trans left⟩

end Rules

section Nodes

/-- However storing batches of invocations ends, the first few of them are stored. -/
theorem storeNodeBatches_leaves {batches : List (List Invocation)} (sound : store.Sound)
    (written : store.writer = some writer) (isOpen : store.closed = false)
    (room : store.nodes.size + batches.flatten.length < 2 ^ 31) :
    ∃ count growth, count ≤ batches.length ∧
      Growth.takeAll writer.known ⟨store.nodes, writer.path⟩ (batches.take count).flatten =
        .ok growth ∧
      (storeNodeBatches false store.nodes.size store batches).2 =
        store.withNodes writer growth := by
  induction batches generalizing store writer with
  | nil =>
      refine ⟨0, ⟨store.nodes, writer.path⟩, Nat.le_refl 0, rfl, ?_⟩
      exact (sound.withNodes_self written (by simpa using room)).symm
  | cons batch rest ih =>
      rw [List.flatten_cons, List.length_append] at room
      have batchFits : store.nodes.size + batch.length < 2 ^ 31 := by omega
      rw [storeNodeBatches, storeNodeBatch_eq sound written isOpen batchFits]
      cases taken : Growth.takeAll writer.known ⟨store.nodes, writer.path⟩ batch with
      | error corruption =>
          refine ⟨0, ⟨store.nodes, writer.path⟩, Nat.zero_le _, rfl, ?_⟩
          exact (sound.withNodes_self written (by omega)).symm
      | ok growth =>
          have grown := size_of_takeAll sound written taken
          have grownSound := sound.withNodes written batchFits taken
          rcases ih grownSound rfl isOpen
            (show growth.nodes.size + rest.flatten.length < 2 ^ 31 by omega) with
            ⟨count, later, within, takenOn, left⟩
          have grownOn : later.nodes.size =
              growth.nodes.size + (rest.take count).flatten.length :=
            size_of_takeAll grownSound rfl takenOn
          rw [withNodes_withNodes (by omega) (by omega)] at left
          refine ⟨count + 1, later, Nat.succ_le_succ within, ?_, ?_⟩
          · rw [List.take_succ_cons, List.flatten_cons, Growth.takeAll_append, taken]
            exact takenOn
          · rw [← grown]
            exact left

/-- The invocations up to the first that is out of order have the numbers under which they are
listed. -/
theorem take_of_splitListed {expected : Nat} {items : List (NodeId × Invocation)}
    {invocations : List Invocation} {corruption : Option Corruption}
    (listing : splitListed expected items = (invocations, corruption)) :
    (items.map listedNode).take invocations.length = (numbered expected invocations).toList := by
  induction items generalizing expected invocations corruption with
  | nil =>
      rcases Prod.mk.inj listing with ⟨rfl, _⟩
      rfl
  | cons item rest ih =>
      rcases item with ⟨listed, invocation⟩
      rw [splitListed] at listing
      split at listing
      next inOrder =>
        rcases others : splitListed (expected + 1) rest with ⟨followers, later⟩
        rw [others] at listing
        rcases Prod.mk.inj listing with ⟨rfl, _⟩
        rw [List.map_cons, List.length_cons, List.take_succ_cons, ih others, toList_numbered_cons,
          listedNode, inOrder]
      next =>
        rcases Prod.mk.inj listing with ⟨rfl, _⟩
        rfl

theorem toList_numbered_take (first count : Nat) (invocations : List Invocation) :
    (numbered first (invocations.take count)).toList =
      (numbered first invocations).toList.take count := by
  simp only [numbered, List.toList_toArray]
  apply List.ext_getElem?
  intro place
  by_cases within : place < count <;> simp [within]

/-- What is left over behind full batches is stored as a whole or not at all. -/
theorem storeNodeBatch_of_error {rest : List Invocation} {error : TraceError} {last : Store}
    (sound : store.Sound) (written : store.writer = some writer) (isOpen : store.closed = false)
    (room : store.nodes.size + rest.length < 2 ^ 31)
    (failed : store.storeNodeBatch false store.nodes.size rest = (.error error, last)) :
    last = store := by
  rw [storeNodeBatch_eq sound written isOpen room] at failed
  split at failed
  · cases failed
    rfl
  · cases failed

/-- Invocations that cannot all be stored leave what their full batches left. -/
theorem ingestNodes_of_error {delivery : Delivery (NodeId × Invocation)}
    {invocations rest : List Invocation} {corruption : Option Corruption}
    {full : List (List Invocation)} {error : TraceError} (sound : store.Sound)
    (written : store.writer = some writer) (isOpen : store.closed = false)
    (empty : store.nodes.size = 0) (few : invocations.length < 2 ^ 31)
    (listing : splitListed 0 delivery.items = (invocations, corruption))
    (split : batches size invocations = (full, rest))
    (failed : store.ingestNodes delivery size false = (.error error, after)) :
    after = (storeNodeBatches false store.nodes.size store full).2 := by
  have lengths : full.flatten.length + rest.length = invocations.length := by
    rw [← List.length_append, ← batches_flatten size invocations, split]
  have room : store.nodes.size + full.flatten.length < 2 ^ 31 := by omega
  dsimp only [ingestNodes] at failed
  rw [listing] at failed
  dsimp only at failed
  rw [split, ← empty] at failed
  rcases stored : storeNodeBatches false store.nodes.size store full with ⟨result, next⟩
  rw [stored] at failed
  cases result with
  | error fault =>
      cases failed
      rfl
  | crash fault => cases failed
  | ok _ =>
      rcases (storeNodeBatches_eq_ok_iff sound written isOpen room).mp stored with
        ⟨grown, taken, rfl⟩
      cases corruption with
      | some corruption =>
          cases failed
          rfl
      | none =>
          cases ended : delivery.ending with
          | error fault =>
              rw [ended] at failed
              cases failed
              rfl
          | ok _ =>
              rw [ended] at failed
              dsimp only at failed
              split at failed
              · cases failed
              · have size := size_of_takeAll sound written taken
                have place : invocations.length - rest.length = grown.nodes.size := by omega
                rw [place] at failed
                rcases leftover : (store.withNodes writer grown).storeNodeBatch false
                  grown.nodes.size rest with ⟨outcome, last⟩
                rw [leftover] at failed
                cases outcome with
                | error fault =>
                    cases failed
                    exact storeNodeBatch_of_error (sound.withNodes written room taken) rfl
                      isOpen (show grown.nodes.size + rest.length < 2 ^ 31 by omega) leftover
                | ok _ => cases failed
                | crash fault => cases failed

/-- Invocations that cannot all be stored are stored up to the end of some batch. -/
theorem ingestNodes_leaves {delivery : Delivery (NodeId × Invocation)} {error : TraceError}
    (sound : store.Sound) (written : store.writer = some writer) (isOpen : store.closed = false)
    (empty : store.nodes = #[]) (few : delivery.items.length < 2 ^ 31)
    (failed : store.ingestNodes delivery size false = (.error error, after)) :
    ∃ count growth, count * size ≤ delivery.items.length ∧
      growth.nodes.toList = (delivery.items.map listedNode).take (count * size) ∧
      after = store.withNodes writer growth := by
  have bounded := length_splitListed_le 0 delivery.items
  rcases listing : splitListed 0 delivery.items with ⟨invocations, corruption⟩
  rcases split : batches size invocations with ⟨full, rest⟩
  have batched := flatten_take_batches size invocations
  have parts := congrArg List.length (batches_flatten size invocations)
  rw [split] at batched parts
  rw [listing] at bounded
  rw [List.length_append] at parts
  dsimp only at bounded batched parts
  have nothing : store.nodes.size = 0 := by rw [empty]; rfl
  rcases storeNodeBatches_leaves sound written isOpen
    (show store.nodes.size + full.flatten.length < 2 ^ 31 by omega) with
    ⟨count, growth, within, taken, left⟩
  rcases batched count within with ⟨first, enough⟩
  rw [first] at taken
  have nodes := ((sound.consistent written).takeAll (sound.knows written) taken).2
  have leaves := ingestNodes_of_error sound written isOpen nothing (by omega) listing split failed
  refine ⟨count, growth, Nat.le_trans enough bounded, ?_, leaves.trans left⟩
  rw [nodes, empty, Array.empty_append]
  change (numbered 0 (invocations.take (count * size))).toList = _
  rw [toList_numbered_take, ← take_of_splitListed listing, List.take_take, Nat.min_eq_left enough]

end Nodes

/-- A new store into which a capture cannot be loaded is left with whole batches: with some of the
rules, or with all of them and some of the invocations. -/
theorem ingest_create_leaves {label : String} {header : Header} {capture : Capture}
    {batchSize : Nat} {error : TraceError}
    (few : capture.readInvocations.items.length < 2 ^ 31)
    (failed : (create label header).ingest capture batchSize false = (.error error, after)) :
    ∃ count,
      (count * max batchSize 1 ≤ capture.readRules.items.length ∧
        after.rules = capture.readRules.items.take (count * max batchSize 1) ∧
        after.nodes = #[]) ∨
      (capture.readRules.ending = .ok () ∧ after.rules = capture.readRules.items ∧
        count * max batchSize 1 ≤ capture.readInvocations.items.length ∧
        after.nodes.toList = capture.recorded.toList.take (count * max batchSize 1)) := by
  have sound := sound_create label header
  dsimp only [ingest] at failed
  split at failed
  · cases failed
  rcases stored : (create label header).ingestRules capture.readRules (max batchSize 1) false with
    ⟨result, next⟩
  rw [stored] at failed
  cases result with
  | error fault =>
      cases failed
      rcases ingestRules_leaves sound rfl rfl capture.ids_inRange stored with
        ⟨count, enough, _, rfl⟩
      exact ⟨count, Or.inl ⟨enough, by simp [withRules, create], rfl⟩⟩
  | ok total =>
      rcases (ingestRules_eq_ok_iff sound rfl rfl capture.ids_inRange).mp stored with
        ⟨ended, allNew, _, rfl⟩
      have grown := sound.withRules rfl allNew capture.ids_inRange
      dsimp only at failed
      rcases storedNodes : ((create label header).withRules _ capture.readRules.items).ingestNodes
        capture.readInvocations (max batchSize 1) false with ⟨outcome, last⟩
      rw [storedNodes] at failed
      cases outcome with
      | ok nodes => cases failed
      | crash fault => cases failed
      | error fault =>
          cases failed
          rcases ingestNodes_leaves grown rfl rfl rfl few storedNodes with
            ⟨count, growth, enough, nodes, rfl⟩
          exact ⟨count, Or.inr ⟨ended, by simp [withNodes, withRules, create], enough, nodes⟩⟩

/-- A load for whose batches there is no room crashes before anything is read. -/
theorem ingest_of_noRoom {capture : Capture} {batchSize : Nat} {cancelled : Bool}
    (tooLarge : maxBatch < max batchSize 1) :
    store.ingest capture batchSize cancelled = (.crash .capacity, store) := by
  dsimp only [ingest]
  rw [if_pos tooLarge]

/-- A load that is cancelled beforehand stores no rule. -/
theorem ingestRules_of_cancelled (store : Store) (delivery : Delivery Rule) (size : Nat) :
    ∃ error, store.ingestRules delivery size true = (.error error, store) := by
  dsimp only [ingestRules]
  rcases batches size delivery.items with ⟨full, rest⟩
  cases full with
  | cons batch others => exact ⟨.closed, rfl⟩
  | nil =>
      cases ended : delivery.ending with
      | error fault => exact ⟨.ofCapture fault, rfl⟩
      | ok _ => exact ⟨.closed, rfl⟩

theorem ingest_of_cancelled {capture : Capture} {batchSize : Nat}
    (fits : max batchSize 1 ≤ maxBatch) :
    ∃ error, store.ingest capture batchSize true = (.error error, store) := by
  rcases ingestRules_of_cancelled store capture.readRules (max batchSize 1) with
    ⟨error, cancelled⟩
  refine ⟨error, ?_⟩
  dsimp only [ingest]
  rw [if_neg (Nat.not_lt.mpr fits), cancelled]

/-- A load that fails, and one that is cancelled beforehand. What a failed load leaves in a new
store are whole batches of records, and the counters are exact. A cancelled load leaves nothing. -/
theorem failed_load_leaves_whole_batches (label : String) (header : Header) (capture : Capture)
    (batchSize : Nat) (few : capture.nodes.records.length < 2 ^ 31) :
    (∀ error after,
      (create label header).ingest capture batchSize false = (.error error, after) →
        (∃ count,
          (count * max batchSize 1 ≤ capture.readRules.items.length ∧
            after.rules = capture.readRules.items.take (count * max batchSize 1) ∧
            after.nodes = #[]) ∨
          (capture.readRules.ending = .ok () ∧ after.rules = capture.readRules.items ∧
            count * max batchSize 1 ≤ capture.readInvocations.items.length ∧
            after.nodes.toList = capture.recorded.toList.take (count * max batchSize 1))) ∧
        after.tracker.rules = after.rules.length ∧ after.tracker.nodes = after.nodes.size) ∧
    (max batchSize 1 ≤ maxBatch →
      ∃ error, (create label header).ingest capture batchSize true =
        (.error error, create label header)) ∧
    (maxBatch < max batchSize 1 → ∀ cancelled,
      (create label header).ingest capture batchSize cancelled =
        (.crash .capacity, create label header)) := by
  have short : capture.readInvocations.items.length < 2 ^ 31 :=
    Nat.lt_of_le_of_lt capture.length_readInvocations_le few
  refine ⟨?_, ingest_of_cancelled, fun tooLarge _ => ingest_of_noRoom tooLarge⟩
  intro error after failed
  rcases ingest_create_leaves short failed with ⟨count, left⟩
  have room : after.nodes.size < 2 ^ 31 := by
    rcases left with ⟨_, _, nodes⟩ | ⟨_, _, _, nodes⟩
    · rw [nodes]
      decide
    · have lengths := congrArg List.length nodes
      rw [List.length_take, Capture.recorded, List.length_map, Array.length_toList] at lengths
      omega
  have reached : Reaches (create label header)
      ((create label header).ingest capture batchSize false).2 :=
    (writes_ingest capture batchSize).reaches
  rw [failed] at reached
  have sound := (sound_create label header).reaches reached room
  exact ⟨⟨count, left⟩, sound.ruleCount_eq, sound.nodeCount_eq⟩

/-- A capture whose third invocation is listed under a wrong number. -/
def misnumberedCapture : Capture where
  header := ⟨0, 1, 3, 2⟩
  rules := .ofText "7;AnyMatcher;TERMINAL;Digit"
  nodes := .ofText "-1;0;0;1;7;0;2;500\n0;1;1;1;7;0;1;20\n0;3;1;1;7;1;2;30"
  input := .ofText ""

theorem misnumbered_load_leaves_one_batch :
    ∃ after,
      (create "trace" ⟨0, 1, 3, 2⟩).ingest misnumberedCapture 2 false =
        (.error (.corrupt (.unexpectedNode 2 3)), after) ∧
      after.nodes.size = 2 ∧ after.tracker.rules = after.rules.length ∧ after.tracker.nodes = 2 := by
  rcases outcome : (create "trace" ⟨0, 1, 3, 2⟩).ingest misnumberedCapture 2 false with
    ⟨result, after⟩
  have failed : result = .error (.corrupt (.unexpectedNode 2 3)) := by
    have first : ((create "trace" ⟨0, 1, 3, 2⟩).ingest misnumberedCapture 2 false).1 =
        .error (.corrupt (.unexpectedNode 2 3)) := by decide +kernel
    rwa [outcome] at first
  have size : after.nodes.size = 2 := by
    have two : ((create "trace" ⟨0, 1, 3, 2⟩).ingest misnumberedCapture 2 false).2.nodes.size = 2 :=
      by decide +kernel
    rwa [outcome] at two
  subst failed
  rcases (failed_load_leaves_whole_batches "trace" ⟨0, 1, 3, 2⟩ misnumberedCapture 2
    (by decide +kernel)).1 _ _ outcome with ⟨_, rules, nodes⟩
  exact ⟨after, rfl, size, rules, nodes.trans size⟩

/-- Room is asked for before a load looks whether it is cancelled. -/
theorem cancelled_load_without_room :
    ¬∃ error, (create "trace" ⟨0, 1, 3, 2⟩).ingest misnumberedCapture 18446744073709551615 true =
      (.error error, create "trace" ⟨0, 1, 3, 2⟩) := by
  rintro ⟨error, failed⟩
  rw [ingest_of_noRoom (by decide)] at failed
  cases failed

end ParseTrace.Store
