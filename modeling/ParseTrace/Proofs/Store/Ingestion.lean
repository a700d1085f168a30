import ParseTrace.Proofs.Store.Reach

/-!
# What loading does to a sound store

Loading succeeds in one way only. The rules of all batches end up behind the stored ones, as if they
had been appended at once, and so do the invocations. Where the batches begin and end plays no part
in this, because neither the notes of the writer nor the counters depend on it.
-/

namespace ParseTrace.Store

open Numeral (IntegerRange)

variable {store after : Store} {writer : Writer} {size : Nat}

section Rules

variable {first second : List Rule}

/-- To append rules twice is to append them at once. -/
theorem withRules_withRules :
    (store.withRules writer first).withRules
        { writer with known := writer.known ++ first.map Rule.id } second =
      store.withRules writer (first ++ second) := by
  simp [withRules, Tracker.wrapAdd_wrapAdd]

theorem nodup_ids_left {front : List Rule}
    (nodup : ((front ++ (first ++ second)).map Rule.id).Nodup) :
    ((front ++ first).map Rule.id).Nodup := by
  rw [← List.append_assoc, List.map_append, List.nodup_append] at nodup
  exact nodup.1

theorem storeRuleBatches_eq_ok_iff {batches : List (List Rule)} (sound : store.Sound)
    (written : store.writer = some writer) (isOpen : store.closed = false)
    (inRange : ∀ rule ∈ batches.flatten, IntegerRange.signed32.Contains rule.id) :
    storeRuleBatches false store batches = (.ok (), after) ↔
      ((store.rules ++ batches.flatten).map Rule.id).Nodup ∧
        after = store.withRules writer batches.flatten := by
  induction batches generalizing store writer with
  | nil =>
      simp [storeRuleBatches, sound.ids_nodup, sound.withRules_nil written, eq_comm]
  | cons batch rest ih =>
      rw [List.flatten_cons, List.forall_mem_append] at inRange
      rw [storeRuleBatches, sound.appendRules_eq written isOpen, List.flatten_cons]
      by_cases allNew : ((store.rules ++ batch).map Rule.id).Nodup
      · have grown := sound.withRules written allNew inRange.1
        have loaded := ih grown rfl isOpen inRange.2
        rw [withRules_withRules] at loaded
        simp only [Bool.false_eq_true, if_false, if_pos allNew, loaded]
        simp [withRules]
      · have notNew : ¬((store.rules ++ (batch ++ rest.flatten)).map Rule.id).Nodup :=
          fun nodup => allNew (nodup_ids_left nodup)
        simp only [Bool.false_eq_true, if_false, if_neg allNew, Prod.mk.injEq, reduceCtorEq,
          false_and, notNew]

/-- Loading rules succeeds if the records end well, and both the full batches and what is left over
can be stored. -/
theorem ingestRules_eq_ok_iff_parts {delivery : Delivery Rule} {count : Nat}
    {full : List (List Rule)} {rest : List Rule}
    (split : batches size delivery.items = (full, rest)) :
    store.ingestRules delivery size false = (.ok count, after) ↔
      delivery.ending = .ok () ∧ count = delivery.items.length ∧
        ∃ next, storeRuleBatches false store full = (.ok (), next) ∧
          next.appendRules rest = (.ok (), after) := by
  dsimp only [ingestRules]
  rw [split]
  rcases storeRuleBatches false store full with ⟨result, next⟩
  cases result with
  | error error => simp
  | ok _ =>
      cases delivery.ending with
      | error error => simp
      | ok _ =>
          simp only [Bool.false_eq_true, if_false, true_and, Prod.mk.injEq, exists_eq_left']
          rcases next.appendRules rest with ⟨outcome, last⟩
          cases outcome with
          | error error => simp
          | ok _ => simp [eq_comm]

/-- The rules of a capture are stored as if they came in one batch. -/
theorem ingestRules_eq_ok_iff {delivery : Delivery Rule} {count : Nat} (sound : store.Sound)
    (written : store.writer = some writer) (isOpen : store.closed = false)
    (inRange : ∀ rule ∈ delivery.items, IntegerRange.signed32.Contains rule.id) :
    store.ingestRules delivery size false = (.ok count, after) ↔
      delivery.ending = .ok () ∧ ((store.rules ++ delivery.items).map Rule.id).Nodup ∧
        count = delivery.items.length ∧ after = store.withRules writer delivery.items := by
  rcases split : batches size delivery.items with ⟨full, rest⟩
  have parts : full.flatten ++ rest = delivery.items := by
    rw [← batches_flatten size delivery.items, split]
  rw [ingestRules_eq_ok_iff_parts split]
  rw [← parts, List.forall_mem_append] at inRange
  have leftover (allNew : ((store.rules ++ full.flatten).map Rule.id).Nodup) :
      (store.withRules writer full.flatten).appendRules rest = (.ok (), after) ↔
        ((store.rules ++ delivery.items).map Rule.id).Nodup ∧
          after = store.withRules writer delivery.items := by
    have grown := sound.withRules written allNew inRange.1
    rw [grown.appendRules_eq_ok_iff rfl isOpen, withRules_withRules, ← parts, ← List.append_assoc]
    rfl
  constructor
  · rintro ⟨ended, counted, next, stored, storedRest⟩
    rcases (storeRuleBatches_eq_ok_iff sound written isOpen inRange.1).mp stored with
      ⟨allNew, rfl⟩
    rcases (leftover allNew).mp storedRest with ⟨nodup, kept⟩
    exact ⟨ended, nodup, counted, kept⟩
  · rintro ⟨ended, nodup, counted, kept⟩
    have allNew : ((store.rules ++ full.flatten).map Rule.id).Nodup := by
      rw [← parts] at nodup
      exact nodup_ids_left nodup
    refine ⟨ended, counted, _, ?_, (leftover allNew).mpr ⟨nodup, kept⟩⟩
    exact (storeRuleBatches_eq_ok_iff sound written isOpen inRange.1).mpr ⟨allNew, rfl⟩

end Rules

section Nodes

variable {growth later : Growth} {batch : List Invocation}

/-- To grow twice is to grow at once. -/
theorem withNodes_withNodes (grows : store.nodes.size ≤ growth.nodes.size)
    (growsOn : growth.nodes.size ≤ later.nodes.size) :
    (store.withNodes writer growth).withNodes
        { writer with next := growth.nodes.size, path := growth.path } later =
      store.withNodes writer later := by
  have count : growth.nodes.size - store.nodes.size + (later.nodes.size - growth.nodes.size) =
      later.nodes.size - store.nodes.size := by omega
  simp [withNodes, Tracker.wrapAdd_wrapAdd, count]

theorem storeNodeBatch_eq (sound : store.Sound) (written : store.writer = some writer)
    (isOpen : store.closed = false) (room : store.nodes.size + batch.length < 2 ^ 31) :
    store.storeNodeBatch false store.nodes.size batch =
      match Growth.takeAll writer.known ⟨store.nodes, writer.path⟩ batch with
      | .error corruption => (.error (.corrupt corruption), store)
      | .ok growth => (.ok (), store.withNodes writer growth) := by
  rw [storeNodeBatch, sound.appendBatch_eq written isOpen room]
  cases Growth.takeAll writer.known ⟨store.nodes, writer.path⟩ batch with
  | error corruption => rfl
  | ok growth => simp

theorem size_of_takeAll (sound : store.Sound) (written : store.writer = some writer)
    (taken : Growth.takeAll writer.known ⟨store.nodes, writer.path⟩ batch = .ok growth) :
    growth.nodes.size = store.nodes.size + batch.length := by
  have nodes := ((sound.consistent written).takeAll (sound.knows written) taken).2
  simp [nodes]

theorem storeNodeBatches_eq_ok_iff {batches : List (List Invocation)} (sound : store.Sound)
    (written : store.writer = some writer) (isOpen : store.closed = false)
    (room : store.nodes.size + batches.flatten.length < 2 ^ 31) :
    storeNodeBatches false store.nodes.size store batches = (.ok (), after) ↔
      ∃ growth, Growth.takeAll writer.known ⟨store.nodes, writer.path⟩ batches.flatten =
          .ok growth ∧
        after = store.withNodes writer growth := by
  induction batches generalizing store writer with
  | nil =>
      have fits : store.nodes.size < 2 ^ 31 := by omega
      simp [storeNodeBatches, sound.withNodes_self written fits, eq_comm]
  | cons batch rest ih =>
      rw [List.flatten_cons, List.length_append] at room
      have batchFits : store.nodes.size + batch.length < 2 ^ 31 := by omega
      rw [storeNodeBatches, storeNodeBatch_eq sound written isOpen batchFits, List.flatten_cons,
        Growth.takeAll_append]
      cases taken : Growth.takeAll writer.known ⟨store.nodes, writer.path⟩ batch with
      | error corruption => simp [Except.bind]
      | ok growth =>
          have grown := size_of_takeAll sound written taken
          have grownSound := sound.withNodes written batchFits taken
          have loaded := ih grownSound rfl isOpen
            (show growth.nodes.size + rest.flatten.length < 2 ^ 31 by omega)
          dsimp only [Except.bind]
          rw [← grown]
          refine loaded.trans (exists_congr fun later => and_congr_right fun takenOn => ?_)
          have grownOn : later.nodes.size = growth.nodes.size + rest.flatten.length :=
            size_of_takeAll grownSound rfl takenOn
          rw [withNodes_withNodes (by omega) (by omega)]

/-- An invocation of a capture under the number with which it is listed. -/
def listedNode (item : NodeId × Invocation) : StoredNode :=
  { item.2 with id := item.1 }

/-- No invocation of a list is out of order if all are listed under the numbers they will get. -/
theorem splitListed_eq_iff {expected : Nat} {items : List (NodeId × Invocation)}
    {invocations : List Invocation} :
    splitListed expected items = (invocations, none) ↔
      items.map listedNode = (numbered expected (items.map Prod.snd)).toList ∧
        invocations = items.map Prod.snd := by
  induction items generalizing expected invocations with
  | nil => simp [splitListed, eq_comm]
  | cons item rest ih =>
      rcases item with ⟨listed, invocation⟩
      rw [List.map_cons, List.map_cons, toList_numbered_cons, List.cons.injEq]
      by_cases inOrder : listed = expected
      · rw [splitListed, if_pos inOrder]
        constructor
        · rcases others : splitListed (expected + 1) rest with ⟨followers, corruption⟩
          intro split
          rcases Prod.mk.inj split with ⟨rfl, rfl⟩
          rcases ih.mp others with ⟨same, rfl⟩
          exact ⟨⟨by rw [listedNode, inOrder], same⟩, rfl⟩
        · rintro ⟨⟨_, same⟩, rfl⟩
          rw [ih.mpr ⟨same, rfl⟩]
      · rw [splitListed, if_neg inOrder]
        refine iff_of_false (fun split => by cases split) ?_
        rintro ⟨⟨head, _⟩, _⟩
        exact inOrder (congrArg StoredNode.id head)

theorem length_splitListed_le (expected : Nat) (items : List (NodeId × Invocation)) :
    (splitListed expected items).1.length ≤ items.length := by
  induction items generalizing expected with
  | nil => exact Nat.le_refl _
  | cons item rest ih =>
      rw [splitListed]
      split
      · exact Nat.succ_le_succ (ih (expected + 1))
      · exact Nat.zero_le _

/-- Stores what is left over behind the full batches, which comes to `total` invocations. -/
def storeLeftover (store : Store) (expected total : Nat) (rest : List Invocation) :
    Outcome Nat × Store :=
  if rest.isEmpty then (.ok total, store)
  else
    let (result, next) := store.storeNodeBatch false expected rest
    (result.map fun _ => total, next)

/-- Loading invocations succeeds if nothing is out of order, the records end well, and both the full
batches and what is left over can be stored. -/
theorem ingestNodes_eq_ok_iff_parts {delivery : Delivery (NodeId × Invocation)} {count : Nat}
    {invocations rest : List Invocation} {corruption : Option Corruption}
    {full : List (List Invocation)} (nothing : store.nodes.size = 0)
    (listing : splitListed 0 delivery.items = (invocations, corruption))
    (split : batches size invocations = (full, rest)) :
    store.ingestNodes delivery size false = (.ok count, after) ↔
      corruption = none ∧ delivery.ending = .ok () ∧
        ∃ next, storeNodeBatches false store.nodes.size store full = (.ok (), next) ∧
          next.storeLeftover (invocations.length - rest.length) invocations.length rest =
            (.ok count, after) := by
  rw [nothing]
  dsimp only [ingestNodes]
  rw [listing]
  dsimp only
  rw [split]
  rcases storeNodeBatches false 0 store full with ⟨result, next⟩
  cases result with
  | error error => simp
  | crash crash => simp
  | ok _ =>
      cases corruption with
      | some corruption => simp
      | none =>
          cases delivery.ending with
          | error error => simp
          | ok _ =>
              simp only [true_and, Prod.mk.injEq, exists_eq_left']
              rfl

/-- What is left over is stored like a batch, even if it is empty. -/
theorem storeLeftover_eq_ok_iff {rest : List Invocation} {total count : Nat} (sound : store.Sound)
    (written : store.writer = some writer) (isOpen : store.closed = false)
    (room : store.nodes.size + rest.length < 2 ^ 31) :
    store.storeLeftover store.nodes.size total rest = (.ok count, after) ↔
      (∃ growth, Growth.takeAll writer.known ⟨store.nodes, writer.path⟩ rest = .ok growth ∧
        after = store.withNodes writer growth) ∧ count = total := by
  simp only [storeLeftover]
  cases rest with
  | nil =>
      have fits : store.nodes.size < 2 ^ 31 := by simpa using room
      simp [sound.withNodes_self written fits, eq_comm, and_comm]
  | cons invocation others =>
      rw [storeNodeBatch_eq sound written isOpen room]
      cases Growth.takeAll writer.known ⟨store.nodes, writer.path⟩ (invocation :: others) with
      | error corruption => simp [Outcome.map]
      | ok growth => simp [Outcome.map, eq_comm, and_comm]

/-- Full batches and what is left over are stored as if they came one by one. -/
theorem storeParts_eq_ok_iff {full : List (List Invocation)} {rest : List Invocation}
    {total count : Nat} (sound : store.Sound) (written : store.writer = some writer)
    (isOpen : store.closed = false)
    (room : store.nodes.size + full.flatten.length + rest.length < 2 ^ 31) :
    (∃ next, storeNodeBatches false store.nodes.size store full = (.ok (), next) ∧
        next.storeLeftover (store.nodes.size + full.flatten.length) total rest =
          (.ok count, after)) ↔
      (∃ growth, Growth.takeAll writer.known ⟨store.nodes, writer.path⟩ (full.flatten ++ rest) =
          .ok growth ∧ after = store.withNodes writer growth) ∧ count = total := by
  have leftover (first : Growth)
      (taken : Growth.takeAll writer.known ⟨store.nodes, writer.path⟩ full.flatten = .ok first) :
      (store.withNodes writer first).storeLeftover (store.nodes.size + full.flatten.length) total
          rest = (.ok count, after) ↔
        (∃ growth, Growth.takeAll writer.known first rest = .ok growth ∧
          after = store.withNodes writer growth) ∧ count = total := by
    have grown := size_of_takeAll sound written taken
    have grownSound := sound.withNodes written (by omega) taken
    rw [← grown]
    refine (storeLeftover_eq_ok_iff grownSound rfl isOpen
      (show first.nodes.size + rest.length < 2 ^ 31 by omega)).trans (and_congr_left' ?_)
    refine exists_congr fun later => and_congr_right fun takenOn => ?_
    have grownOn : later.nodes.size = first.nodes.size + rest.length :=
      size_of_takeAll grownSound rfl takenOn
    rw [withNodes_withNodes (by omega) (by omega)]
  rw [Growth.takeAll_append]
  constructor
  · rintro ⟨next, stored, ended⟩
    rcases (storeNodeBatches_eq_ok_iff sound written isOpen (by omega)).mp stored with
      ⟨first, taken, rfl⟩
    rw [taken]
    exact (leftover first taken).mp ended
  · rintro ⟨⟨growth, taken, kept⟩, counted⟩
    rcases bind_eq_ok_iff.mp taken with ⟨first, takenFirst, takenOn⟩
    refine ⟨_, (storeNodeBatches_eq_ok_iff sound written isOpen (by omega)).mpr
      ⟨first, takenFirst, rfl⟩, ?_⟩
    exact (leftover first takenFirst).mpr ⟨⟨growth, takenOn, kept⟩, counted⟩

/-- The invocations of a capture are stored as if they came one by one. -/
theorem ingestNodes_eq_ok_iff {delivery : Delivery (NodeId × Invocation)} {count : Nat}
    (sound : store.Sound) (written : store.writer = some writer) (isOpen : store.closed = false)
    (empty : store.nodes = #[]) (room : delivery.items.length < 2 ^ 31) :
    store.ingestNodes delivery size false = (.ok count, after) ↔
      delivery.ending = .ok () ∧
        delivery.items.map listedNode = (numbered 0 (delivery.items.map Prod.snd)).toList ∧
        (∃ growth, Growth.takeAll writer.known ⟨store.nodes, writer.path⟩
            (delivery.items.map Prod.snd) = .ok growth ∧ after = store.withNodes writer growth) ∧
        count = delivery.items.length := by
  have bounded := length_splitListed_le 0 delivery.items
  rcases listing : splitListed 0 delivery.items with ⟨invocations, corruption⟩
  rcases split : batches size invocations with ⟨full, rest⟩
  have parts : full.flatten ++ rest = invocations := by
    rw [← batches_flatten size invocations, split]
  have lengths : full.flatten.length + rest.length = invocations.length := by
    rw [← parts, List.length_append]
  have nothing : store.nodes.size = 0 := by rw [empty]; rfl
  rw [listing] at bounded
  dsimp only at bounded
  have room : store.nodes.size + full.flatten.length + rest.length < 2 ^ 31 := by omega
  have place : invocations.length - rest.length = store.nodes.size + full.flatten.length := by
    omega
  rw [ingestNodes_eq_ok_iff_parts nothing listing split, place,
    storeParts_eq_ok_iff sound written isOpen room, parts]
  constructor
  · rintro ⟨rfl, ended, stored, rfl⟩
    rcases splitListed_eq_iff.mp listing with ⟨listed, rfl⟩
    exact ⟨ended, listed, stored, List.length_map _⟩
  · rintro ⟨ended, listed, stored, rfl⟩
    have inOrder := splitListed_eq_iff.mpr ⟨listed, rfl⟩
    rw [listing] at inOrder
    rcases Prod.mk.inj inOrder with ⟨rfl, rfl⟩
    exact ⟨rfl, ended, stored, (List.length_map _).symm⟩

end Nodes

end ParseTrace.Store
