import ParseTrace.Proofs.Store.Run

/-!
# Operations as sequences of steps

Every operation is a sequence of steps. Loading a capture appends its batches one after the other, as
far as it comes, and does nothing else. The batches of a list are its parts in order, so they hold
nothing that the list does not hold.

It follows that a store is sound after every operation of a run that stores fewer than `2 ^ 31`
nodes, whichever of the operations fail.
-/

namespace ParseTrace

open Numeral (IntegerRange)
open Relation (ReflTransGen)

namespace Store

variable {store : Store} {cancelled : Bool} {size : Nat}

theorem appends_appendRules {rules : List Rule}
    (inRange : ∀ rule ∈ rules, IntegerRange.signed32.Contains rule.id) :
    Appends store (store.appendRules rules).2 :=
  ReflTransGen.single (.rules rules inRange)

theorem appends_appendBatch (invocations : List Invocation) :
    Appends store (store.appendBatch invocations).2 :=
  ReflTransGen.single (.batch invocations)

theorem appends_storeRuleBatches {batches : List (List Rule)}
    (inRange : ∀ rule ∈ batches.flatten, IntegerRange.signed32.Contains rule.id) :
    Appends store (storeRuleBatches cancelled store batches).2 := by
  induction batches generalizing store with
  | nil => exact ReflTransGen.refl
  | cons batch rest ih =>
      rw [List.flatten_cons, List.forall_mem_append] at inRange
      simp only [storeRuleBatches]
      split
      · exact ReflTransGen.refl
      have first : Appends store (store.appendRules batch).2 := appends_appendRules inRange.1
      split
      next next outcome =>
        rw [outcome] at first
        exact first.trans (ih inRange.2)
      next error next outcome =>
        rw [outcome] at first
        exact first

theorem appends_ingestRules {delivery : Delivery Rule}
    (inRange : ∀ rule ∈ delivery.items, IntegerRange.signed32.Contains rule.id) :
    Appends store (store.ingestRules delivery size cancelled).2 := by
  rw [← batches_flatten size delivery.items, List.forall_mem_append] at inRange
  have full : Appends store
      (storeRuleBatches cancelled store (batches size delivery.items).1).2 :=
    appends_storeRuleBatches inRange.1
  dsimp only [ingestRules]
  split
  next error next outcome =>
    rw [outcome] at full
    exact full
  next next outcome =>
    rw [outcome] at full
    split
    · exact full
    split
    · exact full
    · exact full.trans (appends_appendRules inRange.2)

theorem appends_storeNodeBatch (expected : Nat) (batch : List Invocation) :
    Appends store (store.storeNodeBatch cancelled expected batch).2 := by
  have appended : Appends store (store.appendBatch batch).2 := appends_appendBatch batch
  simp only [storeNodeBatch]
  split
  · exact ReflTransGen.refl
  split
  next first next outcome =>
    rw [outcome] at appended
    split
    · exact appended
    · exact appended
  next error next outcome =>
    rw [outcome] at appended
    exact appended
  next crash next outcome =>
    rw [outcome] at appended
    exact appended

theorem appends_storeNodeBatches (expected : Nat) (batches : List (List Invocation)) :
    Appends store (storeNodeBatches cancelled expected store batches).2 := by
  induction batches generalizing store expected with
  | nil => exact ReflTransGen.refl
  | cons batch rest ih =>
      have first : Appends store (store.storeNodeBatch cancelled expected batch).2 :=
        appends_storeNodeBatch expected batch
      simp only [storeNodeBatches]
      split
      next next outcome =>
        rw [outcome] at first
        exact first.trans (ih _)
      · exact first

theorem appends_ingestNodes (delivery : Delivery (NodeId × Invocation)) :
    Appends store (store.ingestNodes delivery size cancelled).2 := by
  have full : Appends store (storeNodeBatches cancelled 0 store
      (batches size (splitListed 0 delivery.items).1).1).2 := appends_storeNodeBatches _ _
  dsimp only [ingestNodes]
  split
  next error next outcome =>
    rw [outcome] at full
    exact full
  next crash next outcome =>
    rw [outcome] at full
    exact full
  next next outcome =>
    rw [outcome] at full
    split
    · exact full
    · exact full
    split
    · exact full
    · exact full.trans (appends_storeNodeBatch _ _)

theorem appends_ingest (capture : Capture) (batchSize : Nat) :
    Appends store (store.ingest capture batchSize cancelled).2 := by
  have rules : Appends store
      (store.ingestRules capture.readRules (max batchSize 1) cancelled).2 :=
    appends_ingestRules capture.ids_inRange
  dsimp only [ingest]
  split
  · exact ReflTransGen.refl
  split
  next error next outcome =>
    rw [outcome] at rules
    exact rules
  next count next outcome =>
    rw [outcome] at rules
    exact rules.trans (appends_ingestNodes _)

theorem writes_ingest (capture : Capture) (batchSize : Nat) :
    Writes store (store.ingest capture batchSize cancelled).2 :=
  (appends_ingest capture batchSize).writes

theorem writes_report {action : Tracker.Action}
    (noCount : ∀ count, action ≠ .addRules count ∧ action ≠ .addNodes count) :
    Writes store (store.report action) := by
  rcases store.tracker.apply_eq_move noCount with ⟨state, moved⟩
  rw [report, moved]
  exact ReflTransGen.single (.load state)

theorem load_of_started (started : store.tracker.state ≠ .notStarted) (capture : Capture)
    (batchSize : Nat) : store.load capture batchSize = (.ok (), store) := by
  simp [load, Tracker.apply, Tracker.transition?, started]

/-- How a background load goes on behind its ingestion. -/
def settle : Outcome LoadSummary × Store → Except TraceError Unit × Store
  | (.ok _, store) => (.ok (), store.report .finish)
  | (.error error, store) => (.ok (), store.report (.fail error.message))
  | (.crash _, store) => (.error (.storage .ingestionCrashed), store)

/-- The first background load is an ingestion between two reports. -/
theorem load_of_notStarted (waiting : store.tracker.state = .notStarted) (capture : Capture)
    (batchSize : Nat) :
    store.load capture batchSize =
      settle ((store.report .start).ingest capture batchSize false) := by
  have moves : (store.tracker.apply .start).1 = true := by
    simp [Tracker.apply, Tracker.transition?, waiting]
  simp only [load, moves, if_true]
  rcases ingested : (store.report .start).ingest capture batchSize false with ⟨result, after⟩
  rw [report] at ingested
  rw [ingested]
  cases result with
  | ok summary => rfl
  | error error => rfl
  | crash crash => rfl

theorem writes_settle (ingested : Outcome LoadSummary × Store) :
    Writes ingested.2 (settle ingested).2 := by
  rcases ingested with ⟨result, after⟩
  cases result with
  | ok summary => exact writes_report fun _ => ⟨nofun, nofun⟩
  | error error => exact writes_report fun _ => ⟨nofun, nofun⟩
  | crash crash => exact ReflTransGen.refl

theorem writes_load (capture : Capture) (batchSize : Nat) :
    Writes store (store.load capture batchSize).2 := by
  by_cases waiting : store.tracker.state = .notStarted
  · have started : Writes store (store.report .start) := writes_report fun _ => ⟨nofun, nofun⟩
    rw [load_of_notStarted waiting]
    exact (started.trans (writes_ingest capture batchSize)).trans (writes_settle _)
  · rw [load_of_started waiting]

end Store

namespace Operation

open Store (Reaches)

variable {input : InputText} {store : Store}

/-- What an operation does to a store: it appends, possibly nothing, it breaks or closes the store, or
it loads a capture in the background. -/
theorem run_cases (input : InputText) (store : Store) {operation : Operation}
    (typed : operation.Typed) :
    Store.Appends store (operation.run input store).2 ∨
      (operation.run input store).2 = store.breakStorage ∨
      (operation.run input store).2 = store.close.2 ∨
      ∃ file batchSize capture, operation = load file batchSize ∧
        Capture.open? file = .ok capture ∧
        (operation.run input store).2 = (store.load capture batchSize).2 := by
  cases operation with
  | ask query => exact Or.inl ReflTransGen.refl
  | appendRule rule =>
      have inRange : ∀ other ∈ [rule], IntegerRange.signed32.Contains other.id :=
        List.forall_mem_singleton.mpr typed
      exact Or.inl (Store.appends_appendRules inRange)
  | appendRules rules => exact Or.inl (Store.appends_appendRules typed)
  | append invocation => exact Or.inl (Store.appends_appendBatch [invocation])
  | appendBatch invocations => exact Or.inl (Store.appends_appendBatch invocations)
  | ingest file batchSize cancelled =>
      rw [run]
      cases Capture.open? file with
      | error error => exact Or.inl ReflTransGen.refl
      | ok capture => exact Or.inl (Store.appends_ingest capture batchSize)
  | load file batchSize =>
      rw [run]
      cases opened : Capture.open? file with
      | error error => exact Or.inl ReflTransGen.refl
      | ok capture =>
          exact Or.inr (Or.inr (Or.inr ⟨file, batchSize, capture, rfl, opened, rfl⟩))
  | breakStorage => exact Or.inr (Or.inl rfl)
  | close => exact Or.inr (Or.inr (Or.inl rfl))

/-- An operation is a sequence of steps. -/
theorem reaches_run {operation : Operation} (typed : operation.Typed) :
    Reaches store (operation.run input store).2 := by
  rcases run_cases input store typed with
    appends | broken | closed | ⟨file, batchSize, capture, _, _, loaded⟩
  · exact appends.writes.reaches
  · rw [broken]
    exact ReflTransGen.single .breakStorage
  · rw [closed]
    exact ReflTransGen.single .close
  · rw [loaded]
    exact (Store.writes_load capture batchSize).reaches

theorem reaches_runAll {operations : List Operation}
    (typed : ∀ operation ∈ operations, operation.Typed) :
    Reaches store (runAll input store operations) := by
  induction operations generalizing store with
  | nil => exact ReflTransGen.refl
  | cons operation rest ih =>
      rw [List.forall_mem_cons] at typed
      have first : Reaches store (operation.run input store).2 := reaches_run typed.1
      exact first.trans (ih typed.2)

theorem runAll_append (first second : List Operation) :
    runAll input store (first ++ second) = runAll input (runAll input store first) second :=
  List.foldl_append

end Operation

namespace Store

theorem Reachable.sound {store : Store} (reachable : store.Reachable)
    (room : store.nodes.size < 2 ^ 31) : store.Sound := by
  rcases reachable with ⟨input, label, header, operations, typed, rfl⟩
  exact (sound_create label header).reaches (Operation.reaches_runAll typed) room

/-- In a run that stores fewer than `2 ^ 31` nodes the store is sound after every operation,
whichever operations fail. So its nodes form a tree, in which only the first node is without a
parent, no level exceeds the number of its node, and no node is its own ancestor. The store is also
sound after any further steps in any order, as when a load goes on beside other operations. -/
theorem sound_throughout (input : InputText) (label : String) (header : Header)
    (operations before : List Operation) (typed : ∀ operation ∈ operations, operation.Typed)
    (few : (Operation.runAll input (create label header) operations).nodes.size < 2 ^ 31)
    (isPrefix : before <+: operations) :
    (Operation.runAll input (create label header) before).Sound ∧
      (∀ (place : Nat) (node : StoredNode),
        (Operation.runAll input (create label header) before).nodes[place]? = some node →
          (node.parent = none ↔ place = 0) ∧ node.level ≤ place) ∧
      (∀ id, ¬Relation.TransGen
        (IsParent (Operation.runAll input (create label header) before).nodes) id id) ∧
      ∀ moment, Reaches (Operation.runAll input (create label header) before) moment →
        moment.nodes.size < 2 ^ 31 → moment.Sound := by
  rcases isPrefix with ⟨later, rfl⟩
  rw [List.forall_mem_append] at typed
  rw [Operation.runAll_append] at few
  generalize reached : Operation.runAll input (create label header) before = store at few ⊢
  have afterwards : Reaches store (Operation.runAll input store later) :=
    Operation.reaches_runAll typed.2
  have room : store.nodes.size < 2 ^ 31 := Nat.lt_of_le_of_lt afterwards.size_le few
  have sound : store.Sound :=
    Reachable.sound ⟨input, label, header, before, typed.1, reached⟩ room
  refine ⟨sound, ?_, sound.tree.acyclic, ?_⟩
  · intro place node found
    exact ⟨(sound.tree place node found).parent_eq_none_iff, sound.tree.level_le found⟩
  · intro moment reaches momentFew
    exact sound.reaches reaches momentFew

theorem reaches_sample : Reaches (create "sample" ⟨0, 1, 3, 2⟩) sample := by
  have reached : Reaches (create "sample" ⟨0, 1, 3, 2⟩)
      (Operation.runAll (.ofString "12") (create "sample" ⟨0, 1, 3, 2⟩)
        [.appendRule ⟨7, "AnyMatcher", .terminal, "Digit"⟩,
          .append ⟨none, 0, 7, true, 0, 2, 500⟩]) := Operation.reaches_runAll (by decide)
  exact reached

/-- A run whose third operation is refused, because an invocation of its batch has no parent. -/
def refusedBatchRun : List Operation :=
  [.appendRule ⟨7, "AnyMatcher", .terminal, "Digit"⟩, .append ⟨none, 0, 7, true, 0, 2, 500⟩,
    .appendBatch [⟨some 0, 1, 7, true, 0, 1, 40⟩, ⟨some 5, 2, 7, true, 0, 1, 20⟩],
    .append ⟨some 0, 1, 7, true, 1, 2, 40⟩, .close]

theorem sound_behind_refused_batch :
    (Operation.runAll (.ofString "12") (create "sample" ⟨0, 1, 3, 2⟩)
      (refusedBatchRun.take 4)).Sound ∧
    (Operation.runAll (.ofString "12") (create "sample" ⟨0, 1, 3, 2⟩)
      (refusedBatchRun.take 4)).nodes.size = 2 :=
  ⟨(sound_throughout (.ofString "12") "sample" ⟨0, 1, 3, 2⟩ refusedBatchRun
      (refusedBatchRun.take 4) (by decide) (by decide) (by decide)).1, by decide⟩

end Store

end ParseTrace
