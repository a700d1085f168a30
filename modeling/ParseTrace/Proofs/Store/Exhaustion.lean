import Mathlib.Data.List.TakeWhile
import ParseTrace.Proofs.Store.LookUp

/-!
# When the numbers run out

There are `2 ^ 31` numbers for the nodes of a store. A batch that would need more is refused. One
that needs the last of them is stored, and the store takes no batch after it: mostly the writer
crashes on the next number, and if the batch is the first and has all the numbers, the writer starts
again from the least number, under which nothing passes.

So no run stores more than `2 ^ 31` nodes. At any time the store is sound, or it is spent; and loading
does not crash as long as a number is left.
-/

namespace ParseTrace.Store

open Relation (ReflTransGen)

variable {store after : Store} {rules : List Rule} {known : List RuleId}
  {stored rows rowsAfter : Array StoredNode} {path pathAfter : List PathEntry}
  {invocations : List Invocation}

section Crash

variable {crash : Crash} {cancelled : Bool} {size : Nat}

/-- A crash takes the writer away. -/
theorem appendBatch_eq_crash
    (crashed : store.appendBatch invocations = (.crash crash, after)) : after.writer = none := by
  simp only [appendBatch_eq_atOnce] at crashed
  split at crashed
  · cases crashed
  split at crashed
  · cases crashed
  split at crashed
  · cases crashed
  split at crashed
  · cases crashed
  split at crashed
  · cases crashed
  · cases crashed
    rfl

theorem storeNodeBatch_eq_crash {expected : Nat}
    (crashed : store.storeNodeBatch cancelled expected invocations = (.crash crash, after)) :
    after.writer = none := by
  simp only [storeNodeBatch] at crashed
  split at crashed
  · cases crashed
  split at crashed
  · split at crashed
    · cases crashed
    · cases crashed
  · cases crashed
  next outcome =>
    cases crashed
    exact appendBatch_eq_crash outcome

theorem storeNodeBatches_eq_crash {expected : Nat} {batches : List (List Invocation)}
    (crashed : storeNodeBatches cancelled expected store batches = (.crash crash, after)) :
    after.writer = none := by
  induction batches generalizing store expected with
  | nil => cases crashed
  | cons batch rest ih =>
      simp only [storeNodeBatches] at crashed
      split at crashed
      · exact ih crashed
      · exact storeNodeBatch_eq_crash crashed

theorem ingestNodes_eq_crash {delivery : Delivery (NodeId × Invocation)}
    (crashed : store.ingestNodes delivery size cancelled = (.crash crash, after)) :
    after.writer = none := by
  dsimp only [ingestNodes] at crashed
  split at crashed
  · cases crashed
  next outcome =>
    cases crashed
    exact storeNodeBatches_eq_crash outcome
  next full outcome =>
    split at crashed
    · cases crashed
    · cases crashed
    split at crashed
    · cases crashed
    rcases left : full.storeNodeBatch cancelled
      ((splitListed 0 delivery.items).1.length -
        (batches size (splitListed 0 delivery.items).1).2.length)
      (batches size (splitListed 0 delivery.items).1).2 with ⟨result, last⟩
    rw [left] at crashed
    cases result with
    | ok _ => cases crashed
    | error error => cases crashed
    | crash other =>
        cases crashed
        exact storeNodeBatch_eq_crash left

/-- Loading crashes when there is no room for a batch, and otherwise not without its writer. -/
theorem ingest_eq_crash {capture : Capture} {batchSize : Nat}
    (crashed : store.ingest capture batchSize cancelled = (.crash crash, after)) :
    maxBatch < max batchSize 1 ∨ after.writer = none := by
  dsimp only [ingest] at crashed
  split at crashed
  next tooLarge => exact Or.inl tooLarge
  right
  split at crashed
  · cases crashed
  next next _ =>
    rcases nodes : next.ingestNodes capture.readInvocations (max batchSize 1) cancelled with
      ⟨result, last⟩
    rw [nodes] at crashed
    cases result with
    | ok _ => cases crashed
    | error error => cases crashed
    | crash other =>
        cases crashed
        exact ingestNodes_eq_crash nodes

end Crash

/-- A batch is taken only if there are numbers for all of it. -/
theorem consistent_of_takeBatch (knows : ∀ id, id ∈ known ↔ ∃ rule ∈ rules, rule.id = id)
    (consistent : Growth.Consistent rules ⟨stored ++ rows, path⟩)
    (room : stored.size + rows.size ≤ 2 ^ 31)
    (taken : takeBatch known stored stored.size rows path invocations =
      .ok (rowsAfter, pathAfter)) :
    stored.size + rowsAfter.size ≤ 2 ^ 31 ∧
      Growth.Consistent rules ⟨stored ++ rowsAfter, pathAfter⟩ := by
  induction invocations generalizing rows path with
  | nil =>
      cases taken
      exact ⟨room, consistent⟩
  | cons invocation rest ih =>
      rw [takeBatch, earlierLevel?_eq] at taken
      split at taken
      · cases taken
      next id numbered =>
      split at taken
      · cases taken
      next parentPath passed =>
      split at taken
      · cases taken
      next measured =>
        rcases inRange_of_passed consistent.agrees room numbered passed with ⟨inRange, rfl⟩
        have one : Growth.take known ⟨stored ++ rows, path⟩ invocation = _ :=
          Growth.take_of_checks (by rw [Array.size_append]; exact passed)
            (by rw [Array.size_append]; exact measured)
        have grown := consistent.take knows one
        rw [Array.size_append, ← Array.append_push] at grown
        exact ih grown (by rw [Array.size_push]; omega) taken

/-- What holds of a store once all numbers of nodes are used up. -/
structure Spent (store : Store) : Prop where
  tree : FormsTree store.rules store.nodes
  size_eq : store.nodes.size = 2 ^ 31
  nodeCount_le : store.tracker.nodes ≤ 2 ^ 31
  blocked : ∀ writer, store.writer = some writer →
    writer.next < 0 ∧ ∀ entry ∈ writer.path, 0 ≤ entry.node

/-- Nothing passes under a negative number, with a path of numbers that are not negative. -/
theorem checkInvocation_of_neg {levelOf? : NodeId → Option Nat} {id : NodeId}
    {invocation : Invocation} (negative : id < 0) (onPath : ∀ entry ∈ path, 0 ≤ entry.node)
    (unknown : ∀ parent < id, levelOf? parent = none) :
    ∃ corruption, checkInvocation known levelOf? path id invocation = .error corruption := by
  simp only [checkInvocation]
  split
  · exact ⟨_, rfl⟩
  split
  · exact ⟨_, rfl⟩
  split
  · exact ⟨_, if_pos (Int.ne_of_lt negative)⟩
  next parent _ =>
    split
    · exact ⟨_, rfl⟩
    next late =>
      have earlier : parent < id := Int.not_le.mp late
      have offPath : path.dropWhile (fun entry => entry.node != parent) = [] := by
        rw [List.dropWhile_eq_nil_iff]
        intro entry isOn
        have after : parent < entry.node :=
          Int.lt_of_lt_of_le (Int.lt_trans earlier negative) (onPath entry isOn)
        exact bne_iff_ne.mpr (Int.ne_of_gt after)
      rw [findParent?, offPath]
      simp only [unknown parent earlier, Option.map_none]
      exact ⟨_, rfl⟩

/-- So no batch is taken that begins at one. -/
theorem takeBatch_of_neg {first : NodeId} (negative : first < 0)
    (onPath : ∀ entry ∈ path, 0 ≤ entry.node) (nonempty : invocations ≠ []) :
    ∃ corruption, takeBatch known stored first #[] path invocations = .error corruption := by
  rcases List.exists_cons_of_ne_nil nonempty with ⟨invocation, rest, rfl⟩
  have numbered : idAt? first (#[] : Array StoredNode).size = some first := by
    have start : first + wrapId ((0 : Nat) : Int) = first := by
      rw [wrapId_eq (by decide)]
      exact Int.add_zero first
    have inRange : first ≤ maxNodeId := Int.le_of_lt (Int.lt_trans negative (by decide))
    simp only [idAt?, List.size_toArray, List.length_nil, start]
    exact if_pos inRange
  have unknown : ∀ parent < first, earlierLevel? stored first #[] parent = none := by
    intro parent earlier
    rw [earlierLevel?, if_neg (Int.not_le.mpr earlier),
      nodeAt?_eq_none_of_neg _ (Int.lt_trans earlier negative)]
    rfl
  have refused : ∃ corruption, checkInvocation known (earlierLevel? stored first #[]) path first
      invocation = .error corruption := checkInvocation_of_neg negative onPath unknown
  rcases refused with ⟨corruption, refused⟩
  refine ⟨corruption, ?_⟩
  rw [takeBatch, numbered]
  simp only [refused]

namespace Spent

/-- As long as a spent store is open and has its writer, it finds fault with every batch. -/
theorem exists_corruption (spent : store.Spent) {writer : Writer}
    (written : store.writer = some writer) (isOpen : store.closed = false)
    (nonempty : invocations ≠ []) :
    ∃ corruption, store.appendBatch invocations = (.error (.corrupt corruption), store) := by
  rcases spent.blocked writer written with ⟨negative, onPath⟩
  have refused : ∃ corruption, takeBatch writer.known store.nodes writer.next #[]
      writer.path invocations = .error corruption :=
    takeBatch_of_neg negative onPath nonempty
  rcases refused with ⟨corruption, refused⟩
  refine ⟨corruption, ?_⟩
  rw [appendBatch_of_open written isOpen nonempty, refused]

/-- A spent store refuses every invocation. -/
theorem exists_refusal (spent : store.Spent) (nonempty : invocations ≠ []) :
    ∃ cause, store.appendBatch invocations = (.error cause, store) := by
  cases written : store.writer with
  | none => exact ⟨.storage .writerLost, appendBatch_of_noWriter written invocations⟩
  | some writer =>
      cases closed : store.closed with
      | true => exact ⟨.closed, appendBatch_of_shut written closed nonempty⟩
      | false =>
          rcases spent.exists_corruption written closed nonempty with ⟨corruption, refused⟩
          exact ⟨.corrupt corruption, refused⟩

/-- A spent store takes no batch. -/
theorem appendBatch_eq (spent : store.Spent) (invocations : List Invocation) :
    (store.appendBatch invocations).2 = store := by
  by_cases nonempty : invocations = []
  · rw [nonempty]
    cases written : store.writer with
    | none => rw [appendBatch_of_noWriter written]
    | some writer => rw [appendBatch_nil written]
  · rcases spent.exists_refusal nonempty with ⟨cause, refused⟩
    rw [refused]

theorem of_appendRules (spent : store.Spent) (rules : List Rule) :
    (store.appendRules rules).2.Spent := by
  rcases store.appendRules_outcome rules with
    ⟨_, refused⟩ | ⟨_, same⟩ | ⟨writer, written, _, stored⟩
  · rw [refused]
    exact spent
  · rw [same]
    exact spent
  · rw [stored]
    refine ⟨spent.tree.mono_rules fun _ => List.mem_append_left rules, spent.size_eq,
      spent.nodeCount_le, ?_⟩
    intro current isCurrent
    obtain rfl := Option.some.inj isCurrent
    exact spent.blocked writer written

theorem step (spent : store.Spent) (step : Step store after) : after.Spent := by
  cases step with
  | appendRules rules => exact spent.of_appendRules rules
  | appendBatch invocations =>
      rw [spent.appendBatch_eq]
      exact spent
  | load state => exact ⟨spent.tree, spent.size_eq, spent.nodeCount_le, spent.blocked⟩
  | breakStorage => exact ⟨spent.tree, spent.size_eq, spent.nodeCount_le, spent.blocked⟩
  | close =>
      rw [close_snd]
      exact ⟨spent.tree, spent.size_eq, spent.nodeCount_le, spent.blocked⟩

end Spent

theorem nonneg_of_agrees {nodes : Array StoredNode} (agrees : PathAgrees (levelAt? nodes) path)
    {entry : PathEntry} (onPath : entry ∈ path) : 0 ≤ entry.node := by
  apply Int.not_lt.mp
  intro negative
  have found := agrees entry onPath
  rw [levelAt?_eq_none_of_neg nodes negative] at found
  cases found

/-- A writer that has given the last number either crashes or starts again from the least one. -/
theorem next_neg_of_le {count added : Nat} (all : count + added = 2 ^ 31)
    (survives : (count : Int) + wrapId added ≤ maxNodeId) : (count : Int) + wrapId added < 0 := by
  by_cases nothingStored : count = 0
  · have batchFull : added = 2147483648 := by omega
    subst nothingStored batchFull
    decide
  · rw [add_wrapId (by omega), natCast_le_maxNodeId] at survives
    omega

/-- A batch that changes what is stored was taken as a whole, and then all depends on the number
behind it. -/
theorem appendBatch_of_changed {writer : Writer} (written : store.writer = some writer)
    (changed : (store.appendBatch invocations).2 ≠ store) :
    ∃ rows path,
      takeBatch writer.known store.nodes writer.next #[] writer.path invocations =
        .ok (rows, path) ∧
      store.appendBatch invocations =
        if writer.next + wrapId invocations.length ≤ maxNodeId then
          (.ok writer.next,
            { store with
              nodes := store.nodes ++ rows
              writer := some { writer with next := writer.next + wrapId invocations.length, path }
              tracker := (store.tracker.apply (.addNodes invocations.length)).2 })
        else (.crash .overflow, { store with nodes := store.nodes ++ rows, writer := none }) := by
  have isOpen : store.closed = false := by
    cases closed : store.closed with
    | false => rfl
    | true => exact absurd (appendBatch_of_closed closed invocations) changed
  have nonempty : invocations ≠ [] := by
    rintro rfl
    rw [appendBatch_nil written] at changed
    exact changed rfl
  rw [appendBatch_of_open written isOpen nonempty] at changed ⊢
  cases taken : takeBatch writer.known store.nodes writer.next #[] writer.path invocations with
  | error corruption =>
      rw [taken] at changed
      exact absurd rfl changed
  | ok result =>
      rcases result with ⟨rows, path⟩
      exact ⟨rows, path, rfl, rfl⟩

/-- What a writer takes keeps the nodes a tree, and there are numbers for all of it. -/
theorem Sound.consistent_of_taken {writer : Writer} (sound : store.Sound)
    (written : store.writer = some writer) (room : store.nodes.size < 2 ^ 31)
    (taken : takeBatch writer.known store.nodes store.nodes.size #[] writer.path invocations =
      .ok (rows, path)) :
    store.nodes.size + rows.size ≤ 2 ^ 31 ∧
      Growth.Consistent store.rules ⟨store.nodes ++ rows, path⟩ := by
  have consistent : Growth.Consistent store.rules ⟨store.nodes ++ #[], writer.path⟩ := by
    rw [Array.append_empty]
    exact sound.consistent written
  exact consistent_of_takeBatch (sound.knows written) consistent (Nat.le_of_lt room) taken

/-- A batch that leaves no number over leaves a spent store. -/
theorem Sound.spent_of_appendBatch (sound : store.Sound) (room : store.nodes.size < 2 ^ 31)
    (full : ¬(store.appendBatch invocations).2.nodes.size < 2 ^ 31) :
    (store.appendBatch invocations).2.Spent := by
  rcases sound.described with ⟨writer, written, _⟩
  have changed : (store.appendBatch invocations).2 ≠ store := by
    intro same
    rw [same] at full
    exact full room
  rcases appendBatch_of_changed written changed with ⟨rows, path, taken, outcome⟩
  rw [sound.next_eq written] at taken outcome
  rcases sound.consistent_of_taken written room taken with ⟨fits, grown⟩
  have count : (store.nodes ++ rows).size = store.nodes.size + invocations.length := by
    have sizes : rows.size = invocations.length := by simpa using size_of_takeBatch taken
    rw [Array.size_append, sizes]
  have all : store.nodes.size + invocations.length = 2 ^ 31 := by
    have grownFull : ¬(store.nodes ++ rows).size < 2 ^ 31 := by
      rw [outcome] at full
      split at full
      · exact full
      · exact full
    rw [Array.size_append] at grownFull count
    omega
  by_cases survives : (store.nodes.size : Int) + wrapId invocations.length ≤ maxNodeId
  · rw [outcome, if_pos survives]
    refine ⟨grown.tree, count.trans all, ?_, ?_⟩
    · have total : Tracker.wrapAdd store.tracker.nodes invocations.length = 2 ^ 31 := by
        rw [sound.nodeCount_eq, Tracker.wrapAdd_eq_add (by unfold countLimit; omega), all]
      exact Nat.le_of_eq total
    · intro current isCurrent
      obtain rfl := Option.some.inj isCurrent
      refine ⟨next_neg_of_le all survives, ?_⟩
      intro entry onPath
      exact nonneg_of_agrees grown.agrees onPath
  · rw [outcome, if_neg survives]
    refine ⟨grown.tree, count.trans all, ?_, nofun⟩
    rw [sound.nodeCount_eq]
    exact Nat.le_of_lt room

/-- As long as a number is left the store is sound, and then it is spent. -/
theorem Reaches.sound_or_spent (reaches : Reaches store after) (sound : store.Sound)
    (room : store.nodes.size < 2 ^ 31) :
    (after.Sound ∧ after.nodes.size < 2 ^ 31) ∨ after.Spent := by
  induction reaches with
  | refl => exact Or.inl ⟨sound, room⟩
  | @tail middle last _ step ih =>
      rcases ih with ⟨middleSound, middleRoom⟩ | spent
      · by_cases few : last.nodes.size < 2 ^ 31
        · exact Or.inl ⟨middleSound.step step few, few⟩
        · right
          cases step with
          | appendRules rules =>
              rcases appendRules_cases middle rules with ⟨_, refused⟩ | ⟨_, _, grown⟩
              · rw [refused] at few
                exact absurd middleRoom few
              · rw [grown] at few
                exact absurd middleRoom few
          | appendBatch invocations => exact middleSound.spent_of_appendBatch middleRoom few
          | load state => exact absurd middleRoom few
          | breakStorage => exact absurd middleRoom few
          | close =>
              rw [close_snd] at few
              exact absurd middleRoom few
      · exact Or.inr (spent.step step)

/-- However much is stored, it forms a tree. -/
theorem Reaches.tree (reaches : Reaches store after) (sound : store.Sound)
    (room : store.nodes.size < 2 ^ 31) : FormsTree after.rules after.nodes := by
  rcases reaches.sound_or_spent sound room with ⟨afterSound, _⟩ | spent
  · exact afterSound.tree
  · exact spent.tree

/-- However much is stored, the identifiers of the rules stay different and all are counted. -/
theorem Declares.step (declares : store.Declares) (step : Step store after) : after.Declares := by
  cases step with
  | appendRules rules inRange =>
      rcases store.appendRules_outcome rules with
        ⟨_, refused⟩ | ⟨_, same⟩ | ⟨_, _, allNew, stored⟩
      · rw [refused]
        exact declares
      · rw [same]
        exact declares
      · rw [stored]
        exact declares.withRules ((nodup_append_iff declares.ids_nodup rules).mpr allNew) inRange
  | appendBatch invocations =>
      rcases appendBatch_cases store invocations with ⟨_, refused⟩ | ⟨_, _, _, _, grown⟩
      · rw [refused]
        exact declares
      · rw [grown]
        exact ⟨declares.ids_nodup, declares.ids_inRange, declares.ruleCount_eq⟩
  | load state => exact ⟨declares.ids_nodup, declares.ids_inRange, declares.ruleCount_eq⟩
  | breakStorage => exact ⟨declares.ids_nodup, declares.ids_inRange, declares.ruleCount_eq⟩
  | close =>
      rw [close_snd]
      exact ⟨declares.ids_nodup, declares.ids_inRange, declares.ruleCount_eq⟩

theorem Declares.reaches (declares : store.Declares) (reaches : Reaches store after) :
    after.Declares := by
  induction reaches with
  | refl => exact declares
  | tail _ step ih => exact ih.step step

/-- No run counts more records than there are identifiers and numbers. -/
theorem Reaches.exists_records (reaches : Reaches store after) (sound : store.Sound)
    (room : store.nodes.size < 2 ^ 31) : ∃ records, after.tracker.records? = some records := by
  have ruleCount := (sound.declares.reaches reaches).ruleCount_le
  have nodeCount : after.tracker.nodes ≤ 2 ^ 31 := by
    rcases reaches.sound_or_spent sound room with ⟨afterSound, few⟩ | spent
    · rw [afterSound.nodeCount_eq]
      exact Nat.le_of_lt few
    · exact spent.nodeCount_le
  refine ⟨_, if_pos ?_⟩
  unfold countLimit
  omega

end ParseTrace.Store
