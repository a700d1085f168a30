import ParseTrace.Proofs.Store.Splitting

/-!
# The batch that takes the last number

A batch should either be refused as corrupt, which changes nothing, or be stored under the numbers that
come next, behind which the writer goes on. Nothing else happens as long as a number is left over. But
the number behind a batch is counted when the batch is stored already, and behind the last of the
`2 ^ 31` numbers there is none: a batch that needs it, and that would be stored, is what no store
handles cleanly. Behind earlier nodes it takes the writer with it. If it is the first batch of all, the
writer goes on from the least number, and so it refuses whatever comes later.

So a batch is judged by what would be stored: by the nodes with the numbered batch behind them, which
have to form a tree, and by how many they are.
-/

namespace ParseTrace.Store

variable {store : Store} {rules : List Rule} {nodes : Array StoredNode} {writer : Writer}
  {invocation : Invocation} {invocations : List Invocation}

/-- Either a batch is refused as corrupt and changes nothing, or it is stored under the numbers from one
on, none of them beyond the largest, and the writer goes on with as many numbers as there are nodes. -/
def HandlesCleanly (store : Store) (invocations : List Invocation) : Prop :=
  (∃ corruption, store.appendBatch invocations = (.error (.corrupt corruption), store)) ∨
    ∃ (first : Nat) (after : Store) (writer : Writer),
      store.appendBatch invocations = (.ok first, after) ∧
      first + invocations.length ≤ 2 ^ 31 ∧
      after.nodes = store.nodes ++ numbered first invocations ∧
      after.writer = some writer ∧ writer.next = after.nodes.size

/-- Whether the nodes and a batch behind them would form a tree in which all numbers are used. -/
def UsesUp (store : Store) (invocations : List Invocation) : Prop :=
  store.nodes.size + invocations.length = 2 ^ 31 ∧
    FormsTree store.rules (store.nodes ++ numbered store.nodes.size invocations)

namespace Ready

/-- What a batch is made of when it is taken. -/
theorem rows_of_taken {rows : Array StoredNode} {path : List PathEntry} (ready : store.Ready writer)
    (taken : takeBatch writer.known store.nodes store.nodes.size #[] writer.path invocations =
      .ok (rows, path)) :
    store.nodes.size + invocations.length ≤ 2 ^ 31 ∧
      FormsTree store.rules (store.nodes ++ numbered store.nodes.size invocations) ∧
      rows = numbered store.nodes.size invocations := by
  rcases ready.sound.consistent_of_taken ready.written ready.few taken with ⟨fits, grown⟩
  have size : rows.size = invocations.length := by simpa using size_of_takeBatch taken
  rw [size] at fits
  have asOne := takeBatch_empty_eq_takeAll writer.known store.nodes writer.path fits
  have consistent := ready.sound.consistent ready.written
  rw [taken] at asOne
  have nodes : store.nodes ++ rows = store.nodes ++ numbered store.nodes.size invocations :=
    (consistent.takeAll (ready.sound.knows ready.written) asOne.symm).2
  refine ⟨fits, ?_, (Array.append_right_inj store.nodes).mp nodes⟩
  rw [← nodes]
  exact grown.tree

/-- A batch is taken whenever it leaves a tree and there are numbers for all of it. -/
theorem exists_taken (ready : store.Ready writer)
    (fits : store.nodes.size + invocations.length ≤ 2 ^ 31)
    (tree : FormsTree store.rules (store.nodes ++ numbered store.nodes.size invocations)) :
    ∃ path, takeBatch writer.known store.nodes store.nodes.size #[] writer.path invocations =
      .ok (numbered store.nodes.size invocations, path) := by
  have consistent := ready.sound.consistent ready.written
  rcases consistent.exists_takeAll (ready.sound.knows ready.written) fits tree with ⟨grown, all⟩
  have asOne := takeBatch_empty_eq_takeAll writer.known store.nodes writer.path fits
  rw [all] at asOne
  cases taken : takeBatch writer.known store.nodes store.nodes.size #[] writer.path invocations with
  | error corruption =>
      rw [taken] at asOne
      cases asOne
  | ok result =>
      rcases result with ⟨rows, path⟩
      obtain rfl := (ready.rows_of_taken taken).2.2
      exact ⟨path, rfl⟩

/-- Any other batch is found corrupt. -/
theorem exists_corruption (ready : store.Ready writer)
    (unfit : ¬(store.nodes.size + invocations.length ≤ 2 ^ 31 ∧
      FormsTree store.rules (store.nodes ++ numbered store.nodes.size invocations))) :
    ∃ corruption, store.appendBatch invocations = (.error (.corrupt corruption), store) := by
  have nonempty : invocations ≠ [] := by
    rintro rfl
    exact unfit ⟨Nat.le_of_lt ready.few, by simpa using ready.sound.tree⟩
  rw [appendBatch_of_open ready.written ready.isOpen nonempty, ready.sound.next_eq ready.written]
  cases taken : takeBatch writer.known store.nodes store.nodes.size #[] writer.path invocations with
  | error corruption => exact ⟨corruption, rfl⟩
  | ok result =>
      rcases ready.rows_of_taken taken with ⟨fits, tree, _⟩
      exact absurd ⟨fits, tree⟩ unfit

/-- As long as a number is left over, a batch that leaves a tree is stored, and the writer goes on. -/
theorem stores (ready : store.Ready writer)
    (few : store.nodes.size + invocations.length < 2 ^ 31)
    (tree : FormsTree store.rules (store.nodes ++ numbered store.nodes.size invocations)) :
    ∃ path, store.appendBatch invocations =
      (.ok store.nodes.size,
        store.withNodes writer ⟨store.nodes ++ numbered store.nodes.size invocations, path⟩) := by
  rcases ready.exists_taken (Nat.le_of_lt few) tree with ⟨path, taken⟩
  refine ⟨path, ?_⟩
  rw [ready.appendBatch_eq fun _ => by omega, taken]
  dsimp only
  rw [if_pos (by rwa [Array.size_append, size_numbered])]

/-- Behind earlier nodes the batch with the last number is stored, and there the writer ends. -/
theorem crashes (ready : store.Ready writer) (behindNode : 0 < store.nodes.size)
    (usesUp : store.UsesUp invocations) :
    store.appendBatch invocations =
      (.crash .overflow,
        { store with
          nodes := store.nodes ++ numbered store.nodes.size invocations
          writer := none }) := by
  rcases usesUp with ⟨all, tree⟩
  rcases ready.exists_taken (Nat.le_of_eq all) tree with ⟨path, taken⟩
  rw [ready.appendBatch_eq fun empty => by omega, taken]
  dsimp only
  rw [if_neg (by rw [Array.size_append, size_numbered]; omega)]

/-- A first batch with all the numbers is stored, and the writer starts again from the least one. -/
theorem startsAgain (ready : store.Ready writer) (noNode : store.nodes.size = 0)
    (usesUp : store.UsesUp invocations) :
    ∃ after notes, store.appendBatch invocations = (.ok 0, after) ∧
      after.nodes = store.nodes ++ numbered 0 invocations ∧ after.writer = some notes ∧
      notes.next = -2147483648 := by
  rcases usesUp with ⟨all, tree⟩
  rcases ready.exists_taken (Nat.le_of_eq all) tree with ⟨path, taken⟩
  have batchFull : invocations.length = 2147483648 := by omega
  have nonempty : invocations ≠ [] := by
    rw [← List.length_pos_iff, batchFull]
    decide
  have least : (0 : Int) + wrapId ((2147483648 : Nat) : Int) = -2147483648 := by decide
  have goesOn : (-2147483648 : Int) ≤ maxNodeId := by decide
  rw [noNode, Nat.cast_zero] at taken
  rw [appendBatch_of_open ready.written ready.isOpen nonempty, ready.sound.next_eq ready.written,
    noNode, Nat.cast_zero, taken]
  dsimp only
  rw [batchFull, least, if_pos goesOn]
  exact ⟨_, _, rfl, rfl, rfl, rfl⟩

/-- What a store with numbers left does not handle cleanly are the batches that use them up. -/
theorem handlesCleanly_iff (ready : store.Ready writer) :
    store.HandlesCleanly invocations ↔ ¬store.UsesUp invocations := by
  constructor
  · intro clean usesUp
    rcases Nat.eq_zero_or_pos store.nodes.size with noNode | behindNode
    · rcases ready.startsAgain noNode usesUp with ⟨left, notes, accepted, _, noted, least⟩
      rw [HandlesCleanly, accepted] at clean
      rcases clean with ⟨corruption, refused⟩ | ⟨first, after, writer, stored, _, _, written, next⟩
      · cases refused
      · cases stored
        obtain rfl := Option.some.inj (written.symm.trans noted)
        rw [least] at next
        exact absurd next (Int.ne_of_lt (Int.lt_of_lt_of_le (by decide) (Int.natCast_nonneg _)))
    · rw [HandlesCleanly, ready.crashes behindNode usesUp] at clean
      rcases clean with ⟨corruption, refused⟩ | ⟨_, _, _, accepted, _⟩
      · cases refused
      · cases accepted
  · intro leavesOne
    by_cases fit : store.nodes.size + invocations.length ≤ 2 ^ 31 ∧
        FormsTree store.rules (store.nodes ++ numbered store.nodes.size invocations)
    · rcases fit with ⟨fits, tree⟩
      have few : store.nodes.size + invocations.length < 2 ^ 31 :=
        Nat.lt_of_le_of_ne fits fun all => leavesOne ⟨all, tree⟩
      rcases ready.stores few tree with ⟨path, accepted⟩
      exact Or.inr ⟨store.nodes.size, _, _, accepted, fits, rfl, rfl, rfl⟩
    · exact Or.inl (ready.exists_corruption fit)

end Ready

section Siblings

/-- Behind a node that hangs below another one there is a place for its like. -/
theorem wellPlaced_again (behindNode : 0 < nodes.size)
    (placed : WellPlaced rules nodes nodes.size { invocation with id := nodes.size }) :
    WellPlaced rules (nodes.push { invocation with id := nodes.size }) (nodes.size + 1)
      { invocation with id := ((nodes.size + 1 : Nat) : Int) } := by
  refine { placed with id_eq := rfl, hangs := Or.inr ?_ }
  rcases placed.hangs with ⟨first, _⟩ | ⟨parent, above, nonneg, earlier, named, found, level⟩
  · omega
  · exact ⟨parent, above, nonneg, by omega, named, nodeAt?_push_of_eq_some found _, level⟩

/-- So a tree takes as many nodes alike as one wants. -/
theorem formsTree_append_replicate (tree : FormsTree rules nodes) (behindNode : 0 < nodes.size)
    (placed : WellPlaced rules nodes nodes.size { invocation with id := nodes.size }) (count : Nat) :
    FormsTree rules (nodes ++ numbered nodes.size (List.replicate count invocation)) := by
  induction count generalizing nodes with
  | zero => simpa using tree
  | succ count ih =>
      rw [List.replicate_succ, append_numbered_cons]
      have grown := FormsTree.push_iff.mpr ⟨tree, placed⟩
      have again := wellPlaced_again behindNode placed
      have size : (nodes.push { invocation with id := (nodes.size : Int) }).size =
          nodes.size + 1 := Array.size_push _
      rw [← size] at again ⊢
      exact ih grown (by rw [size]; exact Nat.succ_pos _) again

/-- The numbers of a store with a root can be used up. -/
theorem Ready.usesUp_replicate (ready : store.Ready writer) (behindNode : 0 < store.nodes.size)
    (placed : WellPlaced store.rules store.nodes store.nodes.size
      { invocation with id := store.nodes.size }) :
    store.UsesUp (List.replicate (2 ^ 31 - store.nodes.size) invocation) := by
  refine ⟨?_, formsTree_append_replicate ready.sound.tree behindNode placed _⟩
  rw [List.length_replicate]
  have := ready.few
  omega

end Siblings

/-- A store without numbers handles a batch cleanly if it has its writer and there is anything in the
batch to refuse. -/
theorem Spent.handlesCleanly_iff (spent : store.Spent) (isOpen : store.closed = false) :
    store.HandlesCleanly invocations ↔ store.writer ≠ none ∧ invocations ≠ [] := by
  constructor
  · intro clean
    cases written : store.writer with
    | none =>
        rcases clean with ⟨corruption, refused⟩ | ⟨_, _, _, accepted, _⟩
        · simp [appendBatch_of_noWriter written] at refused
        · simp [appendBatch_of_noWriter written] at accepted
    | some writer =>
        refine ⟨Option.some_ne_none writer, ?_⟩
        rintro rfl
        rcases clean with ⟨corruption, refused⟩ | ⟨_, _, _, accepted, _, _, noted, next⟩
        · simp [appendBatch_nil written] at refused
        · have negative := (spent.blocked writer written).1
          rw [appendBatch_nil written] at accepted
          rw [← (Prod.mk.inj accepted).2, written] at noted
          obtain rfl := Option.some.inj noted
          rw [next] at negative
          exact absurd negative (Int.not_lt.mpr (Int.natCast_nonneg _))
  · rintro ⟨hasWriter, nonempty⟩
    rcases Option.ne_none_iff_exists'.mp hasWriter with ⟨writer, written⟩
    exact Or.inl (spent.exists_corruption written isOpen nonempty)

/-- Nothing comes behind the last number, so a batch without invocations uses it up, and no other. -/
theorem Spent.usesUp_iff (spent : store.Spent) : store.UsesUp invocations ↔ invocations = [] := by
  constructor
  · rintro ⟨all, _⟩
    rw [spent.size_eq] at all
    exact List.length_eq_zero_iff.mp (by omega)
  · rintro rfl
    exact ⟨spent.size_eq, by simpa using spent.tree⟩

/-- A store at any moment of its run, as long as it is open, and any batch. The store handles it cleanly
unless the numbers are used up with it, or were before and took the writer along. A batch that uses
them up is stored all the same: the first batch of all has the writer go on from the least number, any
other one is the end of the writer. Once all numbers are used the store stays as it is, and refuses a
batch as corrupt if it has a writer, but for the writer's sake if it has none. -/
theorem clean_unless_numbers_are_used_up {label : String} {header : Header}
    (reached : Reaches (create label header) store) (isOpen : store.closed = false)
    (invocations : List Invocation) :
    (store.HandlesCleanly invocations ↔
      ¬store.UsesUp invocations ∧ (store.nodes.size = 2 ^ 31 → store.writer ≠ none)) ∧
    (invocations ≠ [] → store.UsesUp invocations →
      (store.nodes.size = 0 → ∃ after writer, store.appendBatch invocations = (.ok 0, after) ∧
        after.nodes = store.nodes ++ numbered 0 invocations ∧ after.writer = some writer ∧
        writer.next = -2147483648) ∧
      (0 < store.nodes.size → store.appendBatch invocations =
        (.crash .overflow,
          { store with
            nodes := store.nodes ++ numbered store.nodes.size invocations
            writer := none }))) ∧
    (invocations ≠ [] → store.nodes.size = 2 ^ 31 →
      (store.writer = none →
        store.appendBatch invocations = (.error (.storage .writerLost), store)) ∧
      (store.writer ≠ none → ∃ corruption,
        store.appendBatch invocations = (.error (.corrupt corruption), store))) := by
  rcases reached.sound_or_spent (sound_create label header) (Nat.two_pow_pos 31) with
    ⟨sound, few⟩ | spent
  · rcases sound.described with ⟨writer, written, _⟩
    have ready : store.Ready writer := ⟨sound, written, isOpen, few⟩
    refine ⟨?_, fun _ usesUp => ⟨fun noNode => ready.startsAgain noNode usesUp,
      fun behindNode => ready.crashes behindNode usesUp⟩, fun _ full => by omega⟩
    rw [ready.handlesCleanly_iff, and_iff_left]
    intro full
    omega
  · refine ⟨?_, fun nonempty usesUp => absurd (spent.usesUp_iff.mp usesUp) nonempty,
      fun nonempty _ => ⟨fun noWriter => appendBatch_of_noWriter noWriter invocations,
        fun hasWriter => ?_⟩⟩
    · rw [spent.handlesCleanly_iff isOpen, spent.usesUp_iff, and_comm]
      simp [spent.size_eq]
    · rcases Option.ne_none_iff_exists'.mp hasWriter with ⟨writer, written⟩
      exact spent.exists_corruption written isOpen nonempty

/-- A child of the root of the small store. -/
def childOfSample : Invocation :=
  ⟨some 0, 1, 7, true, 0, 1, 40⟩

theorem child_is_handled_cleanly : sample.HandlesCleanly [childOfSample] := by
  have clean := (clean_unless_numbers_are_used_up reaches_sample (by decide) [childOfSample]).1
  refine clean.mpr ⟨?_, fun full => absurd full (by decide)⟩
  rintro ⟨all, _⟩
  exact absurd all (by decide)

theorem exists_ready_sample : ∃ writer, sample.Ready writer := by
  have sound : sample.Sound := sample_reachable.sound (by decide)
  rcases sound.described with ⟨writer, written, _⟩
  exact ⟨writer, sound, written, by decide, by decide⟩

/-- Children of its root use up the numbers that the small store has left. -/
theorem usesUp_childrenOfSample : sample.UsesUp (List.replicate (2 ^ 31 - 1) childOfSample) := by
  have oneNode : sample.nodes.size = 1 := by decide
  have root : nodeAt? sample.nodes 0 = some ⟨⟨none, 0, 7, true, 0, 2, 500⟩, 0⟩ := by decide
  have placed : WellPlaced sample.rules sample.nodes sample.nodes.size
      { childOfSample with id := sample.nodes.size } :=
    { id_eq := rfl
      rule_declared := ⟨⟨7, "AnyMatcher", .terminal, "Digit"⟩, by decide, rfl⟩
      start_le_stop := by decide
      stop_le := by decide
      nanos_le := by decide
      hangs := Or.inr ⟨0, _, by decide, by decide, rfl, root, rfl⟩ }
  rcases exists_ready_sample with ⟨writer, ready⟩
  have usesUp := ready.usesUp_replicate (by decide) placed
  rwa [oneNode] at usesUp

/-- The small store with a node for every number, and without its writer. -/
def lostSample : Store :=
  { sample with
    nodes := sample.nodes ++
      numbered sample.nodes.size (List.replicate (2 ^ 31 - 1) childOfSample)
    writer := none }

theorem appendBatch_childrenOfSample :
    sample.appendBatch (List.replicate (2 ^ 31 - 1) childOfSample) =
      (.crash .overflow, lostSample) := by
  rcases exists_ready_sample with ⟨writer, ready⟩
  exact ready.crashes (by decide) usesUp_childrenOfSample

theorem lastNumber_takes_the_writer_along :
    let batch := List.replicate (2 ^ 31 - 1) childOfSample
    let after := (sample.appendBatch batch).2
    ¬sample.HandlesCleanly batch ∧ (sample.appendBatch batch).1 = .crash .overflow ∧
      after.nodes.size = 2 ^ 31 ∧ after.closed = false ∧
      after.appendBatch [childOfSample] = (.error (.storage .writerLost), after) := by
  intro batch after
  rcases exists_ready_sample with ⟨writer, ready⟩
  have left : after = lostSample := by simp only [after, batch, appendBatch_childrenOfSample]
  have unclean : ¬sample.HandlesCleanly batch := fun clean =>
    ready.handlesCleanly_iff.mp clean usesUp_childrenOfSample
  refine ⟨unclean, by simp only [batch, appendBatch_childrenOfSample], ?_, ?_, ?_⟩
  · have oneNode : sample.nodes.size = 1 := by decide
    rw [left, lostSample, Array.size_append, size_numbered, List.length_replicate, oneNode]
    rfl
  · rw [left]
    decide
  · have noWriter : after.writer = none := by rw [left, lostSample]
    exact appendBatch_of_noWriter noWriter _

end ParseTrace.Store
