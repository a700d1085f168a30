import ParseTrace.Store.Append

/-!
# Rows are stored in chunks as if at once

A batch is stored in chunks, and a chunk of rules can be refused after others were stored. The
transaction then takes those back, so a batch is refused as a whole. It is refused exactly if its
rules could not be stored at once, because the rules of a chunk are new to a store that has the
chunks before it if they are new to the store and to those chunks. Nodes are never refused. So
nothing else has to know of chunks.
-/

namespace ParseTrace.Store

variable {α : Type} {store after : Store} {cause : TraceError}
  {statements : Store → Except TraceError α × Store}

/-- A transaction that fails leaves nothing behind, whatever its statements did before. -/
theorem transaction_of_error (failed : (statements store).1 = .error cause) :
    store.transaction statements = (.error cause, store) := by
  rcases outcome : statements store with ⟨result, after⟩
  rw [outcome] at failed
  obtain rfl : result = .error cause := failed
  rw [transaction, outcome]

theorem transaction_of_ok {value : α} (ended : statements store = (.ok value, after)) :
    store.transaction statements = (.ok value, after) := by
  rw [transaction, ended]

section Rules

theorem rule?_eq_none_iff {id : RuleId} :
    store.rule? id = none ↔ ∀ rule ∈ store.rules, rule.id ≠ id := by
  simp [rule?]

/-- Further rules are undeclared exactly if they still are after the first ones were stored. -/
theorem undeclared_append_iff (first rest : List Rule) :
    store.Undeclared (first ++ rest) ↔
      store.Undeclared first ∧ { store with rules := store.rules ++ first }.Undeclared rest := by
  simp only [Undeclared, rule?_eq_none_iff, List.map_append, List.nodup_append,
    List.forall_mem_append]
  constructor
  · rintro ⟨⟨firstNodup, restNodup, apart⟩, firstNew, restNew⟩
    refine ⟨⟨firstNodup, firstNew⟩, restNodup, fun rule comes => ⟨restNew rule comes, ?_⟩⟩
    intro earlier present
    exact apart _ (List.mem_map_of_mem present) _ (List.mem_map_of_mem comes)
  · rintro ⟨⟨firstNodup, firstNew⟩, restNodup, restNew⟩
    refine ⟨⟨firstNodup, restNodup, ?_⟩, firstNew, fun rule comes => (restNew rule comes).1⟩
    intro id inFirst other inRest
    rcases List.mem_map.mp inFirst with ⟨earlier, present, rfl⟩
    rcases List.mem_map.mp inRest with ⟨rule, comes, rfl⟩
    exact (restNew rule comes).2 earlier present

theorem insertChunks_of_undeclared {chunks : List (List Rule)}
    (allNew : store.Undeclared chunks.flatten) :
    insertChunks insertRules chunks store =
      (.ok (), { store with rules := store.rules ++ chunks.flatten }) := by
  induction chunks generalizing store with
  | nil => simp [insertChunks]
  | cons chunk rest ih =>
      rw [List.flatten_cons, undeclared_append_iff] at allNew
      have stored : insertRules chunk store =
          (.ok (), { store with rules := store.rules ++ chunk }) := if_pos allNew.1
      rw [insertChunks, stored]
      dsimp only
      rw [ih allNew.2, List.flatten_cons, List.append_assoc]

/-- Some chunk is refused, perhaps after others were stored. -/
theorem insertChunks_of_declared {chunks : List (List Rule)}
    (repeated : ¬store.Undeclared chunks.flatten) :
    (insertChunks insertRules chunks store).1 = .error (.storage .duplicateRule) := by
  induction chunks generalizing store with
  | nil => exact absurd ⟨List.nodup_nil, nofun⟩ repeated
  | cons chunk rest ih =>
      rw [List.flatten_cons, undeclared_append_iff] at repeated
      rw [insertChunks]
      by_cases chunkNew : store.Undeclared chunk
      · have stored : insertRules chunk store =
            (.ok (), { store with rules := store.rules ++ chunk }) := if_pos chunkNew
        rw [stored]
        exact ih fun restNew => repeated ⟨chunkNew, restNew⟩
      · have refused : insertRules chunk store = (.error (.storage .duplicateRule), store) :=
          if_neg chunkNew
        rw [refused]

theorem transaction_insertRules (store : Store) (rules : List Rule) :
    store.transaction (insertChunks insertRules (chunks chunkSize rules)) =
      if store.Undeclared rules then (.ok (), { store with rules := store.rules ++ rules })
      else (.error (.storage .duplicateRule), store) := by
  have whole := chunks_flatten chunkSize rules
  split
  next allNew =>
    rw [← whole] at allNew
    rw [transaction_of_ok (insertChunks_of_undeclared allNew), whole]
  next repeated =>
    rw [← whole] at repeated
    exact transaction_of_error (insertChunks_of_declared repeated)

end Rules

section Nodes

theorem insertChunks_nodes (chunks : List (List StoredNode)) :
    insertChunks insertNodes chunks store =
      (.ok (), { store with nodes := store.nodes ++ chunks.flatten }) := by
  induction chunks generalizing store with
  | nil => simp [insertChunks]
  | cons chunk rest ih =>
      rw [insertChunks, insertNodes]
      dsimp only
      rw [ih, List.flatten_cons]
      have parts : store.nodes ++ chunk ++ rest.flatten = store.nodes ++ (chunk ++ rest.flatten) :=
        Array.toList_inj.mp (by simp)
      rw [parts]

theorem transaction_insertNodes (store : Store) (rows : Array StoredNode) :
    store.transaction (insertChunks insertNodes (chunks chunkSize rows.toList)) =
      (.ok (), { store with nodes := store.nodes ++ rows }) := by
  have parts : store.nodes ++ rows.toList = store.nodes ++ rows := Array.toList_inj.mp (by simp)
  rw [transaction_of_ok (insertChunks_nodes _), chunks_flatten, parts]

end Nodes

/-- Appending rules stores all of them at once, or none. -/
theorem appendRules_eq_atOnce (store : Store) (rules : List Rule) :
    store.appendRules rules =
      if rules.isEmpty then (.ok (), store)
      else
        match store.writer with
        | none => (.error (.storage .writerLost), store)
        | some writer =>
            if store.closed then (.error .closed, store)
            else if store.Undeclared rules then
              (.ok (),
                { store with
                  rules := store.rules ++ rules
                  writer := some { writer with known := writer.known ++ rules.map Rule.id }
                  tracker := (store.tracker.apply (.addRules rules.length)).2 })
            else (.error (.storage .duplicateRule), store) := by
  rw [appendRules, transaction_insertRules]
  cases store.writer with
  | none => rfl
  | some writer =>
      by_cases allNew : store.Undeclared rules
      · simp only [if_pos allNew]
      · simp only [if_neg allNew]

/-- Appending invocations stores all of them at once, or none. -/
theorem appendBatch_eq_atOnce (store : Store) (invocations : List Invocation) :
    store.appendBatch invocations =
      match store.writer with
      | none => (.error (.storage .writerLost), store)
      | some writer =>
          if invocations.isEmpty then (.ok writer.next, store)
          else if store.closed then (.error .closed, store)
          else
            match takeBatch writer.known store.nodes writer.next #[] writer.path invocations with
            | .error corruption => (.error (.corrupt corruption), store)
            | .ok (rows, path) =>
                let nodes := store.nodes ++ rows
                let next := writer.next + wrapId invocations.length
                if next ≤ maxNodeId then
                  (.ok writer.next,
                    { store with
                      nodes
                      writer := some { writer with next, path }
                      tracker := (store.tracker.apply (.addNodes invocations.length)).2 })
                else (.crash .overflow, { store with nodes, writer := none }) := by
  rw [appendBatch]
  cases store.writer with
  | none => rfl
  | some writer =>
      dsimp only
      cases takeBatch writer.known store.nodes writer.next #[] writer.path invocations with
      | error corruption => rfl
      | ok taken => simp only [transaction_insertNodes]

section Batch

variable {writer : Writer} {invocations : List Invocation}

theorem appendBatch_of_noWriter (lost : store.writer = none) (invocations : List Invocation) :
    store.appendBatch invocations = (.error (.storage .writerLost), store) := by
  rw [appendBatch, lost]

theorem appendBatch_nil (written : store.writer = some writer) :
    store.appendBatch [] = (.ok writer.next, store) := by
  rw [appendBatch, written]
  exact if_pos rfl

theorem appendBatch_of_shut (written : store.writer = some writer) (closed : store.closed = true)
    (nonempty : invocations ≠ []) : store.appendBatch invocations = (.error .closed, store) := by
  rw [appendBatch, written]
  dsimp only
  rw [if_neg (by simpa using nonempty), if_pos closed]

/-- What becomes of a batch that an open store looks at. -/
theorem appendBatch_of_open (written : store.writer = some writer)
    (isOpen : store.closed = false) (nonempty : invocations ≠ []) :
    store.appendBatch invocations =
      match takeBatch writer.known store.nodes writer.next #[] writer.path invocations with
      | .error corruption => (.error (.corrupt corruption), store)
      | .ok (rows, path) =>
          if writer.next + wrapId invocations.length ≤ maxNodeId then
            (.ok writer.next,
              { store with
                nodes := store.nodes ++ rows
                writer := some { writer with next := writer.next + wrapId invocations.length, path }
                tracker := (store.tracker.apply (.addNodes invocations.length)).2 })
          else (.crash .overflow, { store with nodes := store.nodes ++ rows, writer := none }) := by
  have notClosed : ¬store.closed = true := by simp [isOpen]
  rw [appendBatch_eq_atOnce, written]
  dsimp only
  rw [if_neg (by simpa using nonempty), if_neg notClosed]

end Batch

end ParseTrace.Store
