import ParseTrace.Proofs.Store.Closed
import ParseTrace.Proofs.Store.LastNumber

/-!
# Closing is permanent

A closed store stays closed. From then on it refuses every request that would read its storage, also
those that an open store would refuse for another reason, and it refuses to be written to. What is
done to it moves at most the state of its load, so its counters are the ones it was closed with, and
it still tells them. A store whose writer crashed on the last number is the only one that refuses a
batch for this other reason, and there is such a store.
-/

namespace ParseTrace

/-- Whether a request reads what is stored. The depths of lines that are not there, and of no lines
at all, are known without that. -/
def Query.ReadsStorage (input : InputText) : Query → Prop
  | header | loadStatus | expectedRecords | isClosed | label | nodeCount | treeDepth | isLoaded =>
      False
  | depthByLine startLine lineCount =>
      startLine ≠ 0 ∧ startLine ≤ input.lineCount ∧ lineCount ≠ 0
  | _ => True

/-- Whether an operation hands at least one rule or invocation to the writer. -/
def Operation.HandsOver : Operation → Prop
  | appendRule _ => True
  | appendRules rules => rules ≠ []
  | append _ => True
  | appendBatch invocations => invocations ≠ []
  | _ => False

variable {input : InputText} {store : Store}

open Store (whenOpen_of_closed)

theorem Statistics.depthByLine_of_closed (closed : store.closed = true) {startLine lineCount : Nat}
    (started : startLine ≠ 0) (inText : startLine ≤ input.lineCount) (some : lineCount ≠ 0) :
    depthByLine store input startLine lineCount = .error .closed := by
  have inRange : ¬(startLine = 0 ∨ input.lineCount < startLine) := by omega
  rw [depthByLine, if_neg inRange, if_neg some]
  exact whenOpen_of_closed closed _

/-- A closed store refuses to be read. -/
theorem Query.answer_of_closed (closed : store.closed = true) {query : Query}
    (reads : query.ReadsStorage input) : query.answer store input = .error .closed := by
  have node (id : NodeId) : store.getNode id = .error .closed := whenOpen_of_closed closed _
  have behindNode {α : Type} (id : NodeId) (rest : Node → Except TraceError α) :
      (store.getNode id >>= rest) = .error .closed := by
    rw [node]
    rfl
  cases query with
  | node id => exact congrArg (reply .node) (node id)
  | children id => exact congrArg (reply .ids) (whenOpen_of_closed closed _)
  | childNodes id => exact congrArg (reply .nodes) (whenOpen_of_closed closed _)
  | rules => exact congrArg (reply .rules) (whenOpen_of_closed closed _)
  | root => exact congrArg (reply .node) (node rootNode)
  | description id => exact congrArg (reply _) (node id)
  | expand id depth => exact congrArg (reply .tree) (behindNode id _)
  | ancestors id => exact congrArg (reply .ids) (behindNode id _)
  | byKind => exact congrArg (reply .kinds) (whenOpen_of_closed closed _)
  | byClass => exact congrArg (reply .classes) (whenOpen_of_closed closed _)
  | byRule => exact congrArg (reply .ruleRows) (whenOpen_of_closed closed _)
  | totalParseTime => exact congrArg (reply .number) (whenOpen_of_closed closed _)
  | depthByLine startLine lineCount =>
      rcases reads with ⟨started, inText, some⟩
      exact congrArg (reply .depths) (Statistics.depthByLine_of_closed closed started inText some)
  | header => exact absurd reads id
  | loadStatus => exact absurd reads id
  | expectedRecords => exact absurd reads id
  | isClosed => exact absurd reads id
  | label => exact absurd reads id
  | nodeCount => exact absurd reads id
  | treeDepth => exact absurd reads id
  | isLoaded => exact absurd reads id

namespace Operation

/-- A closed store refuses to be written to. -/
theorem run_of_closed (closed : store.closed = true) {operation : Operation}
    (handsOver : operation.HandsOver) :
    operation.run input store = (.error store.closedFault, store) := by
  cases operation with
  | appendRule rule =>
      rw [run, Store.appendRule, Store.appendRules_eq_of_closed closed (List.cons_ne_nil _ _)]
      rfl
  | appendRules rules =>
      rw [run, Store.appendRules_eq_of_closed closed handsOver]
      rfl
  | append invocation =>
      rw [run, Store.append, Store.appendBatch_eq_of_closed closed (List.cons_ne_nil _ _)]
      rfl
  | appendBatch invocations =>
      rw [run, Store.appendBatch_eq_of_closed closed handsOver]
      rfl
  | ask query => exact absurd handsOver id
  | ingest file batchSize cancelled => exact absurd handsOver id
  | load file batchSize => exact absurd handsOver id
  | breakStorage => exact absurd handsOver id
  | close => exact absurd handsOver id

/-- A store that was closed during a run is closed at its end. -/
theorem closed_runAll {operations : List Operation}
    (typed : ∀ operation ∈ operations, operation.Typed) (closes : close ∈ operations) :
    (runAll input store operations).closed = true := by
  rcases List.append_of_mem closes with ⟨before, later, rfl⟩
  rw [List.forall_mem_append, List.forall_mem_cons] at typed
  rw [runAll_append]
  apply (reaches_runAll typed.2.2).persistsIn.closed
  change (runAll input store before).close.2.closed = true
  rw [Store.close_snd]

/-- A run in which the store is closed, whether or not its directory could be deleted. The store is
closed at its end; it refuses to be read, and it refuses to be written to, for another reason only if
all numbers of nodes are used up; no later run changes its counters; its header and its load are still
told; and it can be closed again. -/
theorem closing_is_permanent (input : InputText) (label : String) (header : Header)
    (operations : List Operation) (typed : ∀ operation ∈ operations, operation.Typed)
    (closes : close ∈ operations) :
    let store := runAll input (.create label header) operations
    Query.isClosed.answer store input = .ok (.flag true) ∧
    (∀ query : Query, query.ReadsStorage input → query.answer store input = .error .closed) ∧
    (∀ operation : Operation, operation.HandsOver →
      operation.run input store = (.error .closed, store) ∨
        (operation.run input store = (.error (.storage .writerLost), store) ∧
          store.nodes.size = 2 ^ 31)) ∧
    (∀ later : List Operation, (∀ operation ∈ later, operation.Typed) →
      (runAll input store later).tracker.rules = store.tracker.rules ∧
        (runAll input store later).tracker.nodes = store.tracker.nodes) ∧
    Query.header.answer store input = .ok (.header header) ∧
    (∃ records, Query.loadStatus.answer store input = .ok (.loadReport ⟨store.tracker, records⟩)) ∧
    close.run input store = (.ok .done, store) := by
  intro store
  have reached : Store.Reaches (.create label header) store := reaches_runAll typed
  have closed : store.closed = true := closed_runAll typed closes
  have sound := Store.sound_create label header
  have room : (Store.create label header).nodes.size < 2 ^ 31 := Nat.two_pow_pos 31
  refine ⟨?_, fun _ => Query.answer_of_closed closed, ?_, ?_, ?_, ?_, ?_⟩
  · rw [Query.answer, closed]
  · intro operation handsOver
    rw [run_of_closed closed handsOver]
    rcases Store.closedFault_cases reached sound room with isClosed | ⟨lost, full⟩
    · rw [isClosed]
      exact Or.inl rfl
    · rw [lost]
      exact Or.inr ⟨rfl, full⟩
  · intro later laterTyped
    rcases (reaches_runAll laterTyped).eq_of_closed closed with ⟨state, intact, same⟩
    rw [same]
    exact ⟨rfl, rfl⟩
  · rw [Query.answer, reached.header_eq]
    rfl
  · rcases reached.exists_records sound room with ⟨records, counted⟩
    refine ⟨records, ?_⟩
    rw [Query.answer, counted]
    rfl
  · rw [run, Store.close_of_closed closed]
    rfl

/-- What the small store is made by. -/
def sampleRun : List Operation :=
  [.appendRule ⟨7, "AnyMatcher", .terminal, "Digit"⟩, .append ⟨none, 0, 7, true, 0, 2, 500⟩]

/-- A run in which the store is closed after its writer crashed on the last number. -/
def exhaustingRun : List Operation :=
  sampleRun ++ [.appendBatch (List.replicate (2 ^ 31 - 1) Store.childOfSample), .close]

/-- A lost writer refuses before it is looked whether the store is closed. -/
theorem lost_writer_hides_closing :
    let store := runAll (.ofString "12") (.create "sample" ⟨0, 1, 3, 2⟩) exhaustingRun
    store.closed = true ∧
      (append Store.childOfSample).run (.ofString "12") store =
        (.error (.storage .writerLost), store) := by
  intro store
  have begun : runAll (.ofString "12") (.create "sample" ⟨0, 1, 3, 2⟩) sampleRun = .sample := rfl
  have crashed : run (.ofString "12") .sample
      (.appendBatch (List.replicate (2 ^ 31 - 1) Store.childOfSample)) =
      (.crash .overflow, .lostSample) := by
    rw [run, Store.appendBatch_childrenOfSample]
    rfl
  have closed : store = { Store.lostSample with closed := true } := by
    simp only [store, exhaustingRun, runAll_append, begun]
    rw [runAll, List.foldl_cons, crashed]
    rfl
  rw [closed]
  exact ⟨rfl, rfl⟩

/-- A run whose directory is lost before the store is closed. -/
def lostDirectoryRun : List Operation :=
  [.appendRule ⟨7, "AnyMatcher", .terminal, "Digit"⟩, .append ⟨none, 0, 7, true, 0, 2, 500⟩,
    .breakStorage, .close]

theorem failed_close_is_permanent :
    answers (.ofString "12") (.create "sample" ⟨0, 1, 3, 2⟩) lostDirectoryRun =
      [.ok (.id 7), .ok (.id 0), .ok (.flag true), .error (.storage .directoryNotRemoved)] ∧
    Query.answer (runAll (.ofString "12") (.create "sample" ⟨0, 1, 3, 2⟩) lostDirectoryRun)
      (.ofString "12") (.node 5) = .error .closed :=
  ⟨rfl, (closing_is_permanent (.ofString "12") "sample" ⟨0, 1, 3, 2⟩ lostDirectoryRun
    (by decide) (by decide)).2.1 (.node 5) trivial⟩

end Operation

end ParseTrace
