import ParseTrace.Statistics.Depth
import ParseTrace.Store.Ingest
import ParseTrace.Store.Tree

/-!
# What a store can be asked

`Query` lists the requests that leave a store as it is, `Operation` those that may change it, and
`Answer` what they are answered with. A sequence of operations is a run of the store.
-/

namespace ParseTrace

/-- Requests that change nothing. -/
inductive Query where
  | node (id : NodeId)
  | children (id : NodeId)
  | childNodes (id : NodeId)
  | rules
  | header
  | loadStatus
  /-- The number of records that loading should bring. -/
  | expectedRecords
  | isClosed
  | label
  | root
  /-- A node in words. -/
  | description (id : NodeId)
  | expand (id : NodeId) (depth : Option Nat)
  | ancestors (id : NodeId)
  /-- The announced number of invocations. -/
  | nodeCount
  /-- The announced number of levels. -/
  | treeDepth
  | isLoaded
  | byKind
  | byClass
  | byRule
  | totalParseTime
  | depthByLine (startLine lineCount : Nat)
  deriving DecidableEq, Repr

/-- How far loading has come, with the number of records so far. -/
structure LoadReport where
  tracker : Tracker
  records : Nat
  deriving DecidableEq, Repr

/-- What requests are answered with. -/
inductive Answer where
  | done
  | flag (value : Bool)
  | number (value : Nat)
  | text (value : String)
  | id (id : Int)
  | ids (ids : List NodeId)
  | node (node : Node)
  | nodes (nodes : List Node)
  | rules (rules : List Rule)
  | header (header : Header)
  | loadReport (report : LoadReport)
  | description (text : String) (hasChildren : Bool)
  | tree (tree : TreeItem)
  | kinds (rows : List (RuleKind × Nat))
  | classes (rows : List Statistics.ClassRow)
  | ruleRows (rows : List Statistics.RuleRow)
  | depths (depths : List Nat)
  | summary (summary : Store.LoadSummary)
  deriving Repr

namespace Query

/-- Wraps the value of a request that can fail. -/
def reply (wrap : α → Answer) (result : Except TraceError α) : Outcome Answer :=
  (Outcome.ofExcept result).map wrap

/-- The answer of a store to a request, where lines are those of the given input. -/
def answer (store : Store) (input : InputText) : Query → Outcome Answer
  | node id => reply .node (store.getNode id)
  | children id => reply .ids (store.getChildren id)
  | childNodes id => reply .nodes (store.getChildNodes id)
  | rules => reply .rules store.getRules
  | header => .ok (.header store.header)
  | loadStatus =>
      (Outcome.ofChecked store.tracker.records?).map fun records =>
        .loadReport ⟨store.tracker, records⟩
  | expectedRecords => (Outcome.ofChecked store.header.totalRecords?).map .number
  | isClosed => .ok (.flag store.closed)
  | label => .ok (.text store.label)
  | root => reply .node store.root
  | description id =>
      reply (fun node => .description node.describe node.hasChildren) (store.getNode id)
  | expand id depth => reply .tree (store.expand id depth)
  | ancestors id => reply .ids (store.ancestors id)
  | nodeCount => .ok (.number store.header.nodeCount)
  | treeDepth => .ok (.number store.header.depth)
  | isLoaded => .ok (.flag store.tracker.isReady)
  | byKind => reply .kinds (Statistics.byKind store)
  | byClass => reply .classes (Statistics.byClass store)
  | byRule => reply .ruleRows (Statistics.byRule store)
  | totalParseTime => reply .number (Statistics.totalParseTime store)
  | depthByLine startLine lineCount =>
      reply .depths (Statistics.depthByLine store input startLine lineCount)

end Query

/-- Requests that may change a store. -/
inductive Operation where
  | ask (query : Query)
  | appendRule (rule : Rule)
  | appendRules (rules : List Rule)
  | append (invocation : Invocation)
  | appendBatch (invocations : List Invocation)
  /-- Opens a capture and loads it, without regard to the load state. -/
  | ingest (file : CaptureFile) (batchSize : Nat) (cancelled : Bool)
  /-- Opens a capture, loads it in the background and waits for the end. -/
  | load (file : CaptureFile) (batchSize : Nat)
  | breakStorage
  | close
  deriving DecidableEq, Repr

namespace Operation

/-- Wraps the value of a request that can fail and keeps the store that it left behind. -/
def reply (wrap : α → Answer) (result : Except TraceError α × Store) : Outcome Answer × Store :=
  (Query.reply wrap result.1, result.2)

/-- Wraps the value of a request that can crash and keeps the store that it left behind. -/
def replyOutcome (wrap : α → Answer) (result : Outcome α × Store) : Outcome Answer × Store :=
  (result.1.map wrap, result.2)

/-- The answer to a request and the store that it leaves behind. -/
def run (input : InputText) (store : Store) : Operation → Outcome Answer × Store
  | ask query => (query.answer store input, store)
  | appendRule rule => reply .id (store.appendRule rule)
  | appendRules rules => reply (fun _ => .done) (store.appendRules rules)
  | append invocation => replyOutcome .id (store.append invocation)
  | appendBatch invocations => replyOutcome .id (store.appendBatch invocations)
  | ingest file batchSize cancelled =>
      match Capture.open? file with
      | .error error => (.error (.ofCapture error), store)
      | .ok capture => replyOutcome .summary (store.ingest capture batchSize cancelled)
  | load file batchSize =>
      match Capture.open? file with
      | .error error => (.error (.ofCapture error), store)
      | .ok capture => reply (fun _ => .flag true) (store.load capture batchSize)
  | breakStorage => (.ok (.flag true), store.breakStorage)
  | close => reply (fun _ => .done) store.close

/-- The store after a run. -/
def runAll (input : InputText) (store : Store) (operations : List Operation) : Store :=
  operations.foldl (fun store operation => (operation.run input store).2) store

end Operation

end ParseTrace
