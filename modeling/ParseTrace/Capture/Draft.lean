import ParseTrace.Capture.Archive

/-!
# Putting a capture together

A draft collects rules and invocations and numbers both from zero, in 32 bits. The level of an
invocation and the depth of the tree follow from the parents, so whoever records a trace only says
which invocation called which.
-/

namespace ParseTrace

/-- A capture in the making. -/
structure Draft where
  /-- When the trace was taken, in milliseconds since 1970. -/
  capturedAt : Int
  input : String
  rules : Array Rule
  nodes : Array Invocation
  deriving DecidableEq, Repr

/-- What is recorded of an invocation besides its level. -/
structure Call where
  parent : Option NodeId
  rule : RuleId
  success : Bool
  start : Nat
  stop : Nat
  nanos : Nat
  deriving DecidableEq, Repr

namespace Draft

/-- A draft without rules and invocations. -/
def empty (capturedAt : Int) (input : String) : Draft where
  capturedAt := capturedAt
  input := input
  rules := #[]
  nodes := #[]

/-- Declares a rule and gives it the next identifier. -/
def addRule (draft : Draft) (className : String) (kind : RuleKind) (name : String) :
    RuleId × Draft :=
  let id : RuleId := wrapId draft.rules.size
  (id, { draft with rules := draft.rules.push { id, className, kind, name } })

/-- The recorded invocation with an identifier. -/
def node? (draft : Draft) : NodeId → Option Invocation
  | .ofNat index => draft.nodes[index]?
  | .negSucc _ => none

/-- The level of an invocation with the given parent, if that parent is recorded. -/
def levelUnder? (draft : Draft) : Option NodeId → Option Nat
  | none => some 0
  | some parent => (draft.node? parent).map fun invocation => invocation.level + 1

/-- Records an invocation and gives it the next identifier. A parent that is not recorded is
refused. -/
def addNode? (draft : Draft) (call : Call) : Option (NodeId × Draft) :=
  (draft.levelUnder? call.parent).map fun level =>
    let node : Invocation :=
      { parent := call.parent, level, rule := call.rule, success := call.success,
        start := call.start, stop := call.stop, nanos := call.nanos }
    (wrapId draft.nodes.size, { draft with nodes := draft.nodes.push node })

/-- The header of the capture as far as it is recorded. -/
def header (draft : Draft) : Header where
  capturedAt := draft.capturedAt
  ruleCount := draft.rules.size
  nodeCount := draft.nodes.size
  depth := draft.nodes.foldl (fun depth node => max depth (node.level + 1)) 0

/-- An entry of the given records. -/
def entry (records : List Capture.Fields) : Contents :=
  .ofBytes (Delimited.writeRecords Capture.separator (records.map (·.map Utf8.encode)))

/-- The contents of the written capture. -/
def toArchive (draft : Draft) : Archive where
  info := some (entry [Capture.headerFields draft.header])
  rules := some (entry (draft.rules.toList.map Capture.ruleFields))
  nodes := some (entry (draft.nodes.toList.mapIdx fun index node =>
    Capture.invocationFields index node))
  input := some (.ofText draft.input)

end Draft

end ParseTrace
