import ParseTrace.Load.Tracker
import ParseTrace.Trace.Outcome

/-!
# The trace store

A store holds the rules and the invocations of one trace. Invocations are numbered in the order in
which they arrive, so the one numbered `i` stands at place `i`. Beside the data the store keeps
what its writer needs for the next batch, how far loading has come, and whether it is still open.
-/

namespace ParseTrace

/-- An invocation under the number that it was given. -/
structure StoredNode extends Invocation where
  id : NodeId
  deriving DecidableEq, Repr

/-- A node and its level. -/
structure PathEntry where
  node : NodeId
  level : Nat
  deriving DecidableEq, Repr

/-- The writer's notes between two batches. -/
structure Writer where
  /-- The number that the next invocation is given. -/
  next : NodeId
  /-- Nodes that are likely to be the next one's parent, innermost first. -/
  path : List PathEntry
  /-- The identifiers of the rules that an invocation can name. -/
  known : List RuleId
  deriving DecidableEq, Repr

/-- The store of one trace. -/
structure Store where
  /-- How the store is called in messages. -/
  label : String
  header : Header
  /-- Declared rules in the order of their declaration. -/
  rules : List Rule
  nodes : Array StoredNode
  /-- The writer's notes, none after the writer crashed. -/
  writer : Option Writer
  tracker : Tracker
  closed : Bool
  /-- Whether the directory that holds the data is still there. -/
  intact : Bool
  deriving DecidableEq, Repr

namespace Store

/-- A new store without rules and invocations. -/
def create (label : String) (header : Header) : Store where
  label := label
  header := header
  rules := []
  nodes := #[]
  writer := some { next := 0, path := [], known := [] }
  tracker := .new
  closed := false
  intact := true

/-- The rule declared under an identifier. -/
def rule? (store : Store) (id : RuleId) : Option Rule :=
  store.rules.find? fun rule => rule.id == id

/-- The invocation at the place that a number names. -/
def nodeAt? (nodes : Array StoredNode) : NodeId → Option StoredNode
  | .ofNat index => nodes[index]?
  | .negSucc _ => none

/-- The invocation with a number. -/
def node? (store : Store) (id : NodeId) : Option StoredNode :=
  nodeAt? store.nodes id

/-- Deletes the directory that holds the data without telling the store. -/
def breakStorage (store : Store) : Store :=
  { store with intact := false }

/-- Closes the store for good. The first call fails when the directory is gone, but closes all the
same, and further calls do nothing. -/
def close (store : Store) : Except TraceError Unit × Store :=
  if store.closed then (.ok (), store)
  else
    let result := if store.intact then .ok () else .error (.storage .directoryNotRemoved)
    (result, { store with closed := true })

end Store

end ParseTrace
