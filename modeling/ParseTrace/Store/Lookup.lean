import ParseTrace.Store.Basic
import ParseTrace.Store.Batches

/-!
# Looking nodes and rules up

Every request to a closed store fails. In an open one, a node is found under its number, together
with its rule and the numbers of its children; the children of a node are the stored nodes that
name it as their parent, in increasing order.

The children of a node can also be had all at once. Their own children are then searched for some
hundred parents at a time, gathered in a table, and handed out from there.
-/

namespace ParseTrace

namespace StoredNode

/-- A stored invocation as a reader gets it, with its rule and its children. -/
def withRule (node : StoredNode) (rule : Rule) (children : List NodeId) : Node where
  id := node.id
  parent := node.parent
  level := node.level
  rule := rule
  success := node.success
  start := node.start
  stop := node.stop
  nanos := node.nanos
  children := children

end StoredNode

/-- Lists of children, each under the number of its parent. -/
abbrev ChildTable := List (NodeId × List NodeId)

namespace ChildTable

/-- Enters a pair of parent and child behind the other children of the parent. -/
def enter : ChildTable → NodeId × NodeId → ChildTable
  | [], (parent, child) => [(parent, [child])]
  | (other, children) :: rest, (parent, child) =>
      if other = parent then (other, children ++ [child]) :: rest
      else (other, children) :: enter rest (parent, child)

/-- The children entered under a parent. -/
def childrenOf (table : ChildTable) (parent : NodeId) : List NodeId :=
  (table.lookup parent).getD []

/-- Takes the entry of a parent out. -/
def remove (table : ChildTable) (parent : NodeId) : ChildTable :=
  table.filter fun entry => entry.1 != parent

/-- Nodes with the children entered under their numbers. What a node gets is taken out of the table. -/
def attach : ChildTable → List (StoredNode × Rule) → List Node
  | _, [] => []
  | table, (node, rule) :: rest =>
      node.withRule rule (table.childrenOf node.id) :: attach (table.remove node.id) rest

end ChildTable

namespace Store

/-- Refuses every request once the store is closed. -/
def whenOpen (store : Store) (answer : Except TraceError α) : Except TraceError α :=
  if store.closed then .error .closed else answer

/-- The stored nodes with the given parent, in order. -/
def childNodesOf (store : Store) (parent : NodeId) : List StoredNode :=
  store.nodes.toList.filter fun node => node.parent == some parent

/-- The numbers of a node's children, in order. -/
def childIds (store : Store) (parent : NodeId) : List NodeId :=
  (store.childNodesOf parent).map StoredNode.id

/-- A stored invocation as a reader gets it, with the given children. -/
def resolve? (store : Store) (stored : StoredNode) (children : List NodeId) : Option Node :=
  (store.rule? stored.rule).map fun rule => stored.withRule rule children

/-- The node with a number. -/
def getNode (store : Store) (id : NodeId) : Except TraceError Node :=
  store.whenOpen <|
    match (store.node? id).bind fun stored => store.resolve? stored (store.childIds id) with
    | some node => .ok node
    | none => .error (.notFound id)

/-- The numbers of a stored node's children. -/
def getChildren (store : Store) (id : NodeId) : Except TraceError (List NodeId) :=
  store.whenOpen <|
    match store.node? id with
    | some _ => .ok (store.childIds id)
    | none => .error (.notFound id)

/-- Pairs of parent and child for all the children of the given nodes, from one pass over the
store. -/
def childLinks (store : Store) (parents : List NodeId) : List (NodeId × NodeId) :=
  store.nodes.toList.filterMap fun node =>
    match node.parent with
    | some parent => if parents.contains parent then some (parent, node.id) else none
    | none => none

/-- The children of a node together with their rules. -/
def childRows (store : Store) (parent : NodeId) : List (StoredNode × Rule) :=
  (store.childNodesOf parent).filterMap fun node =>
    (store.rule? node.rule).map fun rule => (node, rule)

/-- The children of the given nodes, searched for one chunk of the nodes after the other. -/
def gatherChildren (store : Store) (parents : List NodeId) : ChildTable :=
  ((chunks chunkSize parents).flatMap store.childLinks).foldl ChildTable.enter []

/-- The children of a stored node, each with its own children. -/
def getChildNodes (store : Store) (id : NodeId) : Except TraceError (List Node) :=
  store.whenOpen <|
    match store.node? id with
    | none => .error (.notFound id)
    | some _ =>
        let rows := store.childRows id
        .ok <| (store.gatherChildren (rows.map fun row => row.1.id)).attach rows

/-- The declared rules in the order of their identifiers. -/
def getRules (store : Store) : Except TraceError (List Rule) :=
  store.whenOpen <| .ok <| store.rules.mergeSort fun left right => left.id ≤ right.id

end Store

end ParseTrace
