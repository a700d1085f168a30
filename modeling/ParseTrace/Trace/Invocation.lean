import ParseTrace.Trace.Rule

/-!
# Invocations of rules

A trace lists every invocation of a rule during a parse. The invocations form a tree: each one
but the first was made on behalf of another, its parent. `Invocation` is one entry of the list,
`Node` is a stored invocation as a reader gets it, with its rule and its children.
-/

namespace ParseTrace

/-- Identifies a stored invocation: its place in the trace, counted from zero. -/
abbrev NodeId := Int

/-- The node at which every parse tree starts. -/
def rootNode : NodeId := 0

/-- The largest identifier a node can have. -/
def maxNodeId : NodeId := 2147483647

/-- The residue of an integer among the signed integers of 32 bits, in which identifiers are
counted. -/
def wrapId (value : Int) : Int :=
  value.bmod 4294967296

theorem wrapId_eq {place : Nat} (small : place < 2147483648) : wrapId place = place := by
  change Int.bmod place 4294967296 = (place : Int)
  rw [Int.bmod_def]
  split <;> omega

/-- One invocation of a rule, as it is handed to the store. -/
structure Invocation where
  /-- The invocation on whose behalf this one was made, none for the first. -/
  parent : Option NodeId
  /-- The number of invocations between this one and the first. -/
  level : Nat
  rule : RuleId
  success : Bool
  /-- Offset at which matching began. -/
  start : Nat
  /-- Offset at which matching ended. -/
  stop : Nat
  /-- Elapsed time in nanoseconds. -/
  nanos : Nat
  deriving DecidableEq, Repr

/-- A stored invocation with its rule and its direct children. -/
structure Node where
  id : NodeId
  parent : Option NodeId
  level : Nat
  rule : Rule
  success : Bool
  start : Nat
  stop : Nat
  nanos : Nat
  /-- Identifiers of the direct children, in increasing order. -/
  children : List NodeId
  deriving DecidableEq, Repr

namespace Node

/-- The rule of a node and whether it matched. -/
def describe (node : Node) : String :=
  let status := if node.success then "SUCCESS" else "FAILURE"
  s!"{node.rule.name} ({status})"

/-- Whether the node has children. -/
def hasChildren (node : Node) : Bool :=
  !node.children.isEmpty

end Node

end ParseTrace
