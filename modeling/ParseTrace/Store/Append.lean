import ParseTrace.Store.Basic
import ParseTrace.Store.Batches

/-!
# Appending to a store

Rules and invocations are appended in batches, and a batch is stored as a whole or not at all. Its
rows are stored some hundred at a time, and if a statement is refused, what the ones before it stored
is taken back.

Every invocation names a rule that the writer knows and, unless it is the very first, a parent one
level up that is stored or stands earlier in the batch. Invocations mostly arrive depth first, so
the writer remembers the path that leads to the last one and looks for the parent there first. The
writer's notes change only once the whole batch is stored.
-/

namespace ParseTrace

namespace Store

/-- The largest number of 31 bits, the bound on stored levels and offsets. -/
def maxStored : Nat := 2147483647

/-- The largest number of 63 bits, the bound on stored times and on their sums. -/
def maxStoredNanos : Nat := 9223372036854775807

/-- Runs statements of which either all take effect or none: if one is refused, the store is again as
it was before the first. -/
def transaction (store : Store) (statements : Store → Except TraceError α × Store) :
    Except TraceError α × Store :=
  match statements store with
  | (.ok value, store) => (.ok value, store)
  | (.error cause, _) => (.error cause, store)

/-- Stores chunks of rows one after the other until a statement is refused. -/
def insertChunks (insert : List ρ → Store → Except TraceError Unit × Store) :
    List (List ρ) → Store → Except TraceError Unit × Store
  | [], store => (.ok (), store)
  | chunk :: rest, store =>
      match insert chunk store with
      | (.ok (), store) => insertChunks insert rest store
      | (.error cause, store) => (.error cause, store)

/-- The identifiers of rules are different, and new to a store. -/
def Undeclared (store : Store) (rules : List Rule) : Prop :=
  (rules.map Rule.id).Nodup ∧ ∀ rule ∈ rules, store.rule? rule.id = none

instance (store : Store) : DecidablePred store.Undeclared :=
  fun _ => inferInstanceAs (Decidable (_ ∧ _))

/-- Stores rules that are undeclared. -/
def insertRules (rules : List Rule) (store : Store) : Except TraceError Unit × Store :=
  if store.Undeclared rules then (.ok (), { store with rules := store.rules ++ rules })
  else (.error (.storage .duplicateRule), store)

/-- Stores nodes, which the writer has given new numbers. -/
def insertNodes (rows : List StoredNode) (store : Store) : Except TraceError Unit × Store :=
  (.ok (), { store with nodes := store.nodes ++ rows })

/-- Appends rules. -/
def appendRules (store : Store) (rules : List Rule) : Except TraceError Unit × Store :=
  if rules.isEmpty then (.ok (), store)
  else
    match store.writer with
    | none => (.error (.storage .writerLost), store)
    | some writer =>
        if store.closed then (.error .closed, store)
        else
          match store.transaction (insertChunks insertRules (chunks chunkSize rules)) with
          | (.error cause, store) => (.error cause, store)
          | (.ok (), store) =>
              (.ok (),
                { store with
                  writer := some { writer with known := writer.known ++ rules.map Rule.id }
                  tracker := (store.tracker.apply (.addRules rules.length)).2 })

/-- Appends one rule and returns its identifier. -/
def appendRule (store : Store) (rule : Rule) : Except TraceError RuleId × Store :=
  let (result, store) := store.appendRules [rule]
  (result.map fun _ => rule.id, store)

/-- The level of a node that stands earlier in a batch, which begins at the number `first`, or that
was stored before the batch. -/
def earlierLevel? (stored : Array StoredNode) (first : NodeId) (rows : Array StoredNode)
    (id : NodeId) : Option Nat :=
  if first ≤ id then (nodeAt? rows (id - first)).map fun row => row.level
  else (nodeAt? stored id).map fun node => node.level

/-- The level of a parent and the path that ends with it: from the path if the parent is on it,
otherwise from the levels of the nodes known so far. -/
def findParent? (levelOf? : NodeId → Option Nat) (path : List PathEntry) (parent : NodeId) :
    Option (Nat × List PathEntry) :=
  match path.dropWhile fun entry => entry.node != parent with
  | entry :: rest => some (entry.level, entry :: rest)
  | [] => (levelOf? parent).map fun level => (level, [⟨parent, level⟩])

/-- Checks an invocation against the known rules and the levels of the nodes before it, and returns
the path to its parent. -/
def checkInvocation (known : List RuleId) (levelOf? : NodeId → Option Nat)
    (path : List PathEntry) (id : NodeId) (invocation : Invocation) :
    Except Corruption (List PathEntry) :=
  if invocation.rule ∉ known then .error (.unknownRule id invocation.rule)
  else if invocation.stop < invocation.start then
    .error (.endsBeforeStart id invocation.start invocation.stop)
  else
    match invocation.parent with
    | none =>
        if id ≠ 0 then .error (.missingParent id)
        else if invocation.level ≠ 0 then .error (.rootLevel invocation.level)
        else .ok path
    | some parent =>
        if id ≤ parent then .error (.parentNotEarlier id parent)
        else
          match findParent? levelOf? path parent with
          | none => .error (.unknownParent id parent)
          | some (parentLevel, path) =>
              if invocation.level = parentLevel + 1 then .ok path
              else .error (.levelMismatch id invocation.level parent parentLevel)

/-- Refuses an invocation with a number too large for its column. -/
def checkMeasures (id : NodeId) (invocation : Invocation) : Except Corruption Unit :=
  if maxStored < invocation.level then .error (.outOfRange id .level)
  else if maxStored < invocation.start then .error (.outOfRange id .start)
  else if maxStored < invocation.stop then .error (.outOfRange id .stop)
  else if maxStoredNanos < invocation.nanos then .error (.outOfRange id .nanos)
  else .ok ()

/-- The number of the invocation at a place of a batch, if there is one. Places are counted in 32
bits, so the count starts again from the least number past the largest. -/
def idAt? (first : NodeId) (place : Nat) : Option NodeId :=
  let id := first + wrapId place
  if id ≤ maxNodeId then some id else none

/-- Takes the rest of a batch, which begins at the number `first`, behind the rows made of it so
far. -/
def takeBatch (known : List RuleId) (stored : Array StoredNode) (first : NodeId)
    (rows : Array StoredNode) (path : List PathEntry) :
    List Invocation → Except Corruption (Array StoredNode × List PathEntry)
  | [] => .ok (rows, path)
  | invocation :: rest =>
      match idAt? first rows.size with
      | none => .error .tooManyNodes
      | some id =>
          match checkInvocation known (earlierLevel? stored first rows) path id invocation with
          | .error corruption => .error corruption
          | .ok parentPath =>
              match checkMeasures id invocation with
              | .error corruption => .error corruption
              | .ok () =>
                  takeBatch known stored first (rows.push { invocation with id })
                    (⟨id, invocation.level⟩ :: parentPath) rest

/-- Appends invocations and returns the number of the first. Storing the very last number crashes
the writer: the batch is stored, but there is no next number to note. -/
def appendBatch (store : Store) (invocations : List Invocation) : Outcome NodeId × Store :=
  match store.writer with
  | none => (.error (.storage .writerLost), store)
  | some writer =>
      if invocations.isEmpty then (.ok writer.next, store)
      else if store.closed then (.error .closed, store)
      else
        match takeBatch writer.known store.nodes writer.next #[] writer.path invocations with
        | .error corruption => (.error (.corrupt corruption), store)
        | .ok (rows, path) =>
            match store.transaction (insertChunks insertNodes (chunks chunkSize rows.toList)) with
            | (.error cause, store) => (.error cause, store)
            | (.ok (), store) =>
                let next := writer.next + wrapId invocations.length
                if next ≤ maxNodeId then
                  (.ok writer.next,
                    { store with
                      writer := some { writer with next, path }
                      tracker := (store.tracker.apply (.addNodes invocations.length)).2 })
                else (.crash .overflow, { store with writer := none })

/-- Appends one invocation and returns its number. -/
def append (store : Store) (invocation : Invocation) : Outcome NodeId × Store :=
  store.appendBatch [invocation]

end Store

end ParseTrace
