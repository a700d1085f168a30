import ParseTrace.Calendar
import ParseTrace.Trace.Error
import ParseTrace.Trace.Header

/-!
# The fields of a capture's records

Each record of a capture is a list of texts. Numeric columns are trimmed before they are read, text
columns are taken as they are, and columns past the last expected one are ignored. Where a record
has several faults, the order in which its columns are looked at decides which one is reported.
-/

namespace ParseTrace.Capture

open Numeral

/-- The texts of a record's fields. -/
abbrev Fields := List String

/-- A column, counted from zero, as it stands. -/
def textColumn (fields : Fields) (index : Nat) : Except RecordFault String :=
  match fields[index]? with
  | some raw => .ok raw
  | none => .error (.missingColumn (index + 1))

/-- A column that holds an integer of the given range. -/
def integerColumn (range : IntegerRange) (fields : Fields) (index : Nat) :
    Except RecordFault Int := do
  let raw ← textColumn fields index
  match readInteger range (Text.trim raw.toList) with
  | .ok value => return value
  | .error cause => throw (.badInteger (index + 1) raw cause)

/-- A column that holds a count or another number without a sign. -/
def naturalColumn (range : IntegerRange) (fields : Fields) (index : Nat) :
    Except RecordFault Nat :=
  Int.toNat <$> integerColumn range fields index

/-- A column that holds the kind of a rule. -/
def kindColumn (fields : Fields) (index : Nat) : Except RecordFault RuleKind := do
  let raw ← textColumn fields index
  let trimmed := Text.trim raw.toList
  match RuleKind.ofText? trimmed with
  | some kind => return kind
  | none => throw (.unknownKind (index + 1) raw (String.ofList trimmed))

/-- The header: time, number of rules, number of invocations, depth. -/
def readHeader (fields : Fields) : Except RecordFault Header := do
  let capturedAt ← integerColumn .signed64 fields 0
  unless Calendar.HasDate capturedAt do
    throw (.invalidTimestamp capturedAt)
  let ruleCount ← naturalColumn .unsigned64 fields 1
  let nodeCount ← naturalColumn .unsigned64 fields 2
  let depth ← naturalColumn .unsigned32 fields 3
  return { capturedAt, ruleCount, nodeCount, depth }

/-- A rule: identifier, class, kind, name. The kind is looked at first. -/
def readRule (fields : Fields) : Except RecordFault Rule := do
  let kind ← kindColumn fields 2
  let id ← integerColumn .signed32 fields 0
  let className ← textColumn fields 1
  let name ← textColumn fields 3
  return { id, className, kind, name }

/-- The parent that a number stands for: every negative one means that there is none. -/
def readParent (parent : Int) : Except RecordFault (Option NodeId) :=
  if parent < 0 then .ok none
  else if parent ≤ maxNodeId then .ok (some parent)
  else .error (.parentOutOfRange parent)

/-- Whether an invocation succeeded, which is written as one or zero. -/
def readSuccess (flag : Int) : Except RecordFault Bool :=
  if flag = 0 then .ok false
  else if flag = 1 then .ok true
  else .error (.badSuccessFlag flag)

/-- An invocation and the identifier under which the capture lists it: parent, identifier, level,
success, rule, start, end, nanoseconds. The three columns that may still prove out of range are
looked at before the others. -/
def readInvocation (fields : Fields) : Except RecordFault (NodeId × Invocation) := do
  let parentNumber ← integerColumn .signed64 fields 0
  let id ← integerColumn .signed32 fields 1
  let flag ← integerColumn .unsigned8 fields 3
  let parent ← readParent parentNumber
  let level ← naturalColumn .unsigned32 fields 2
  let success ← readSuccess flag
  let rule ← integerColumn .signed32 fields 4
  let start ← naturalColumn .unsigned64 fields 5
  let stop ← naturalColumn .unsigned64 fields 6
  let nanos ← naturalColumn .unsigned64 fields 7
  return (id, { parent, level, rule, success, start, stop, nanos })

/-- The text of a number in a record. -/
def numberField (value : Int) : String :=
  String.ofList (writeInteger value)

/-- The fields of a header. -/
def headerFields (header : Header) : Fields :=
  [numberField header.capturedAt, numberField header.ruleCount, numberField header.nodeCount,
    numberField header.depth]

/-- The fields of a rule. -/
def ruleFields (rule : Rule) : Fields :=
  [numberField rule.id, rule.className, rule.kind.name, rule.name]

/-- The fields of an invocation under its identifier. A missing parent is written as -1. -/
def invocationFields (id : NodeId) (invocation : Invocation) : Fields :=
  [numberField (invocation.parent.getD (-1)), numberField id, numberField invocation.level,
    numberField (if invocation.success then 1 else 0), numberField invocation.rule,
    numberField invocation.start, numberField invocation.stop, numberField invocation.nanos]

end ParseTrace.Capture
