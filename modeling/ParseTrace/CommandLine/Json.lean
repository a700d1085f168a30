import ParseTrace.Calendar
import ParseTrace.Input.Fragments
import ParseTrace.JsonValue
import ParseTrace.Statistics.Report
import ParseTrace.Store.Tree

/-!
# Domain values as JSON

Every structure becomes an object with one member per field, in the order in which the fields are
listed here.
-/

namespace ParseTrace.CommandLine

open JsonValue (count optional)

/-- A rule as JSON. -/
def ruleJson (rule : Rule) : JsonValue :=
  .object
    [("id", .integer rule.id), ("class_name", .text rule.className),
      ("matcher_type", .text rule.kind.name), ("name", .text rule.name)]

/-- A node as JSON. -/
def nodeJson (node : Node) : JsonValue :=
  .object
    [("id", .integer node.id), ("parent", optional .integer node.parent),
      ("level", count node.level), ("rule", ruleJson node.rule), ("success", .bool node.success),
      ("start", count node.start), ("end", count node.stop), ("nanos", count node.nanos),
      ("children", .array (node.children.map .integer))]

mutual

/-- A tree as JSON. -/
def treeJson : TreeItem → JsonValue
  | .item node children =>
      .object [("node", nodeJson node), ("children", .array (treesJson children))]

/-- Several trees as JSON. -/
def treesJson : List TreeItem → List JsonValue
  | [] => []
  | tree :: rest => treeJson tree :: treesJson rest

end

/-- The header of a trace as JSON, with the moment of its capture as a text. -/
def headerJson (header : Header) : JsonValue :=
  .object
    [("capture_date", .text (Calendar.writeMoment "Z" header.capturedAt)),
      ("nr_matchers", count header.ruleCount), ("nr_nodes", count header.nodeCount),
      ("tree_depth", count header.depth)]

/-- The size of an input as JSON. -/
def sizeJson (size : InputSize) : JsonValue :=
  .object
    [("nr_lines", count size.lines), ("nr_chars", count size.codeUnits),
      ("nr_code_points", count size.codePoints)]

/-- A position as JSON. -/
def positionJson (position : Position) : JsonValue :=
  .object [("line", count position.line), ("column", count position.column)]

/-- The input around a match as JSON. -/
def fragmentsJson (fragments : Fragments) : JsonValue :=
  .object
    [("before_match", .text fragments.before), ("matched", .text fragments.matched),
      ("after_match", .text fragments.after)]

/-- The members that show a tally. -/
def tallyMembers (tally : Statistics.Tally) : List (String × JsonValue) :=
  [("invocations", count tally.invocations), ("successes", count tally.successes),
    ("success_rate", .real tally.successRate), ("total_nanos", count tally.totalNanos),
    ("average_nanos", count tally.averageNanos)]

/-- A row of the statistics by class as JSON. -/
def classRowJson (row : Statistics.ClassRow) : JsonValue :=
  .object (("class_name", .text row.className) :: tallyMembers row.tally)

/-- A row of the statistics by rule as JSON. -/
def ruleRowJson (row : Statistics.RuleRow) : JsonValue :=
  .object
    ([("matcher_id", .integer row.rule.id), ("name", .text row.rule.name),
      ("class_name", .text row.rule.className), ("matcher_type", .text row.rule.kind.name)] ++
      tallyMembers row.tally)

/-- The statistics by kind as JSON, with one member per kind. -/
def kindRowsJson (rows : List (RuleKind × Nat)) : JsonValue :=
  .object (rows.map fun (kind, invocations) => (kind.name, count invocations))

end ParseTrace.CommandLine
