import ParseTrace.CommandLine.Json
import ParseTrace.Duration
import ParseTrace.Session.Basic
import ParseTrace.Text.Column
import ParseTrace.Text.Style

/-!
# What the commands print

Each command has a view of a loaded session, as lines of text or as JSON. A view fails only if the
session refuses what it asks for, and then nothing is printed. Names, paths and the input appear
as they are, so a line break in one of them breaks the line.
-/

namespace ParseTrace.CommandLine

open Text (Style alignLeft alignRight)

/-- How a view is to be printed. -/
structure Format where
  json : Bool
  /-- Whether the terminal shows styles. JSON has none. -/
  styled : Bool
  deriving DecidableEq, Repr

namespace Format

/-- A text in a style, as far as styles are shown. -/
def paint (format : Format) (style : Style) (text : String) : String :=
  style.paint format.styled text

end Format

/-- Lines, each with its end. -/
def printLines (lines : List String) : String :=
  String.join (lines.map fun line => line ++ "\n")

/-- JSON, with the end of its last line. -/
def printJson (value : JsonValue) : String :=
  printLines [value.pretty]

/-- The summary of a trace. -/
def infoView (format : Format) (session : Session) : Except TraceError String := do
  let header := session.store.header
  let size := session.input.size
  let parseTime ← Statistics.totalParseTime session.store
  if format.json then
    return printJson <| JsonValue.sortMembers <| .object
      [("trace", .text session.path), ("parse_info", headerJson header),
        ("input", sizeJson size), ("total_parse_time_nanos", .count parseTime)]
  return printLines
    [format.paint .boldCyan session.path,
      "  Captured:      " ++ Calendar.writeMoment "+00:00" header.capturedAt,
      s!"  Rules:         {header.ruleCount}",
      s!"  Invocations:   {header.nodeCount}",
      s!"  Tree depth:    {header.depth}",
      s!"  Parse time:    {Duration.format parseTime}",
      s!"  Input:         {size.lines} lines, {size.codeUnits} chars, " ++
        s!"{size.codePoints} code points"]

/-- Whether an invocation succeeded, in a word. -/
def statusLabel (format : Format) (success : Bool) : String :=
  if success then format.paint .green "SUCCESS" else format.paint .red "FAILURE"

/-- What stands at the end of a line for children that are not resolved. -/
def elision (format : Format) (item : TreeItem) : String :=
  if item.node.hasChildren && item.children.isEmpty then
    format.paint .dimmed s!" (+{item.node.children.length})"
  else ""

/-- The line of a tree for the node at the top of a subtree. -/
def treeLine (format : Format) (depth : Nat) (item : TreeItem) : String :=
  let node := item.node
  String.join (List.replicate depth "  ") ++ format.paint .bold node.rule.name ++ " " ++
    statusLabel format node.success ++ s!" [{node.start}..{node.stop}] " ++
    format.paint .dimmed (Duration.format node.nanos) ++ elision format item

/-- The lines of a tree. -/
def treeLines (format : Format) (tree : TreeItem) : List String :=
  (tree.subtrees 0).map fun (depth, item) => treeLine format depth item

/-- What lies below a node. -/
def treeView (format : Format) (session : Session) (id : NodeId) (depth : Option Nat) :
    Except TraceError String := do
  let tree ← session.store.expand id depth
  return if format.json then printJson (treeJson tree) else printLines (treeLines format tree)

/-- A share as percentage with one place. -/
def percentage (rate : Numeral.Binary64) : String :=
  String.ofList (Numeral.writeFixed 1 (rate.mul (.ofNat 100)).toRatio) ++ "%"

/-- The cells of a tally, each at the right of its column. -/
def tallyCells (tally : Statistics.Tally) : List String :=
  [alignRight 10 (toString tally.invocations), alignRight 8 (percentage tally.successRate),
    alignRight 12 (Duration.format tally.totalNanos),
    alignRight 12 (Duration.format tally.averageNanos)]

/-- The headings above the cells of a tally. -/
def tallyHeadings : List String :=
  [alignRight 10 "CALLS", alignRight 8 "SUCCESS", alignRight 12 "TOTAL", alignRight 12 "AVERAGE"]

/-- Cells in a line. -/
def row (cells : List String) : String :=
  " ".intercalate cells

/-- The statistics by class. -/
def classesView (format : Format) (session : Session) : Except TraceError String := do
  let rows ← Statistics.byClass session.store
  if format.json then return printJson (.array (rows.map classRowJson))
  return printLines <|
    row (alignLeft 32 "CLASS" :: tallyHeadings) ::
      rows.map fun entry => row (alignLeft 32 entry.className :: tallyCells entry.tally)

/-- The statistics by rule. -/
def rulesView (format : Format) (session : Session) : Except TraceError String := do
  let rows ← Statistics.byRule session.store
  if format.json then return printJson (.array (rows.map ruleRowJson))
  return printLines <|
    row ([alignLeft 24 "RULE", alignLeft 24 "CLASS", alignLeft 10 "TYPE"] ++ tallyHeadings) ::
      rows.map fun entry =>
        row ([alignLeft 24 entry.rule.name, alignLeft 24 entry.rule.className,
          alignLeft 10 entry.rule.kind.name] ++ tallyCells entry.tally)

/-- The statistics by kind. -/
def typesView (format : Format) (session : Session) : Except TraceError String := do
  let rows ← Statistics.byKind session.store
  if format.json then return printJson (kindRowsJson rows)
  return printLines <| rows.map fun (kind, invocations) =>
    row [alignLeft 10 kind.name, alignRight 10 (toString invocations)]

/-- One node and the input around its match. Positions past the end of the input are shown as its
end. -/
def nodeView (format : Format) (session : Session) (id : NodeId) : Except TraceError String := do
  let node ← session.store.getNode id
  let input := session.input
  let start ← input.position (min node.start input.length)
  let stop ← input.position (min node.stop input.length)
  let fragments ← session.nodeFragments id
  if format.json then
    return printJson <| JsonValue.sortMembers <| .object
      [("node", nodeJson node), ("start_position", positionJson start),
        ("end_position", positionJson stop), ("fragments", fragmentsJson fragments)]
  let parent := node.parent.toList.map fun parent => s!"  Parent:    #{parent}"
  return printLines <|
    [format.paint .cyan s!"#{node.id}" ++ " " ++ node.describe,
      s!"  Rule:      {node.rule.name} ({node.rule.className}, {node.rule.kind.name})",
      s!"  Level:     {node.level}"] ++ parent ++
    [s!"  Children:  {node.children.length}",
      s!"  Start:     {node.start} ({start.describe})",
      s!"  End:       {node.stop} ({stop.describe})",
      s!"  Time:      {Duration.format node.nanos}",
      "  Match:     " ++ format.paint .dimmed fragments.before ++
        format.paint .boldYellow fragments.matched ++ format.paint .dimmed fragments.after]

end ParseTrace.CommandLine
