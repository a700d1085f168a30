import ParseTrace.Input.Text
import ParseTrace.Statistics.Report

/-!
# How deep the parse went on each line

A node belongs to the line on which it starts, and one that starts at the very end of the input to
the last line. For every line of a window the deepest level of its nodes is reported, and zero for
a line on which none starts. Stored offsets are numbers of 31 bits, so the bounds of a window are
cut there.
-/

namespace ParseTrace.Statistics

/-- The entry of a list raised to at least a value, if the list is long enough. -/
def raiseAt (depths : List Nat) (index level : Nat) : List Nat :=
  depths.modify index (max level)

/-- Enters a node whose start lies in the window. -/
def enterNode (input : InputText) (startLine : Nat) (depths : List Nat) (node : StoredNode) :
    List Nat :=
  let line := input.lineNumber (min node.start input.length)
  if startLine ≤ line then raiseAt depths (line - startLine) node.level else depths

/-- The deepest level on each line of a window. The window begins at a line of the input and is
cut at its last line. -/
def depthByLine (store : Store) (input : InputText) (startLine lineCount : Nat) :
    Except TraceError (List Nat) :=
  if startLine = 0 ∨ input.lineCount < startLine then
    .error (.range startLine (min (startLine + lineCount) (countLimit - 1)) input.lineCount)
  else if lineCount = 0 then .ok []
  else
    let lastLine := min (startLine + (lineCount - 1)) input.lineCount
    let spanOf (line : Nat) : Nat × Nat := (input.lineSpan? line).getD (0, 0)
    let low := (spanOf startLine).1
    let high := if lastLine = input.lineCount then input.length + 1 else (spanOf lastLine).2
    store.whenOpen <| .ok <|
      let inWindow := store.nodes.toList.filter fun node =>
        min low Store.maxStored ≤ node.start && node.start < min high Store.maxStored
      inWindow.foldl (enterNode input startLine) (List.replicate (lastLine - startLine + 1) 0)

end ParseTrace.Statistics
