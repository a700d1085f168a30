import ParseTrace.CommandLine.Run
import ParseTrace.Zip.Container

/-!
# The program

Looks at the files that a run of the program can see and at its surroundings, and hands both to
`CommandLine.run`, which decides everything.
-/

namespace ParseTrace

/-- What lies at a path of the file system. -/
def look (path : String) : IO (Located ByteArray) := do
  let place := (← IO.currentDir) / path
  if path = "" ∨ !(← place.pathExists) then return .missing
  if ← place.isDir then return .directory
  try
    return .file (← IO.FS.readBinFile place)
  catch _ =>
    return .unreadable

/-- Enters what lies at a path of the file system into a file tree. -/
def enterPath (read : ByteArray → α) (tree : FileTree α) (path : String) : IO (FileTree α) := do
  match ← look path with
  | .missing => return tree
  | .directory => return tree.enter path .directory
  | .unreadable => return tree.enter path .unreadable
  | .file bytes => return tree.enter path (.file (read bytes))

/-- Whether output is to be styled, as the surroundings say. -/
def wantsStyle : IO Bool := do
  let force ← IO.getEnv "CLICOLOR_FORCE"
  let never ← IO.getEnv "NO_COLOR"
  let wished ← IO.getEnv "CLICOLOR"
  return CommandLine.isStyled force never wished (← (← IO.getStdout).isTty)

end ParseTrace

open ParseTrace in
/-- Runs the program on the arguments of the command line. -/
def main (arguments : List String) : IO UInt32 := do
  let here := (FileTree.trail [] (← IO.currentDir).toString).headD []
  let texts : FileTree Bytes := { files := [], directories := [], workingDirectory := here }
  let named ← IO.getEnv "PARSEDEBUG_CONFIG"
  let places := texts.upwards.map fun place => FileTree.pathOf (place ++ Settings.location)
  let texts ← (named.toList ++ places).foldlM (enterPath ByteArray.toList) texts
  let settings := Settings.find texts named
  let traces : FileTree CaptureFile := { files := [], directories := [], workingDirectory := here }
  let paths := CommandLine.tracePaths arguments ++ settings.tempDirectory.toList
  let traces ← paths.foldlM (enterPath Zip.readCapture) traces
  let exit := CommandLine.run traces settings (← wantsStyle) arguments
  IO.print exit.output
  if exit.code = 2 then IO.eprint CommandLine.helpText
  for text in exit.error do IO.eprintln text
  return exit.code.toUInt32
