import ParseTrace.CommandLine.Request
import ParseTrace.CommandLine.View

/-!
# Running the program

A run of the program is decided by its arguments, by the files that it can see, by its settings and
by whether the terminal shows styles. It ends with a code, what was printed, and for a failed
command the error text.
-/

namespace ParseTrace.CommandLine

/-- Why a command fails. -/
inductive Failure where
  | notOpened (trace : String) (cause : TraceError)
  | notLoaded (trace message : String)
  | cancelled (trace : String)
  | refused (cause : TraceError)
  deriving DecidableEq, Repr

namespace Failure

/-- A text with further lines indented like the first. -/
def indentLines (text : String) : String :=
  "\n".intercalate ((text.splitOn "\n").map fun line => "    " ++ line)

/-- The error text of a failure. -/
def message : Failure → String
  | notOpened trace cause =>
      s!"Error: Unable to open {trace}\n\nCaused by:\n" ++ indentLines cause.message
  | notLoaded trace message => s!"Error: Loading {trace} failed: {message}"
  | cancelled trace => s!"Error: Loading {trace} was cancelled"
  | refused cause => s!"Error: {cause.message}"

end Failure

/-- How a command ends. -/
inductive Ending where
  | printed (text : String)
  | failed (failure : Failure)
  | crashed
  deriving DecidableEq, Repr

/-- What a run leaves behind. -/
structure Exit where
  code : Nat
  output : String
  error : Option String
  deriving DecidableEq, Repr

namespace Ending

/-- Failures have the code 1 and crashes the code 101. -/
def exit : Ending → Exit
  | printed text => ⟨0, text, none⟩
  | failed failure => ⟨1, "", some failure.message⟩
  | crashed => ⟨101, "", none⟩

end Ending

/-- Opens a trace, waits for its load and shows a view of it. -/
def withSession (files : FileTree CaptureFile) (settings : Settings) (trace : String)
    (view : Session → Except TraceError String) : Ending :=
  match Session.openFile files settings trace with
  | .crash _ => .crashed
  | .error cause => .failed (.notOpened trace cause)
  | .ok session =>
      match (session.watchLoad 1).1 with
      | .ended .failed =>
          .failed (.notLoaded trace (session.store.tracker.state.error?.getD "unknown error"))
      | .ended .cancelled => .failed (.cancelled trace)
      | .ended _ =>
          match view session with
          | .ok text => .printed text
          | .error cause => .failed (.refused cause)
      | _ => .crashed

/-- The names that can follow the name of the program. -/
def topics : List String :=
  CommandName.all.map CommandName.text ++ ["help"]

/-- A completion of the commands for a shell. -/
def completion (shell : Shell) : String :=
  let words := " ".intercalate topics
  match shell with
  | .bash => s!"complete -W '{words}' parsedebug\n"
  | .zsh => s!"compctl -k '({words})' parsedebug\n"
  | .fish => s!"complete -c parsedebug -n __fish_use_subcommand -f -a '{words}'\n"
  | .elvish => s!"set edit:completion:arg-completer[parsedebug] = \x7b|@_| put {words} \x7d\n"
  | .powershell =>
      s!"Register-ArgumentCompleter -Native -CommandName parsedebug -ScriptBlock \x7b " ++
        s!"-split '{words}' \x7d\n"

/-- Carries out a command. -/
def runCommand (files : FileTree CaptureFile) (settings : Settings) (format : Format) :
    Command → Ending
  | .info trace => withSession files settings trace (infoView format)
  | .tree trace id depth =>
      withSession files settings trace fun session => treeView format session id depth
  | .rules trace byClass =>
      withSession files settings trace
        (if byClass then classesView format else rulesView format)
  | .types trace => withSession files settings trace (typesView format)
  | .node trace id => withSession files settings trace fun session => nodeView format session id
  | .completion shell => .printed (completion shell)

/-- The name and version of the program. -/
def versionText : String := "parsedebug 0.3.0\n"

/-- How the program is called. -/
def helpText : String :=
  printLines
    ["Post-mortem debugger for parser traces", "", "Usage: parsedebug [OPTIONS] <COMMAND>", "",
      "Commands:",
      "  info <TRACE>                               Show capture and input summary",
      "  tree <TRACE> [-n <NODE>] [-d <DEPTH>]      Print the parse tree",
      "  rules <TRACE> [--by-class]                 Per-rule statistics, busiest first",
      "  types <TRACE>                              Invocations per matcher type",
      "  node <TRACE> <ID>                          Show one node and the input it matched",
      "  completion <SHELL>                         Generate shell completions",
      "", "Options:",
      "  -v, --verbose  Enable verbose logging",
      "      --json     Print JSON instead of text",
      "  -h, --help     Print help",
      "  -V, --version  Print version"]

/-- The trace that a command is about. -/
def Command.trace? : Command → Option String
  | .info trace => some trace
  | .tree trace _ _ => some trace
  | .rules trace _ => some trace
  | .types trace => some trace
  | .node trace _ => some trace
  | .completion _ => none

/-- The paths of the traces that a run looks at. -/
def tracePaths (arguments : List String) : List String :=
  match readRequest arguments with
  | .run command _ => command.trace?.toList
  | _ => []

/-- Whether output is styled: if it is forced to, otherwise unless it is forbidden or not wished,
and then on a terminal. A force or a wish of `0` is none. -/
def isStyled (force never wished : Option String) (terminal : Bool) : Bool :=
  if force.any (· != "0") then true
  else if never.isSome then false
  else wished.all (· != "0") && terminal

/-- Runs the program. Arguments that are misused have the code 2. -/
def run (files : FileTree CaptureFile) (settings : Settings) (styled : Bool)
    (arguments : List String) : Exit :=
  match readRequest arguments with
  | .run command json => (runCommand files settings ⟨json, styled⟩ command).exit
  | .help => ⟨0, helpText, none⟩
  | .version => ⟨0, versionText, none⟩
  | .misuse => ⟨2, "", none⟩

end ParseTrace.CommandLine
