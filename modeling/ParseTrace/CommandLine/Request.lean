import ParseTrace.Numeral.Integer
import ParseTrace.Trace.Invocation

/-!
# Requests on the command line

Arguments are read from left to right. The first one that is no option names the command, and what
follows belongs to the command. An option that takes a value has it attached or in the next
argument, short options can be joined behind one dash, and behind a double dash nothing is an
option. The first argument that asks for help, or that is misused, decides; what a command lacks
shows only at the end.
-/

namespace ParseTrace.CommandLine

open Numeral (IntegerRange readInteger)

/-- The shells for which completions can be written. -/
inductive Shell where
  | bash
  | elvish
  | fish
  | powershell
  | zsh
  deriving DecidableEq, Repr

namespace Shell

/-- All shells. -/
def all : List Shell := [bash, elvish, fish, powershell, zsh]

/-- The name of a shell. -/
def name : Shell → String
  | bash => "bash"
  | elvish => "elvish"
  | fish => "fish"
  | powershell => "powershell"
  | zsh => "zsh"

end Shell

/-- The names of the commands. -/
inductive CommandName where
  | info
  | tree
  | rules
  | types
  | node
  | completion
  deriving DecidableEq, Repr

namespace CommandName

/-- All commands. -/
def all : List CommandName := [info, tree, rules, types, node, completion]

/-- How a command is called. -/
def text : CommandName → String
  | info => "info"
  | tree => "tree"
  | rules => "rules"
  | types => "types"
  | node => "node"
  | completion => "completion"

/-- The command that is called so. -/
def ofText? (text : String) : Option CommandName :=
  all.find? fun name => name.text == text

end CommandName

/-- Commands with all that they need. -/
inductive Command where
  | info (trace : String)
  /-- Prints what lies below a node, down to a depth if one is given. -/
  | tree (trace : String) (node : NodeId) (depth : Option Nat)
  | rules (trace : String) (byClass : Bool)
  | types (trace : String)
  | node (trace : String) (id : NodeId)
  | completion (shell : Shell)
  deriving DecidableEq, Repr

/-- What is asked for. -/
inductive Request where
  | run (command : Command) (json : Bool)
  | help
  | version
  /-- Nothing that could be understood. -/
  | misuse
  deriving DecidableEq, Repr

/-- The options. -/
inductive Flag where
  | verbose
  | json
  | help
  | version
  | byClass
  | node
  | depth
  deriving DecidableEq, Repr

namespace Flag

/-- The long form of an option. -/
def longName : Flag → String
  | verbose => "verbose"
  | json => "json"
  | help => "help"
  | version => "version"
  | byClass => "by-class"
  | node => "node"
  | depth => "depth"

/-- The short form of an option, if it has one. -/
def shortName? : Flag → Option Char
  | verbose => some 'v'
  | json => none
  | help => some 'h'
  | version => some 'V'
  | byClass => none
  | node => some 'n'
  | depth => some 'd'

/-- Whether an option takes a value. -/
def takesValue (flag : Flag) : Bool :=
  flag = node ∨ flag = depth

end Flag

/-- The options that are known before the command, or behind it. -/
def knownFlags : Option CommandName → List Flag
  | none => [.verbose, .json, .help, .version]
  | some .tree => [.verbose, .json, .help, .node, .depth]
  | some .rules => [.verbose, .json, .help, .byClass]
  | some _ => [.verbose, .json, .help]

/-- What has been read so far, before the command or behind it. -/
structure Reading where
  /-- Options without a value. -/
  flags : List Flag
  node : Option NodeId
  depth : Option Nat
  /-- Arguments that are no options, in order. -/
  operands : List String
  /-- The option whose value is expected next. -/
  pending : Option Flag
  /-- Whether options are over. -/
  onlyOperands : Bool
  deriving DecidableEq, Repr

namespace Reading

/-- Nothing has been read. -/
def start : Reading where
  flags := []
  node := none
  depth := none
  operands := []
  pending := none
  onlyOperands := false

/-- An integer between two bounds, which may have a sign. -/
def boundedInteger? (least greatest : Int) (text : String) : Option Int :=
  match readInteger .signed64 text.toList with
  | .ok value => if least ≤ value ∧ value ≤ greatest then some value else none
  | .error _ => none

/-- The number of a node. -/
def nodeId? (text : String) : Option NodeId :=
  boundedInteger? IntegerRange.signed32.least IntegerRange.signed32.greatest text

/-- A depth. -/
def depth? (text : String) : Option Nat :=
  (boundedInteger? 0 IntegerRange.unsigned32.greatest text).map Int.toNat

/-- Takes an option without a value, which may not be given twice. -/
def addFlag (reading : Reading) (flag : Flag) : Except Request Reading :=
  match flag with
  | .help => .error .help
  | .version => .error .version
  | _ =>
      if flag ∈ reading.flags then .error .misuse
      else .ok { reading with flags := flag :: reading.flags }

/-- Takes the value of an option, which may not be given twice. -/
def addValue (reading : Reading) (flag : Flag) (value : String) : Except Request Reading :=
  match flag with
  | .node =>
      match reading.node, nodeId? value with
      | none, some id => .ok { reading with node := some id, pending := none }
      | _, _ => .error .misuse
  | .depth =>
      match reading.depth, depth? value with
      | none, some depth => .ok { reading with depth := some depth, pending := none }
      | _, _ => .error .misuse
  | _ => .error .misuse

/-- Whether a command takes an argument as its next operand. A path is not empty. -/
def acceptsOperand (command : Option CommandName) (before : Nat) (operand : String) : Bool :=
  match command, before with
  | none, _ => false
  | some .completion, 0 => Shell.all.any fun shell => shell.name == operand
  | some .node, 1 => (nodeId? operand).isSome
  | some _, 0 => operand != ""
  | some _, _ => false

/-- Takes an argument that is no option. -/
def addOperand (command : Option CommandName) (reading : Reading) (operand : String) :
    Except Request Reading :=
  if acceptsOperand command reading.operands.length operand then
    .ok { reading with operands := reading.operands ++ [operand] }
  else .error .misuse

/-- Takes the characters behind a single dash. -/
def addShort (known : List Flag) (reading : Reading) : List Char → Except Request Reading
  | [] => .ok reading
  | char :: rest =>
      match known.find? fun flag => flag.shortName? == some char with
      | none => .error .misuse
      | some flag =>
          if flag.takesValue then
            match rest with
            | [] => .ok { reading with pending := some flag }
            | '=' :: value => reading.addValue flag (String.ofList value)
            | value => reading.addValue flag (String.ofList value)
          else
            match reading.addFlag flag with
            | .ok reading => addShort known reading rest
            | .error request => .error request

/-- Takes the characters behind a double dash. -/
def addLong (known : List Flag) (reading : Reading) (text : List Char) : Except Request Reading :=
  let name := String.ofList (text.takeWhile (· != '='))
  let value? :=
    match text.dropWhile (· != '=') with
    | [] => none
    | _ :: value => some (String.ofList value)
  match known.find? fun flag => flag.longName == name with
  | none => .error .misuse
  | some flag =>
      match flag.takesValue, value? with
      | true, none => .ok { reading with pending := some flag }
      | true, some value => reading.addValue flag value
      | false, none => reading.addFlag flag
      | false, some _ => .error .misuse

/-- Takes an argument. -/
def add (command : Option CommandName) (reading : Reading) (argument : String) :
    Except Request Reading :=
  if reading.onlyOperands then addOperand command reading argument
  else
    match argument.toList, reading.pending with
    | '-' :: '-' :: _, some _ => .error .misuse
    | '-' :: _ :: _, some _ => .error .misuse
    | _, some flag => reading.addValue flag argument
    | ['-', '-'], none => .ok { reading with onlyOperands := true }
    | '-' :: '-' :: text, none => addLong (knownFlags command) reading text
    | '-' :: char :: rest, none => addShort (knownFlags command) reading (char :: rest)
    | _, none => addOperand command reading argument

/-- The command that was read, none if it lacks something. -/
def command? (reading : Reading) (name : CommandName) : Option Command :=
  match reading.pending, name, reading.operands with
  | none, .info, [trace] => some (.info trace)
  | none, .tree, [trace] => some (.tree trace (reading.node.getD rootNode) reading.depth)
  | none, .rules, [trace] => some (.rules trace (reading.flags.contains .byClass))
  | none, .types, [trace] => some (.types trace)
  | none, .node, [trace, text] => (nodeId? text).map (.node trace)
  | none, .completion, [text] =>
      (Shell.all.find? fun shell => shell.name == text).map .completion
  | _, _, _ => none

end Reading

/-- Reads what follows the name of a command. -/
def readCommand (json : Bool) (name : CommandName) (arguments : List String) : Request :=
  match arguments.foldlM (Reading.add (some name)) .start with
  | .error request => request
  | .ok reading =>
      match reading.command? name with
      | some command => .run command (json || reading.flags.contains .json)
      | none => .misuse

/-- Reads what follows the word that asks for help: nothing, or the name of a command. -/
def readHelp : List String → Request
  | [] => .help
  | [topic] => if topic = "help" ∨ (CommandName.ofText? topic).isSome then .help else .misuse
  | _ => .misuse

/-- Reads arguments up to the name of a command, and then what follows it. -/
def readArguments (reading : Reading) : List String → Request
  | [] => .misuse
  | argument :: rest =>
      match reading.onlyOperands, CommandName.ofText? argument with
      | false, some name => readCommand (reading.flags.contains .json) name rest
      | _, _ =>
          if reading.onlyOperands = false ∧ argument = "help" then readHelp rest
          else
            match Reading.add none reading argument with
            | .ok reading => readArguments reading rest
            | .error request => request

/-- What a list of arguments asks for. -/
def readRequest (arguments : List String) : Request :=
  readArguments .start arguments

end ParseTrace.CommandLine
