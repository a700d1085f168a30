import ParseTrace.Numeral.Integer
import ParseTrace.Numeral.Notation

/-!
# JSON

Values of JSON and how they are written: one member or item a line, two spaces further in than
what encloses it, and empty objects and arrays on a line of their own. Members keep the order in
which they are given.
-/

namespace ParseTrace

open Numeral

/-- A value of JSON. -/
inductive JsonValue where
  | null
  | bool (value : Bool)
  | integer (value : Int)
  | real (value : Binary64)
  | text (value : String)
  | array (items : List JsonValue)
  | object (members : List (String × JsonValue))
  deriving Repr

namespace JsonValue

/-- A count. -/
def count (value : Nat) : JsonValue := .integer value

/-- A value that may be missing. -/
def optional (write : α → JsonValue) : Option α → JsonValue
  | some value => write value
  | none => .null

/-- A hexadecimal digit below sixteen. -/
def hexDigit (value : Nat) : Char :=
  (Nat.toDigits 16 value).headD '0'

/-- How a character is written within quotes. -/
def escapeChar (char : Char) : List Char :=
  if char = '"' then ['\\', '"']
  else if char = '\\' then ['\\', '\\']
  else if char = '\n' then ['\\', 'n']
  else if char = '\r' then ['\\', 'r']
  else if char = '\t' then ['\\', 't']
  else if char = '\x08' then ['\\', 'b']
  else if char = '\x0c' then ['\\', 'f']
  else if char.toNat < 0x20 then
    ['\\', 'u', '0', '0', hexDigit (char.toNat / 16), hexDigit (char.toNat % 16)]
  else [char]

/-- A text within quotes. -/
def quote (text : String) : List Char :=
  '"' :: (text.toList.flatMap escapeChar ++ ['"'])

/-- A new line of the given indentation. -/
def newLine (indent : Nat) : List Char :=
  '\n' :: List.replicate (2 * indent) ' '

mutual

/-- A value within so many enclosing ones. -/
def write (indent : Nat) : JsonValue → List Char
  | null => ['n', 'u', 'l', 'l']
  | bool true => ['t', 'r', 'u', 'e']
  | bool false => ['f', 'a', 'l', 's', 'e']
  | integer value => writeInteger value
  | real value => writeDecimal value.shortest
  | text value => quote value
  | array [] => ['[', ']']
  | array (item :: rest) =>
      '[' :: (newLine (indent + 1) ++ write (indent + 1) item ++ writeItems (indent + 1) rest ++
        newLine indent ++ [']'])
  | object [] => ['\x7b', '\x7d']
  | object ((name, value) :: rest) =>
      '\x7b' :: (newLine (indent + 1) ++ quote name ++ ':' :: ' ' :: write (indent + 1) value ++
        writeMembers (indent + 1) rest ++ newLine indent ++ ['\x7d'])

/-- Further items of an array, each behind a comma. -/
def writeItems (indent : Nat) : List JsonValue → List Char
  | [] => []
  | item :: rest => ',' :: (newLine indent ++ write indent item ++ writeItems indent rest)

/-- Further members of an object, each behind a comma. -/
def writeMembers (indent : Nat) : List (String × JsonValue) → List Char
  | [] => []
  | (name, value) :: rest =>
      ',' :: (newLine indent ++ quote name ++ ':' :: ' ' :: write indent value ++
        writeMembers indent rest)

end

/-- A value over several lines. -/
def pretty (value : JsonValue) : String :=
  String.ofList (value.write 0)

mutual

/-- The same value with the members of all objects in the order of their names. -/
def sortMembers : JsonValue → JsonValue
  | array items => .array (sortItems items)
  | object members =>
      .object ((sortEach members).mergeSort fun left right => decide (left.1 ≤ right.1))
  | value => value

/-- Sorts the members within several values. -/
def sortItems : List JsonValue → List JsonValue
  | [] => []
  | item :: rest => item.sortMembers :: sortItems rest

/-- Sorts the members within the values of several members. -/
def sortEach : List (String × JsonValue) → List (String × JsonValue)
  | [] => []
  | (name, value) :: rest => (name, value.sortMembers) :: sortEach rest

end

end JsonValue

end ParseTrace
