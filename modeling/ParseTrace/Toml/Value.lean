import ParseTrace.Toml.Text

/-!
# Values of TOML

Only what a reader of settings can ask for is kept of a value: texts, integers and truth values
are kept whole, of floating-point numbers and dates only that they are there. Tables remember how
they came about, because that decides who may still add to them.
-/

namespace ParseTrace.Toml

open Scanner

/-- How a table came about. -/
inductive TableOrigin where
  /-- Its own header names it. -/
  | header
  /-- Only the header of a table within it does. -/
  | outer
  /-- A dotted key does. -/
  | dotted
  deriving DecidableEq, Repr

/-- A value or a table of a document. -/
inductive Value where
  | text (text : String)
  | integer (value : Int)
  | float
  | boolean (value : Bool)
  | date
  | array (items : List Value)
  /-- A table in braces, to which nothing can be added. -/
  | inline (entries : List (String × Value))
  | table (origin : TableOrigin) (entries : List (String × Value))
  /-- Tables whose header in double brackets was repeated. -/
  | tables (elements : List (List (String × Value)))
  deriving Repr

/-- The entries of a table. -/
abbrev Entries := List (String × Value)

namespace Entries

/-- The value of a key. -/
def get? (entries : Entries) (key : String) : Option Value :=
  (entries.find? (·.1 == key)).map Prod.snd

/-- Gives a key a value, in its old place if it has one. -/
def set (entries : Entries) (key : String) (value : Value) : Entries :=
  if entries.any (·.1 == key) then
    entries.map fun entry => if entry.1 == key then (key, value) else entry
  else entries ++ [(key, value)]

/-- Enters a value under a dotted key. Tables on the way are made as needed; one that has a header
of its own, or stands in braces, takes no further entries, and the innermost table has to be one
made by dotted keys. -/
def insertDotted (entries : Entries) (last : String) (value : Value) :
    List String → Option Entries
  | [] => if (entries.get? last).isSome then none else some (entries.set last value)
  | part :: path =>
      match entries.get? part with
      | none => do
          let inner ← insertDotted [] last value path
          return entries.set part (.table .dotted inner)
      | some (.table .dotted inner) => do
          let inner ← insertDotted inner last value path
          return entries.set part (.table .dotted inner)
      | some (.table .outer inner) => do
          if path.isEmpty then failure
          let inner ← insertDotted inner last value path
          return entries.set part (.table .outer inner)
      | some (.tables elements) => do
          if path.isEmpty then failure
          let element ← elements.getLast?
          let inner ← insertDotted element last value path
          return entries.set part (.tables (elements.dropLast ++ [inner]))
      | some _ => none

/-- Enters a value under a key of one or more parts. -/
def insert? (entries : Entries) (key : List String) (value : Value) : Option Entries := do
  let last ← key.getLast?
  entries.insertDotted last value key.dropLast

end Entries

/-- The largest integer of a document. -/
def maxInteger : Nat := 9223372036854775807

/-- A sign, and whether it is a minus. -/
def sign : Scanner Bool := do
  let mark ← maybe (satisfy fun char => char == '+' || char == '-')
  return mark == some '-'

/-- The digits of a decimal integer, without zeros in front. -/
def decimalDigits : Scanner (List Char) := do
  let before ← get
  if before.head? == some '0' then (fun char => [char]) <$> satisfy (isDigitOf 10)
  else digits 10

/-- A decimal integer. -/
def decimalInteger : Scanner Value := do
  let negative ← sign
  let value := numberOf 10 (← decimalDigits)
  if negative then
    if value ≤ maxInteger + 1 then return .integer (-value) else failure
  else if value ≤ maxInteger then return .integer value
  else failure

/-- An integer of another numeral system, behind its mark. -/
def markedInteger (mark : Char) (base : Nat) : Scanner Value := do
  literal ['0', mark]
  let value := numberOf base (← digits base)
  if value ≤ maxInteger then return .integer value else failure

/-- An integer. -/
def integer : Scanner Value :=
  markedInteger 'x' 16 <|> markedInteger 'o' 8 <|> markedInteger 'b' 2 <|> decimalInteger

/-- The least number that rounds to infinity in the binary64 format. -/
def infinityThreshold : Nat := Nat.pow 2 1024 - Nat.pow 2 970

/-- Whether a number of digits followed by a power of ten rounds to infinity. -/
def roundsToInfinity (number : Nat) (exponent : Int) : Bool :=
  let magnitude : Int := (Nat.toDigits 10 number).length + exponent
  if number = 0 ∨ magnitude < 300 then false
  else if 320 < magnitude then true
  else if 0 ≤ exponent then infinityThreshold ≤ number * Nat.pow 10 exponent.toNat
  else infinityThreshold * Nat.pow 10 exponent.natAbs ≤ number

/-- The exponent of a floating-point number. -/
def exponent : Scanner Int := do
  discard <| satisfy fun char => char == 'e' || char == 'E'
  let negative ← sign
  let value : Int := numberOf 10 (← digits 10)
  return if negative then -value else value

/-- A floating-point number. It is refused if it rounds to infinity, but its opposite is not. -/
def float : Scanner Value := do
  let negative ← sign
  let whole ← decimalDigits
  let (fraction, power) ←
    (do return ([], ← exponent)) <|>
    (do
      char '.'
      let fraction ← digits 10
      return (fraction, (← maybe exponent).getD 0))
  let number := numberOf 10 (whole ++ fraction)
  if !negative && roundsToInfinity number (power - fraction.length) then failure
  return .float

/-- Infinity or the value of an undefined operation. -/
def specialFloat : Scanner Value := do
  discard sign
  literal ['i', 'n', 'f'] <|> literal ['n', 'a', 'n']
  return .float

/-- The number of days of a month. -/
def daysOfMonth (year month : Nat) : Nat :=
  if month = 2 then
    if year % 4 = 0 ∧ (year % 100 ≠ 0 ∨ year % 400 = 0) then 29 else 28
  else if month = 4 ∨ month = 6 ∨ month = 9 ∨ month = 11 then 30
  else 31

/-- A date. -/
def fullDate : Scanner Unit := do
  let year ← fixedDigits 4 0 9999
  char '-'
  let month ← fixedDigits 2 1 12
  char '-'
  let day ← fixedDigits 2 1 31
  if daysOfMonth year month < day then failure

/-- A time of day. -/
def timeOfDay : Scanner Unit := do
  discard <| fixedDigits 2 0 23
  char ':'
  discard <| fixedDigits 2 0 59
  char ':'
  discard <| fixedDigits 2 0 60
  discard <| maybe (char '.' *> run1 (isDigitOf 10))

/-- The distance of a time from universal time. -/
def timeOffset : Scanner Unit :=
  (discard <| satisfy fun char => char == 'Z' || char == 'z') <|> do
    discard <| satisfy fun char => char == '+' || char == '-'
    discard <| fixedDigits 2 0 23
    char ':'
    discard <| fixedDigits 2 0 59

/-- A date, a time, or both. -/
def date : Scanner Value :=
  (do
    fullDate
    discard <| maybe do
      discard <| satisfy fun char => char == 'T' || char == 't' || char == ' '
      timeOfDay
      discard <| maybe timeOffset
    return .date) <|>
  (timeOfDay *> pure .date)

/-- A truth value. -/
def boolean : Scanner Value :=
  (literal ['t', 'r', 'u', 'e'] *> pure (.boolean true)) <|>
    (literal ['f', 'a', 'l', 's', 'e'] *> pure (.boolean false))

/-- A value that holds no other. -/
def scalar : Scanner Value :=
  (.text <$> anyString) <|> date <|> float <|> specialFloat <|> integer <|> boolean

/-- An array of values that the given scanner takes. -/
def arrayOf (value : Scanner Value) : Scanner Value := do
  char '['
  let items ← separated (char ',') (filler *> value <* filler)
  unless items.isEmpty do
    discard <| maybe (char ',')
  filler
  char ']'
  return .array items

/-- A key and a value that the given scanner takes. -/
def pairOf (value : Scanner Value) : Scanner (List String × Value) := do
  let path ← key
  char '='
  blanks
  let value ← value
  blanks
  return (path, value)

/-- A table in braces. -/
def inlineOf (value : Scanner Value) : Scanner Value := do
  char '\x7b'
  let pairs ← separated (char ',') (pairOf value)
  blanks
  char '\x7d'
  let insert (entries : Entries) (pair : List String × Value) : Option Entries :=
    entries.insert? pair.1 pair.2
  match pairs.foldlM insert [] with
  | some entries => return .inline entries
  | none => failure

/-- A value with at most so many arrays and tables within one another. -/
def valueWithin : Nat → Scanner Value
  | 0 => scalar
  | depth + 1 => scalar <|> arrayOf (valueWithin depth) <|> inlineOf (valueWithin depth)

/-- A value. -/
def value : Scanner Value :=
  valueWithin maxNesting

end ParseTrace.Toml
