/-!
# Scanning a TOML document

A scanner takes characters from the front of a text and either delivers a value with what remains
or fails without taking anything. Repetition is bounded by the length of what remains, which is
enough for every scanner that takes at least one character each time.
-/

namespace ParseTrace.Toml

/-- Takes characters from the front of a text, or fails. -/
abbrev Scanner (α : Type) : Type := StateT (List Char) Option α

namespace Scanner

/-- Takes one character that satisfies a test. -/
def satisfy (test : Char → Bool) : Scanner Char := fun input =>
  match input with
  | char :: rest => if test char then some (char, rest) else none
  | [] => none

/-- Takes the given characters. -/
def literal (expected : List Char) : Scanner Unit := fun input =>
  if expected.isPrefixOf input then some ((), input.drop expected.length) else none

/-- Takes one given character. -/
def char (expected : Char) : Scanner Unit :=
  literal [expected]

/-- Takes the longest run of characters that satisfy a test. -/
def run (test : Char → Bool) : Scanner (List Char) := fun input =>
  some (input.takeWhile test, input.dropWhile test)

/-- Takes the longest run of characters that satisfy a test, at least one. -/
def run1 (test : Char → Bool) : Scanner (List Char) := do
  let first ← satisfy test
  let rest ← run test
  return first :: rest

/-- Succeeds at the end of the text. -/
def atEnd : Scanner Unit := fun input =>
  if input.isEmpty then some ((), []) else none

/-- What a scanner delivers, if it succeeds. -/
def maybe (scanner : Scanner α) : Scanner (Option α) :=
  (some <$> scanner) <|> pure none

/-- Repeats a scanner until it fails, up to a number of times. -/
def manyUpTo (scanner : Scanner α) : Nat → Scanner (List α)
  | 0 => pure []
  | bound + 1 => do
      match ← maybe scanner with
      | none => return []
      | some item => return item :: (← manyUpTo scanner bound)

/-- Repeats a scanner until it fails. -/
def many (scanner : Scanner α) : Scanner (List α) := do
  let input ← get
  manyUpTo scanner input.length

/-- Items divided by separators, possibly none. A separator behind the last item is not taken. -/
def separated (separator : Scanner Unit) (item : Scanner α) : Scanner (List α) := do
  match ← maybe item with
  | none => return []
  | some first => return first :: (← many (separator *> item))

end Scanner

open Scanner

/-- Blanks within a line. -/
def isLineBlank (char : Char) : Bool :=
  char == ' ' || char == '\t'

/-- Characters outside ASCII. -/
def isBeyondAscii (char : Char) : Bool :=
  0x80 ≤ char.toNat

/-- Printable ASCII characters and the blank. -/
def isPrintableAscii (char : Char) : Bool :=
  0x20 ≤ char.toNat && char.toNat ≤ 0x7e

/-- Blanks within a line, possibly none. -/
def blanks : Scanner Unit :=
  discard <| run isLineBlank

/-- The end of a line. -/
def newline : Scanner Unit :=
  char '\n' <|> literal ['\r', '\n']

/-- A comment up to the end of its line. -/
def comment : Scanner Unit := do
  char '#'
  discard <| run fun char => char == '\t' || isPrintableAscii char || isBeyondAscii char

/-- What may follow on a line behind an expression. -/
def lineEnd : Scanner Unit := do
  blanks
  discard <| maybe comment
  newline <|> atEnd

/-- Blanks, line ends and whole comments, possibly none. -/
def filler : Scanner Unit :=
  discard <| many <|
    (discard <| run1 isLineBlank) <|> newline <|> (comment *> newline)

/-- The value of a digit of a numeral system. -/
def digitValue? (base : Nat) (char : Char) : Option Nat :=
  let value :=
    if '0' ≤ char ∧ char ≤ '9' then char.toNat - '0'.toNat
    else if 'a' ≤ char ∧ char ≤ 'f' then char.toNat - 'a'.toNat + 10
    else if 'A' ≤ char ∧ char ≤ 'F' then char.toNat - 'A'.toNat + 10
    else base
  if value < base then some value else none

/-- Whether a character is a digit of a numeral system. -/
def isDigitOf (base : Nat) (char : Char) : Bool :=
  (digitValue? base char).isSome

/-- The number that digits spell. -/
def numberOf (base : Nat) (digits : List Char) : Nat :=
  digits.foldl (fun number char => base * number + (digitValue? base char).getD 0) 0

/-- Digits, with single underscores between them. -/
def digits (base : Nat) : Scanner (List Char) := do
  let first ← satisfy (isDigitOf base)
  let rest ← many <|
    satisfy (isDigitOf base) <|> (char '_' *> satisfy (isDigitOf base))
  return first :: rest

/-- Exactly so many decimal digits, as a number in the given range. -/
def fixedDigits (count least greatest : Nat) : Scanner Nat := fun input =>
  let taken := input.take count
  let value := numberOf 10 taken
  if taken.length = count ∧ taken.all (isDigitOf 10) ∧ least ≤ value ∧ value ≤ greatest then
    some (value, input.drop count)
  else none

end ParseTrace.Toml
