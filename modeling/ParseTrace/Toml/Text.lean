import ParseTrace.Toml.Scanner

/-!
# Strings and keys of TOML

Basic strings know escapes, literal ones do not, and either kind may span lines between triple
quotes. A line break within a string reads as a newline however it is written. Up to two quotes
may stand right before the closing three.
-/

namespace ParseTrace.Toml

open Scanner

/-- The quote of basic strings. -/
def basicQuote : Char := '\x22'

/-- The quote of literal strings. -/
def literalQuote : Char := '\x27'

/-- Characters that stand for themselves within quotes of the given kind. -/
def isPlainWithin (quote char : Char) : Bool :=
  (char == '\t' || isPrintableAscii char || isBeyondAscii char) && char != quote &&
    !(quote == basicQuote && char == '\\')

/-- The character with a code of so many hexadecimal digits. -/
def codedChar (count : Nat) : Scanner Char := do
  let code ← fun input =>
    let taken := input.take count
    if taken.length = count ∧ taken.all (isDigitOf 16) then
      some (numberOf 16 taken, input.drop count)
    else none
  if code.isValidChar then return Char.ofNat code else failure

/-- An escaped character. -/
def escapedChar : Scanner Char := do
  char '\\'
  let mark ← satisfy fun _ => true
  match mark with
  | 'b' => return '\x08'
  | 'f' => return '\x0c'
  | 'n' => return '\n'
  | 'r' => return '\r'
  | 't' => return '\t'
  | '\x22' => return '\x22'
  | '\\' => return '\\'
  | 'u' => codedChar 4
  | 'U' => codedChar 8
  | _ => failure

/-- A backslash at the end of a line, which takes away the line break and all blanks behind it. -/
def escapedBreak : Scanner Unit := do
  char '\\'
  blanks
  newline
  discard <| many <| (discard <| satisfy isLineBlank) <|> newline

/-- A piece of a string on one line. -/
def linePiece (quote : Char) : Scanner (List Char) :=
  run1 (isPlainWithin quote) <|>
    (if quote == basicQuote then (fun char => [char]) <$> escapedChar else failure)

/-- A piece of a string that may span lines, other than a quote. -/
def blockPiece (quote : Char) : Scanner (List Char) :=
  run1 (isPlainWithin quote) <|>
    (if quote == basicQuote then
      (escapedBreak *> pure []) <|> ((fun char => [char]) <$> escapedChar)
    else failure) <|>
    (newline *> pure ['\n'])

/-- One or two quotes that do not begin the closing three. -/
def strayQuotes (quote : Char) : Scanner (List Char) := fun input =>
  let run := input.takeWhile (· == quote)
  if run.length = 1 ∨ run.length = 2 then some (run, input.drop run.length) else none

/-- The closing three quotes, with the quotes of the string that stand right before them. -/
def closingQuotes (quote : Char) : Scanner (List Char) := fun input =>
  let run := (input.take 5).takeWhile (· == quote)
  if 3 ≤ run.length then some (run.drop 3, input.drop run.length) else none

/-- A string on one line. -/
def lineString (quote : Char) : Scanner (List Char) := do
  char quote
  let pieces ← many (linePiece quote)
  char quote
  return pieces.flatten

/-- A string between triple quotes. A line break right behind the opening ones is dropped. -/
def blockString (quote : Char) : Scanner (List Char) := do
  literal [quote, quote, quote]
  discard <| maybe newline
  let pieces ← many (blockPiece quote <|> strayQuotes quote)
  let last ← closingQuotes quote
  return pieces.flatten ++ last

/-- A string of any kind. -/
def anyString : Scanner String :=
  String.ofList <$>
    (blockString basicQuote <|> lineString basicQuote <|> blockString literalQuote <|>
      lineString literalQuote)

/-- Characters of a key without quotes. -/
def isBareKeyChar (char : Char) : Bool :=
  char.isAlphanum || char == '-' || char == '_'

/-- One part of a key. -/
def simpleKey : Scanner String :=
  String.ofList <$>
    (lineString basicQuote <|> lineString literalQuote <|> run1 isBareKeyChar)

/-- The largest number of parts of a key, and of values within one another. -/
def maxNesting : Nat := 79

/-- A key of parts divided by dots, with the blanks around it. -/
def key : Scanner (List String) := do
  let part : Scanner String := blanks *> simpleKey <* blanks
  let first ← part
  let rest ← many (char '.' *> part)
  if rest.length < maxNesting then return first :: rest else failure

end ParseTrace.Toml
