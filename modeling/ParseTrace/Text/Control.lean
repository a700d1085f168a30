/-!
# Control characters made visible

Newline, carriage return and tabulator are shown as `\n`, `\r` and `\t`, every other control
character as `\u` and its four hexadecimal digits. All other characters stand for themselves.
-/

namespace ParseTrace.Text

/-- The control characters: `U+0000` to `U+001F` and `U+007F` to `U+009F`. -/
def isControl (char : Char) : Bool :=
  char.toNat < 0x20 || (0x7f ≤ char.toNat && char.toNat < 0xa0)

/-- The lower-case hexadecimal digits of a number, padded with zeros to four. -/
def hex4 (code : Nat) : List Char :=
  let digits := Nat.toDigits 16 code
  List.replicate (4 - digits.length) '0' ++ digits

/-- A character as it is shown to a reader. -/
def visible (char : Char) : List Char :=
  if char = '\n' then ['\\', 'n']
  else if char = '\r' then ['\\', 'r']
  else if char = '\t' then ['\\', 't']
  else if isControl char then '\\' :: 'u' :: hex4 char.toNat
  else [char]

/-- A text with its control characters made visible. -/
def escapeControl (text : List Char) : List Char :=
  text.flatMap visible

end ParseTrace.Text
