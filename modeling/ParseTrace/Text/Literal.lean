import ParseTrace.Text.Unprintable

/-!
# Texts between quotes

A literal shows a text between double quotes so that every character of it can be told: quotes and
backslashes stand behind a backslash, the common controls have an escape of one letter, and an
unprintable character is given by its number.
-/

namespace ParseTrace.Text

/-- How a character is written in a literal. -/
def literalChar (char : Char) : List Char :=
  if char = '\x00' then ['\\', '0']
  else if char = '\t' then ['\\', 't']
  else if char = '\n' then ['\\', 'n']
  else if char = '\r' then ['\\', 'r']
  else if char = '\\' ∨ char = '"' then ['\\', char]
  else if isPrintable char then [char]
  else ['\\', 'u', '\x7b'] ++ Nat.toDigits 16 char.toNat ++ ['\x7d']

/-- The literal of a text. -/
def quote (text : String) : String :=
  String.ofList ('"' :: (text.toList.flatMap literalChar ++ ['"']))

end ParseTrace.Text
