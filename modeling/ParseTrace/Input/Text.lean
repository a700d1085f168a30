import ParseTrace.Text.LineScan
import ParseTrace.Text.Units8
import ParseTrace.Trace.Error

/-!
# The traced input

Offsets into the input count UTF-16 code units, lines and columns count from one. `InputText`
keeps the start of every line beside the text, in code units and in bytes, so that a look-up need not
read the text again. The text itself is cut at bytes: an offset is first looked up among the lines,
and only its line is read up to the byte that belongs to it.
-/

namespace ParseTrace

open Text

/-- Line and column of an offset, both counted from one. -/
structure Position where
  line : Nat
  column : Nat
  deriving DecidableEq, Repr

namespace Position

/-- A position in words. -/
def describe (position : Position) : String :=
  s!"line {position.line}, column {position.column}"

end Position

/-- The size of an input in three measures. -/
structure InputSize where
  lines : Nat
  codeUnits : Nat
  codePoints : Nat
  deriving DecidableEq, Repr

/-- The traced input with what was found when it was read. -/
structure InputText where
  chars : List Char
  scan : LineScan
  scan_eq : scan = .ofChars chars

namespace InputText

/-- The input that consists of the given characters. -/
def ofChars (chars : List Char) : InputText where
  chars := chars
  scan := .ofChars chars
  scan_eq := rfl

/-- The length of the input. -/
def length (input : InputText) : Nat :=
  input.scan.units

/-- The offsets at which the lines start. -/
def lineStarts (input : InputText) : List Nat :=
  input.scan.unitStarts.toList

/-- The bytes at which the lines start. -/
def lineBytes (input : InputText) : List Nat :=
  input.scan.byteStarts.toList

/-- The input with the given text. -/
def ofString (text : String) : InputText :=
  ofChars text.toList

/-- The whole text. -/
def text (input : InputText) : String :=
  String.ofList input.chars

/-- Whether the input holds no character. -/
def isEmpty (input : InputText) : Bool :=
  input.length == 0

/-- The number of lines, at least one. -/
def lineCount (input : InputText) : Nat :=
  input.lineStarts.length

/-- The size of the input. -/
def size (input : InputText) : InputSize where
  lines := input.lineCount
  codeUnits := input.length
  codePoints := input.scan.codePoints

/-- Refuses a range of offsets that is inverted or reaches past the end. -/
def checkRange (input : InputText) (start stop : Nat) : Except TraceError Unit :=
  if start ≤ stop ∧ stop ≤ input.length then .ok ()
  else .error (.range start stop input.length)

/-- The line of an offset, counted from one: it stands in front of the first one that starts behind
the offset. -/
def lineNumber (input : InputText) (offset : Nat) : Nat :=
  input.lineStarts.findIdx fun start => offset < start

/-- The line of an offset within the input. -/
def lineOf (input : InputText) (offset : Nat) : Except TraceError Nat := do
  input.checkRange offset offset
  return input.lineNumber offset

/-- The offsets at which a line, counted from one, starts and ends. -/
def lineSpan? (input : InputText) (line : Nat) : Option (Nat × Nat) :=
  match line with
  | 0 => none
  | index + 1 =>
      match input.lineStarts[index]? with
      | none => none
      | some start => some (start, input.lineStarts[index + 1]?.getD input.length)

/-- Line and column of an offset within the input. -/
def position (input : InputText) (offset : Nat) : Except TraceError Position := do
  input.checkRange offset offset
  let line := input.lineNumber offset
  return { line, column := offset - input.lineStarts[line - 1]?.getD 0 + 1 }

/-- The text between two bytes, both of them at the start of a character or at the end. -/
def slice (input : InputText) (start stop : Nat) : List Char :=
  (slice8? start stop input.chars).getD []

/-- The byte at which a character starts that ends behind `offset`, in a text that starts at the given
code unit and byte. -/
def seekByte? (offset : Nat) : (unit byte : Nat) → List Char → Option Nat
  | _, _, [] => none
  | unit, byte, char :: rest =>
      if offset < unit + units16 char then some byte
      else seekByte? offset (unit + units16 char) (byte + char.utf8Size) rest

/-- The byte of an offset. An offset within a character has the byte at which that character starts,
and one past the end has the byte at the end. -/
def byteIndex (input : InputText) (offset : Nat) : Nat :=
  let line := input.lineNumber offset - 1
  let unit := input.lineStarts[line]?.getD 0
  let byte := input.lineBytes[line]?.getD 0
  (seekByte? offset unit byte (input.slice byte (length8 input.chars))).getD (length8 input.chars)

/-- The text between two offsets. -/
def extract (input : InputText) (start stop : Nat) : Except TraceError String := do
  input.checkRange start stop
  return String.ofList (input.slice (input.byteIndex start) (input.byteIndex stop))

end InputText

end ParseTrace
