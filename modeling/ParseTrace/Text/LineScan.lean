import ParseTrace.Text.Units16

/-!
# Finding the lines of a text

One pass over a text counts it and notes where its lines start, once in code units and once in bytes.
A newline opens a line behind it. Only at the end of the text does it become clear that a last newline
has opened none, and the note is taken back.
-/

namespace ParseTrace.Text

/-- How far a text has been read, and where lines start in what was read. -/
structure LineScan where
  units : Nat
  bytes : Nat
  codePoints : Nat
  unitStarts : Array Nat
  byteStarts : Array Nat
  deriving DecidableEq, Repr

namespace LineScan

/-- Nothing has been read, and the first line starts. -/
def start : LineScan where
  units := 0
  bytes := 0
  codePoints := 0
  unitStarts := #[0]
  byteStarts := #[0]

/-- Reads one more character. -/
def step (scan : LineScan) (char : Char) : LineScan :=
  let read : LineScan :=
    { scan with
      units := scan.units + units16 char
      bytes := scan.bytes + char.utf8Size
      codePoints := scan.codePoints + 1 }
  if char = '\n' then
    { read with
      unitStarts := read.unitStarts.push read.units
      byteStarts := read.byteStarts.push (scan.bytes + 1) }
  else read

/-- Takes back a line that would start at the end of the text, unless it is the only one. -/
def finish (scan : LineScan) : LineScan :=
  if 1 < scan.unitStarts.size ∧ scan.unitStarts.back? = some scan.units then
    { scan with unitStarts := scan.unitStarts.pop, byteStarts := scan.byteStarts.pop }
  else scan

/-- Reads a whole text. -/
def ofChars (text : List Char) : LineScan :=
  (text.foldl step start).finish

end LineScan

end ParseTrace.Text
