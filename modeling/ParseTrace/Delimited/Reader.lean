import ParseTrace.Text.Utf8

/-!
# Reading records of delimited fields

A file is a sequence of records, each ended by a newline, a carriage return or both, and a record
is a sequence of fields divided by a delimiter. Empty lines hold no record, and a byte order mark
at the very start is skipped. A quote at the start of a field begins a quoted part, in which
delimiters and line ends are ordinary bytes and two quotes stand for one; after the closing quote
the field goes on unquoted. A quote anywhere else is an ordinary byte. The end of the file ends
the record in progress, also within quotes.

Every file is a sequence of records in this sense; only the bytes of a field can fail to be a text.
Where a file breaks off, the record in progress is lost.
-/

namespace ParseTrace.Delimited

/-- The byte around a quoted part. -/
def quote : UInt8 := 0x22

/-- Whether a byte ends a record. -/
def endsRecord (byte : UInt8) : Bool :=
  byte == 0x0a || byte == 0x0d

/-- Where a record begins. -/
structure Place where
  /-- Records before this one. -/
  record : Nat
  /-- Line, counted from one. -/
  line : Nat
  /-- Bytes before this one. -/
  byte : Nat
  deriving DecidableEq, Repr

/-- A record with the bytes of its fields. -/
structure RawRecord where
  place : Place
  fields : List Bytes
  deriving DecidableEq, Repr

/-- What the bytes read so far are in the middle of. -/
inductive Mode where
  /-- Before the first byte of a record. -/
  | recordStart
  | fieldStart
  | unquoted
  | quoted
  /-- Behind a quote within a quoted part, which closes the part unless it is doubled. -/
  | afterQuote
  deriving DecidableEq, Repr

/-- A reader between two bytes. -/
structure ReaderState where
  mode : Mode
  /-- Bytes of the field in progress, last one first. -/
  field : Bytes
  /-- Fields of the record in progress, last one first. -/
  fields : List Bytes
  /-- Records read, last one first. -/
  records : List RawRecord
  /-- Where the record in progress begins. -/
  place : Place
  line : Nat
  byte : Nat
  deriving Repr

namespace ReaderState

/-- A reader before the first byte of a file, behind so many bytes of a byte order mark. -/
def initial (skipped : Nat) : ReaderState where
  mode := .recordStart
  field := []
  fields := []
  records := []
  place := ⟨0, 1, 0⟩
  line := 1
  byte := skipped

/-- Adds a byte to the field in progress. -/
def push (state : ReaderState) (byte : UInt8) (mode : Mode) : ReaderState :=
  { state with field := byte :: state.field, mode }

/-- Ends the field in progress and begins the next one. -/
def endField (state : ReaderState) : ReaderState :=
  { state with
    field := []
    fields := state.field.reverse :: state.fields
    mode := .fieldStart }

/-- Ends the field and the record in progress. -/
def endRecord (state : ReaderState) : ReaderState :=
  { state with
    field := []
    fields := []
    records :=
      { place := state.place
        fields := (state.field.reverse :: state.fields).reverse } :: state.records
    place := ⟨state.place.record + 1, state.line, state.byte⟩
    mode := .recordStart }

/-- Moves past a byte. -/
def advance (state : ReaderState) (byte : UInt8) : ReaderState :=
  { state with byte := state.byte + 1, line := if byte == 0x0a then state.line + 1 else state.line }

/-- Takes an ordinary byte: it divides fields, ends the record, or belongs to the field. -/
def takePlain (delimiter : UInt8) (state : ReaderState) (byte : UInt8) : ReaderState :=
  if byte == delimiter then state.endField
  else if endsRecord byte then state.endRecord
  else state.push byte .unquoted

/-- Takes one byte. -/
def step (delimiter : UInt8) (state : ReaderState) (byte : UInt8) : ReaderState :=
  let next := state.advance byte
  match state.mode with
  | .recordStart =>
      if endsRecord byte then next
      else if byte == quote then { next with mode := .quoted }
      else next.takePlain delimiter byte
  | .fieldStart =>
      if byte == quote then { next with mode := .quoted } else next.takePlain delimiter byte
  | .unquoted => next.takePlain delimiter byte
  | .quoted => if byte == quote then { next with mode := .afterQuote } else next.push byte .quoted
  | .afterQuote =>
      if byte == quote then next.push byte .quoted else next.takePlain delimiter byte

/-- The records of a file that ends here. -/
def finish (state : ReaderState) : List RawRecord :=
  match state.mode with
  | .recordStart => state.records.reverse
  | _ => state.endRecord.records.reverse

end ReaderState

/-- The mark that some writers put before a text. -/
def byteOrderMark : Bytes := [0xef, 0xbb, 0xbf]

/-- A reader behind all bytes of a file. -/
def readAll (delimiter : UInt8) (file : Bytes) : ReaderState :=
  if byteOrderMark.isPrefixOf file then
    (file.drop 3).foldl (ReaderState.step delimiter) (.initial 3)
  else file.foldl (ReaderState.step delimiter) (.initial 0)

/-- The records of a file. -/
def readRecords (delimiter : UInt8) (file : Bytes) : List RawRecord :=
  (readAll delimiter file).finish

/-- The records of a file that breaks off: those that were ended before. -/
def readEndedRecords (delimiter : UInt8) (file : Bytes) : List RawRecord :=
  (readAll delimiter file).records.reverse

end ParseTrace.Delimited
