import ParseTrace.Delimited.Reader

/-!
# Writing records of delimited fields

A field is quoted when it holds a byte that a reader would take for more than itself: the
delimiter, a quote or a line end. Every record ends with a newline. A record that would be an
empty line is written as an empty quoted field.
-/

namespace ParseTrace.Delimited

/-- Whether a field has to be quoted. -/
def needsQuotes (delimiter : UInt8) (field : Bytes) : Bool :=
  field.any fun byte => byte == delimiter || byte == quote || endsRecord byte

/-- The bytes of a quoted part, each quote twice. -/
def doubleQuotes (field : Bytes) : Bytes :=
  field.flatMap fun byte => if byte == quote then [quote, quote] else [byte]

/-- A field as it is written. -/
def writeField (delimiter : UInt8) (field : Bytes) : Bytes :=
  if needsQuotes delimiter field then quote :: (doubleQuotes field ++ [quote]) else field

/-- A record as it is written. -/
def writeRecord (delimiter : UInt8) (fields : List Bytes) : Bytes :=
  let line := List.intercalate [delimiter] (fields.map (writeField delimiter))
  (if line.isEmpty then [quote, quote] else line) ++ [0x0a]

/-- A file of the given records. -/
def writeRecords (delimiter : UInt8) (records : List (List Bytes)) : Bytes :=
  records.flatMap (writeRecord delimiter)

end ParseTrace.Delimited
