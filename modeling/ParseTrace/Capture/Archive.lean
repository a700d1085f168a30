import ParseTrace.Capture.Fields
import ParseTrace.Delimited.Writer
import ParseTrace.Trace.Outcome

/-!
# Capture archives

A capture is an archive of four entries: a header, the declared rules, the invocations in order
and the parsed input. Opening one reads the header and makes sure that the other entries are
there. Rules and invocations are then read record by record, so what precedes a bad record, or the
place where an entry breaks off, is still delivered. The separator is a semicolon and there is no
row of column names.
-/

namespace ParseTrace

/-- What can be read of an entry. -/
structure Contents where
  /-- The bytes up to the end of the entry, or to where it breaks off. -/
  bytes : Bytes
  /-- What breaks the entry off behind these bytes, if anything does. -/
  fault : Option StreamFault
  /-- How many bytes the archive announces for the entry. -/
  announced : Nat
  deriving DecidableEq, Repr

namespace Contents

/-- An entry that is whole. -/
def ofBytes (bytes : Bytes) : Contents where
  bytes := bytes
  fault := none
  announced := bytes.length

/-- An entry that is whole and holds a text. -/
def ofText (text : String) : Contents :=
  .ofBytes (Utf8.encode text)

end Contents

/-- The contents of an archive, entry by entry. -/
structure Archive where
  info : Option Contents
  rules : Option Contents
  nodes : Option Contents
  input : Option Contents
  deriving DecidableEq, Repr

/-- A file that should be a capture. -/
inductive CaptureFile where
  | archive (archive : Archive)
  /-- A file that is no container of entries, and why. -/
  | other (fault : ContainerFault)
  deriving DecidableEq, Repr

/-- What a sequence of records delivers: the items before the end, and how it ended. -/
structure Delivery (α : Type) where
  items : List α
  ending : Except CaptureError Unit

/-- An opened capture. -/
structure Capture where
  header : Header
  rules : Contents
  nodes : Contents
  input : Contents
  deriving DecidableEq, Repr

/-- The byte between two fields. -/
def Capture.separator : UInt8 := 0x3b

namespace Contents

open Delimited (RawRecord)

/-- The records that can be read of an entry. -/
def records (contents : Contents) : List RawRecord :=
  match contents.fault with
  | none => Delimited.readRecords Capture.separator contents.bytes
  | some _ => Delimited.readEndedRecords Capture.separator contents.bytes

/-- How reading an entry ends behind its last record. -/
def ending (entry : Entry) (contents : Contents) : Except CaptureError Unit :=
  match contents.fault with
  | none => .ok ()
  | some fault => .error (.brokenOff entry fault)

end Contents

namespace Capture

open Delimited (RawRecord)

/-- The fields of a record as texts, from the given column on. -/
def decodeFields (entry : Entry) (record : RawRecord) :
    Nat → List Bytes → Except CaptureError Fields
  | _, [] => .ok []
  | column, bytes :: rest =>
      match Utf8.decode? bytes with
      | some text => (text :: ·) <$> decodeFields entry record (column + 1) rest
      | none =>
          .error (.malformedField entry
            { record := record.place.record
              line := record.place.line
              byte := record.place.byte
              field := column
              validBytes := Utf8.validLength bytes })

/-- What a record of an entry says, where records are counted from one. -/
def interpret (entry : Entry) (read : Fields → Except RecordFault α) (index : Nat)
    (record : RawRecord) : Except CaptureError α := do
  let fields ← decodeFields entry record 0 record.fields
  match read fields with
  | .ok item => return item
  | .error fault => throw (.invalidRecord entry index fault)

/-- Reads records up to the first bad one, behind items that were read before, last one first. The
ending is what comes behind the last record. -/
def deliverAfter (entry : Entry) (read : Fields → Except RecordFault α)
    (ending : Except CaptureError Unit) (items : List α) (index : Nat) :
    List RawRecord → Delivery α
  | [] => ⟨items.reverse, ending⟩
  | record :: rest =>
      match interpret entry read index record with
      | .ok item => deliverAfter entry read ending (item :: items) (index + 1) rest
      | .error error => ⟨items.reverse, .error error⟩

/-- The items of an entry up to the first bad record, or to where the entry breaks off. -/
def deliver (entry : Entry) (read : Fields → Except RecordFault α) (contents : Contents) :
    Delivery α :=
  deliverAfter entry read (contents.ending entry) [] 1 contents.records

/-- The header that the first record of an entry gives. -/
def openHeader (contents : Contents) : Except CaptureError Header :=
  match contents.records with
  | record :: _ => interpret .info readHeader 1 record
  | [] => do
      contents.ending .info
      throw (.invalidRecord .info 1 .missingHeader)

/-- The contents of an entry that has to be there. -/
def demand : Option Contents → Except CaptureError Contents
  | some contents => .ok contents
  | none => .error .missingEntry

/-- Opens a capture: its header is read, and the other entries are there. -/
def open? : CaptureFile → Except CaptureError Capture
  | .other fault => .error (.notAnArchive fault)
  | .archive archive => do
      let info ← demand archive.info
      let header ← openHeader info
      let rules ← demand archive.rules
      let nodes ← demand archive.nodes
      let input ← demand archive.input
      return { header, rules, nodes, input }

/-- The declared rules, in order. -/
def readRules (capture : Capture) : Delivery Rule :=
  deliver .rules readRule capture.rules

/-- The invocations with the identifiers under which they are listed, in order. -/
def readInvocations (capture : Capture) : Delivery (NodeId × Invocation) :=
  deliver .nodes readInvocation capture.nodes

/-- The parsed input, which is read as a whole. -/
def inputText (capture : Capture) : Except CaptureError String := do
  capture.input.ending .input
  match Utf8.decode? capture.input.bytes with
  | some text => return text
  | none => throw .inputNotText

/-- The greatest number of bytes for which room can be reserved. -/
def maxBytes : Nat := 9223372036854775807

/-- Reads the parsed input. Room is reserved first for as many bytes as the archive announces, and
asking for too much crashes. -/
def readInput (capture : Capture) : Outcome String :=
  if maxBytes < capture.input.announced then .crash .capacity
  else .ofExcept (capture.inputText.mapError .ofCapture)

end Capture

end ParseTrace
