import ParseTrace.Numeral.Integer
import ParseTrace.Trace.Invocation
import ParseTrace.Trace.Kind

/-!
# What can go wrong with a trace

Errors are kept as causes with their particulars. The wording of each lives in one function per
type, so that a caller who wants to tell causes apart never has to look at a text.
-/

namespace ParseTrace

open Numeral (IntegerFault)

/-- The entries of a capture archive. -/
inductive Entry where
  | info
  | rules
  | nodes
  | input
  deriving DecidableEq, Repr

namespace Entry

/-- The name of an entry within the archive. -/
def name : Entry → String
  | info => "info.csv"
  | rules => "matchers.csv"
  | nodes => "nodes.csv"
  | input => "input.txt"

end Entry

/-- What is wrong with a record whose fields are well-formed texts. -/
inductive RecordFault where
  /-- The entry holds no record at all. -/
  | missingHeader
  /-- The time lies outside the range of dates. -/
  | invalidTimestamp (millis : Int)
  | missingColumn (column : Nat)
  /-- A numeric column, with the text found there. -/
  | badInteger (column : Nat) (raw : String) (cause : IntegerFault)
  /-- The column of a rule's kind, with the text found there and the same text trimmed. -/
  | unknownKind (column : Nat) (raw trimmed : String)
  | parentOutOfRange (parent : Int)
  | badSuccessFlag (value : Int)
  /-- A fault described in words. -/
  | described (reason : String)
  deriving DecidableEq, Repr

namespace RecordFault

/-- The wording of a fault. -/
def message : RecordFault → String
  | missingHeader => "missing header record"
  | invalidTimestamp millis => s!"invalid timestamp {millis}"
  | missingColumn column => s!"missing column {column}"
  | badInteger column raw cause => s!"column {column} ('{raw}'): {cause.message}"
  | unknownKind column raw trimmed =>
      s!"column {column} ('{raw}'): {RuleKind.unknownMessage trimmed}"
  | parentOutOfRange parent => s!"parent id {parent} out of range"
  | badSuccessFlag value => s!"success flag must be 0 or 1, got {value}"
  | described reason => reason

end RecordFault

/-- The place of a field whose bytes are no text. -/
structure MalformedField where
  /-- Records before this one. -/
  record : Nat
  /-- Line on which the record starts. -/
  line : Nat
  /-- Bytes before the record. -/
  byte : Nat
  /-- Fields before this one in the record. -/
  field : Nat
  /-- Length of the longest part at the start of the field that is a text. -/
  validBytes : Nat
  deriving DecidableEq, Repr

/-- Why a file is no container of entries. -/
inductive ContainerFault where
  /-- No record stands at its end. -/
  | noEnd
  /-- A record or an entry is cut off or damaged. -/
  | incomplete
  /-- The comment behind the record at the end is cut off. -/
  | commentCutOff
  /-- The directory should begin behind the record at the end. -/
  | directoryBehindEnd
  | noDirectory
  /-- The wide record should begin behind the one that locates it. -/
  | wideEndBehindLocator
  | severalDisks
  | noWideEnd
  | wideEndTooShort
  | wideEndTooLong
  /-- The wide record and the one that locates it name different disks. -/
  | wideEndMisplaced
  /-- The wide record does not reach up to the one that locates it. -/
  | wideEndDetached
  /-- The directory cannot hold so many listings. -/
  | tooManyListings
  /-- An entry is encrypted. -/
  | encrypted
  /-- An entry is compressed by a method that is not known. -/
  | unknownMethod
  deriving DecidableEq, Repr

namespace ContainerFault

/-- The wording of a fault. -/
def message : ContainerFault → String
  | noEnd => "invalid Zip archive: Could not find EOCD"
  | incomplete => "i/o error"
  | commentCutOff => "invalid Zip archive: EOCD comment exceeds file boundary"
  | directoryBehindEnd => "invalid Zip archive: Invalid CDFH offset in EOCD"
  | noDirectory => "invalid Zip archive: No CDFH found"
  | wideEndBehindLocator => "invalid Zip archive: Invalid EOCD64 Locator CD offset"
  | severalDisks => "invalid Zip archive: Multi-disk ZIP files are not supported"
  | noWideEnd => "invalid Zip archive: Could not find EOCD64"
  | wideEndTooShort => "invalid Zip archive: Low EOCD64 record size"
  | wideEndTooLong => "invalid Zip archive: EOCD64 extends beyond EOCD64 locator"
  | wideEndMisplaced => "invalid Zip archive: Invalid EOCD64: inconsistency with Locator data"
  | wideEndDetached => "invalid Zip archive: Invalid EOCD64: inconsistent length"
  | tooManyListings => "invalid Zip archive: Invalid EOCD64: inconsistent number of files"
  | encrypted => "unsupported Zip archive: Password required to decrypt file"
  | unknownMethod => "unsupported Zip archive: Compression method not supported"

end ContainerFault

/-- What breaks off the bytes of an entry. -/
inductive StreamFault where
  /-- They have another checksum than the one noted for them. -/
  | checksum
  /-- They are compressed, and cannot be unpacked any further. -/
  | damaged
  deriving DecidableEq, Repr

namespace StreamFault

/-- The wording of a fault. -/
def message : StreamFault → String
  | checksum => "Invalid checksum"
  | damaged => "corrupt deflate stream"

end StreamFault

/-- Why a capture archive cannot be read. -/
inductive CaptureError where
  | notAnArchive (fault : ContainerFault)
  | missingEntry
  /-- The bytes of an entry break off. -/
  | brokenOff (entry : Entry) (fault : StreamFault)
  | malformedField (entry : Entry) (place : MalformedField)
  /-- A record that breaks the format, counted from one. -/
  | invalidRecord (entry : Entry) (record : Nat) (fault : RecordFault)
  | inputNotText
  deriving DecidableEq, Repr

namespace CaptureError

/-- The wording of an error. -/
def message : CaptureError → String
  | notAnArchive fault => s!"Not a valid capture archive: {fault.message}"
  | missingEntry => "Not a valid capture archive: specified file not found in archive"
  | brokenOff .input fault => s!"IO error: {fault.message}"
  | brokenOff entry fault => s!"Malformed CSV in {entry.name}: {fault.message}"
  | malformedField entry place =>
      s!"Malformed CSV in {entry.name}: CSV parse error: record {place.record} " ++
        s!"(line {place.line}, field: {place.field}, byte: {place.byte}): " ++
        s!"invalid utf-8: invalid UTF-8 in field {place.field} near byte index {place.validBytes}"
  | invalidRecord entry record fault =>
      s!"Invalid record {record} in {entry.name}: {fault.message}"
  | inputNotText => "Input text is not valid UTF-8"

end CaptureError

/-- The parts of an invocation whose stored form is narrower than the given one. -/
inductive Measure where
  | level
  | start
  | stop
  | nanos
  deriving DecidableEq, Repr

namespace Measure

/-- The name of a part. -/
def name : Measure → String
  | level => "level"
  | start => "start"
  | stop => "end"
  | nanos => "nanos"

end Measure

/-- How a trace contradicts itself or its format. -/
inductive Corruption where
  | capture (error : CaptureError)
  | unknownRule (node : NodeId) (rule : RuleId)
  | endsBeforeStart (node : NodeId) (start stop : Nat)
  | rootLevel (level : Nat)
  | missingParent (node : NodeId)
  /-- The parent is the node itself or comes after it. -/
  | parentNotEarlier (node parent : NodeId)
  | unknownParent (node parent : NodeId)
  | levelMismatch (node : NodeId) (level : Nat) (parent : NodeId) (parentLevel : Nat)
  | outOfRange (node : NodeId) (measure : Measure)
  | tooManyNodes
  /-- The capture lists another node than the next one. -/
  | unexpectedNode (expected listed : NodeId)
  /-- A batch went behind nodes that did not come from the same capture. -/
  | misplacedBatch (first expected : NodeId)
  | endlessParentChain (node : NodeId)
  /-- A corruption described in words. -/
  | described (reason : String)
  deriving DecidableEq, Repr

namespace Corruption

/-- The wording of a corruption. -/
def message : Corruption → String
  | capture error => error.message
  | unknownRule node rule => s!"node {node} refers to unknown matcher {rule}"
  | endsBeforeStart node start stop => s!"node {node} ends ({stop}) before it starts ({start})"
  | rootLevel level => s!"root node has level {level}"
  | missingParent node => s!"node {node} has no parent"
  | parentNotEarlier node parent =>
      s!"node {node} has parent {parent} which was not ingested before it"
  | unknownParent node parent => s!"node {node} refers to unknown parent {parent}"
  | levelMismatch node level parent parentLevel =>
      s!"node {node} has level {level} but its parent {parent} has level {parentLevel}"
  | outOfRange node measure => s!"node {node}: {measure.name} out of range"
  | tooManyNodes => "too many nodes"
  | unexpectedNode expected listed =>
      s!"expected node {expected} but the capture lists node {listed}"
  | misplacedBatch first expected => s!"batch stored at node {first} instead of {expected}"
  | endlessParentChain node => s!"parent chain of node {node} exceeds the tree depth"
  | described reason => reason

end Corruption

/-- How the store itself can fail. -/
inductive StorageFault where
  /-- A rule was declared under an identifier already taken. -/
  | duplicateRule
  /-- A sum of elapsed times left the range of signed 64-bit integers. -/
  | sumOverflow
  | directoryNotCreated
  | directoryNotRemoved
  /-- The writer crashed while it was storing nodes. -/
  | writerLost
  /-- The background ingestion crashed. -/
  | ingestionCrashed
  /-- A fault described in words. -/
  | described (reason : String)
  deriving DecidableEq, Repr

namespace StorageFault

/-- The wording of a fault. -/
def message : StorageFault → String
  | duplicateRule => "UNIQUE constraint failed: matchers.id"
  | sumOverflow => "integer overflow"
  | directoryNotCreated => "unable to create database directory"
  | directoryNotRemoved => "unable to remove"
  | writerLost => "writer state poisoned"
  | ingestionCrashed => "ingestion thread panicked"
  | described reason => reason

end StorageFault

/-- Errors that a trace, its store or a session hand to their callers. -/
inductive TraceError where
  | notFound (node : NodeId)
  | range (start stop length : Nat)
  | corrupt (corruption : Corruption)
  | storage (fault : StorageFault)
  | fileNotFound (path : String)
  | notReadable (path : String)
  | closed
  deriving DecidableEq, Repr

namespace TraceError

/-- The wording of an error. -/
def message : TraceError → String
  | notFound node => s!"Node {node} not found"
  | range start stop length =>
      s!"Range [{start}, {stop}) out of bounds for input of length {length}"
  | corrupt corruption => s!"Corrupt trace capture: {corruption.message}"
  | storage fault => s!"Storage failure: {fault.message}"
  | fileNotFound path => s!"Trace file does not exist: {path}"
  | notReadable path => s!"Trace file is not readable: {path}"
  | closed => "Trace database is closed"

/-- A short title for reports to a user. -/
def title : TraceError → String
  | notFound _ => "Not found"
  | range .. => "Invalid range"
  | corrupt _ => "Corrupt trace file"
  | storage _ => "Database error"
  | fileNotFound _ => "Trace file does not exist"
  | notReadable _ => "Trace file is not readable"
  | closed => "Trace closed"

/-- Whether the same request can succeed once more of the trace is loaded. -/
def isRecoverable : TraceError → Bool
  | notFound _ => true
  | _ => false

/-- An unreadable capture is a corrupt trace. -/
def ofCapture (error : CaptureError) : TraceError :=
  .corrupt (.capture error)

end TraceError

end ParseTrace
