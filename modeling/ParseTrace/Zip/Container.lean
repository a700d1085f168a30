import ParseTrace.Capture.Archive
import ParseTrace.Zip.EndRecord
import ParseTrace.Zip.Inflate

/-!
# Containers of several files

A container holds files one behind the other and a directory behind them all; a record at the end
tells where the directory begins. Files are stored as they are or compressed, and a checksum tells
behind the last byte whether they are whole. Of two files of one name the later counts.
-/

namespace ParseTrace.Zip

/-- The remainder that a checksum carries on, after so many bits. -/
def shiftRemainder : Nat → UInt32 → UInt32
  | 0, remainder => remainder
  | count + 1, remainder =>
      let shifted := remainder >>> 1
      shiftRemainder count (if remainder % 2 = 1 then shifted ^^^ 0xedb88320 else shifted)

/-- The checksum of a file. -/
def checksum (bytes : ByteArray) : Nat :=
  let step := fun remainder (byte : UInt8) => shiftRemainder 8 (remainder ^^^ byte.toUInt32)
  let remainder := bytes.foldl step 0xffffffff
  (remainder ^^^ 0xffffffff).toNat

/-- A file as the directory lists it. -/
structure Listing where
  name : Bytes
  isEncrypted : Bool
  method : Nat
  checksum : Nat
  /-- How many bytes it takes in the container. -/
  size : Nat
  /-- How many bytes it has when it is unpacked, or so the directory says. -/
  announced : Nat
  /-- Where its bytes begin in the file. -/
  start : Nat

/-- Where the bytes of a file begin whose own record is at the given place. -/
def contentsStart? (bytes : ByteArray) (place : Nat) : Option Nat := do
  guard (isMarked bytes 0x04034b50 place)
  let nameLength ← number? bytes (place + 26) 2
  let extraLength ← number? bytes (place + 28) 2
  return place + 30 + nameLength + extraLength

/-- The sizes of a listed file and where its own record is, from the beginning of the container. -/
structure Extent where
  announced : Nat
  size : Nat
  place : Nat

/-- The highest number of four bytes, which stands for a wide number elsewhere. -/
def narrowLimit : Nat := 0xffffffff

/-- The place and the length of the first extra field of a kind, between two places. -/
def findExtra? (bytes : ByteArray) (kind stop : Nat) : Nat → Nat → Option (Nat × Nat)
  | 0, _ => none
  | count + 1, place => do
      guard (place + 4 ≤ stop)
      let length ← number? bytes (place + 2) 2
      if (← number? bytes place 2) = kind then return (place + 4, length)
      else findExtra? bytes kind stop count (place + 4 + length)

/-- The wide number at a place if there has to be one, and the place behind it. -/
def widen? (bytes : ByteArray) (isLong : Bool) (narrow place : Nat) : Option (Nat × Nat) :=
  if isLong ∨ narrow = narrowLimit then do return (← number? bytes place 8, place + 8)
  else some (narrow, place)

/-- Puts in the wide numbers that the extra fields between two places have. -/
def Extent.widen? (bytes : ByteArray) (extent : Extent) (start stop : Nat) : Option Extent :=
  match findExtra? bytes 1 stop (stop - start) start with
  | none => some extent
  | some (place, length) => do
      let isLong := 24 ≤ length
      let (announced, behind) ← Zip.widen? bytes isLong extent.announced place
      let (size, behind) ← Zip.widen? bytes isLong extent.size behind
      let (own, behind) ← Zip.widen? bytes isLong extent.place behind
      guard (behind ≤ place + length)
      return { announced, size, place := own }

/-- The listing at a place, and where the next one begins. Files stand ahead of the directory. -/
def readListing? (bytes : ByteArray) (directory : Directory) (place : Nat) :
    Option (Listing × Nat) := do
  guard (isMarked bytes listingMark place)
  let nameLength ← number? bytes (place + 28) 2
  let extraLength ← number? bytes (place + 30) 2
  let commentLength ← number? bytes (place + 32) 2
  let nameEnd := place + 46 + nameLength
  let next := nameEnd + extraLength + commentLength
  guard (next ≤ bytes.size)
  let narrow : Extent :=
    { announced := ← number? bytes (place + 24) 4
      size := ← number? bytes (place + 20) 4
      place := ← number? bytes (place + 42) 4 }
  let extent ← narrow.widen? bytes nameEnd (nameEnd + extraLength)
  let start ← contentsStart? bytes (extent.place + directory.shift)
  guard (start ≤ directory.start)
  let flags ← number? bytes (place + 8) 2
  let listing : Listing :=
    { name := (bytes.extract (place + 46) nameEnd).toList
      isEncrypted := flags % 2 = 1
      method := ← number? bytes (place + 10) 2
      checksum := ← number? bytes (place + 16) 4
      size := extent.size
      announced := extent.announced
      start }
  return (listing, next)

/-- So many listings from a place on, behind those read before, last one first. -/
def readListings? (bytes : ByteArray) (directory : Directory) (listings : List Listing) :
    Nat → Nat → Option (List Listing)
  | 0, _ => some listings
  | count + 1, place => do
      let (listing, next) ← readListing? bytes directory place
      readListings? bytes directory (listing :: listings) count next

/-- All files that a directory lists, last one first, if the directory is whole. -/
def Directory.listings? (bytes : ByteArray) (directory : Directory) : Option (List Listing) := do
  guard directory.isWhole
  readListings? bytes directory [] directory.count directory.start

/-- Unpacks the bytes that a listed file takes in the container. -/
def unpack (listing : Listing) (raw : ByteArray) : Except ContainerFault Unpacked :=
  if listing.isEncrypted then .error .encrypted
  else
    match listing.method with
    | 0 => .ok ⟨raw, false⟩
    | 8 => .ok (inflate raw)
    | _ => .error .unknownMethod

/-- What breaks a file off behind the bytes that were unpacked. -/
def faultOf (listing : Listing) (unpacked : Unpacked) : Option StreamFault :=
  if unpacked.isDamaged then some .damaged
  else if checksum unpacked.bytes = listing.checksum then none
  else some .checksum

/-- What can be read of a listed file. -/
def contents (bytes : ByteArray) (listing : Listing) : Except ContainerFault Contents := do
  let unpacked ← unpack listing (bytes.extract listing.start (listing.start + listing.size))
  return {
    bytes := unpacked.bytes.toList
    fault := faultOf listing unpacked
    announced := listing.announced }

/-- What can be read of an entry, if a file of its name is listed. Of several the first counts. -/
def readEntry (bytes : ByteArray) (listings : List Listing) (entry : Entry) :
    Except ContainerFault (Option Contents) :=
  match listings.find? fun listing => listing.name == Utf8.encode entry.name with
  | none => .ok none
  | some listing => some <$> contents bytes listing

/-- The entries of a capture that a container holds. -/
def readArchive (bytes : ByteArray) : Except ContainerFault Archive := do
  let listings ← findDirectory bytes (Directory.listings? bytes) none bytes.size
  return {
    info := ← readEntry bytes listings .info
    rules := ← readEntry bytes listings .rules
    nodes := ← readEntry bytes listings .nodes
    input := ← readEntry bytes listings .input }

/-- The capture in a file. A file that is no container is no capture. -/
def readCapture (bytes : ByteArray) : CaptureFile :=
  match readArchive bytes with
  | .ok archive => .archive archive
  | .error fault => .other fault

end ParseTrace.Zip
