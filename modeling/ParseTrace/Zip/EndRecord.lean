import ParseTrace.Trace.Error

/-!
# The record at the end of a container

The directory of a container is found from behind: a record near the end of the file tells where
it begins and how many files it lists. A container may stand behind other bytes, so every place
that a record names counts from where the container itself begins. Where the fields of the record
are too narrow, a second record further ahead has wide ones, and a third tells where the wide one
is. Of several records that could stand at the end the last sound one counts.
-/

namespace ParseTrace.Zip

/-- The number in so many bytes, lowest first. -/
def number? (bytes : ByteArray) (start : Nat) : Nat → Option Nat
  | 0 => some 0
  | count + 1 => do
      let low ← bytes[start]?
      let high ← number? bytes (start + 1) count
      return low.toNat + 256 * high

/-- How many bytes mark the beginning of a record. -/
def markLength : Nat := 4

/-- Whether a record begins at a place with the given mark. -/
def isMarked (bytes : ByteArray) (mark place : Nat) : Bool :=
  number? bytes place markLength == some mark

/-- How many places between two others leave room for a mark. -/
def markPlaces (start stop : Nat) : Nat :=
  stop + 1 - markLength - start

/-- The first of so many places, from one on, that has the given mark. -/
def findMark? (bytes : ByteArray) (mark : Nat) : Nat → Nat → Option Nat
  | 0, _ => none
  | count + 1, place =>
      if isMarked bytes mark place then some place else findMark? bytes mark count (place + 1)

/-- The mark of a file in the directory. -/
def listingMark : Nat := 0x02014b50

/-- The mark of the record at the end. -/
def endMark : Nat := 0x06054b50

/-- The mark of the wide record. -/
def wideEndMark : Nat := 0x06064b50

/-- The mark of the record that locates the wide one. -/
def locatorMark : Nat := 0x07064b50

/-- The record at the end. -/
structure EndRecord where
  /-- Where the record begins. -/
  place : Nat
  /-- The disk that the record is on. -/
  disk : Nat
  /-- The disk on which the directory begins. -/
  directoryDisk : Nat
  /-- How many files the directory lists on this disk. -/
  countHere : Nat
  count : Nat
  /-- Where the directory begins, from the beginning of the container. -/
  directory : Nat
  /-- How many bytes of comment follow. -/
  commentLength : Nat

/-- The fields at the place of a record at the end, as far as the file holds them all. -/
def EndRecord.read? (bytes : ByteArray) (place : Nat) : Option EndRecord := do
  return {
    place
    disk := ← number? bytes (place + 4) 2
    directoryDisk := ← number? bytes (place + 6) 2
    countHere := ← number? bytes (place + 8) 2
    count := ← number? bytes (place + 10) 2
    directory := ← number? bytes (place + 16) 4
    commentLength := ← number? bytes (place + 20) 2 }

/-- The record at the end with its comment. -/
def EndRecord.read (bytes : ByteArray) (place : Nat) : Except ContainerFault EndRecord :=
  match EndRecord.read? bytes place with
  | none => .error .incomplete
  | some record =>
      if place + 22 + record.commentLength ≤ bytes.size then .ok record
      else .error .commentCutOff

/-- Where a directory is and what it lists. -/
structure Directory where
  /-- Where the directory begins in the file. -/
  start : Nat
  /-- How many files it lists. -/
  count : Nat
  /-- Where the container begins in the file. -/
  shift : Nat
  /-- Whether the directory is whole on the disk of the record that tells of it. -/
  isWhole : Bool

/-- The directory that the record at the end tells of. An empty one needs no listing; else the
first listing shows where the container begins. -/
def EndRecord.locate (bytes : ByteArray) (record : EndRecord) :
    Except ContainerFault Directory :=
  let directory (shift : Nat) : Directory :=
    { start := record.directory + shift
      count := record.countHere
      shift
      isWhole := record.disk = record.directoryDisk }
  if record.count = 0 then .ok (directory (record.place - record.directory))
  else if record.place ≤ record.directory then .error .directoryBehindEnd
  else
    let places := markPlaces record.directory record.place
    match findMark? bytes listingMark places record.directory with
    | some found => .ok (directory (found - record.directory))
    | none => .error .noDirectory

/-- Whether a field of the record is as high as it can be, so that a wide record may follow. -/
def EndRecord.mayBeWide (record : EndRecord) : Bool :=
  record.count = 0xffff ∨ record.directory = 0xffffffff

/-- The record that locates the wide one. -/
structure Locator where
  /-- Where the record begins. -/
  place : Nat
  /-- The disk that the wide record is on. -/
  disk : Nat
  /-- Where the wide record begins, from the beginning of the container. -/
  wideEnd : Nat
  /-- How many disks there are. -/
  disks : Nat

/-- The locating record, which stands right before the one at the end. -/
def EndRecord.locator? (bytes : ByteArray) (record : EndRecord) : Option Locator := do
  guard (record.mayBeWide ∧ 20 ≤ record.place)
  let place := record.place - 20
  guard (isMarked bytes locatorMark place)
  return {
    place
    disk := ← number? bytes (place + 4) 4
    wideEnd := ← number? bytes (place + 8) 8
    disks := ← number? bytes (place + 16) 4 }

/-- The wide record. -/
structure WideEnd where
  /-- How long the record is behind its mark and this field. -/
  length : Nat
  /-- The version of the format that the container was made with. -/
  made : Nat
  /-- The version of the format that a reader needs. -/
  needed : Nat
  disk : Nat
  directoryDisk : Nat
  countHere : Nat
  count : Nat
  directory : Nat

/-- The fields at the place of a wide record, as far as the file holds them all. -/
def WideEnd.read? (bytes : ByteArray) (place : Nat) : Option WideEnd := do
  return {
    length := ← number? bytes (place + 4) 8
    made := ← number? bytes (place + 12) 2
    needed := ← number? bytes (place + 14) 2
    disk := ← number? bytes (place + 16) 4
    directoryDisk := ← number? bytes (place + 20) 4
    countHere := ← number? bytes (place + 24) 8
    count := ← number? bytes (place + 32) 8
    directory := ← number? bytes (place + 48) 8 }

/-- The directory that a wide record tells of. The record reaches up to the one that locates it,
and its directory has room ahead of it. -/
def WideEnd.locate (bytes : ByteArray) (locator : Locator) (place : Nat) :
    Except ContainerFault Directory := do
  let some record := WideEnd.read? bytes place | throw .incomplete
  if record.length < 44 then throw .wideEndTooShort
  if locator.place - place < record.length + 12 then throw .wideEndTooLong
  if record.directoryDisk ≠ locator.disk then throw .wideEndMisplaced
  if record.length + 12 ≠ locator.place - place then throw .wideEndDetached
  if place < record.count * 46 + record.directory then throw .tooManyListings
  let shift := place - locator.wideEnd
  return {
    start := record.directory + shift
    count := record.count
    shift
    isWhole := record.disk = record.directoryDisk ∧ record.countHere ≤ record.count ∧
      record.needed ≤ record.made }

/-- The directory that the first sound wide record among so many places tells of. Of several
faults the last is kept. -/
def Locator.search (bytes : ByteArray) (locator : Locator) (fault : ContainerFault) :
    Nat → Nat → Except ContainerFault Directory
  | 0, _ => .error fault
  | count + 1, place =>
      if isMarked bytes wideEndMark place then
        match WideEnd.locate bytes locator place with
        | .ok directory => .ok directory
        | .error fault => search bytes locator fault count (place + 1)
      else search bytes locator fault count (place + 1)

/-- The directory that the located wide record tells of. -/
def Locator.locate (bytes : ByteArray) (locator : Locator) : Except ContainerFault Directory :=
  if locator.place ≤ locator.wideEnd then .error .wideEndBehindLocator
  else if 1 < locator.disks then .error .severalDisks
  else
    let places := markPlaces locator.wideEnd locator.place
    locator.search bytes .noWideEnd places locator.wideEnd

/-- The directory of a container whose record at the end is the given one. -/
def EndRecord.directory? (bytes : ByteArray) (record : EndRecord) :
    Except ContainerFault Directory :=
  match record.locator? bytes with
  | some locator => locator.locate bytes
  | none => record.locate bytes

/-- What can be read of the directory that the last sound record before a place tells of.

Without one, the fault of the record nearest to the beginning whose directory is nowhere counts,
else that of the last record that is cut off. A directory that turns out to be unreadable makes
one forget the faults behind it. -/
def findDirectory (bytes : ByteArray) (read? : Directory → Option α)
    (fault : Option ContainerFault) : Nat → Except ContainerFault α
  | 0 => .error (fault.getD .noEnd)
  | place + 1 =>
      if isMarked bytes endMark place then
        match EndRecord.read bytes place with
        | .error cutOff => findDirectory bytes read? (fault <|> some cutOff) place
        | .ok record =>
            match record.directory? bytes with
            | .error fault => findDirectory bytes read? (some fault) place
            | .ok directory =>
                match read? directory with
                | some contents => .ok contents
                | none => findDirectory bytes read? none place
      else findDirectory bytes read? fault place

end ParseTrace.Zip
