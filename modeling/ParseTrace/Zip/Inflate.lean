/-!
# Compressed data

Compressed data are blocks of symbols: a symbol is a byte, the end of its block, or a length that
goes with a distance and repeats what was written that far back. Symbols are written in codes of
variable length, where shorter codes come first and codes of one length are numbered by symbol, so
a code is given by the lengths alone. Every step takes at least one bit, which bounds the steps.

Unpacking can halt before the last block ends, and what was written until then remains.
-/

namespace ParseTrace.Zip

/-- Why unpacking halts. -/
inductive Halt where
  /-- There are no more bytes to read. -/
  | exhausted
  /-- The bytes are no compressed data. -/
  | damaged

/-- How far unpacking has come. -/
structure Progress where
  /-- How many bits were read. -/
  position : Nat
  /-- What was written. -/
  output : ByteArray

/-- Reads bits from bytes, the lowest bit of each byte first, and writes bytes. -/
abbrev Unpacker := ReaderT ByteArray (EStateM Halt Progress)

/-- The next bit. -/
def bit : Unpacker Nat := do
  let bytes ← read
  let position := (← get).position
  match bytes[position / 8]? with
  | some byte =>
      modify fun progress => { progress with position := position + 1 }
      return (byte.toNat >>> (position % 8)) % 2
  | none => throw .exhausted

/-- The number of so many bits, lowest first. -/
def bits : Nat → Unpacker Nat
  | 0 => return 0
  | count + 1 => do
      let low ← bit
      let high ← bits count
      return low + 2 * high

/-- The longest code. -/
def maxCodeLength : Nat := 15

/-- A code of variable length. -/
structure Code where
  /-- How many symbols have codes of one bit, of two bits, and so on. -/
  counts : List Nat
  /-- The symbols by length of their codes and then by number. -/
  symbols : Array Nat

namespace Code

/-- The code in which each symbol has the given length. Those of length zero do not occur. -/
def ofLengths (lengths : List Nat) : Code where
  counts := (List.range maxCodeLength).map fun index => lengths.count (index + 1)
  symbols := ((List.range maxCodeLength).flatMap fun index =>
    (lengths.zipIdx.filter fun entry => entry.1 == index + 1).map Prod.snd).toArray

/-- Reads a symbol, given the counts of the lengths that are left, the bits so far, the first code
of the next length and the number of symbols with shorter codes. -/
def readFrom (symbols : Array Nat) : List Nat → Nat → Nat → Nat → Unpacker Nat
  | [], _, _, _ => throw .damaged
  | count :: rest, code, first, index => do
      let code := code + (← bit)
      if code < first + count then
        match symbols[index + (code - first)]? with
        | some symbol => return symbol
        | none => throw .damaged
      else readFrom symbols rest (2 * code) (2 * (first + count)) (index + count)

/-- Reads a symbol. -/
def read (code : Code) : Unpacker Nat :=
  readFrom code.symbols code.counts 0 0 0

end Code

/-- The shortest length of each length symbol, and the number of bits that are added to it. -/
def lengthTable : List (Nat × Nat) :=
  [(3, 0), (4, 0), (5, 0), (6, 0), (7, 0), (8, 0), (9, 0), (10, 0), (11, 1), (13, 1), (15, 1),
    (17, 1), (19, 2), (23, 2), (27, 2), (31, 2), (35, 3), (43, 3), (51, 3), (59, 3), (67, 4),
    (83, 4), (99, 4), (115, 4), (131, 5), (163, 5), (195, 5), (227, 5), (258, 0)]

/-- The shortest distance of each distance symbol, and the number of bits that are added to it. -/
def distanceTable : List (Nat × Nat) :=
  [(1, 0), (2, 0), (3, 0), (4, 0), (5, 1), (7, 1), (9, 2), (13, 2), (17, 3), (25, 3), (33, 4),
    (49, 4), (65, 5), (97, 5), (129, 6), (193, 6), (257, 7), (385, 7), (513, 8), (769, 8),
    (1025, 9), (1537, 9), (2049, 10), (3073, 10), (4097, 11), (6145, 11), (8193, 12), (12289, 12),
    (16385, 13), (24577, 13)]

/-- Reads the bits that are added to an entry of a table. -/
def extend (table : List (Nat × Nat)) (index : Nat) : Unpacker Nat :=
  match table[index]? with
  | some (least, extra) => return least + (← bits extra)
  | none => throw .damaged

/-- Writes a byte. -/
def write (byte : UInt8) : Unpacker Unit :=
  modify fun progress => { progress with output := progress.output.push byte }

/-- Repeats what was written so far back, byte by byte. -/
def repeatBytes (distance : Nat) : Nat → ByteArray → ByteArray
  | 0, output => output
  | count + 1, output =>
      repeatBytes distance count (output.push (output[output.size - distance]?.getD 0))

/-- Reads symbols up to the end of a block. -/
def readSymbols (literals distances : Code) : Nat → Unpacker Unit
  | 0 => throw .damaged
  | fuel + 1 => do
      let symbol ← literals.read
      if symbol < 256 then
        write symbol.toUInt8
        readSymbols literals distances fuel
      else if symbol = 256 then return
      else
        let length ← extend lengthTable (symbol - 257)
        let distance ← extend distanceTable (← distances.read)
        if (← get).output.size < distance then throw .damaged
        modify fun progress =>
          { progress with output := repeatBytes distance length progress.output }
        readSymbols literals distances fuel

/-- The code for literals that is used where none is given. -/
def fixedLiterals : Code :=
  .ofLengths <| List.replicate 144 8 ++ List.replicate 112 9 ++ List.replicate 24 7 ++
    List.replicate 8 8

/-- The code for distances that is used where none is given. -/
def fixedDistances : Code :=
  .ofLengths (List.replicate 30 5)

/-- Reads code lengths until there are so many, with runs written short. -/
def readLengths (code : Code) (wanted : Nat) : Nat → Array Nat → Unpacker (Array Nat)
  | 0, lengths => if lengths.size = wanted then return lengths else throw .damaged
  | fuel + 1, lengths => do
      if lengths.size = wanted then return lengths
      let symbol ← code.read
      if symbol < 16 then readLengths code wanted fuel (lengths.push symbol)
      else
        let (value, count) ←
          if symbol = 16 then
            match lengths.back? with
            | some last => pure (last, 3 + (← bits 2))
            | none => throw .damaged
          else if symbol = 17 then pure (0, 3 + (← bits 3))
          else pure (0, 11 + (← bits 7))
        readLengths code wanted fuel (lengths ++ Array.replicate count value)

/-- The order in which the lengths of the code for code lengths are written. -/
def lengthOrder : List Nat :=
  [16, 17, 18, 0, 8, 7, 9, 6, 10, 5, 11, 4, 12, 3, 13, 2, 14, 1, 15]

/-- Reads so many numbers of three bits. -/
def readTriples : Nat → Unpacker (List Nat)
  | 0 => return []
  | count + 1 => do
      let value ← bits 3
      return value :: (← readTriples count)

/-- Reads the two codes of a block. -/
def readCodes : Unpacker (Code × Code) := do
  let literals := 257 + (← bits 5)
  let distances := 1 + (← bits 5)
  let written ← readTriples (4 + (← bits 4))
  let lengthOf (symbol : Nat) : Nat := written[lengthOrder.idxOf symbol]?.getD 0
  let code := Code.ofLengths ((List.range 19).map lengthOf)
  let lengths ← readLengths code (literals + distances) (literals + distances) #[]
  return (.ofLengths (lengths.toList.take literals), .ofLengths (lengths.toList.drop literals))

/-- Reads a block that is not compressed, from the next whole byte on. -/
def readStored : Unpacker Unit := do
  let bytes ← read
  modify fun progress => { progress with position := (progress.position + 7) / 8 * 8 }
  let length ← bits 16
  let complement ← bits 16
  if length + complement ≠ 65535 then throw .damaged
  modify fun progress =>
    let start := progress.position / 8
    { position := 8 * (start + length)
      output := progress.output ++ bytes.extract start (start + length) }
  if 8 * bytes.size < (← get).position then throw .exhausted

/-- Reads blocks up to the last one. -/
def readBlocks : Nat → Unpacker Unit
  | 0 => throw .damaged
  | fuel + 1 => do
      let isLast ← bit
      match ← bits 2 with
      | 0 => readStored
      | 1 => readSymbols fixedLiterals fixedDistances fuel
      | 2 =>
          let (literals, distances) ← readCodes
          readSymbols literals distances fuel
      | _ => throw .damaged
      if isLast = 0 then readBlocks fuel

/-- What can be unpacked of compressed data. -/
structure Unpacked where
  bytes : ByteArray
  /-- Whether more was to come, but could not be unpacked. -/
  isDamaged : Bool

/-- How many bytes are handed out at a time. -/
def windowSize : Nat := 32768

/-- Unpacks compressed data. Of the window in which damage shows nothing is handed out, but data that
just end too early are handed out up to there. -/
def inflate (bytes : ByteArray) : Unpacked :=
  match readBlocks (8 * bytes.size + 1) bytes ⟨0, .empty⟩ with
  | .ok _ progress => ⟨progress.output, false⟩
  | .error .exhausted progress => ⟨progress.output, false⟩
  | .error .damaged progress =>
      let whole := progress.output.size / windowSize * windowSize
      ⟨progress.output.extract 0 whole, true⟩

end ParseTrace.Zip
