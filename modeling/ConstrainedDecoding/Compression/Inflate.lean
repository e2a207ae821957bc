import ConstrainedDecoding.Compression.PrefixCode

/-!
Unpacking blocks of compressed bytes. A block holds bytes as they are, or symbols in two prefix
codes: one for bytes, lengths and the end of the block, and one for the distance that goes with a
length. The codes are fixed, or their lengths come with the block in a code of their own.
-/

namespace ConstrainedDecoding.Compression

/-- What the symbols from 257 on stand for: a length and the number of bits to add to it. -/
def lengthBases : List (Nat × Nat) := [
  (3, 0), (4, 0), (5, 0), (6, 0), (7, 0), (8, 0), (9, 0), (10, 0), (11, 1), (13, 1), (15, 1),
  (17, 1), (19, 2), (23, 2), (27, 2), (31, 2), (35, 3), (43, 3), (51, 3), (59, 3), (67, 4), (83, 4),
  (99, 4), (115, 4), (131, 5), (163, 5), (195, 5), (227, 5), (258, 0)]

/-- What the symbols of the second code stand for: a distance and the number of bits to add to it.
-/
def distanceBases : List (Nat × Nat) := [
  (1, 0), (2, 0), (3, 0), (4, 0), (5, 1), (7, 1), (9, 2), (13, 2), (17, 3), (25, 3), (33, 4),
  (49, 4), (65, 5), (97, 5), (129, 6), (193, 6), (257, 7), (385, 7), (513, 8), (769, 8), (1025, 9),
  (1537, 9), (2049, 10), (3073, 10), (4097, 11), (6145, 11), (8193, 12), (12289, 12), (16385, 13),
  (24577, 13)]

/-- The order in which the lengths of the codewords for lengths come. -/
def lengthOrder : List Nat := [16, 17, 18, 0, 8, 7, 9, 6, 10, 5, 11, 4, 12, 3, 13, 2, 14, 1, 15]

/-- The fixed code for bytes and lengths. -/
def fixedLiterals : PrefixCode :=
  .ofLengths <| List.replicate 144 8 ++ List.replicate 112 9 ++ List.replicate 24 7 ++
    List.replicate 8 8

/-- The fixed code for distances. -/
def fixedDistances : PrefixCode := .ofLengths (List.replicate 32 5)

/-! ## Symbols -/

/-- What a symbol stands for, with the bits to add. -/
def readBase (bases : List (Nat × Nat)) (error : StreamError) (symbol : Nat) : Reader Nat :=
  match bases[symbol]? with
  | some (base, extra) => return base + (← Reader.number extra)
  | none => Reader.reject error

/-- Unpacks the symbols of a block, at most `fuel` of them. -/
def readSymbols (literals distances : PrefixCode) : (fuel : Nat) → Reader Unit
  | 0 => throw .cut
  | fuel + 1 => do
    let some symbol ← literals.read | Reader.reject .literal
    if symbol < 256 then
      Reader.emit (UInt8.ofNat symbol)
      readSymbols literals distances fuel
    else if symbol = 256 then return ()
    else
      let length ← readBase lengthBases .literal (symbol - 257)
      let some place ← distances.read | Reader.reject .distance
      let distance ← readBase distanceBases .distance place
      if (← get).output.size < distance then Reader.reject .farDistance
      Reader.again distance length
      readSymbols literals distances fuel

/-! ## Codes that come with a block -/

/-- Reads the lengths of codewords until there are as many as wanted. A symbol above 15 repeats the
length before it or a zero. Bits without a codeword count as a zero. -/
def readLengths (code : PrefixCode) (wanted : Nat) : (fuel : Nat) → List Nat → Reader (List Nat)
  | 0, _ => throw .cut
  | fuel + 1, known => do
    if wanted ≤ known.length then return known
    match (← code.read).getD 0 with
    | 16 =>
      let more ← Reader.number 2
      let some length := known.getLast? | Reader.reject .lengthRepeat
      extend fuel known (List.replicate (3 + more) length)
    | 17 => extend fuel known (List.replicate (3 + (← Reader.number 3)) 0)
    | 18 => extend fuel known (List.replicate (11 + (← Reader.number 7)) 0)
    | length => readLengths code wanted fuel (known ++ [length])
where
  /-- Goes on with further lengths, if there are not too many. -/
  extend (fuel : Nat) (known more : List Nat) : Reader (List Nat) :=
    if wanted < known.length + more.length then Reader.reject .lengthRepeat
    else readLengths code wanted fuel (known ++ more)

/-- Reads some of the lengths of the codewords for lengths, three bits each. -/
def readShortLengths : (count : Nat) → Reader (List Nat)
  | 0 => return []
  | count + 1 => do
    let length ← Reader.number 3
    return length :: (← readShortLengths count)

/-- Reads the two codes of a block. -/
def readCodes : Reader (PrefixCode × PrefixCode) := do
  let literalCount := 257 + (← Reader.number 5)
  let distanceCount := 1 + (← Reader.number 5)
  let shortCount := 4 + (← Reader.number 4)
  if 286 < literalCount ∨ 30 < distanceCount then Reader.reject .symbolCounts
  let short ← readShortLengths shortCount
  let placed := lengthOrder.zip short
  let code := PrefixCode.ofLengths
    ((List.range 19).map fun symbol => ((placed.find? (·.1 = symbol)).map Prod.snd).getD 0)
  if !code.isComplete ∧ !code.isEmpty then Reader.reject .codeLengths
  let wanted := literalCount + distanceCount
  let lengths ← readLengths code wanted (wanted + 1) []
  if lengths.getD 256 0 = 0 then Reader.reject .noEndOfBlock
  let literals := PrefixCode.ofLengths (lengths.take literalCount)
  let distances := PrefixCode.ofLengths (lengths.drop literalCount)
  if !literals.isUsable then Reader.reject .literalCode
  if !distances.isUsable then Reader.reject .distanceCode
  return (literals, distances)

/-! ## Blocks -/

/-- Unpacks bytes that are stored as they are. -/
def readStored : (count : Nat) → Reader Unit
  | 0 => return ()
  | count + 1 => do
    Reader.emit (UInt8.ofNat (← Reader.number 8))
    readStored count

/-- Unpacks the contents of a block of some type. -/
def readBlock (type : Nat) : Reader Unit := do
  let fuel := (← get).bits.length + 1
  match type with
  | 0 =>
    Reader.align
    let length ← Reader.number 16
    let check ← Reader.number 16
    if length + check ≠ 0xffff then Reader.reject .storedLength
    readStored length
  | 1 => readSymbols fixedLiterals fixedDistances fuel
  | 2 =>
    let (literals, distances) ← readCodes
    readSymbols literals distances fuel
  | _ => Reader.reject .blockType

/-- Unpacks blocks up to the last one, at most `fuel` of them. -/
def readBlocks : (fuel : Nat) → Reader Unit
  | 0 => throw .cut
  | fuel + 1 => do
    let last ← Reader.bit
    readBlock (← Reader.number 2)
    if last = 0 then readBlocks fuel

/-- Unpacks all blocks. -/
def inflate : Reader Unit := do
  readBlocks ((← get).bits.length + 1)

end ConstrainedDecoding.Compression
