import ConstrainedDecoding.Compression.Inflate

/-!
Compressed streams between a header and a checksum of what they unpack to.
-/

namespace ConstrainedDecoding.Compression

/-! ## Checksums -/

/-- One step of the cyclic redundancy check for each bit of a byte. -/
def redundancyBits : (count : Nat) → UInt32 → UInt32
  | 0, value => value
  | count + 1, value =>
    redundancyBits count (if value &&& 1 = 1 then (value >>> 1) ^^^ 0xedb88320 else value >>> 1)

/-- The cyclic redundancy check of a byte sequence. -/
def redundancy (bytes : List UInt8) : UInt32 :=
  bytes.foldl (fun value byte => redundancyBits 8 (value ^^^ byte.toUInt32)) 0xffffffff ^^^
    0xffffffff

/-- The prime that sums are taken modulo. -/
def sumModulus : Nat := 65521

/-- The sum of the bytes and one, and the sum of all such sums on the way, as one number. -/
def runningSum (bytes : List UInt8) : Nat :=
  let (low, high) := bytes.foldl
    (fun (low, high) byte =>
      let low := (low + byte.toNat) % sumModulus
      (low, (high + low) % sumModulus))
    (1, 0)
  high * 65536 + low

/-! ## Streams with a short header -/

/-- The number of four bytes, highest first. -/
def bigNumber : Reader Nat := do
  let first ← Reader.number 8
  let second ← Reader.number 8
  let third ← Reader.number 8
  return ((first * 256 + second) * 256 + third) * 256 + (← Reader.number 8)

/-- Unpacks a stream between a header of two bytes and a running sum. -/
def readShortHeader : Reader Unit := do
  let first ← Reader.number 8
  let second ← Reader.number 8
  if (first * 256 + second) % 31 ≠ 0 then Reader.reject .header
  if first % 16 ≠ 8 then Reader.reject .method
  if 7 < first / 16 then Reader.reject .window
  if second / 32 % 2 = 1 then
    let _ ← bigNumber
    Reader.reject .dictionary
  inflate
  Reader.align
  let sum ← bigNumber
  if sum ≠ runningSum (← get).output.toList then Reader.reject .dataCheck

/-! ## Streams of files -/

/-- Passes over bytes up to and including a zero, at most `fuel` of them. -/
def skipName : (fuel : Nat) → Reader Unit
  | 0 => throw .cut
  | fuel + 1 => do
    if (← Reader.number 8) ≠ 0 then skipName fuel

/-- Passes over as many bytes as given. -/
def skipBytes : (count : Nat) → Reader Unit
  | 0 => return ()
  | count + 1 => do
    let _ ← Reader.number 8
    skipBytes count

/-- Unpacks the stream of a file, given all its bytes. Its header may hold further fields, a name, a
remark and a check of the header. -/
def readFile (bytes : List UInt8) : Reader Unit := do
  let total := bytes.length
  if (← Reader.number 16) ≠ 0x8b1f then Reader.reject .header
  let method ← Reader.number 8
  let flags ← Reader.number 8
  if method ≠ 8 then Reader.reject .method
  if 32 ≤ flags then Reader.reject .headerFlags
  skipBytes 6
  if flags / 4 % 2 = 1 then skipBytes (← Reader.number 16)
  if flags / 8 % 2 = 1 then skipName (total + 1)
  if flags / 16 % 2 = 1 then skipName (total + 1)
  if flags / 2 % 2 = 1 then
    let header := bytes.take (total - (← get).bits.length / 8)
    if (← Reader.number 16) ≠ (redundancy header).toNat % 65536 then Reader.reject .headerCheck
  inflate
  Reader.align
  let output := (← get).output
  if (← Reader.number 32) ≠ (redundancy output.toList).toNat then Reader.reject .dataCheck
  if (← Reader.number 32) ≠ output.size % 4294967296 then Reader.reject .lengthCheck

/-! ## Unpacking -/

/-- Unpacks the bytes of a file. -/
def unpackFile (bytes : List UInt8) : Except StreamError (List UInt8) :=
  Reader.run (readFile bytes) bytes

/-- Unpacks bytes with a short header, or else without any header. -/
def unpackBare (bytes : List UInt8) : Except StreamError (List UInt8) :=
  match Reader.run readShortHeader bytes with
  | .ok unpacked => .ok unpacked
  | .error _ => Reader.run inflate bytes

end ConstrainedDecoding.Compression
