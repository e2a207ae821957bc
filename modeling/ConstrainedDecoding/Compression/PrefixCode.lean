import ConstrainedDecoding.Compression.Bits

/-!
Codes in which no codeword starts another one. The lengths of the codewords determine the code:
shorter codewords have smaller values, and among those of one length the order is that of symbols.
-/

namespace ConstrainedDecoding.Compression

/-- Codewords with their lengths, their values and what they stand for, shorter ones first. -/
abbrev PrefixCode := List (Nat × Nat × Nat)

namespace PrefixCode

/-- The most bits of a codeword. -/
def maxBits : Nat := 15

/-- Gives the symbols of a list, which is in order of length, consecutive codewords from a value on
that is for codewords of the length `last`. -/
def assign (last value : Nat) : List (Nat × Nat) → PrefixCode
  | [] => []
  | (length, symbol) :: rest =>
    let value := value * Nat.pow 2 (length - last)
    (length, value, symbol) :: assign length (value + 1) rest

/-- The code with the given lengths of the codewords for the symbols in turn. A symbol of length
zero has none. -/
def ofLengths (lengths : List Nat) : PrefixCode :=
  let used := lengths.zipIdx.filter (·.1 ≠ 0)
  assign 0 0 (used.mergeSort fun left right => left.1 ≤ right.1)

/-- The length of the longest codeword. -/
def longest (code : PrefixCode) : Nat :=
  (code.map Prod.fst).foldl max 0

/-- The share that the codewords take up of all sequences of `maxBits` bits, as their number. -/
def share (code : PrefixCode) : Nat :=
  code.foldl (fun share word => share + Nat.pow 2 (maxBits - word.1)) 0

/-- Whether every sequence of bits starts with exactly one codeword. -/
def isComplete (code : PrefixCode) : Bool :=
  code.share = Nat.pow 2 maxBits

/-- Whether a code will do for what may use no more than one symbol: it is complete, has a single
codeword of one bit, or is empty. -/
def isUsable (code : PrefixCode) : Bool :=
  code.isComplete || (code.share < Nat.pow 2 maxBits && code.longest ≤ 1)

/-- Reads a codeword of which some bits are known, with at most `left` more. -/
def readFrom (code : PrefixCode) (depth value : Nat) : (left : Nat) → Reader (Option Nat)
  | 0 => return none
  | left + 1 => do
    let value := value * 2 + (← Reader.bit)
    match code.find? fun word => word.1 = depth + 1 ∧ word.2.1 = value with
    | some word => return some word.2.2
    | none => readFrom code (depth + 1) value left

/-- Reads a codeword. Bits that no codeword starts with are read up to the longest codeword, and at
least one of them. -/
def read (code : PrefixCode) : Reader (Option Nat) :=
  readFrom code 0 0 (max 1 code.longest)

end PrefixCode

end ConstrainedDecoding.Compression
