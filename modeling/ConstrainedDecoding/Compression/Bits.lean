/-!
Reading a compressed stream bit by bit. Within a byte the lowest bit comes first. What has been
unpacked is kept even if the stream ends too early.
-/

namespace ConstrainedDecoding.Compression

/-- What is wrong with a compressed stream. -/
inductive StreamError
  | header
  | method
  | headerFlags
  | headerCheck
  | window
  | dictionary
  | blockType
  | storedLength
  | symbolCounts
  | codeLengths
  | lengthRepeat
  | noEndOfBlock
  | literalCode
  | distanceCode
  | literal
  | distance
  | farDistance
  | dataCheck
  | lengthCheck
  deriving DecidableEq, Repr

/-- The wording of what is wrong. -/
def StreamError.detail : StreamError → String
  | header => "incorrect header check"
  | method => "unknown compression method"
  | headerFlags => "unknown header flags set"
  | headerCheck => "header crc mismatch"
  | window => "invalid window size"
  | dictionary => "need dictionary"
  | blockType => "invalid block type"
  | storedLength => "invalid stored block lengths"
  | symbolCounts => "too many length or distance symbols"
  | codeLengths => "invalid code lengths set"
  | lengthRepeat => "invalid bit length repeat"
  | noEndOfBlock => "invalid code -- missing end-of-block"
  | literalCode => "invalid literal/lengths set"
  | distanceCode => "invalid distances set"
  | literal => "invalid literal/length code"
  | distance => "invalid distance code"
  | farDistance => "invalid distance too far back"
  | dataCheck => "incorrect data check"
  | lengthCheck => "incorrect length check"

/-- The wording of a failure to unpack. -/
def StreamError.message : StreamError → String
  | dictionary => "Error 2 while decompressing data"
  | error => s!"Error -3 while decompressing data: {error.detail}"

/-- Why reading stops: the stream ends too early, or something is wrong with it. -/
inductive Stop
  | cut
  | broken (error : StreamError)
  deriving DecidableEq, Repr

/-- The bits left to read and the bytes unpacked so far. -/
structure Stream where
  bits : List Bool
  output : Array UInt8

abbrev Reader := EStateM Stop Stream

/-- The lowest bits of a number, lowest first. -/
def lowBits : (count : Nat) → Nat → List Bool
  | 0, _ => []
  | count + 1, value => (value % 2 = 1) :: lowBits count (value / 2)

/-- The bits of a byte sequence. -/
def bitsOf (bytes : List UInt8) : List Bool :=
  bytes.flatMap fun byte => lowBits 8 byte.toNat

namespace Reader

/-- Stops at what is wrong. -/
def reject {α : Type} (error : StreamError) : Reader α := throw (.broken error)

/-- The next bit. -/
def bit : Reader Nat := do
  let stream ← get
  match stream.bits with
  | [] => throw .cut
  | first :: rest =>
    set { stream with bits := rest }
    return first.toNat

/-- The number of the next bits, lowest first. -/
def number : (count : Nat) → Reader Nat
  | 0 => return 0
  | count + 1 => do
    let low ← bit
    return low + 2 * (← number count)

/-- Passes over the rest of a byte that has been begun. -/
def align : Reader Unit :=
  modify fun stream => { stream with bits := stream.bits.drop (stream.bits.length % 8) }

/-- Unpacks a byte. -/
def emit (byte : UInt8) : Reader Unit :=
  modify fun stream => { stream with output := stream.output.push byte }

/-- Unpacks as many bytes as given once more, from some distance back. -/
def again (distance : Nat) : (length : Nat) → Reader Unit
  | 0 => return ()
  | length + 1 => do
    let stream ← get
    emit (stream.output.getD (stream.output.size - distance) 0)
    again distance length

/-- The bytes that a stream unpacks to, which are those up to its end if it ends too early. -/
def run (reader : Reader Unit) (bytes : List UInt8) : Except StreamError (List UInt8) :=
  match EStateM.run reader { bits := bitsOf bytes, output := #[] } with
  | .ok _ stream | .error .cut stream => .ok stream.output.toList
  | .error (.broken error) _ => .error error

end Reader

end ConstrainedDecoding.Compression
