import ConstrainedDecoding.Text.Half
import ConstrainedDecoding.Text.Hex

/-!
Bytes as text, in the three Unicode encoding forms. Decoding looks at the front of what is left,
which holds either a character of some length or a malformed stretch of some length. Decoding stops
at the first malformed stretch.

Halves of surrogate pairs are malformed, except that JSON lets them through.
-/

namespace ConstrainedDecoding.Text

/-- The encoding forms, the wider ones in either byte order. -/
inductive Encoding
  | utf8
  | utf16 (bigEndian : Bool)
  | utf32 (bigEndian : Bool)
  deriving DecidableEq, Repr

def Encoding.name : Encoding → String
  | utf8 => "utf-8"
  | utf16 true => "utf-16-be"
  | utf16 false => "utf-16-le"
  | utf32 true => "utf-32-be"
  | utf32 false => "utf-32-le"

/-- What is wrong with a stretch of bytes. -/
inductive EncodingFault
  | invalidStart
  | invalidContinuation
  | unexpectedEnd
  | truncated
  | outOfRange
  deriving DecidableEq, Repr

def EncodingFault.message : EncodingFault → String
  | invalidStart => "invalid start byte"
  | invalidContinuation => "invalid continuation byte"
  | unexpectedEnd => "unexpected end of data"
  | truncated => "truncated data"
  | outOfRange => "code point not in range(0x110000)"

/-- A malformed stretch: where it starts, how long it is and its first byte. -/
structure EncodingError where
  encoding : Encoding
  what : EncodingFault
  position : Nat
  length : Nat
  first : UInt8
  deriving DecidableEq, Repr

/-- The wording of an encoding error. -/
def EncodingError.message (error : EncodingError) : String :=
  let place :=
    if error.length = 1 then
      s!"byte 0x{String.ofList (hexDigits 2 error.first.toNat)} in position {error.position}"
    else s!"bytes in position {error.position}-{error.position + error.length - 1}"
  s!"'{error.encoding.name}' codec can't decode {place}: {error.what.message}"

/-- The front of a byte sequence. -/
inductive Front
  | char (c : Char) (length : Nat)
  | malformed (what : EncodingFault) (length : Nat)
  deriving DecidableEq, Repr

/-! ## One byte at a time -/

/-- What a leading byte announces: its share of the code point, the number of continuation bytes and
the bounds of the first of them. -/
structure Lead where
  share : Nat
  tails : Nat
  low : Nat := 0x80
  high : Nat := 0xbf

/-- The announcement of a leading byte. With `halves`, the bytes of a lone surrogate half pass. -/
def lead? (halves : Bool) (byte : Nat) : Option Lead :=
  if byte < 0x80 then some { share := byte, tails := 0 }
  else if byte < 0xc2 then none
  else if byte < 0xe0 then some { share := byte - 0xc0, tails := 1 }
  else if byte = 0xe0 then some { share := 0, tails := 2, low := 0xa0 }
  else if byte = 0xed ∧ halves = false then some { share := 0xd, tails := 2, high := 0x9f }
  else if byte < 0xf0 then some { share := byte - 0xe0, tails := 2 }
  else if byte = 0xf0 then some { share := 0, tails := 3, low := 0x90 }
  else if byte < 0xf4 then some { share := byte - 0xf0, tails := 3 }
  else if byte = 0xf4 then some { share := 4, tails := 3, high := 0x8f }
  else none

/-- Reads the announced continuation bytes; `seen` counts the bytes already read. -/
def continuation (share seen : Nat) : (tails low high : Nat) → List UInt8 → Front
  | 0, _, _, _ => .char (charOf share) seen
  | _ + 1, _, _, [] => .malformed .unexpectedEnd seen
  | tails + 1, low, high, byte :: rest =>
    if low ≤ byte.toNat ∧ byte.toNat ≤ high then
      continuation (share * 64 + byte.toNat % 64) (seen + 1) tails 0x80 0xbf rest
    else .malformed .invalidContinuation seen

/-- The front of a UTF-8 sequence that starts with the given byte. A lone half whose third byte is
missing or wrong is malformed from its first byte on, as if halves did not pass. -/
def frontUtf8 (halves : Bool) (first : UInt8) (rest : List UInt8) : Front :=
  match lead? halves first.toNat with
  | none => .malformed .invalidStart 1
  | some lead =>
    match continuation lead.share 1 lead.tails lead.low lead.high rest, halves with
    | .malformed what length, true =>
      match lead? false first.toNat with
      | none => .malformed what length
      | some strict => continuation strict.share 1 strict.tails strict.low strict.high rest
    | front, _ => front

/-! ## Two and four bytes at a time -/

/-- The number with the given bytes in the given order. -/
def joinBytes (bigEndian : Bool) (bytes : List UInt8) : Nat :=
  (if bigEndian then bytes else bytes.reverse).foldl (fun value byte => value * 256 + byte.toNat) 0

/-- The front of a UTF-16 sequence. -/
def frontUtf16 (bigEndian : Bool) : List UInt8 → Front
  | a :: b :: rest =>
    let unit := joinBytes bigEndian [a, b]
    match rest with
    | c :: d :: _ =>
      let next := joinBytes bigEndian [c, d]
      if 0xd800 ≤ unit ∧ unit ≤ 0xdbff ∧ 0xdc00 ≤ next ∧ next ≤ 0xdfff then
        .char (charOf (0x10000 + (unit - 0xd800) * 0x400 + (next - 0xdc00))) 4
      else .char (charOf unit) 2
    | _ => .char (charOf unit) 2
  | short => .malformed .truncated short.length

/-- The front of a UTF-32 sequence. -/
def frontUtf32 (bigEndian : Bool) : List UInt8 → Front
  | a :: b :: c :: d :: _ =>
    let code := joinBytes bigEndian [a, b, c, d]
    if code < 0x110000 then .char (charOf code) 4 else .malformed .outOfRange 4
  | short => .malformed .truncated short.length

/-! ## Whole sequences -/

/-- The front of a non-empty sequence. -/
def Encoding.front (encoding : Encoding) (halves : Bool) (first : UInt8) (rest : List UInt8) :
    Front :=
  match encoding with
  | utf8 => frontUtf8 halves first rest
  | utf16 bigEndian => frontUtf16 bigEndian (first :: rest)
  | utf32 bigEndian => frontUtf32 bigEndian (first :: rest)

/-- The characters of a byte sequence, or its first malformed stretch. The bytes of a character that
has been read are passed over by counting down `skip`. -/
def decodeFrom (encoding : Encoding) (halves : Bool) (skip position : Nat) :
    List UInt8 → Except EncodingError (List Char)
  | [] => .ok []
  | first :: rest =>
    match skip with
    | skip + 1 => decodeFrom encoding halves skip (position + 1) rest
    | 0 =>
      match encoding.front halves first rest with
      | .char c length =>
        (decodeFrom encoding halves (length - 1) (position + 1) rest).map (c :: ·)
      | .malformed what length => .error { encoding, what, position, length, first }

/-- The characters of a byte sequence, or its first malformed stretch. -/
def decode (encoding : Encoding) (halves : Bool) (bytes : List UInt8) :
    Except EncodingError (List Char) :=
  decodeFrom encoding halves 0 0 bytes

/-- The UTF-8 bytes of a text. -/
def encode (text : String) : List UInt8 :=
  text.toUTF8.toList

/-- The encoding of a byte sequence that holds JSON and has no byte order mark, told from where its
zero bytes lie. -/
def unmarkedEncoding : List UInt8 → Encoding
  | a :: b :: c :: d :: _ =>
    if a = 0 then (if b = 0 then .utf32 true else .utf16 true)
    else if b = 0 then (if c = 0 ∧ d = 0 then .utf32 false else .utf16 false)
    else .utf8
  | [a, b] => if a = 0 then .utf16 true else if b = 0 then .utf16 false else .utf8
  | _ => .utf8

/-- The encoding of a byte sequence that holds JSON, told from its byte order mark or else from
where its zero bytes lie, and the bytes after the mark. -/
def detect (bytes : List UInt8) : Encoding × List UInt8 :=
  match bytes with
  | 0x00 :: 0x00 :: 0xfe :: 0xff :: rest => (.utf32 true, rest)
  | 0xff :: 0xfe :: 0x00 :: 0x00 :: rest => (.utf32 false, rest)
  | 0xfe :: 0xff :: rest => (.utf16 true, rest)
  | 0xff :: 0xfe :: rest => (.utf16 false, rest)
  | 0xef :: 0xbb :: 0xbf :: rest => (.utf8, rest)
  | _ => (unmarkedEncoding bytes, bytes)

/-- The bytes that the mark at the front takes up: positions are counted from after a UTF-8 mark,
but from before the mark of a wider form. -/
def markOffset (bytes rest : List UInt8) : Encoding → Nat
  | .utf8 => 0
  | _ => bytes.length - rest.length

/-- The characters of a byte sequence in whichever encoding it is found to be. -/
def decodeDetected (bytes : List UInt8) : Except EncodingError (List Char) :=
  let (encoding, rest) := detect bytes
  decodeFrom encoding true 0 (markOffset bytes rest encoding) rest

/-- The characters with every line end, of one or two characters, turned into a line feed. -/
def unifyLineEnds : List Char → List Char
  | [] => []
  | '\r' :: '\n' :: rest => '\n' :: unifyLineEnds rest
  | '\r' :: rest => '\n' :: unifyLineEnds rest
  | c :: rest => c :: unifyLineEnds rest

end ConstrainedDecoding.Text
