import ConstrainedDecoding.Text.Charset.Reading
import ConstrainedDecoding.Text.Encoding

/-!
Reading the Unicode encoding forms piece by piece. Here halves of surrogate pairs are malformed,
except in UTF-7, which is made of sixteen-bit units and lets them through.
-/

namespace ConstrainedDecoding.Text

/-- The front of a UTF-8 sequence. -/
def pieceUtf8 (first : UInt8) (rest : List UInt8) : Piece :=
  match frontUtf8 false first rest with
  | .char c length => .char c length
  | .malformed _ length => .malformed length

/-- The characters of UTF-8, a replacement character standing for each malformed stretch. -/
def decodeLenient (bytes : List UInt8) : List Char :=
  (readPieces pieceUtf8 bytes).lenient

/-- The front of a UTF-16 sequence. The first half of a pair at the end is malformed with whatever
follows it. -/
def pieceUtf16 (bigEndian : Bool) (first : UInt8) : List UInt8 → Piece
  | [] => .malformed 1
  | second :: rest =>
    let unit := joinBytes bigEndian [first, second]
    if isLowHalf unit then .malformed 2
    else if isHighHalf unit then
      match rest with
      | third :: fourth :: _ =>
        let next := joinBytes bigEndian [third, fourth]
        if isLowHalf next then .char (joinHalves unit next) 4 else .malformed 2
      | _ => .cut (second :: rest)
    else .char (Char.ofNat unit) 2

/-- The front of a UTF-32 sequence. -/
def pieceUtf32 (bigEndian : Bool) (first : UInt8) : List UInt8 → Piece
  | second :: third :: fourth :: _ =>
    let code := joinBytes bigEndian [first, second, third, fourth]
    if code.isValidChar then .char (Char.ofNat code) 4 else .malformed 4
  | rest => .cut rest

/-! ## Byte order marks -/

/-- The characters of UTF-8 after a byte order mark, if there is one. The start of a mark that is
all there is has no characters. -/
def readMarkedUtf8 (bytes : List UInt8) : Reading :=
  match bytes with
  | 0xef :: 0xbb :: 0xbf :: rest => readPieces pieceUtf8 rest
  | [0xef] | [0xef, 0xbb] => []
  | _ => readPieces pieceUtf8 bytes

/-- The characters of UTF-16 after the byte order mark that it has to start with, unless there is
not even room for one. -/
def readMarkedUtf16? : List UInt8 → Option Reading
  | 0xfe :: 0xff :: rest => some (readPieces (pieceUtf16 true) rest)
  | 0xff :: 0xfe :: rest => some (readPieces (pieceUtf16 false) rest)
  | [] => some []
  | [_] => some [none]
  | _ => none

/-- The characters of UTF-32 after the byte order mark that it has to start with, unless there is
not even room for one. -/
def readMarkedUtf32? : List UInt8 → Option Reading
  | 0x00 :: 0x00 :: 0xfe :: 0xff :: rest => some (readPieces (pieceUtf32 true) rest)
  | 0xff :: 0xfe :: 0x00 :: 0x00 :: rest => some (readPieces (pieceUtf32 false) rest)
  | [] => some []
  | [_] | [_, _] | [_, _, _] => some [none]
  | _ => none

/-! ## Seven bits -/

/-- The value of a digit of base 64. -/
def base64Value? (byte : UInt8) : Option Nat :=
  let c := Char.ofNat byte.toNat
  if 'A' ≤ c ∧ c ≤ 'Z' then some (c.toNat - 65)
  else if 'a' ≤ c ∧ c ≤ 'z' then some (c.toNat - 71)
  else if '0' ≤ c ∧ c ≤ '9' then some (c.toNat + 4)
  else if c = '+' then some 62
  else if c = '/' then some 63
  else none

/-- Where UTF-7 stands: among ASCII characters, or among digits of base 64, with the bits left over
from those before, their number and the first half of a pair that waits for the second. -/
inductive SevenBits
  | direct
  | packed (bits count : Nat) (half : Option Nat)
  deriving DecidableEq, Repr

/-- The characters of a unit after the half that waits, and the half that waits then. -/
def SevenBits.accept (half : Option Nat) (unit : Nat) : Reading × Option Nat :=
  let alone := if isHighHalf unit then ([], some unit) else ([some (charOf unit)], none)
  match half with
  | none => alone
  | some high =>
    if isLowHalf unit then ([some (joinHalves high unit)], none)
    else (some (charOf high) :: alone.1, alone.2)

/-- The character that a byte stands for among ASCII characters. -/
def SevenBits.ascii (byte : UInt8) : Option Char :=
  if byte < 0x80 then some (Char.ofNat byte.toNat) else none

/-- The characters of UTF-7. A plus sign starts base 64 and any other character ends it; a hyphen
that does so is dropped, and so is a character that comes before the last unit is full. -/
def readUtf7 : SevenBits → List UInt8 → Reading
  | .direct, [] => []
  | .packed bits count half, [] => if half.isSome ∨ 6 ≤ count ∨ bits ≠ 0 then [none] else []
  | .direct, 0x2b :: 0x2d :: rest => some '+' :: readUtf7 .direct rest
  | .direct, [0x2b] => []
  | .direct, 0x2b :: next :: rest =>
    match base64Value? next with
    | some value => readUtf7 (.packed value 6 none) rest
    | none => none :: readUtf7 .direct rest
  | .direct, byte :: rest => SevenBits.ascii byte :: readUtf7 .direct rest
  | .packed bits count half, byte :: rest =>
    match base64Value? byte with
    | some value =>
      let bits := bits * 64 + value
      if count < 10 then readUtf7 (.packed bits (count + 6) half) rest
      else
        let left := count - 10
        let (chars, waiting) := SevenBits.accept half (bits / Nat.pow 2 left)
        chars ++ readUtf7 (.packed (bits % Nat.pow 2 left) left waiting) rest
    | none =>
      if 6 ≤ count ∨ bits ≠ 0 then none :: readUtf7 .direct rest
      else
        (if byte < 0x80 then half.toList.map (some <| charOf ·) else []) ++
          (if byte = 0x2d then [] else [SevenBits.ascii byte]) ++ readUtf7 .direct rest

end ConstrainedDecoding.Text
