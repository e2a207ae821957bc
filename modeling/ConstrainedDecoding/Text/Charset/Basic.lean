import ConstrainedDecoding.Text.Charset.Error
import ConstrainedDecoding.Text.Charset.Escaped
import ConstrainedDecoding.Text.Charset.Switching
import ConstrainedDecoding.Text.Charset.Unicode
import ConstrainedDecoding.Url.Punycode

/-!
Charsets: ways to read bytes as text that go by a name.
-/

namespace ConstrainedDecoding.Text

/-- A way to read bytes as text. -/
abbrev Charset := List UInt8 → Except CharsetError Reading

namespace Charset

/-- A charset in which every byte is a character. -/
def ofTable (table : ByteTable) : Charset := fun bytes => .ok (readBytes table.char? bytes)

/-- A charset in which each piece stands for itself. -/
def ofPieces (front : UInt8 → List UInt8 → Piece) : Charset := fun bytes =>
  .ok (readPieces front bytes)

/-- A charset of ASCII characters and characters of two bytes. -/
def ofPairs (char? : Nat → Nat → Option Char) : Charset := ofPieces (frontOfPairs char?)

/-- A charset with escape sequences. -/
def ofRules (rules : SwitchingRules) : Charset := fun bytes => .ok (readSwitching rules bytes)

/-- A name of what is not a charset. -/
def failing (error : CharsetError) : Charset := fun _ => .error error

def ascii : Charset := fun bytes => .ok (readBytes SevenBits.ascii bytes)

def latin1 : Charset := ofTable []

def utf7 : Charset := fun bytes => .ok (readUtf7 .direct bytes)

def utf8 : Charset := ofPieces pieceUtf8

def markedUtf8 : Charset := fun bytes => .ok (readMarkedUtf8 bytes)

def utf16 (bigEndian : Bool) : Charset := ofPieces (pieceUtf16 bigEndian)

def markedUtf16 : Charset := fun bytes => (readMarkedUtf16? bytes).elim (.error .noMark) .ok

def utf32 (bigEndian : Bool) : Charset := ofPieces (pieceUtf32 bigEndian)

def markedUtf32 : Charset := fun bytes => (readMarkedUtf32? bytes).elim (.error .noMark) .ok

def tilde : Charset := fun bytes => .ok (readFrom frontTilde false 0 bytes)

def escapes : Charset := ofPieces frontEscapes

def longEscapes : Charset := ofPieces frontLongEscapes

/-- The encoding of host names. The plain characters are read as ASCII; the digits have to be ASCII,
and those that make no sense are left out with all that follow. -/
def punycode : Charset := fun bytes =>
  let (plain, digits) := Punycode.split (bytes.map fun byte => Char.ofNat byte.toNat)
  if digits.all Punycode.isAscii then
    let (label, _) := Punycode.putAll
      (plain.map fun c => if Punycode.isAscii c then c else '\ufffd') 0x80 0 72 true digits.length
      (digits.map Char.toLower)
    .ok (label.map some)
  else .error .notAscii

end Charset

end ConstrainedDecoding.Text
