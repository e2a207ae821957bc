import ConstrainedDecoding.Text.Charset.Reading
import ConstrainedDecoding.Text.Half
import ConstrainedDecoding.Text.Hex

/-!
Texts in which backslashes announce characters. Bytes outside escapes stand for the characters of
the same numbers. Characters cannot be called by their names.
-/

namespace ConstrainedDecoding.Text

/-- The character of an escape with the given number of hexadecimal digits, of which some have been
read into a value; `seen` counts the bytes of the escape so far. -/
def readHexEscape (seen value : Nat) : (digits : Nat) → List UInt8 → Piece
  | 0, _ => .ofChar? (if value < 0x110000 then some (charOf value) else none) seen seen
  | _ + 1, [] => .malformed seen
  | digits + 1, byte :: rest =>
    match hexValue? (Char.ofNat byte.toNat) with
    | some digit => readHexEscape (seen + 1) (value * 16 + digit) digits rest
    | none => .malformed seen

/-- The character of an escape with at most the given number of octal digits. -/
def readOctalEscape (seen value : Nat) : (digits : Nat) → List UInt8 → Piece
  | 0, _ => .char (Char.ofNat value) seen
  | _ + 1, [] => .char (Char.ofNat value) seen
  | digits + 1, byte :: rest =>
    if 0x30 ≤ byte ∧ byte ≤ 0x37 then
      readOctalEscape (seen + 1) (value * 8 + (byte.toNat - 0x30)) digits rest
    else .char (Char.ofNat value) seen

/-- The front of a text in which only long escapes count. -/
def frontLongEscapes (first : UInt8) (rest : List UInt8) : Piece :=
  if first ≠ 0x5c then .plain first
  else
    match rest with
    | [] => .plain first
    | 0x75 :: digits => readHexEscape 2 0 4 digits
    | 0x55 :: digits => readHexEscape 2 0 8 digits
    | other :: _ => ⟨[some '\\', some (Char.ofNat other.toNat)], 2⟩

/-- The character of a letter or a mark after a backslash. -/
def shortEscape? (byte : UInt8) : Option Char :=
  match Char.ofNat byte.toNat with
  | '\\' => some '\\'
  | '\'' => some '\''
  | '"' => some '"'
  | 'a' => some '\x07'
  | 'b' => some '\x08'
  | 't' => some '\t'
  | 'n' => some '\n'
  | 'v' => some '\x0b'
  | 'f' => some '\x0c'
  | 'r' => some '\r'
  | _ => none

/-- A name in braces, which no character has. It is malformed with its braces, unless it is empty.
-/
def readNameEscape (name : List UInt8) : Piece :=
  match name.findIdx? (· = 0x7d) with
  | none => .malformed (name.length + 3)
  | some 0 => .malformed 3
  | some length => .malformed (length + 4)

/-- The front of a text with escapes. A backslash at the end of a line joins it to the next one. -/
def frontEscapes (first : UInt8) (rest : List UInt8) : Piece :=
  if first ≠ 0x5c then .plain first
  else
    match rest with
    | [] => .malformed 1
    | 0x0a :: _ => .silent 2
    | 0x78 :: digits => readHexEscape 2 0 2 digits
    | 0x75 :: digits => readHexEscape 2 0 4 digits
    | 0x55 :: digits => readHexEscape 2 0 8 digits
    | 0x4e :: 0x7b :: name => readNameEscape name
    | 0x4e :: _ => .malformed 2
    | other :: more =>
      if 0x30 ≤ other ∧ other ≤ 0x37 then readOctalEscape 2 (other.toNat - 0x30) 2 more
      else
        match shortEscape? other with
        | some c => .char c 2
        | none => ⟨[some '\\', some (Char.ofNat other.toNat)], 2⟩

end ConstrainedDecoding.Text
