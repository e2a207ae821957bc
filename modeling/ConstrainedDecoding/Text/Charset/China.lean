import ConstrainedDecoding.Text.Charset.FourByte
import ConstrainedDecoding.Text.Charset.Reading
import ConstrainedDecoding.Text.Charset.Simplified
import ConstrainedDecoding.Text.Charset.SimplifiedExtension
import ConstrainedDecoding.Text.Charset.SimplifiedNational
import ConstrainedDecoding.Text.Charset.Traditional
import ConstrainedDecoding.Text.Charset.TraditionalVendor

/-!
The Chinese encodings in which a character has a fixed sequence of bytes.
-/

namespace ConstrainedDecoding.Text

/-- The character of two bytes in GB 2312. -/
def simplifiedChar? (first second : Nat) : Option Char :=
  simplifiedGrid.char? (first ^^^ 0x80) (second ^^^ 0x80)

/-- The character of two bytes in GBK. -/
def extendedChar? (first second : Nat) : Option Char :=
  (simplifiedExtension.char? first second).or (simplifiedChar? first second)

/-- The private character of two bytes in GB 18030. -/
def privateChar? (first second : Nat) : Option Char :=
  if 0xa1 ≤ second ∧ second ≤ 0xfe then
    if 0xaa ≤ first ∧ first ≤ 0xaf then
      some (Char.ofNat (0xe000 + 94 * (first - 0xaa) + (second - 0xa1)))
    else if 0xf8 ≤ first ∧ first ≤ 0xfe then
      some (Char.ofNat (0xe234 + 94 * (first - 0xf8) + (second - 0xa1)))
    else none
  else if 0x40 ≤ second ∧ second ≤ 0xa0 ∧ second ≠ 0x7f ∧ 0xa1 ≤ first ∧ first ≤ 0xa7 then
    let place := if second < 0x7f then second - 0x40 else second - 0x41
    some (Char.ofNat (0xe4c6 + 96 * (first - 0xa1) + place))
  else none

/-- The character of two bytes in GB 18030. -/
def nationalChar? (first second : Nat) : Option Char :=
  (extendedChar? first second).or <|
    (simplifiedNational.char? first second).or (privateChar? first second)

/-- The front of an ASCII sequence with characters of two bytes. -/
def frontOfPairs (char? : Nat → Nat → Option Char) (first : UInt8) (rest : List UInt8) : Piece :=
  if first < 0x80 then .plain first else .pair char? first rest

/-- The front of a GB 18030 sequence. A digit as the second byte announces two more bytes. -/
def frontNational (first : UInt8) (rest : List UInt8) : Piece :=
  if first < 0x80 then .plain first
  else
    match rest with
    | [] => .malformed 1
    | second :: more =>
      if 0x30 ≤ second ∧ second ≤ 0x39 then
        match more with
        | third :: fourth :: _ =>
          .ofChar? (fourByteChar? first.toNat second.toNat third.toNat fourth.toNat) 4 1
        | _ => .cut rest
      else .pair nationalChar? first rest

/-- The character of two bytes in the variant of Big5 that Windows uses. -/
def windowsTraditionalChar? (first second : Nat) : Option Char :=
  (traditionalVendor.char? first second).or (traditionalGrid.char? first second)

end ConstrainedDecoding.Text
