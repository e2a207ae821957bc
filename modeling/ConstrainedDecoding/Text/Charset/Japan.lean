import ConstrainedDecoding.Text.Charset.Japanese
import ConstrainedDecoding.Text.Charset.JapaneseSupplement
import ConstrainedDecoding.Text.Charset.JapaneseVendor
import ConstrainedDecoding.Text.Charset.Reading

/-!
The Japanese encodings in which a character has a fixed sequence of bytes.
-/

namespace ConstrainedDecoding.Text

/-- The half-width katakana of a byte. -/
def katakana? (byte : Nat) : Option Char :=
  if 0xa1 ≤ byte ∧ byte ≤ 0xdf then some (Char.ofNat (0xfec0 + byte)) else none

/-- The place of a second byte of Shift JIS among the 188 of a first byte. -/
def shiftedPlace? (second : Nat) : Option Nat :=
  if 0x40 ≤ second ∧ second ≤ 0x7e then some (second - 0x40)
  else if 0x80 ≤ second ∧ second ≤ 0xfc then some (second - 0x41)
  else none

/-- The standard character of two bytes of Shift JIS. A first byte covers two rows of cells. -/
def shiftedChar? (first second : Nat) : Option Char := do
  let place ← shiftedPlace? second
  let row := 2 * (if first < 0xe0 then first - 0x81 else first - 0xc1) + 0x21
  japaneseGrid.char? (row + place / 94) (place % 94 + 0x21)

/-- The front of a Shift JIS sequence. -/
def frontShiftJis (first : UInt8) (rest : List UInt8) : Piece :=
  let byte := first.toNat
  if byte < 0x80 then .plain first
  else if 0xa1 ≤ byte ∧ byte ≤ 0xdf then .ofChar? (katakana? byte) 1 1
  else if 0x81 ≤ byte ∧ byte ≤ 0x9f ∨ 0xe0 ≤ byte ∧ byte ≤ 0xfc then .pair shiftedChar? first rest
  else .malformed 1

/-- The character of two bytes in the variant of Shift JIS that Windows uses, which has room for
private characters. -/
def windowsShiftedChar? (first second : Nat) : Option Char :=
  (japaneseVendor.char? first second).or <|
    if 0x81 ≤ first ∧ first ≤ 0x9f ∨ 0xe0 ≤ first ∧ first ≤ 0xea then shiftedChar? first second
    else if 0xf0 ≤ first ∧ first ≤ 0xf9 then
      (shiftedPlace? second).map fun place => Char.ofNat (0xe000 + 188 * (first - 0xf0) + place)
    else none

/-- The front of a sequence in the variant of Shift JIS that Windows uses. -/
def frontWindowsShiftJis (first : UInt8) (rest : List UInt8) : Piece :=
  let byte := first.toNat
  if byte ≤ 0x80 then .plain first
  else if byte = 0xa0 then .char '\uf8f0' 1
  else if 0xa1 ≤ byte ∧ byte ≤ 0xdf then .ofChar? (katakana? byte) 1 1
  else if 0xfd ≤ byte then .char (Char.ofNat (0xf8f1 + (byte - 0xfd))) 1
  else .pair windowsShiftedChar? first rest

/-- The front of a Japanese EUC sequence. -/
def frontEucJapan (first : UInt8) (rest : List UInt8) : Piece :=
  let byte := first.toNat
  if byte < 0x80 then .plain first
  else if byte = 0x8e then .pair (fun _ second => katakana? second) first rest
  else if byte = 0x8f then
    match rest with
    | row :: cell :: _ =>
      .ofChar? (japaneseSupplement.char? (row ^^^ 0x80).toNat (cell ^^^ 0x80).toNat) 3 1
    | _ => .cut rest
  else
    .pair (fun row cell => japaneseGrid.char? (row ^^^ 0x80) (cell ^^^ 0x80)) first rest

end ConstrainedDecoding.Text
