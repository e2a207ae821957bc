import ConstrainedDecoding.Text.Charset.Korean
import ConstrainedDecoding.Text.Charset.KoreanExtension
import ConstrainedDecoding.Text.Charset.Reading

/-!
The Korean encodings in which a character has a fixed sequence of bytes.
-/

namespace ConstrainedDecoding.Text

/-- The standard character of two bytes. -/
def koreanChar? (first second : Nat) : Option Char :=
  koreanGrid.char? (first ^^^ 0x80) (second ^^^ 0x80)

/-- The bytes of the consonants that start a syllable, in the order of syllables. -/
def openingConsonants : List UInt8 :=
  [0xa1, 0xa2, 0xa4, 0xa7, 0xa8, 0xa9, 0xb1, 0xb2, 0xb3, 0xb5, 0xb6, 0xb7, 0xb8, 0xb9, 0xba, 0xbb,
    0xbc, 0xbd, 0xbe]

/-- The bytes of the vowels, in the order of syllables. -/
def middleVowels : List UInt8 :=
  [0xbf, 0xc0, 0xc1, 0xc2, 0xc3, 0xc4, 0xc5, 0xc6, 0xc7, 0xc8, 0xc9, 0xca, 0xcb, 0xcc, 0xcd, 0xce,
    0xcf, 0xd0, 0xd1, 0xd2, 0xd3]

/-- The bytes of the consonants that end a syllable, in the order of syllables, after a filler for a
syllable that ends in its vowel. -/
def closingConsonants : List UInt8 :=
  [0xd4, 0xa1, 0xa2, 0xa3, 0xa4, 0xa5, 0xa6, 0xa7, 0xa9, 0xaa, 0xab, 0xac, 0xad, 0xae, 0xaf, 0xb0,
    0xb1, 0xb2, 0xb4, 0xb5, 0xb6, 0xb7, 0xb8, 0xba, 0xbb, 0xbc, 0xbd, 0xbe]

/-- The syllable that is spelled by its letters. -/
def spelledSyllable? (opening middle closing : UInt8) : Option Char := do
  let opening ← openingConsonants.idxOf? opening
  let middle ← middleVowels.idxOf? middle
  let closing ← closingConsonants.idxOf? closing
  return Char.ofNat (0xac00 + (opening * 21 + middle) * 28 + closing)

/-- The front of a Korean EUC sequence. A filler announces a syllable spelled in six more bytes. -/
def frontEucKorea (first : UInt8) (rest : List UInt8) : Piece :=
  if first < 0x80 then .plain first
  else
    match first, rest with
    | 0xa4, 0xd4 :: 0xa4 :: opening :: 0xa4 :: middle :: 0xa4 :: closing :: _ =>
      .ofChar? (spelledSyllable? opening middle closing) 8 1
    | 0xa4, 0xd4 :: _ :: _ :: _ :: _ :: _ :: _ :: _ => .malformed 1
    | 0xa4, 0xd4 :: _ => .cut rest
    | _, _ => .pair koreanChar? first rest

/-- The front of a sequence in the Korean encoding that Windows uses. -/
def frontWindowsKorea (first : UInt8) (rest : List UInt8) : Piece :=
  if first < 0x80 then .plain first
  else
    .pair (fun row cell => (koreanChar? row cell).or (koreanExtension.char? row cell)) first rest

end ConstrainedDecoding.Text
