/-!
Halves of surrogate pairs. A half that stands alone is a code point without a character; texts from
JSON may hold one all the same. It is carried by one of as many private-use characters at the end of
the last plane, in the same order, and counts as the half wherever code points show: in the order of
texts, in escapes and in what has no encoded form. A text with such a private-use character of its
own is therefore taken for one with the half.
-/

namespace ConstrainedDecoding.Text

/-- Whether a code point is the first half of a pair. -/
def isHighHalf (code : Nat) : Bool := 0xd800 ≤ code && code ≤ 0xdbff

/-- Whether a code point is the second half of a pair. -/
def isLowHalf (code : Nat) : Bool := 0xdc00 ≤ code && code ≤ 0xdfff

/-- The distance of a half from the character that carries it. -/
def halfShift : Nat := 0x101800

/-- The character of a code point, for half of a pair the one that carries it. -/
def charOf (code : Nat) : Char :=
  if isHighHalf code || isLowHalf code then Char.ofNat (code + halfShift) else Char.ofNat code

/-- The code point of a character. -/
def codeOf (c : Char) : Nat :=
  if isHighHalf (c.toNat - halfShift) || isLowHalf (c.toNat - halfShift) then c.toNat - halfShift
  else c.toNat

/-- Whether a character carries half of a pair. -/
def isHalf (c : Char) : Bool :=
  codeOf c ≠ c.toNat

/-- The character of a surrogate pair. -/
def joinHalves (high low : Nat) : Char :=
  Char.ofNat (0x10000 + (high - 0xd800) * 0x400 + (low - 0xdc00))

end ConstrainedDecoding.Text
