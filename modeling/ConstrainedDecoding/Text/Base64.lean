/-!
Bytes in base 64: three bytes make four digits, and an incomplete group at the end is filled up with
equals signs.
-/

namespace ConstrainedDecoding.Text

/-- The digit for a value below 64. -/
def base64Digit (value : Nat) : Char :=
  if value < 26 then Char.ofNat (65 + value)
  else if value < 52 then Char.ofNat (71 + value)
  else if value < 62 then Char.ofNat (value - 4)
  else if value = 62 then '+'
  else '/'

/-- The first digits of a group of 24 bits. -/
def base64Group (digits value : Nat) : List Char :=
  [base64Digit (value / 0x40000), base64Digit (value / 0x1000 % 64),
    base64Digit (value / 0x40 % 64), base64Digit (value % 64)].take digits

/-- The digits for a byte sequence. -/
def base64 : List UInt8 → List Char
  | [] => []
  | [a] => base64Group 2 (a.toNat * 0x10000) ++ ['=', '=']
  | [a, b] => base64Group 3 (a.toNat * 0x10000 + b.toNat * 0x100) ++ ['=']
  | a :: b :: c :: rest =>
    base64Group 4 (a.toNat * 0x10000 + b.toNat * 0x100 + c.toNat) ++ base64 rest

end ConstrainedDecoding.Text
