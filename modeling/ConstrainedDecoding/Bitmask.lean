/-!
Token masks packed into 32-bit words: token `i` is allowed if bit `i % 32` of word `i / 32` is set.
Words are in two's complement, so bit 31 is the sign.
-/

namespace ConstrainedDecoding

/-- A word of a packed mask. -/
abbrev MaskWord := BitVec 32

namespace Bitmask

/-- The bits of a word, lowest first. -/
def wordBits (word : MaskWord) : List Bool :=
  (List.range 32).map word.getLsbD

/-- The items that a length keeps: the first ones, or for a negative length all but as many at the
end. -/
def takeSigned {α : Type} (length : Int) (items : List α) : List α :=
  if 0 ≤ length then items.take length.toNat
  else items.take (items.length - (-length).toNat)

/-- The mask of the first tokens of a packed mask. -/
def unpack (words : List MaskWord) (length : Int) : List Bool :=
  takeSigned length (words.flatMap wordBits)

/-- The number with the given bits, lowest first. -/
def ofBits : List Bool → Nat
  | [] => 0
  | bit :: rest => bit.toNat + 2 * ofBits rest

/-- The word whose bits satisfy a condition. -/
def wordOf (bit : Nat → Bool) : MaskWord :=
  BitVec.ofNat 32 (ofBits ((List.range 32).map bit))

/-- The packed mask of so many words whose tokens satisfy a condition. -/
def pack (count : Nat) (allowed : Nat → Bool) : List MaskWord :=
  (List.range count).map fun word => wordOf fun bit => allowed (32 * word + bit)

end Bitmask

end ConstrainedDecoding
