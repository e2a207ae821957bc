/-!
Binary floating-point numbers as their bits, in the widths that scores come in. Nothing here
computes with machine arithmetic: a number is a sign and a magnitude, and magnitudes of one width
are ordered as the numbers they stand for, which is what ranking and rounding rely on.
-/

namespace ConstrainedDecoding

/-- The widths: three for interchange, and the upper half of a single. -/
inductive Width
  | half
  | brain
  | single
  | double
  deriving DecidableEq, Repr

namespace Width

/-- Bits of a number, the sign included. -/
def size : Width → Nat
  | half | brain => 16
  | single => 32
  | double => 64

/-- Bits of the stored fraction. -/
def fraction : Width → Nat
  | half => 10
  | brain => 7
  | single => 23
  | double => 52

/-- The least positive number is two to the power of minus this. -/
def scale : Width → Nat
  | half => 24
  | brain => 133
  | single => 149
  | double => 1074

/-- The magnitude that stands for infinity. Every larger one is not a number. -/
def infinity (w : Width) : Nat :=
  Nat.pow 2 (w.size - 1) - Nat.pow 2 w.fraction

end Width

/-- A binary floating-point number, given by its bits. -/
structure Binary (w : Width) where
  bits : BitVec w.size
  deriving DecidableEq, Repr

namespace Binary

variable {w : Width}

/-- The number with a given sign and magnitude. -/
def ofMagnitude (negative : Bool) (magnitude : Nat) : Binary w :=
  ⟨BitVec.ofNat w.size (if negative then Nat.pow 2 (w.size - 1) + magnitude else magnitude)⟩

/-- Whether the sign bit is set. -/
def negative (x : Binary w) : Bool :=
  Nat.pow 2 (w.size - 1) ≤ x.bits.toNat

/-- The bits without the sign. -/
def magnitude (x : Binary w) : Nat :=
  x.bits.toNat % Nat.pow 2 (w.size - 1)

/-- Infinity with a given sign. -/
def infinite (negative : Bool) : Binary w :=
  ofMagnitude negative w.infinity

/-- Negative infinity, the logit of a forbidden token. -/
def negInfinity : Binary w :=
  infinite true

/-- The usual pattern of a value that is not a number. -/
def nan : Binary w :=
  ofMagnitude false (w.infinity + Nat.pow 2 (w.fraction - 1))

def isNaN (x : Binary w) : Bool :=
  w.infinity < x.magnitude

def isInfinite (x : Binary w) : Bool :=
  x.magnitude = w.infinity

/-- Zero of either sign. -/
def isZero (x : Binary w) : Bool :=
  x.magnitude = 0

/-- The place of a number in the order that ranking uses: by value, both zeros in one place, and
what is not a number above everything. -/
def rankKey (x : Binary w) : Int :=
  if x.isNaN then w.infinity + 1
  else if x.negative then -(x.magnitude : Int)
  else x.magnitude

/-- The integer significand and the exponent above the least one: a finite number is
`significand * 2 ^ exponent` times the least positive number. -/
def significand (x : Binary w) : Nat × Nat :=
  if x.magnitude < Nat.pow 2 w.fraction then (x.magnitude, 0)
  else
    (Nat.pow 2 w.fraction + x.magnitude % Nat.pow 2 w.fraction,
      x.magnitude / Nat.pow 2 w.fraction - 1)

/-- The absolute value of a finite number as a numerator and a denominator. -/
def ratio (x : Binary w) : Nat × Nat :=
  (x.significand.1 * Nat.pow 2 x.significand.2, Nat.pow 2 w.scale)

end Binary

end ConstrainedDecoding
