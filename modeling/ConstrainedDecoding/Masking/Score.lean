import ConstrainedDecoding.Number.Rounding

/-!
Scores. Masking needs three things of the elements of a score vector: their place in the order of
preference, the element that forbids a token, and which elements of a mask count as set.
-/

namespace ConstrainedDecoding

/-- What masking needs of an element type. -/
class Score (α : Type) where
  /-- The place in the order of preference; higher comes first. -/
  rankKey : α → Int
  /-- The element that stands for negative infinity, if the type has one. -/
  forbidden? : Option α
  /-- Whether an element of a mask counts as set. -/
  isSet : α → Bool

/-- Floating-point scores are ranked by value, what is not a number first. -/
instance {w : Width} : Score (Binary w) where
  rankKey := Binary.rankKey
  forbidden? := some .negInfinity
  isSet x := !x.isZero

/-- Of truth values the higher one is true, which also takes the place of negative infinity. -/
instance : Score Bool where
  rankKey := Bool.toInt
  forbidden? := some true
  isSet x := x

/-- No integer stands for negative infinity. -/
instance : Score Int where
  rankKey x := x
  forbidden? := none
  isSet x := x ≠ 0

end ConstrainedDecoding
