import ConstrainedDecoding.Number.Binary

/-!
Rounding of exact quotients to the nearest binary number, ties to the even neighbour. All
conversions into a binary width go through `roundQuotient`, which works on natural numbers only.
-/

namespace ConstrainedDecoding

/-- The integer nearest to a quotient, the even one of two equally near. -/
def nearestEven (numerator denominator : Nat) : Nat :=
  let whole := numerator / denominator
  let rest := numerator % denominator
  if 2 * rest > denominator ∨ (2 * rest = denominator ∧ whole % 2 = 1) then whole + 1 else whole

/-- The magnitude of the number nearest to a quotient. Written over the least positive number, the
quotient keeps as many binary places as the width holds; counting on through the exponents, the
rounded significand is itself the distance of the magnitude from that of its exponent. -/
def roundQuotient (w : Width) (numerator denominator : Nat) : Nat :=
  let scaled := numerator * Nat.pow 2 w.scale
  let exponent := (scaled / denominator).log2 - w.fraction
  min w.infinity
    (exponent * Nat.pow 2 w.fraction + nearestEven scaled (denominator * Nat.pow 2 exponent))

namespace Binary

/-- The nearest number to a signed quotient. -/
def ofQuotient (w : Width) (negative : Bool) (numerator denominator : Nat) : Binary w :=
  ofMagnitude negative (roundQuotient w numerator denominator)

/-- The nearest number to an integer. -/
def ofInt (w : Width) (value : Int) : Binary w :=
  ofQuotient w (value < 0) value.natAbs 1

/-- The nearest number to `digits * 10 ^ exponent`. Exponents far outside the range of the width
are settled without computing the power. -/
def ofDecimal (w : Width) (negative : Bool) (digits : Nat) (exponent : Int) : Binary w :=
  let places : Int := (toString digits).length + exponent
  if digits = 0 ∨ places < -400 then ofMagnitude negative 0
  else if 400 < places then infinite negative
  else if 0 ≤ exponent then ofQuotient w negative (digits * Nat.pow 10 exponent.toNat) 1
  else ofQuotient w negative digits (Nat.pow 10 (-exponent).toNat)

/-- The nearest number of another width. -/
def convert {v : Width} (w : Width) (x : Binary v) : Binary w :=
  if x.isNaN then nan
  else if x.isInfinite then infinite x.negative
  else ofQuotient w x.negative x.ratio.1 x.ratio.2

/-- The integer part of a finite number, toward zero. -/
def truncate {w : Width} (x : Binary w) : Int :=
  let whole : Int := (x.ratio.1 / x.ratio.2 : Nat)
  if x.negative then -whole else whole

/-- The nearest number to one more than a number. -/
def successor {w : Width} (x : Binary w) : Binary w :=
  if x.isNaN || x.isInfinite then x
  else
    let top : Int := if x.negative then x.ratio.2 - x.ratio.1 else x.ratio.2 + x.ratio.1
    ofQuotient w (top < 0) top.natAbs x.ratio.2

end Binary

end ConstrainedDecoding
