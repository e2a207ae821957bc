import ConstrainedDecoding.Number.Rounding

/-!
The shortest decimal text that reads back as a given binary number, and the notation it is
written in. Digits are found on decimal grids of growing fineness: the first grid with a
neighbour of the value that rounds back to it gives the digits, the nearer neighbour winning.
-/

namespace ConstrainedDecoding

/-- The power of ten of the leading digit of a positive quotient. -/
def leadingPower (numerator denominator : Nat) : Int :=
  if denominator ≤ numerator then ((toString (numerator / denominator)).length : Int) - 1
  else
    let places := (toString (denominator / numerator)).length
    if denominator = numerator * Nat.pow 10 (places - 1) then 1 - (places : Int) else -places

/-- `value * 10 ^ power` as a quotient. -/
def scaleByTen (numerator denominator : Nat) (power : Int) : Nat × Nat :=
  if 0 ≤ power then (numerator * Nat.pow 10 power.toNat, denominator)
  else (numerator, denominator * Nat.pow 10 (-power).toNat)

namespace Binary

variable {w : Width}

/-- Whether `digits * 10 ^ power` rounds to the number's magnitude. -/
def readsBack (x : Binary w) (digits : Nat) (power : Int) : Bool :=
  let quotient := scaleByTen digits 1 power
  roundQuotient w quotient.1 quotient.2 = x.magnitude

/-- The neighbour of the value on the grid of step `10 ^ power` that reads back and is nearer, the
even one of two equally near. -/
def onGrid? (x : Binary w) (power : Int) : Option Nat :=
  let value := scaleByTen x.ratio.1 x.ratio.2 (-power)
  let below := value.1 / value.2
  let near := nearestEven value.1 value.2
  let far := if near = below then below + 1 else below
  if x.readsBack near power then some near
  else if x.readsBack far power then some far
  else none

/-- The first grid with a digit string that reads back, finer grids tried in turn. -/
def shortestFrom (x : Binary w) : (attempts : Nat) → (power : Int) → Nat × Int
  | 0, power => ((x.onGrid? power).getD 0, power)
  | attempts + 1, power =>
    match x.onGrid? power with
    | some digits => (digits, power)
    | none => shortestFrom x attempts (power - 1)

/-- Digits and a power of ten for a positive finite number. Seventeen digits always suffice. -/
def shortest (x : Binary w) : Nat × Int :=
  shortestFrom x 17 (leadingPower x.ratio.1 x.ratio.2)

end Binary

/-- Decimal notation: positional for leading powers from -4 to 15 with at least one place on either
side of the point, otherwise one digit before the point and a signed exponent of two or more
digits. -/
def decimalNotation (digits : List Char) (leading : Int) : String :=
  if 0 ≤ leading ∧ leading < 16 then
    let whole := leading.toNat + 1
    let padded := digits ++ List.replicate (whole - digits.length) '0'
    let rest := padded.drop whole
    String.ofList (padded.take whole ++ '.' :: (if rest = [] then ['0'] else rest))
  else if -4 ≤ leading ∧ leading < 0 then
    String.ofList ('0' :: '.' :: (List.replicate ((-leading).toNat - 1) '0' ++ digits))
  else
    let exponent := toString leading.natAbs
    let padded := if exponent.length < 2 then "0" ++ exponent else exponent
    let body := match digits with
      | [] => []
      | [d] => [d]
      | d :: rest => d :: '.' :: rest
    String.ofList body ++ "e" ++ (if leading < 0 then "-" else "+") ++ padded

namespace Binary

variable {w : Width}

/-- The unsigned text of a finite number. -/
def finiteText (x : Binary w) : String :=
  if x.isZero then "0.0"
  else
    let (digits, power) := x.shortest
    let text := (toString digits).toList
    let trimmed := (text.reverse.dropWhile (· = '0')).reverse
    decimalNotation trimmed (power + text.length - 1)

/-- The shortest text of a number, with the given words for infinity and for what is not a
number. -/
def text (infinity notNumber : String) (x : Binary w) : String :=
  if x.isNaN then notNumber
  else
    let body := if x.isInfinite then infinity else x.finiteText
    if x.negative then "-" ++ body else body

end Binary

end ConstrainedDecoding
