import ConstrainedDecoding.Masking.Tensor
import ConstrainedDecoding.Number.Rounding
import ConstrainedDecoding.Value.Equality

/-!
Tensors from nested sequences of numbers, as scripts give the scores; masking itself takes tensors.
The first item of each sequence tells how the dimensions go on, and all sequences of one depth have
to be as long as the first one. Every number is converted to the element type, which refuses what is
out of its range.
-/

namespace ConstrainedDecoding

/-! ## Elements -/

/-- The floating-point element that a number gives. An integer is first rounded to the wider of the
two widths. -/
def Binary.ofValue (w : Width) : Value → Except Fault (Binary w)
  | .float given => .ok (given.convert w)
  | .bool given => .ok (.ofInt w given.toInt)
  | .int given =>
    let wide := Binary.ofInt .double given
    if wide.isInfinite then .error .hugeInteger else .ok (wide.convert w)
  | given => .error (.notNumeric given.typeName)

/-- The truth value that a number gives. -/
def truthOfValue : Value → Except Fault Bool
  | .float given => .ok !given.isZero
  | .bool given => .ok given
  | .int given => .ok (given ≠ 0)
  | given => .error (.notNumeric given.typeName)

/-- The range of an integer element type. -/
structure IntegerRange where
  low : Int
  high : Int

namespace IntegerRange

/-- Integers of so many bits in two's complement. -/
def signed (bits : Nat) : IntegerRange :=
  ⟨-(Nat.pow 2 (bits - 1) : Nat), (Nat.pow 2 (bits - 1) : Nat) - 1⟩

/-- Integers of so many bits from zero on. -/
def unsigned (bits : Nat) : IntegerRange :=
  ⟨0, (Nat.pow 2 bits : Nat) - 1⟩

/-- The element that an integer gives. Where elements have no sign, a negative integer counts from
the end of the range. -/
def ofInt (range : IntegerRange) (given : Int) : Except Fault Int :=
  if range.low ≤ given ∧ given ≤ range.high then .ok given
  else if range.low = 0 ∧ given < 0 ∧ -given ≤ range.high then .ok (given + range.high + 1)
  else .error .lossyElement

/-- The element that a fraction gives, which is cut off. The end of the range is rounded to the
width of the fraction first, and what passes by that wraps round. -/
def ofFraction (range : IntegerRange) (given : Binary .double) : Except Fault Int :=
  let below := Value.less? (.float given) (.int range.low)
  let above := Value.less? (.float (.ofInt .double range.high)) (.float given)
  if given.isNaN ∨ below = some true ∨ above = some true then .error .lossyElement
  else .ok (if range.high < given.truncate then range.low else given.truncate)

/-- The element that a number gives. -/
def ofValue (range : IntegerRange) : Value → Except Fault Int
  | .int given => range.ofInt given
  | .bool given => .ok given.toInt
  | .float given => range.ofFraction given
  | given => .error (.notNumeric given.typeName)

end IntegerRange

/-! ## Tensors -/

mutual

/-- The lengths of the dimensions that the first items tell. -/
def shapeOf : Value → List Nat
  | .list items | .tuple items => shapeOfItems items
  | _ => []

/-- The length of a sequence and those inside its first item. -/
def shapeOfItems : List Value → List Nat
  | [] => [0]
  | first :: rest => (rest.length + 1) :: shapeOf first

end

/-- The elements of nested sequences of the given lengths, in order. -/
def elementsOf {α : Type} (element : Value → Except Fault α) :
    (shape : List Nat) → Value → Except Fault (List α)
  | [], given => (element given).map fun read => [read]
  | length :: rest, given =>
    match given with
    | .list items | .tuple items =>
      if items.length = length then (items.mapM (elementsOf element rest)).map List.flatten
      else .error .notRectangular
    | given => .error (.notIterable given.typeName)

/-- The tensor that nested sequences of numbers give. Nothing is read if one of the lengths is
zero. -/
def Tensor.ofValue {α : Type} (element : Value → Except Fault α) (blank : α) (given : Value) :
    Except Fault (Tensor α) :=
  let shape := shapeOf given
  if volume shape = 0 then .ok (.ofElements shape blank [])
  else (elementsOf element shape given).map (.ofElements shape blank)

end ConstrainedDecoding
