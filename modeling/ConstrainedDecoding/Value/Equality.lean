import ConstrainedDecoding.Keyed
import ConstrainedDecoding.Text.Half
import ConstrainedDecoding.Value.Basic

/-!
Equality and order of values as keys. Truth values, integers and floating-point numbers are one
family and are compared by what they amount to, so that `true`, `1` and `1.0` are the same key.
-/

namespace ConstrainedDecoding

/-- A number of any kind, by what it amounts to. -/
inductive Amount
  | undefined
  | infinite (negative : Bool)
  | quotient (numerator : Int) (denominator : Nat)
  deriving DecidableEq, Repr

namespace Amount

/-- Order of amounts. What is not a number is in no order. -/
def compare? : Amount → Amount → Option Ordering
  | undefined, _ | _, undefined => none
  | infinite a, infinite b => some (compare b.toNat a.toNat)
  | infinite negative, quotient _ _ => some (if negative then .lt else .gt)
  | quotient _ _, infinite negative => some (if negative then .gt else .lt)
  | quotient a b, quotient c d => some (compare (a * d) (c * b))

end Amount

namespace Value

/-- What a number amounts to. -/
def amount? : Value → Option Amount
  | bool value => some (.quotient value.toInt 1)
  | int value => some (.quotient value 1)
  | float value =>
    some (if value.isNaN then .undefined
      else if value.isInfinite then .infinite value.negative
      else .quotient (if value.negative then -value.ratio.1 else value.ratio.1) value.ratio.2)
  | _ => none

mutual

/-- Whether two values are the same key. -/
def same : Value → Value → Bool
  | null, null => true
  | text a, text b => a == b
  | bytes a, bytes b => a == b
  | list a, list b => sameItems a b
  | tuple a, tuple b => sameItems a b
  | a, b =>
    match a.amount?, b.amount? with
    | some x, some y => x.compare? y == some .eq
    | _, _ => false

/-- Whether two sequences are the same, item by item. -/
def sameItems : List Value → List Value → Bool
  | [], [] => true
  | a :: as, b :: bs => same a b && sameItems as bs
  | _, _ => false

end

instance : BEq Value := ⟨same⟩

mutual

/-- Whether a value is less than another one of its family; values of different families are in no
order. What is not a number is less than nothing, and nothing is less than it. -/
def less? : Value → Value → Option Bool
  | text a, text b => some (compare (a.toList.map Text.codeOf) (b.toList.map Text.codeOf) == .lt)
  | bytes a, bytes b => some (compare (a.map UInt8.toNat) (b.map UInt8.toNat) == .lt)
  | list a, list b => lessItems? a b
  | tuple a, tuple b => lessItems? a b
  | a, b =>
    match a.amount?, b.amount? with
    | some x, some y => some (x.compare? y == some .lt)
    | _, _ => none

/-- Whether a sequence is less than another one, which the first items that differ decide. -/
def lessItems? : List Value → List Value → Option Bool
  | [], rest => some !rest.isEmpty
  | _ :: _, [] => some false
  | a :: as, b :: bs => if same a b then lessItems? as bs else less? a b

end

/-- Whether a value is less than another one, which must be in some order with it. -/
def isLess (a b : Value) : Except Fault Bool :=
  match less? a b with
  | some answer => .ok answer
  | none => .error .notComparable

mutual

/-- Whether a value can be a key: sequences and mappings that can change cannot. -/
def isHashable : Value → Bool
  | list _ | dict _ | view _ | object _ => false
  | tuple items => allHashable items
  | _ => true

/-- Whether every item can be a key. -/
def allHashable : List Value → Bool
  | [] => true
  | item :: rest => isHashable item && allHashable rest

end

/-- The value of a mapping's text key. -/
def lookup (entries : List (Value × Value)) (name : String) : Option Value :=
  Keyed.get? entries (text name)

end Value

end ConstrainedDecoding
