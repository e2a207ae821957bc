import ConstrainedDecoding.Fault
import ConstrainedDecoding.Masking.Score
import ConstrainedDecoding.Masking.Tensor

/-!
Masking of scores. A forbidden token gets a score of negative infinity. Either one token keeps its
score, or all tokens that a mask allows do; a token beyond the end of the mask is not allowed.
-/

namespace ConstrainedDecoding

variable {α : Type} [Score α]

/-- The element that forbids a token, which the element type must have. -/
def forbidden : Except Fault α :=
  match (Score.forbidden? : Option α) with
  | some element => .ok element
  | none => .error .lossyFill

namespace Tensor

/-- The fault of an index that no element has. An index is a machine word. -/
def indexFault (index : Int) : Fault :=
  if index = (BitVec.ofInt 64 index).toInt then .badIndex else .badElementIndex

/-- The scores of one token, with all others forbidden. The token is an index of the first
dimension; negative indices count from its end. -/
def maskAllExcept (scores : Tensor α) (token : Int) : Except Fault (Tensor α) := do
  let blank ← forbidden
  match scores.shape with
  | [] => .error (indexFault token)
  | count :: rest =>
    let index := if token < 0 then token + count else token
    if 0 ≤ index ∧ index < count then
      .ok (scores.mapPosition fun position score =>
        if position / volume rest = index.toNat then score else blank)
    else .error (indexFault token)

/-- The scores that a mask allows, with all others forbidden; the mask applies along the last
dimension. -/
def applyMask (scores : Tensor α) (mask : List Bool) : Except Fault (Tensor α) := do
  match scores.shape.getLast? with
  | none => .error .badIndex
  | some width =>
    let blank ← forbidden
    let allowed := mask.toArray
    .ok (scores.mapPosition fun position score =>
      if allowed.getD (position % width) false then score else blank)

/-- The mask that a tensor gives for so many tokens. A tensor of several dimensions passes for a
vector if it has one row only. -/
def toMask {β : Type} [Score β] (mask : Tensor β) (width : Nat) : Except Fault (List Bool) :=
  match mask.shape with
  | [] => .error .badIndex
  | [_] => .ok (mask.elements.map Score.isSet)
  | first :: rest =>
    let used := min (mask.shape.getLastD 0) width
    let row := (min first used :: rest).dropWhile (· = 1)
    let flags := mask.elements.map Score.isSet
    match row with
    | [] => .ok (List.replicate used (flags.headD false))
    | [length] => if length = used then .ok flags else .error .shapeMismatch
    | _ => .error .shapeMismatch

/-- The scores that a mask tensor allows. -/
def applyMaskTensor {β : Type} [Score β] (scores : Tensor α) (mask : Tensor β) :
    Except Fault (Tensor α) := do
  match scores.shape.getLast? with
  | none => .error .badIndex
  | some width => scores.applyMask (← mask.toMask width)

end Tensor

end ConstrainedDecoding
