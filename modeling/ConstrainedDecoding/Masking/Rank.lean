import ConstrainedDecoding.Bitmask
import ConstrainedDecoding.Fault
import ConstrainedDecoding.Masking.Score
import ConstrainedDecoding.Masking.Tensor

/-!
Ranking of tokens by their scores: the highest score first, and the lower id first among equal
scores.
-/

namespace ConstrainedDecoding

variable {α : Type} [Score α]

/-- The ids of a score vector in order of preference. -/
def rankOrder (scores : List α) : List Nat :=
  (scores.zipIdx.mergeSort fun a b => Score.rankKey b.1 ≤ Score.rankKey a.1).map Prod.snd

/-- The first ids of a score vector in order of preference. -/
def topRanked (scores : List α) (count : Nat) : List Nat :=
  (rankOrder scores).take count

namespace Tensor

/-- The elements in runs of a given length. -/
def runs {β : Type} (length : Nat) (elements : List β) : (count : Nat) → List (List β)
  | 0 => []
  | count + 1 => elements.take length :: runs length (elements.drop length) count

/-- The order of preference along the last dimension, cut to so many rows of the first. A negative
count leaves out rows at the end. A tensor without dimensions has no rows. -/
def rank (tensor : Tensor α) (count : Int) : Except Fault (Tensor Nat) :=
  match tensor.shape with
  | [] => .error .badIndex
  | first :: rest =>
    let last := tensor.shape.getLastD 1
    let rows := volume tensor.shape / last
    let order := (runs last tensor.elements rows).flatMap rankOrder
    let kept := (Bitmask.takeSigned count (List.range first)).length
    .ok (ofElements (kept :: rest) 0 order)

end Tensor

end ConstrainedDecoding
