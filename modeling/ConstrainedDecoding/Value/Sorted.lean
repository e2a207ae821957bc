import ConstrainedDecoding.Value.Equality

/-!
Values in ascending order. Values are put into place one by one: the front that already ascends or
descends is taken as it is, the one that descends turned round, and every further value is inserted
behind all that it is not less than, which is found by halving. With numbers that are in no order
the result depends on these steps, so they are part of what sorting means here.
-/

namespace ConstrainedDecoding.Value

/-- How many items at the front go on in one direction, where the answer to "is it less than the one
before" stays the same; `before` is the item in front of them. -/
def runLength (descends : Bool) (before : Value) : List Value → Except Fault Nat
  | [] => .ok 0
  | item :: rest => do
    if (← item.isLess before) = descends then return (← runLength descends item rest) + 1
    else return 0

/-- The front that ascends or strictly descends, in ascending order, and the items after it. -/
def firstRun : List Value → Except Fault (List Value × List Value)
  | [] => .ok ([], [])
  | [item] => .ok ([item], [])
  | first :: second :: rest => do
    let descends ← second.isLess first
    let more ← runLength descends second rest
    let run := first :: second :: rest.take more
    return (if descends then run.reverse else run, rest.drop more)

/-- The place of a value among sorted items between two places: in front of the item that halving
ends at. The fuel bounds the number of halvings. -/
def placeIn (sorted : Array Value) (item : Value) :
    (fuel low high : Nat) → Except Fault Nat
  | 0, low, _ => .ok low
  | fuel + 1, low, high =>
    if low < high then do
      let middle := (low + high) / 2
      match sorted[middle]? with
      | none => return low
      | some other =>
        if ← item.isLess other then placeIn sorted item fuel low middle
        else placeIn sorted item fuel (middle + 1) high
    else .ok low

/-- The sorted items with another one in its place. -/
def insertSorted (sorted : List Value) (item : Value) : Except Fault (List Value) := do
  let place ← placeIn sorted.toArray item sorted.length 0 sorted.length
  return sorted.take place ++ item :: sorted.drop place

/-- The values in ascending order, if those that are put side by side can be compared. -/
def sorted (values : List Value) : Except Fault (List Value) := do
  let (run, rest) ← firstRun values
  rest.foldlM insertSorted run

end ConstrainedDecoding.Value
