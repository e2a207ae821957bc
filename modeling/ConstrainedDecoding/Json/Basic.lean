import ConstrainedDecoding.Number.Binary

/-!
JSON values. Integers and floating-point numbers are kept apart, since their texts differ, and the
members of an object keep their order.
-/

namespace ConstrainedDecoding

/-- A JSON value. The numbers include infinities and values that are not numbers. -/
inductive Json
  | null
  | bool (value : Bool)
  | int (value : Int)
  | float (value : Binary .double)
  | text (value : String)
  | array (items : List Json)
  | object (members : List (String × Json))
  deriving Inhabited

end ConstrainedDecoding
