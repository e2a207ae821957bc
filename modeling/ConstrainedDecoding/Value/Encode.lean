import ConstrainedDecoding.Json.Writer
import ConstrainedDecoding.Value.Basic

/-!
Values as JSON. Tuples become arrays and keys become texts; byte strings, objects, functions and
mappings that can only be read have no JSON form, and neither have integers with too many digits and
arrays and objects nested deeper than a writer is told.
-/

namespace ConstrainedDecoding.Value

/-- The member name that a key becomes. -/
def memberName : Value → Except Fault String
  | text value => .ok value
  | int value => if hasFewDigits value then .ok (toString value) else .error .longInteger
  | float value => .ok (Json.floatText value)
  | bool value => .ok (if value then "true" else "false")
  | null => .ok "null"
  | key => .error (.keyNotEncodable key.typeName)

mutual

/-- The JSON form of a value where `depth` more arrays and objects may be nested. -/
def toJsonWithin (depth : Nat) : Value → Except Fault Json
  | null => .ok .null
  | bool value => .ok (.bool value)
  | int value => if hasFewDigits value then .ok (.int value) else .error .longInteger
  | float value => .ok (.float value)
  | text value => .ok (.text value)
  | list items | tuple items =>
    match depth with
    | 0 => .error .deepNesting
    | depth + 1 => (itemsToJson depth items).map .array
  | dict entries =>
    match depth with
    | 0 => .error .deepNesting
    | depth + 1 => (entriesToJson depth entries).map .object
  | bytes value => .error (.notEncodable (typeName (bytes value)))
  | view entries => .error (.notEncodable (typeName (view entries)))
  | object attributes => .error (.notEncodable (typeName (object attributes)))
  | function result => .error (.notEncodable (typeName (function result)))
  | failing kind message => .error (.notEncodable (typeName (failing kind message)))

/-- The JSON forms of the items of a sequence. -/
def itemsToJson (depth : Nat) : List Value → Except Fault (List Json)
  | [] => .ok []
  | item :: rest => do
    let first ← toJsonWithin depth item
    let others ← itemsToJson depth rest
    .ok (first :: others)

/-- The members that the entries of a mapping become. -/
def entriesToJson (depth : Nat) : List (Value × Value) → Except Fault (List (String × Json))
  | [] => .ok []
  | (key, value) :: rest => do
    let name ← memberName key
    let first ← toJsonWithin depth value
    let others ← entriesToJson depth rest
    .ok ((name, first) :: others)

end

/-- The JSON text of a value where `depth` arrays and objects may be nested. -/
def renderWithin (depth : Nat) (value : Value) : Except Fault String :=
  (value.toJsonWithin depth).map Json.render

end ConstrainedDecoding.Value
