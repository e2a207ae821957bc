import ConstrainedDecoding.Fault
import ConstrainedDecoding.Number.Binary

/-!
Values in which tokenizers are described. Besides the shapes that JSON has, a description may hold
byte strings, tuples, mappings with arbitrary keys, objects with named attributes, and functions of
no arguments, which is how live tokenizers present themselves.
-/

namespace ConstrainedDecoding

/-- A value of a tokenizer description. -/
inductive Value
  | null
  | bool (value : Bool)
  | int (value : Int)
  | float (value : Binary .double)
  | text (value : String)
  | bytes (value : List UInt8)
  | list (items : List Value)
  | tuple (items : List Value)
  /-- A mapping in plain form: distinct keys in the order of their first appearance. -/
  | dict (entries : List (Value × Value))
  /-- A mapping that can only be read. -/
  | view (entries : List (Value × Value))
  | object (attributes : List (String × Value))
  /-- A function of no arguments that returns a value. -/
  | function (result : Value)
  /-- A function of no arguments that fails. -/
  | failing (kind : FaultKind) (message : String)
  deriving Inhabited

namespace Value

/-- The name of a value's type, as messages give it. -/
def typeName : Value → String
  | null => "NoneType"
  | bool _ => "bool"
  | int _ => "int"
  | float _ => "float"
  | text _ => "str"
  | bytes _ => "bytes"
  | list _ => "list"
  | tuple _ => "tuple"
  | dict _ => "dict"
  | view _ => "mappingproxy"
  | object _ => "SimpleNamespace"
  | function _ | failing _ _ => "function"

/-- Whether a value counts as true: zeros, null and whatever is empty do not. -/
def truthy : Value → Bool
  | null => false
  | bool value => value
  | int value => value ≠ 0
  | float value => !value.isZero
  | text value => !value.isEmpty
  | bytes value => !value.isEmpty
  | list items | tuple items => !items.isEmpty
  | dict entries | view entries => !entries.isEmpty
  | object _ | function _ | failing _ _ => true

def isNull : Value → Bool
  | null => true
  | _ => false

/-- The entries of a mapping of either form. -/
def entries? : Value → Option (List (Value × Value))
  | dict entries | view entries => some entries
  | _ => none

def isMapping (value : Value) : Bool :=
  value.entries?.isSome

/-- Whether a value can be called. -/
def isCallable : Value → Bool
  | function _ | failing _ _ => true
  | _ => false

mutual

/-- The description that a JSON value gives. -/
def ofJson : Json → Value
  | .null => null
  | .bool value => bool value
  | .int value => int value
  | .float value => float value
  | .text value => text value
  | .array items => list (ofItems items)
  | .object members => dict (ofMembers members)

/-- The descriptions of array items. -/
def ofItems : List Json → List Value
  | [] => []
  | item :: rest => ofJson item :: ofItems rest

/-- The entries that object members give. -/
def ofMembers : List (String × Json) → List (Value × Value)
  | [] => []
  | (name, value) :: rest => (text name, ofJson value) :: ofMembers rest

end

end Value

end ConstrainedDecoding
