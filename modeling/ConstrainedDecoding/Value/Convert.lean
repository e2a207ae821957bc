import ConstrainedDecoding.Number.Integer
import ConstrainedDecoding.Value.Display
import ConstrainedDecoding.Value.Equality

/-!
Conversions of values to integers, sequences and pairs. Each refuses what it cannot convert with a
fault that says why.
-/

namespace ConstrainedDecoding.Value

/-- The integer a value stands for. A fraction is cut off; a text must be a numeral. -/
def toInteger : Value → Except Fault Int
  | bool value => .ok value.toInt
  | int value => .ok value
  | float value =>
    if value.isNaN then .error .notFinite
    else if value.isInfinite then .error .infiniteInteger
    else .ok value.truncate
  | text value =>
    match readInteger? value with
    | some number => .ok number
    | none => .error (.badNumeral (Text.quoted value))
  | bytes value =>
    match readIntegerBytes? value with
    | some number => .ok number
    | none => .error (.badNumeral (Text.quotedBytes value))
  | value => .error (.notNumeric value.typeName)

/-- The items a value runs through: the characters of a text, the numbers of a byte string, the keys
of a mapping. -/
def items : Value → Except Fault (List Value)
  | text value => .ok (value.toList.map fun c => text (String.singleton c))
  | bytes value => .ok (value.map fun byte => int byte.toNat)
  | list items | tuple items => .ok items
  | dict entries | view entries => .ok (Keyed.keys entries)
  | value => .error (.notIterable value.typeName)

/-- The two items of a pair. -/
def pair (value : Value) : Except Fault (Value × Value) := do
  match ← value.items with
  | [first, second] => .ok (first, second)
  | _ => .error .wrongCount

/-- The result of calling a function. -/
def call : Value → Except Fault Value
  | function result => .ok result
  | failing kind message => .error (.reported kind message)
  | value => .error (.notCallable value.typeName)

/-! ## Methods -/

/-- The result of calling a method of an object that takes no arguments. -/
def callMethod (source : Value) (name : String) : Except Fault Value :=
  match source with
  | object attributes =>
    match Keyed.get? attributes name with
    | some method => method.call
    | none => .error (.noAttribute source.typeName name)
  | _ => .error (.noAttribute source.typeName name)

/-- What goes wrong when a method of mappings or texts is called with arguments on another value. An
object may have the method, but none that takes arguments. -/
def methodFault (source : Value) (name : String) : Fault :=
  match source with
  | object attributes =>
    if Keyed.has attributes name then .wrongArguments else .noAttribute source.typeName name
  | _ => .noAttribute source.typeName name

/-! ## Plain mappings -/

/-- The plain mapping that a sequence of pairs amounts to. -/
def pairsToEntries (value : Value) : Except Fault (List (Value × Value)) := do
  let pairs ← (← value.items).mapM fun item => do
    let (key, value) ← item.pair
    if key.isHashable then return (key, value) else .error (.notHashable key.typeName)
  return Keyed.ofList pairs

/-- The plain mapping that a value amounts to: a mapping, or a sequence of pairs. An object that
lists keys has to have none, as there is no looking them up in it. -/
def toEntries (value : Value) : Except Fault (List (Value × Value)) :=
  match value with
  | dict entries | view entries => .ok entries
  | object attributes =>
    if Keyed.has attributes "keys" then do
      if (← (← value.callMethod "keys").items).isEmpty then return []
      else .error (.notIndexable value.typeName)
    else pairsToEntries value
  | _ => pairsToEntries value

end ConstrainedDecoding.Value
