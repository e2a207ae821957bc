import ConstrainedDecoding.Json.Reader
import ConstrainedDecoding.Scripted.Network
import ConstrainedDecoding.Stack
import ConstrainedDecoding.Value.Encode

/-!
The surroundings in which scripts are run: networks that follow a script, and the room for nested
values, which is the same at all places there. A script is a JSON text, except that its integers may
have any number of digits: a live value may well hold an integer that no JSON text can.
-/

namespace ConstrainedDecoding

/-- The levels that are left where scripts are run. -/
def Scripted.usualLevels : Nat := 990

namespace Scripted.Room

/-- The same room at every place. -/
scoped instance usual : Stack where
  levels _ := usualLevels

end Scripted.Room

/-! ## Scripts with long integers -/

namespace Scripted

/-- Stands before the digits of a long integer. Private use, so that no script means it. -/
def longMark : Char := Char.ofNat 0xf0000

def isNumeric (c : Char) : Bool :=
  Json.isDigit c || c = '.' || c = 'e' || c = 'E' || c = '+' || c = '-'

/-- A number as it is written, but in quotes and after the mark if it is a long integer. -/
def markNumber (sign : Char) (written : List Char) : List Char :=
  if maxIntegerDigits ≤ written.length && written.all Json.isDigit then
    '"' :: longMark :: sign :: written ++ ['"']
  else sign :: written

/-- Marks the long integers of a script. -/
def markLong (inText : Bool) (chars : List Char) : List Char :=
  match chars with
  | [] => []
  | '\\' :: c :: rest => '\\' :: c :: markLong inText rest
  | '"' :: rest => '"' :: markLong (!inText) rest
  | c :: rest =>
    if !inText && isNumeric c then
      markNumber c (rest.takeWhile isNumeric) ++ markLong false (rest.dropWhile isNumeric)
    else c :: markLong inText rest
termination_by chars.length
decreasing_by
  all_goals simp only [List.length_cons]
  all_goals try omega
  exact Nat.lt_succ_of_le (List.dropWhile_suffix isNumeric).length_le

/-- The value of a text, which is a long integer if it is marked as one. -/
def unmark (content : String) : Json :=
  match content.toList with
  | first :: sign :: digits =>
    if first ≠ longMark then .text content
    else if sign = '-' then .int (-(Json.digitsValue digits : Int))
    else .int (Json.digitsValue (sign :: digits))
  | _ => .text content

mutual

/-- Puts the long integers of a script back. -/
def restore : Json → Json
  | .text content => unmark content
  | .array items => .array (restoreItems items)
  | .object members => .object (restoreMembers members)
  | other => other

def restoreItems : List Json → List Json
  | [] => []
  | item :: rest => restore item :: restoreItems rest

def restoreMembers : List (String × Json) → List (String × Json)
  | [] => []
  | (name, value) :: rest => (name, restore value) :: restoreMembers rest

end

end Scripted

/-- Reads a script. -/
def Json.read (text : String) : Except ReadError Json :=
  (readWithin Scripted.usualLevels (String.ofList (Scripted.markLong false text.toList))).map
    Scripted.restore

/-! ## Values in scripts -/

/-- The JSON form of a value as scripts see it. -/
def Value.toJson (value : Value) : Except Fault Json :=
  value.toJsonWithin Scripted.usualLevels

/-- The JSON text of a value as scripts see it. -/
def Value.render (value : Value) : Except Fault String :=
  value.toJson.map Json.render

end ConstrainedDecoding
