import ConstrainedDecoding.Json.Basic
import ConstrainedDecoding.Number.Shortest
import ConstrainedDecoding.Text.Hex

/-!
The written form of a JSON value: items are separated by a comma and a space, names by a colon and a
space, and only quotes, backslashes and control characters are escaped.
-/

namespace ConstrainedDecoding.Json

/-- One character inside a text literal. -/
def escapeChar (c : Char) : List Char :=
  if c = '"' then ['\\', '"']
  else if c = '\\' then ['\\', '\\']
  else if c = '\n' then ['\\', 'n']
  else if c = '\r' then ['\\', 'r']
  else if c = '\t' then ['\\', 't']
  else if c = '\x08' then ['\\', 'b']
  else if c = '\x0c' then ['\\', 'f']
  else if c.toNat < 0x20 then '\\' :: 'u' :: Text.hexDigits 4 c.toNat
  else [c]

/-- A text literal with its quotes. -/
def writeText (value : String) : List Char :=
  '"' :: (value.toList.flatMap escapeChar ++ ['"'])

/-- A floating-point number. -/
def floatText (value : Binary .double) : String :=
  value.text "Infinity" "NaN"

mutual

/-- The written form of a value. -/
def write : Json → List Char
  | null => ['n', 'u', 'l', 'l']
  | bool true => ['t', 'r', 'u', 'e']
  | bool false => ['f', 'a', 'l', 's', 'e']
  | int value => (toString value).toList
  | float value => (floatText value).toList
  | text value => writeText value
  | array items => '[' :: (writeItems items ++ [']'])
  | object members => '{' :: (writeMembers members ++ ['}'])

/-- Array items with their separators. -/
def writeItems : List Json → List Char
  | [] => []
  | [item] => write item
  | item :: rest => write item ++ ',' :: ' ' :: writeItems rest

/-- Object members with their separators. -/
def writeMembers : List (String × Json) → List Char
  | [] => []
  | [(name, value)] => writeText name ++ ':' :: ' ' :: write value
  | (name, value) :: rest =>
    writeText name ++ ':' :: ' ' :: (write value ++ ',' :: ' ' :: writeMembers rest)

end

/-- The text of a value. -/
def render (value : Json) : String :=
  String.ofList value.write

end ConstrainedDecoding.Json
