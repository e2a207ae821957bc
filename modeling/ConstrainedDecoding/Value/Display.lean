import ConstrainedDecoding.Number.Integer
import ConstrainedDecoding.Number.Shortest
import ConstrainedDecoding.Text.Quoted
import ConstrainedDecoding.Value.Basic

/-!
Values as messages and names show them. A text shows as itself on its own and in quotes inside
anything else; likewise a mapping that can only be read shows its entries on its own and says what
it is inside anything else. An integer with too many digits cannot be shown, and neither can a value
nested deeper than there are levels left.
-/

namespace ConstrainedDecoding.Value

mutual

/-- The display form of a value. -/
def display : Value → String
  | null => "None"
  | bool value => if value then "True" else "False"
  | int value => toString value
  | float value => value.text "inf" "nan"
  | text value => Text.quoted value
  | bytes value => Text.quotedBytes value
  | list items => "[" ++ ", ".intercalate (displayItems items) ++ "]"
  | tuple items =>
    match displayItems items with
    | [item] => "(" ++ item ++ ",)"
    | shown => "(" ++ ", ".intercalate shown ++ ")"
  | dict entries => "\x7b" ++ ", ".intercalate (displayEntries entries) ++ "\x7d"
  | view entries => "mappingproxy(\x7b" ++ ", ".intercalate (displayEntries entries) ++ "\x7d)"
  | object attributes => "namespace(" ++ ", ".intercalate (displayAttributes attributes) ++ ")"
  | function _ | failing _ _ => "<function>"

/-- The display forms of the items of a sequence. -/
def displayItems : List Value → List String
  | [] => []
  | item :: rest => display item :: displayItems rest

/-- The display forms of the entries of a mapping. -/
def displayEntries : List (Value × Value) → List String
  | [] => []
  | (key, value) :: rest => (display key ++ ": " ++ display value) :: displayEntries rest

/-- The display forms of the attributes of an object. An attribute without a name is not shown. -/
def displayAttributes : List (String × Value) → List String
  | [] => []
  | (name, value) :: rest =>
    if name.isEmpty then displayAttributes rest
    else (name ++ "=" ++ display value) :: displayAttributes rest

end

/-- The text a value stands for: a text itself, a mapping of either form its entries, any other
value its display form. -/
def toText : Value → String
  | text value => value
  | view entries => (dict entries).display
  | value => value.display

/-! ## What cannot be shown -/

mutual

/-- What keeps a value from being shown where `levels` more levels are left, if anything does: the
first integer with too many digits or the first value that is nested too deep. -/
def showFault? (levels : Nat) : Value → Option Fault
  | null | bool _ | float _ | text _ | bytes _ | function _ | failing _ _ =>
    if levels = 0 then some .deepDisplay else none
  | int value =>
    if levels = 0 then some .deepDisplay
    else if hasFewDigits value then none else some .longInteger
  | list items | tuple items =>
    if levels = 0 then some .deepDisplay else itemsFault? (levels - 1) items
  | dict entries => if levels = 0 then some .deepDisplay else entriesFault? (levels - 1) entries
  -- the mapping that is viewed takes a level of its own
  | view entries => if levels ≤ 1 then some .deepDisplay else entriesFault? (levels - 2) entries
  | object attributes =>
    if levels = 0 then some .deepDisplay else attributesFault? (levels - 1) attributes

/-- What keeps the items of a sequence from being shown. -/
def itemsFault? (levels : Nat) : List Value → Option Fault
  | [] => none
  | item :: rest => (showFault? levels item).or (itemsFault? levels rest)

/-- What keeps the entries of a mapping from being shown. -/
def entriesFault? (levels : Nat) : List (Value × Value) → Option Fault
  | [] => none
  | (key, value) :: rest =>
    ((showFault? levels key).or (showFault? levels value)).or (entriesFault? levels rest)

/-- What keeps the attributes of an object from being shown. -/
def attributesFault? (levels : Nat) : List (String × Value) → Option Fault
  | [] => none
  | (name, value) :: rest =>
    (if name.isEmpty then none else showFault? levels value).or (attributesFault? levels rest)

end

/-- A text about a value, unless the value cannot be shown. -/
def shown (levels : Nat) (value : Value) (content : String) : Except Fault String :=
  match value.showFault? levels with
  | some fault => .error fault
  | none => .ok content

/-- The display form of a value, if it can be shown where `levels` more levels are left. -/
def repr (levels : Nat) (value : Value) : Except Fault String :=
  value.shown levels value.display

/-- The text a value stands for. A text always stands for itself. -/
def str (levels : Nat) : Value → Except Fault String
  | text value => .ok value
  | value => value.shown levels value.toText

end ConstrainedDecoding.Value
