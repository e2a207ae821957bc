import ConstrainedDecoding.Value.Convert

/-!
Reading named fields. Descriptions are read leniently: a mapping by key, any other value by
attribute, and a field that is null counts as absent. Records are mappings, and whatever else stands
in for one is refused.
-/

namespace ConstrainedDecoding.Value

/-- An attribute of a value that is not a mapping. Texts and byte strings have the attributes that
trim them, which are functions. -/
def attribute? : Value → String → Option Value
  | object attributes, name => Keyed.get? attributes name
  | text _, name | bytes _, name =>
    if name = "lstrip" ∨ name = "rstrip" then some (function null) else none
  | _, _ => none

/-- A named field of a value, null and absent fields apart from no others. -/
def field? (source : Value) (name : String) : Option Value :=
  let found := match source.entries? with
    | some entries => lookup entries name
    | none => source.attribute? name
  match found with
  | some null | none => none
  | some value => some value

/-- A named field of a value, null where there is none. -/
def field (source : Value) (name : String) : Value :=
  (source.field? name).getD null

/-! ## Records -/

/-- A member of a mapping, which must be there. -/
def member (source : Value) (name : String) : Except Fault Value :=
  match source.entries? with
  | some entries =>
    match lookup entries name with
    | some found => .ok found
    | none => .error (.noKey (Text.quoted name))
  | none => .error (.notIndexable source.typeName)

/-- A member of a mapping, or another value where it is absent. -/
def memberOr (source : Value) (name : String) (otherwise : Value) : Except Fault Value :=
  match source.entries? with
  | some entries => .ok ((lookup entries name).getD otherwise)
  | none => .error (source.methodFault "get")

/-- A member of a mapping, null where it is absent. -/
def memberOrNull (source : Value) (name : String) : Except Fault Value :=
  source.memberOr name null

/-- Whether a text occurs in another. -/
def occursIn (part : List Char) : List Char → Bool
  | [] => part.isEmpty
  | c :: rest => part.isPrefixOf (c :: rest) || occursIn part rest

/-- Whether a value holds a text: as a key, an item or a part of a text. -/
def holds (source : Value) (part : String) : Except Fault Bool :=
  match source with
  | dict entries | view entries => .ok (Keyed.has entries (text part))
  | list items | tuple items => .ok (items.any (· == text part))
  | text given => .ok (occursIn part.toList given.toList)
  | given => .error (.notContainer given.typeName)

end ConstrainedDecoding.Value
