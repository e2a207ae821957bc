import ConstrainedDecoding.Keyed

/-!
Header fields. Their names are compared without regard to case; a name that occurs more than once
has all its values, joined by commas. Names and values have to be ASCII.
-/

namespace ConstrainedDecoding.Http

abbrev Headers := List (String × String)

namespace Headers

/-- Whether two names are the same but for case. -/
def sameName (left right : String) : Bool :=
  left.toList.map Char.toLower == right.toList.map Char.toLower

/-- The value of a field. -/
def get? (headers : Headers) (name : String) : Option String :=
  match headers.filter (sameName name ·.1) with
  | [] => none
  | found => some (", ".intercalate (found.map Prod.snd))

def has (headers : Headers) (name : String) : Bool :=
  headers.any (sameName name ·.1)

/-- The fields without one. -/
def erase (headers : Headers) (name : String) : Headers :=
  headers.filter (!sameName name ·.1)

/-- The fields with one set to a single value. -/
def set (headers : Headers) (name value : String) : Headers :=
  headers.erase name ++ [(name, value)]

/-- Whether all names and values are ASCII. -/
def isAscii (headers : Headers) : Bool :=
  headers.all fun (name, value) =>
    name.toList.all (·.toNat < 0x80) && value.toList.all (·.toNat < 0x80)

/-! ## Looking up what was erased -/

theorem has_erase (headers : Headers) (name : String) : (headers.erase name).has name = false := by
  simp [has, erase, sameName]

end Headers

end ConstrainedDecoding.Http
