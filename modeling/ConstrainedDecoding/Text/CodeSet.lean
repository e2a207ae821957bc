/-!
Sets of characters given as ranges of code points, the form in which Unicode states its
properties.
-/

namespace ConstrainedDecoding.Text

/-- A set of characters, as closed ranges of code points. -/
abbrev CodeSet := List (Nat × Nat)

/-- Whether one of the ranges holds the character. -/
def CodeSet.has (set : CodeSet) (c : Char) : Bool :=
  set.any fun range => range.1 ≤ c.toNat && c.toNat ≤ range.2

end ConstrainedDecoding.Text
