import ConstrainedDecoding.Text.Composition
import ConstrainedDecoding.Url.Label.Direction
import ConstrainedDecoding.Url.Label.Joining
import ConstrainedDecoding.Url.Label.Plain

/-!
Labels of international host names. A label is in composed form, has no hyphen at its ends nor third
and fourth, starts with no mark, holds only letters, digits and marks and a few signs that depend on
what stands beside them, and is written in one direction. `Label.check` refuses any other text and
says what kind of rule it breaks.
-/

namespace ConstrainedDecoding

/-- What kind of rule a label breaks. -/
inductive LabelError
  /-- It is empty, too long, in another form or misspelled. -/
  | malformed
  /-- It holds a character that no label may hold. -/
  | character
  /-- It holds a sign where the sign may not stand. -/
  | context
  /-- It mixes directions of writing. -/
  | direction
  deriving DecidableEq, Repr

namespace Label

/-! ## Signs that depend on what stands beside them -/

/-- Two characters that change how letters join, and have no form themselves. -/
def isJoiner (c : Char) : Bool :=
  c = '\u200c' || c = '\u200d'

/-- Whether a joiner may stand between characters, those before it given last first: behind a
virama, or, if it keeps letters apart, between two that would join. -/
def joinerFits (joiner : Char) (before after : List Char) : Bool :=
  (before.head?.map Text.isVirama).getD false ||
    (joiner = '\u200c' && joinsInto forwardRanges before && joinsInto backwardRanges after)

/-- Whether a sign that depends on the characters beside it may stand there, none for a character
that is no such sign. Those before it are given last first. -/
def signFits? (sign : Char) (before after : List Char) : Option Bool :=
  let holds (set : Text.CodeSet) (c : Option Char) := (c.map set.has).getD false
  let within (low high : Char) := (before ++ after).any fun c => low ≤ c && c ≤ high
  if sign = '\u00b7' then some (before.head? = some 'l' && after.head? = some 'l')
  else if sign = '\u0375' then some (holds greek after.head?)
  else if sign = '\u05f3' ∨ sign = '\u05f4' then some (holds hebrew before.head?)
  else if sign = '\u30fb' then
    some ((before ++ after).any fun c => c ≠ sign && japanese.has c)
  else if '\u0660' ≤ sign ∧ sign ≤ '\u0669' then some !(within '\u06f0' '\u06f9')
  else if '\u06f0' ≤ sign ∧ sign ≤ '\u06f9' then some !(within '\u0660' '\u0669')
  else none

/-- Checks one character between others, those before it given last first. -/
def checkChar (c : Char) (before after : List Char) : Except LabelError Unit :=
  if isPlain c then .ok ()
  else if isJoiner c then
    if joinerFits c before after then .ok () else .error .malformed
  else
    match signFits? c before after with
    | some true => .ok ()
    | some false => .error .context
    | none => .error .character

/-- Checks the characters behind others, which are given last first. -/
def checkChars (before : List Char) : List Char → Except LabelError Unit
  | [] => .ok ()
  | c :: rest => do
    checkChar c before rest
    checkChars (c :: before) rest

/-! ## Direction -/

/-- Directions that may occur beside letters from left to right. -/
def besideLeftToRight (direction : Direction) : Bool :=
  direction ≠ .rightToLeft && direction ≠ .arabicDigit

/-- Directions that may occur beside letters from right to left. -/
def besideRightToLeft (direction : Direction) : Bool :=
  direction ≠ .leftToRight

/-- Directions in which a label may end, but for marks. -/
def mayEnd (direction : Direction) : Bool :=
  direction ≠ .neutral && direction ≠ .mark

/-- Whether the characters of a label go together. Only a label with something written from right to
left is restricted: it starts with a letter, keeps to one direction, and uses digits of one kind. -/
def isOneDirection (label : List Char) : Bool :=
  let directions := label.map direction
  let isBound (direction : Direction) := direction = .rightToLeft || direction = .arabicDigit
  let ends := ((directions.reverse.dropWhile (· = .mark)).head?.map mayEnd).getD false
  if directions.contains .unknown then false
  else if !directions.any isBound then true
  else
    match directions.head? with
    | some .rightToLeft =>
      directions.all besideRightToLeft && ends &&
        !(directions.contains .digit && directions.contains .arabicDigit)
    | some .leftToRight => directions.all besideLeftToRight && ends
    | _ => false

/-! ## Labels -/

/-- Whether hyphens stand where they may not. -/
def isHyphenated (label : List Char) : Bool :=
  (label.drop 2).take 2 = ['-', '-'] || label.head? = some '-' || label.getLast? = some '-'

/-- The longest host name, with a dot at its end. -/
def maxLength : Nat := 254

/-- Checks a label. -/
def check (label : List Char) : Except LabelError Unit := do
  if label.isEmpty ∨ maxLength < label.length ∨ !Text.isComposed label ∨ isHyphenated label ∨
      (label.head?.map Text.isMark).getD false then .error .malformed
  checkChars [] label
  if !isOneDirection label then .error .direction

end Label

end ConstrainedDecoding
