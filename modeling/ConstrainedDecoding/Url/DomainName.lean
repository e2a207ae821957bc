import ConstrainedDecoding.Url.Label.Basic
import ConstrainedDecoding.Url.Punycode

/-!
International host names. A name is a row of labels with dots between them, and perhaps one behind
them; in its ASCII form each label with characters beyond ASCII is encoded and marked as such. Names
are read in either form, and the labels of either have to be such as could be written in the other.
-/

namespace ConstrainedDecoding.DomainName

/-- The mark of an encoded label. -/
def mark : List Char := "xn--".toList

/-- Whether a label is marked as encoded. -/
def isMarked (label : List Char) : Bool :=
  mark.isPrefixOf label

/-- A label of a name in its readable form. -/
def readLabel (label : List Char) : Except LabelError (List Char) := do
  if isMarked label ∧ label.all Punycode.isAscii then
    let encoded := label.drop mark.length
    if encoded.isEmpty ∨ encoded.getLast? = some '-' then .error .malformed
    match Punycode.decode? encoded with
    | none => .error .malformed
    | some plain =>
      Label.check plain
      return plain
  else
    Label.check label
    return label

/-- The longest label in ASCII. -/
def maxLabelLength : Nat := 63

/-- A label of a name in its ASCII form. -/
def writeLabel (label : List Char) : Except LabelError (List Char) := do
  let _ ← readLabel label
  let written := if label.all Punycode.isAscii then label else mark ++ Punycode.encode label
  if maxLabelLength < written.length then .error .malformed
  return written

/-- Characters that divide a host name into labels. -/
def isDot (c : Char) : Bool :=
  c = '.' || c = '\u3002' || c = '\uff0e' || c = '\uff61'

/-- The longest host name, without a dot at its end. -/
def maxLength : Nat := 253

/-- A name with each label in another form. -/
def mapLabels (change : List Char → Except LabelError (List Char)) (name : List Char) :
    Except LabelError (List Char) := do
  if maxLength + 1 < name.length then .error .malformed
  let labels := name.splitOnP isDot
  let (named, trailing) := match labels.getLast? with
    | some [] => (labels.dropLast, [[]])
    | _ => (labels, [])
  if named.isEmpty then .error .malformed
  return (List.intersperse ['.'] ((← named.mapM change) ++ trailing)).flatten

/-- A name in its readable form. -/
def read (name : List Char) : Except LabelError (List Char) :=
  mapLabels readLabel name

/-- A name in its ASCII form. -/
def write (name : List Char) : Except LabelError (List Char) := do
  let written ← mapLabels writeLabel name
  if (if written.getLast? = some '.' then maxLength + 1 else maxLength) < written.length then
    .error .malformed
  return written

end ConstrainedDecoding.DomainName
