import ConstrainedDecoding.Http.Exchange
import ConstrainedDecoding.Text.Charset.Names

/-!
The charset that a `Content-Type` field names, and the text of a response in that charset. A long or
foreign value of a parameter may come in numbered segments, and with escapes that are in a charset
of their own.
-/

namespace ConstrainedDecoding.Http

namespace ContentType

/-! ## Parameters -/

def isSpace (c : Char) : Bool :=
  Text.isAsciiBlank c || (0x1c ≤ c.toNat && c.toNat ≤ 0x1f)

def trim (content : List Char) : List Char :=
  Text.trimBoth isSpace content

/-- Puts a character before the first part. -/
def consFirst (c : Char) : List (List Char) → List (List Char)
  | [] => [[c]]
  | part :: parts => (c :: part) :: parts

/-- The parts of a value, which ends each at a semicolon outside quotes. A quote after a backslash
neither opens nor closes. -/
def parts (isQuoted isEscaped : Bool) : List Char → List (List Char)
  | [] => [[]]
  | c :: rest =>
    if c = ';' ∧ !isQuoted then [] :: parts false false rest
    else
      consFirst c (parts (if c = '"' ∧ !isEscaped then !isQuoted else isQuoted) (c = '\\') rest)

/-- What stands before and after the first of some character. -/
def cutAt? (mark : Char) : List Char → Option (List Char × List Char)
  | [] => none
  | c :: rest =>
    if c = mark then some ([], rest)
    else (cutAt? mark rest).map fun (before, after) => (c :: before, after)

/-- A text with one backslash in place of two. -/
def halveBackslashes : List Char → List Char
  | '\\' :: '\\' :: rest => '\\' :: halveBackslashes rest
  | c :: rest => c :: halveBackslashes rest
  | [] => []

/-- A text with quotes in place of those after a backslash. -/
def bareQuotes : List Char → List Char
  | '\\' :: '"' :: rest => '"' :: bareQuotes rest
  | c :: rest => c :: bareQuotes rest
  | [] => []

/-- A text without the quotes or the angle brackets around it. -/
def unquote (content : List Char) : List Char :=
  let inner := (content.drop 1).dropLast
  if content.length < 2 then content
  else if content.head? = some '"' ∧ content.getLast? = some '"' then
    bareQuotes (halveBackslashes inner)
  else if content.head? = some '<' ∧ content.getLast? = some '>' then inner
  else content

/-- A parameter by its name and its value without quotes. A part without an equals sign is all
name. -/
def parameter (part : List Char) : List Char × List Char :=
  match cutAt? '=' part with
  | some (name, value) => ((trim name).map Char.toLower, unquote (trim value))
  | none => (trim part, [])

/-! ## Segments -/

/-- A segment of a value: its number, unless it is the only one, its text and whether that has
escapes. -/
structure Segment where
  number : Option Nat
  text : String
  isEscaped : Bool
  deriving DecidableEq, Repr

def isWordChar (c : Char) : Bool :=
  c.isAlphanum || c = '_'

/-- The name of the parameter that a segment belongs to and the segment, if a parameter is one: its
name ends in an asterisk, with or without a number after it, and in a second asterisk if there is
a number and the text has escapes. -/
def segment? (name value : List Char) : Option (List Char × Segment) := do
  let (whole, suffix) ← cutAt? '*' name
  let digits := suffix.takeWhile Char.isDigit
  let after := suffix.dropWhile Char.isDigit
  let segment : Segment :=
    { number := if digits.isEmpty then none
        else some (digits.foldl (fun number digit => number * 10 + (digit.toNat - 48)) 0)
      text := String.ofList value
      isEscaped := name.getLast? = some '*' }
  if whole.isEmpty || !whole.all isWordChar then none
  else if after.isEmpty ∨ (after = ['*'] ∧ !digits.isEmpty) then some (whole, segment)
  else none

/-- Segments stand by number, then by text, and one with escapes after one without. -/
def Segment.isBefore (left right : Segment) : Bool :=
  ((compare (left.number.getD 0) (right.number.getD 0)).then <|
    (compare left.text right.text).then (compare left.isEscaped right.isEscaped)) != .gt

/-- The text of a segment. Its escapes stand for the characters of the same numbers. -/
def Segment.content (segment : Segment) : List Char :=
  if segment.isEscaped then
    (Percent.decodeBytes segment.text.toList).map fun byte => Char.ofNat byte.toNat
  else segment.text.toList

/-- The value of a parameter. With escapes it has a charset of its own, or none. -/
inductive Content
  | plain (text : List Char)
  | foreign (charset text : List Char)
  deriving DecidableEq, Repr

/-- The value that segments make up. One with escapes starts with a charset and a language, each
with an apostrophe after it. -/
def join (segments : List Segment) : Except Fault Content :=
  let sorted := segments.mergeSort Segment.isBefore
  let text := sorted.flatMap Segment.content
  if sorted.any (·.number.isNone) && sorted.any (·.number.isSome) then .error .notComparable
  else if !sorted.any (·.isEscaped) then .ok (.plain text)
  else
    match cutAt? '\'' text with
    | none => .ok (.foreign [] text)
    | some (charset, more) =>
      match cutAt? '\'' more with
      | none => .ok (.foreign [] text)
      | some (_, value) => .ok (.foreign charset value)

/-- The parameters of a value with segments put together, after those that need not be. What comes
first is the type itself and never a segment. -/
def parameters (value : List Char) : Except Fault (List (List Char × Content)) := do
  match (parts false false value).map parameter with
  | [] => return []
  | first :: others =>
    let whole := others.filter fun (name, value) => (segment? name value).isNone
    let segments := others.filterMap fun (name, value) => segment? name value
    let joined ← (segments.map Prod.fst).eraseDups.mapM fun name => do
      return (name, ← join ((segments.filter (·.1 = name)).map Prod.snd))
    return (first :: whole).map (fun (name, value) => (name, .plain value)) ++ joined

/-! ## Charsets -/

/-- The charset of a label, if it is known. A label cannot hold the character zero. -/
def find (label : List Char) : Except Fault (Option Text.Charset) :=
  if label.contains '\x00' then .error .nullInCharset else .ok (Text.charset? label)

/-- The label that a value holds. A value with a charset of its own counts as it is where that
charset does not fit. -/
def Content.label : Content → Except Fault (List Char)
  | plain text => .ok text
  | foreign charset text => do
    match ← find (if charset.isEmpty then "ascii".toList else charset) with
    | none => return text
    | some read =>
      match read (text.map fun c => UInt8.ofNat c.toNat) with
      | .ok reading => return reading.strict?.getD text
      | .error _ => return text

/-- The label of the charset that a value names. A label that is not ASCII does not count. -/
def label? (value : List Char) : Except Fault (Option (List Char)) := do
  match (← parameters value).find? fun (name, _) => name.map Char.toLower = "charset".toList with
  | none => return none
  | some (_, content) =>
    let label ← content.label
    return if label.all (·.toNat < 0x80) then some label else none

end ContentType

/-- The charset of a response, which is UTF-8 unless it names one that is known. -/
def Response.charset (response : Response) : Except Fault Text.Charset := do
  match response.headers.get? "Content-Type" with
  | none => return .utf8
  | some value =>
    match ← ContentType.label? value.toList with
    | none => return .utf8
    | some label => return (← ContentType.find label).getD .utf8

/-- The body of a response as a text. -/
def Response.text (response : Response) : Except Fault String := do
  if response.body.isEmpty then return ""
  let read ← response.charset
  let reading ← (read response.body).mapError .unreadableText
  return String.ofList reading.lenient

end ConstrainedDecoding.Http
