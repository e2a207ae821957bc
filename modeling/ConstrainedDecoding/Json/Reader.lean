import ConstrainedDecoding.Json.Basic
import ConstrainedDecoding.Keyed
import ConstrainedDecoding.Number.Integer
import ConstrainedDecoding.Number.Rounding
import ConstrainedDecoding.Text.Encoding
import ConstrainedDecoding.Text.Hex

/-!
Reading JSON from characters. Every reader takes the characters that are left and returns what it
read together with those it did not use. A failure says what was missing and how many characters
were left at that point, from which its line and column follow.

Beyond the standard, `NaN`, `Infinity` and `-Infinity` are numbers, a repeated member name keeps its
first position and its last value, an escape for half of a surrogate pair may stand alone, an
integer of more than 4300 digits is refused, and so are arrays and objects nested deeper than a
reader is told.
-/

namespace ConstrainedDecoding.Json

/-- What is wrong with a text that is not JSON. -/
inductive SyntaxFault
  | expectingValue
  | extraData
  | expectingComma
  | expectingColon
  | expectingName
  | unterminatedText
  | controlCharacter
  | invalidEscape
  | invalidUnicodeEscape
  | byteOrderMark
  deriving DecidableEq, Repr

/-- The wording of a fault. -/
def SyntaxFault.message : SyntaxFault → String
  | expectingValue => "Expecting value"
  | extraData => "Extra data"
  | expectingComma => "Expecting ',' delimiter"
  | expectingColon => "Expecting ':' delimiter"
  | expectingName => "Expecting property name enclosed in double quotes"
  | unterminatedText => "Unterminated string starting at"
  | controlCharacter => "Invalid control character at"
  | invalidEscape => "Invalid \\escape"
  | invalidUnicodeEscape => "Invalid \\uXXXX escape"
  | byteOrderMark => "Unexpected UTF-8 BOM (decode using utf-8-sig)"

/-- What can hold further values. -/
inductive Container
  | array
  | object
  deriving DecidableEq, Repr

def Container.name : Container → String
  | array => "array"
  | object => "object"

/-- Why reading stopped. -/
inductive Halt
  /-- A fault, met with so many characters left. -/
  | fault (what : SyntaxFault) (remaining : Nat)
  /-- An integer with too many digits. -/
  | tooManyDigits (count : Nat)
  /-- An array or object inside as many as may be nested. -/
  | tooDeep (container : Container)
  deriving DecidableEq, Repr

/-- A reader's result and the characters it left. -/
abbrev Reading (α : Type) := Except Halt (α × List Char)

/-- The characters that may stand between tokens. -/
def isBlank (c : Char) : Bool :=
  c = ' ' || c = '\t' || c = '\n' || c = '\r'

def skipBlanks (chars : List Char) : List Char :=
  chars.dropWhile isBlank

/-! ## Texts -/

/-- The character for a single-letter escape. -/
def simpleEscape? (c : Char) : Option Char :=
  if c = '"' ∨ c = '\\' ∨ c = '/' then some c
  else if c = 'b' then some '\x08'
  else if c = 'f' then some '\x0c'
  else if c = 'n' then some '\n'
  else if c = 'r' then some '\r'
  else if c = 't' then some '\t'
  else none

/-- The unit written by the first four characters, when a further character follows them. -/
def unit? : List Char → Option Nat
  | a :: b :: c :: d :: _ :: _ => Text.hexNumber? [a, b, c, d]
  | _ => none

/-- The second half of a pair, where the characters go on with one: a backslash, the letter `u`,
four digits and something more. The outer `none` is a malformed escape. -/
def lowHalf? : List Char → Option (Option Nat)
  | '\\' :: 'u' :: a :: b :: c :: d :: _ :: _ =>
    (Text.hexNumber? [a, b, c, d]).map fun unit => if Text.isLowHalf unit then some unit else none
  | _ => some none

/-- Reads the inside of a text literal and its closing quote. An unterminated literal is reported at
its opening quote, where the characters `opening` were left. -/
def readText (opening : List Char) : List Char → Reading (List Char)
  | [] => .error (.fault .unterminatedText opening.length)
  | '"' :: rest => .ok ([], rest)
  | ['\\'] => .error (.fault .unterminatedText opening.length)
  | '\\' :: 'u' :: rest =>
    match unit? rest with
    | none => .error (.fault .invalidUnicodeEscape (rest.length + 1))
    | some unit =>
      match rest with
      | _ :: _ :: _ :: _ :: after =>
        match if Text.isHighHalf unit then lowHalf? after else some none with
        | none => .error (.fault .invalidUnicodeEscape (after.length - 1))
        | some none =>
          (readText opening after).map fun (tail, left) => (Text.charOf unit :: tail, left)
        | some (some low) =>
          match after with
          | _ :: _ :: _ :: _ :: _ :: _ :: beyond =>
            (readText opening beyond).map fun (tail, left) =>
              (Text.joinHalves unit low :: tail, left)
          | _ => .error (.fault .unterminatedText opening.length)
      | _ => .error (.fault .unterminatedText opening.length)
  | '\\' :: c :: rest =>
    match simpleEscape? c with
    | none => .error (.fault .invalidEscape (rest.length + 2))
    | some plain => (readText opening rest).map fun (tail, left) => (plain :: tail, left)
  | c :: rest =>
    if c.toNat ≤ 0x1f then .error (.fault .controlCharacter (rest.length + 1))
    else (readText opening rest).map fun (tail, left) => (c :: tail, left)

/-! ## Numbers -/

def isDigit (c : Char) : Bool := '0' ≤ c && c ≤ '9'

/-- The number written by ASCII digits. -/
def digitsValue (digits : List Char) : Nat :=
  ofDigits (digits.map fun c => c.toNat - 48)

/-- The whole part of a number: a lone zero, or digits that do not start with one. -/
def wholePart : List Char → List Char × List Char
  | '0' :: rest => (['0'], rest)
  | chars => (chars.takeWhile isDigit, chars.dropWhile isDigit)

/-- The decimal places, if a point and a digit follow. -/
def fractionPart : List Char → List Char × List Char
  | '.' :: rest =>
    if (rest.takeWhile isDigit).isEmpty then ([], '.' :: rest)
    else (rest.takeWhile isDigit, rest.dropWhile isDigit)
  | chars => ([], chars)

/-- The sign of an exponent and what follows it. -/
def exponentSign : List Char → Bool × List Char
  | '-' :: rest => (true, rest)
  | '+' :: rest => (false, rest)
  | chars => (false, chars)

/-- The exponent, if the letter for it, an optional sign and a digit follow. -/
def exponentPart : List Char → Option Int × List Char
  | [] => (none, [])
  | c :: rest =>
    if c = 'e' ∨ c = 'E' then
      let (negative, body) := exponentSign rest
      let digits := body.takeWhile isDigit
      if digits.isEmpty then (none, c :: rest)
      else
        (some (if negative then -(digitsValue digits : Int) else digitsValue digits),
          body.dropWhile isDigit)
    else (none, c :: rest)

/-- Reads a number. Digits alone are an integer; places or an exponent make it floating-point. -/
def readNumber (chars : List Char) : Reading Json :=
  let (negative, body) := match chars with
    | '-' :: rest => (true, rest)
    | rest => (false, rest)
  let (whole, afterWhole) := wholePart body
  if whole.isEmpty then .error (.fault .expectingValue chars.length)
  else
    let (places, afterPlaces) := fractionPart afterWhole
    let (exponent, left) := exponentPart afterPlaces
    if places.isEmpty && exponent.isNone then
      if maxIntegerDigits < whole.length then .error (.tooManyDigits whole.length)
      else
        let value : Int := digitsValue whole
        .ok (.int (if negative then -value else value), left)
    else
      .ok (.float (Binary.ofDecimal .double negative (digitsValue (whole ++ places))
        (exponent.getD 0 - places.length)), left)

/-! ## Values -/

mutual

/-- Reads a value that starts with the first character; `depth` more arrays and objects may be
nested here. -/
def readValue : (fuel depth : Nat) → List Char → Reading Json
  | 0, _, chars => .error (.fault .expectingValue chars.length)
  | fuel + 1, depth, chars =>
    match chars with
    | '"' :: rest => (readText chars rest).map fun (value, left) =>
        (.text (String.ofList value), left)
    | '{' :: rest =>
      match depth with
      | 0 => .error (.tooDeep .object)
      | depth + 1 =>
        match skipBlanks rest with
        | '}' :: left => .ok (.object [], left)
        | inner => (readMembers fuel depth inner).map fun (members, left) =>
            (.object (Keyed.ofList members), left)
    | '[' :: rest =>
      match depth with
      | 0 => .error (.tooDeep .array)
      | depth + 1 =>
        match skipBlanks rest with
        | ']' :: left => .ok (.array [], left)
        | inner => (readItems fuel depth inner).map fun (items, left) => (.array items, left)
    | 'n' :: 'u' :: 'l' :: 'l' :: left => .ok (.null, left)
    | 't' :: 'r' :: 'u' :: 'e' :: left => .ok (.bool true, left)
    | 'f' :: 'a' :: 'l' :: 's' :: 'e' :: left => .ok (.bool false, left)
    | 'N' :: 'a' :: 'N' :: left => .ok (.float .nan, left)
    | 'I' :: 'n' :: 'f' :: 'i' :: 'n' :: 'i' :: 't' :: 'y' :: left =>
      .ok (.float (.infinite false), left)
    | '-' :: 'I' :: 'n' :: 'f' :: 'i' :: 'n' :: 'i' :: 't' :: 'y' :: left =>
      .ok (.float (.infinite true), left)
    | _ => readNumber chars

/-- Reads array items up to the closing bracket. -/
def readItems : (fuel depth : Nat) → List Char → Except Halt (List Json × List Char)
  | 0, _, chars => .error (.fault .expectingValue chars.length)
  | fuel + 1, depth, chars => do
    let (item, afterItem) ← readValue fuel depth chars
    match skipBlanks afterItem with
    | ']' :: left => .ok ([item], left)
    | ',' :: rest => (readItems fuel depth (skipBlanks rest)).map fun (items, left) =>
        (item :: items, left)
    | other => .error (.fault .expectingComma other.length)

/-- Reads object members up to the closing brace. -/
def readMembers :
    (fuel depth : Nat) → List Char → Except Halt (List (String × Json) × List Char)
  | 0, _, chars => .error (.fault .expectingValue chars.length)
  | fuel + 1, depth, chars => do
    match chars with
    | '"' :: rest =>
      let (name, afterName) ← readText chars rest
      match skipBlanks afterName with
      | ':' :: afterColon =>
        let (value, afterValue) ← readValue fuel depth (skipBlanks afterColon)
        match skipBlanks afterValue with
        | '}' :: left => .ok ([(String.ofList name, value)], left)
        | ',' :: more => (readMembers fuel depth (skipBlanks more)).map fun (members, left) =>
            ((String.ofList name, value) :: members, left)
        | other => .error (.fault .expectingComma other.length)
      | other => .error (.fault .expectingColon other.length)
    | other => .error (.fault .expectingName other.length)

end

/-- Reads a whole text in which `depth` arrays and objects may be nested. Each step of the reader
but the first of an array or object uses up a character, so twice the length bounds their number. -/
def readChars (depth : Nat) (chars : List Char) : Except Halt Json := do
  let (value, afterValue) ← readValue (2 * chars.length + 2) depth (skipBlanks chars)
  match skipBlanks afterValue with
  | [] => .ok value
  | rest => .error (.fault .extraData rest.length)

/-! ## Whole texts -/

/-- A fault and where it was met: the offset in characters, the line and the column. -/
structure SyntaxError where
  what : SyntaxFault
  offset : Nat
  line : Nat
  column : Nat
  deriving DecidableEq, Repr

/-- The fault with its position in the text. -/
def SyntaxError.locate (what : SyntaxFault) (chars : List Char) (remaining : Nat) : SyntaxError :=
  let offset := chars.length - remaining
  let before := chars.take offset
  { what, offset
    line := before.count '\n' + 1
    column := (before.reverse.takeWhile (· ≠ '\n')).length + 1 }

/-- The wording of a fault with its position. -/
def SyntaxError.message (error : SyntaxError) : String :=
  s!"{error.what.message}: line {error.line} column {error.column} (char {error.offset})"

/-- Why a text or a byte sequence could not be read as JSON. -/
inductive ReadError
  | malformed (error : SyntaxError)
  | tooManyDigits (count : Nat)
  | tooDeep (container : Container)
  | undecodable (error : Text.EncodingError)
  deriving DecidableEq, Repr

/-- The wording of a reading error. -/
def ReadError.message : ReadError → String
  | malformed error => error.message
  | undecodable error => error.message
  | tooDeep container =>
    s!"maximum recursion depth exceeded while decoding a JSON {container.name} " ++
      "from a unicode string"
  | tooManyDigits count =>
    s!"Exceeds the limit ({maxIntegerDigits} digits) for integer string conversion: " ++
      s!"value has {count} digits; use sys.set_int_max_str_digits() to increase the limit"

/-- Whether what was read is not JSON at all, where other errors are limits of this reader. -/
def ReadError.isMalformed : ReadError → Bool
  | malformed _ | undecodable _ => true
  | tooManyDigits _ | tooDeep _ => false

/-- Reads the characters of a text, locating a fault. -/
def readLocated (depth : Nat) (chars : List Char) : Except ReadError Json :=
  match readChars depth chars with
  | .ok value => .ok value
  | .error (.fault what remaining) => .error (.malformed (.locate what chars remaining))
  | .error (.tooManyDigits count) => .error (.tooManyDigits count)
  | .error (.tooDeep container) => .error (.tooDeep container)

/-- Reads a text in which `depth` arrays and objects may be nested, and which must not start with a
byte order mark. -/
def readWithin (depth : Nat) (text : String) : Except ReadError Json :=
  match text.toList with
  | '\ufeff' :: rest =>
    .error (.malformed (.locate .byteOrderMark ('\ufeff' :: rest) (rest.length + 1)))
  | chars => readLocated depth chars

/-- Reads a byte sequence in whichever encoding it is found to be. -/
def readBytesWithin (depth : Nat) (bytes : List UInt8) : Except ReadError Json :=
  match Text.decodeDetected bytes with
  | .error error => .error (.undecodable error)
  | .ok chars => readLocated depth chars

end ConstrainedDecoding.Json
