import ConstrainedDecoding.Text.Blank
import ConstrainedDecoding.Text.Digit

/-!
Reading an integer from a text: blanks at both ends are skipped, a sign may lead, digits of any
script count, and single underscores may stand between digits.
-/

namespace ConstrainedDecoding

/-- The most digits an integer may be read from or written with. -/
def maxIntegerDigits : Nat := 4300

/-- Whether an integer has few enough digits. -/
def hasFewDigits (value : Int) : Bool :=
  (Nat.toDigits 10 value.natAbs).length ≤ maxIntegerDigits

/-- The digit values of a numeral, which starts with a digit and may separate digits by single
underscores. -/
def numeralDigits? (digit? : Char → Option Nat) : List Char → Option (List Nat)
  | [] => none
  | '_' :: _ => none
  | c :: rest => do
    let value ← digit? c
    match rest with
    | [] => some [value]
    | '_' :: more => (numeralDigits? digit? more).map (value :: ·)
    | more => (numeralDigits? digit? more).map (value :: ·)

/-- The number with the given decimal digits, highest first. -/
def ofDigits (digits : List Nat) : Nat :=
  digits.foldl (fun value digit => value * 10 + digit) 0

/-- The integer written by a trimmed text, if it is a numeral with an optional sign. -/
def signedNumeral? (digit? : Char → Option Nat) (content : List Char) : Option Int := do
  let (negative, body) := match content with
    | '-' :: rest => (true, rest)
    | '+' :: rest => (false, rest)
    | rest => (false, rest)
  let digits ← numeralDigits? digit? body
  if maxIntegerDigits < digits.length then none
  else some (if negative then -(ofDigits digits : Int) else ofDigits digits)

/-- The integer a text stands for. -/
def readInteger? (text : String) : Option Int :=
  signedNumeral? Text.digitValue? (Text.trimBoth Text.isBlank text.toList)

/-- The integer an ASCII byte string stands for. -/
def readIntegerBytes? (bytes : List UInt8) : Option Int :=
  signedNumeral? Text.asciiDigit?
    (Text.trimBoth Text.isAsciiBlank (bytes.map fun byte => Char.ofNat byte.toNat))

end ConstrainedDecoding
