import ConstrainedDecoding.Text.Half
import ConstrainedDecoding.Text.Hex
import ConstrainedDecoding.Text.Printable

/-!
Quoted forms of texts and of byte strings, as messages show them. Single quotes are used unless
the content holds a single quote and no double one; whatever does not print is escaped.
-/

namespace ConstrainedDecoding.Text

/-- The quotation mark that needs the fewest escapes. -/
def quoteFor (single double : Bool) : Char :=
  if single && !double then '"' else '\''

/-- Escapes shared by texts and byte strings. -/
def commonEscape? (quote c : Char) : Option (List Char) :=
  if c = quote ∨ c = '\\' then some ['\\', c]
  else if c = '\n' then some ['\\', 'n']
  else if c = '\r' then some ['\\', 'r']
  else if c = '\t' then some ['\\', 't']
  else none

/-- One character of a quoted text. -/
def quotedChar (quote c : Char) : List Char :=
  match commonEscape? quote c with
  | some escape => escape
  | none =>
    let code := codeOf c
    if isPrintable c then [c]
    else if code < 0x100 then '\\' :: 'x' :: hexDigits 2 code
    else if code < 0x10000 then '\\' :: 'u' :: hexDigits 4 code
    else '\\' :: 'U' :: hexDigits 8 code

/-- The quoted form of a text. -/
def quoted (text : String) : String :=
  let content := text.toList
  let quote := quoteFor (content.contains '\'') (content.contains '"')
  String.ofList (quote :: content.flatMap (quotedChar quote) ++ [quote])

/-- One byte of a quoted byte string. -/
def quotedByte (quote : Char) (byte : UInt8) : List Char :=
  let c := Char.ofNat byte.toNat
  match commonEscape? quote c with
  | some escape => escape
  | none =>
    if 0x20 ≤ byte ∧ byte < 0x7f then [c] else '\\' :: 'x' :: hexDigits 2 byte.toNat

/-- The quoted form of a byte string, marked by a leading `b`. -/
def quotedBytes (bytes : List UInt8) : String :=
  let quote := quoteFor (bytes.contains 39) (bytes.contains 34)
  String.ofList ('b' :: quote :: bytes.flatMap (quotedByte quote) ++ [quote])

end ConstrainedDecoding.Text
