import ConstrainedDecoding.Text.Charset.Unicode

/-!
Percent encoding. A character that may not stand in a part of a URL is written as its UTF-8 bytes,
each a percent sign and two capital hexadecimal digits. Escapes that are already there stay as they
are, so encoding what was encoded changes nothing. The parts of a URL differ in which characters may
stand in them.
-/

namespace ConstrainedDecoding.Percent

/-! ## Characters that may stand in a part -/

/-- The space and the ASCII characters that print. -/
def isVisible (c : Char) : Bool :=
  ' ' ≤ c && c ≤ '~'

def inFragment (c : Char) : Bool :=
  isVisible c && !" \"<>\x60".toList.contains c

def inQuery (c : Char) : Bool :=
  isVisible c && !" \"#<>".toList.contains c

def inPath (c : Char) : Bool :=
  inQuery c && !"?\x60\x7b\x7d".toList.contains c

/-- User information keeps the colon between name and password. -/
def inUserInfo (c : Char) : Bool :=
  inPath c && !"/;=@[\\]^|".toList.contains c

def inHost (c : Char) : Bool :=
  c.isAlphanum || "-._~!$&'()*+,;=\"\x60\x7b\x7d%|\\".toList.contains c

/-! ## Encoding -/

/-- The escape for one byte. -/
def escape (byte : UInt8) : List Char :=
  '%' :: (Text.hexDigits 2 byte.toNat).map Char.toUpper

/-- A character in a part where the given characters may stand. -/
def encodeChar (keep : Char → Bool) (c : Char) : List Char :=
  if keep c then [c] else (Text.encode (String.singleton c)).flatMap escape

/-- Whether two characters after a percent sign make an escape. -/
def isPair (high low : Char) : Bool :=
  (Text.hexValue? high).isSome && (Text.hexValue? low).isSome

/-- A text in a part where the given characters may stand. Escapes are kept. -/
def encodeChars (keep : Char → Bool) : List Char → List Char
  | [] => []
  | '%' :: high :: low :: rest =>
    if isPair high low then '%' :: high :: low :: encodeChars keep rest
    else encodeChar keep '%' ++ encodeChars keep (high :: low :: rest)
  | c :: rest => encodeChar keep c ++ encodeChars keep rest

def encode (keep : Char → Bool) (text : String) : String :=
  String.ofList (encodeChars keep text.toList)

/-! ## Decoding -/

/-- The bytes that a text with escapes stands for. -/
def decodeBytes : List Char → List UInt8
  | [] => []
  | '%' :: high :: low :: rest =>
    match Text.hexNumber? [high, low] with
    | some value => UInt8.ofNat value :: decodeBytes rest
    | none => Text.encode "%" ++ decodeBytes (high :: low :: rest)
  | c :: rest => Text.encode (String.singleton c) ++ decodeBytes rest

/-- The text that a text with escapes stands for. -/
def decode (text : String) : String :=
  String.ofList (Text.decodeLenient (decodeBytes text.toList))

end ConstrainedDecoding.Percent
