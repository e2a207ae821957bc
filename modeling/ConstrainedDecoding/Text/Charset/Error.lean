/-!
Why a charset reads nothing at all. Malformed bytes are no reason: charsets read around them.
-/

namespace ConstrainedDecoding.Text

/-- Why a charset does not read bytes at all. -/
inductive CharsetError
  /-- There is no byte order mark where one is needed. -/
  | noMark
  /-- The charset does not put up with malformed bytes. -/
  | intolerant
  /-- There are bytes beyond ASCII where none can be replaced. -/
  | notAscii
  /-- The name is that of a transfer encoding, which takes bytes to bytes. -/
  | transfer
  /-- The name is that of a cipher, which takes texts to texts. -/
  | cipher
  deriving DecidableEq, Repr

/-- The wording of an error. -/
def CharsetError.message : CharsetError → String
  | noMark => "the text does not start with a byte order mark"
  | intolerant => "the charset does not replace malformed bytes"
  | notAscii => "the encoded part of the text is not ASCII"
  | transfer => "a transfer encoding is not a charset"
  | cipher => "a cipher is not a charset"

end ConstrainedDecoding.Text
