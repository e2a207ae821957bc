import ConstrainedDecoding.Text.Quoted

/-!
Why a text is not a URL.
-/

namespace ConstrainedDecoding

/-- The kinds of host whose spelling is checked. -/
inductive HostKind
  | ipv4
  | ipv6
  | international
  deriving DecidableEq, Repr

def HostKind.title : HostKind → String
  | ipv4 => "IPv4 address"
  | ipv6 => "IPv6 address"
  | international => "IDNA hostname"

/-- What keeps a text from being a URL. -/
inductive UrlError
  | tooLong
  | controlCharacter (c : Char) (position : Nat)
  | badHost (kind : HostKind) (host : String)
  | badPortNumber (written : String)
  /-- A part with half of a surrogate pair, which has no bytes to escape. -/
  | unencodable
  /-- A path that follows a host without a slash between them. -/
  | unseparatedPath
  /-- Two slashes at the front of a path that follows neither a scheme nor a host. -/
  | doubleSlash
  /-- A colon at the front of such a path. -/
  | leadingColon
  deriving DecidableEq, Repr

/-- The wording of an error. -/
def UrlError.message : UrlError → String
  | tooLong => "URL too long"
  | controlCharacter c position =>
    let shown := Text.quoted (String.singleton c)
    s!"Invalid non-printable ASCII character in URL, {shown} at position {position}."
  | badHost kind host => s!"Invalid {kind.title}: {Text.quoted host}"
  | badPortNumber written => s!"Invalid port: {Text.quoted written}"
  | unencodable => "surrogates not allowed"
  | unseparatedPath => "For absolute URLs, path must be empty or begin with '/'"
  | doubleSlash => "Relative URLs cannot have a path starting with '//'"
  | leadingColon => "Relative URLs cannot have a path starting with ':'"

end ConstrainedDecoding
