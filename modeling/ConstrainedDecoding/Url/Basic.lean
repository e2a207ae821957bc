import ConstrainedDecoding.Keyed
import ConstrainedDecoding.Number.Integer
import ConstrainedDecoding.Url.Host

/-!
URLs in a normal form: scheme and host in lower case, no port number that the scheme implies, no dot
segments in the path of a URL with a scheme or a host, and nothing in any part that may not stand
there. A URL without a host is a relative reference, which has a meaning only together with another
URL.
-/

namespace ConstrainedDecoding

/-! ## The parts of a text -/

/-- A text cut into the parts of a URL. A part that is `none` has no mark in the text, where an
empty one has. -/
structure UrlParts where
  scheme : String := ""
  authority : String := ""
  path : String := ""
  query : Option String := none
  fragment : Option String := none
  deriving DecidableEq, Repr

namespace UrlParts

def isSchemeChar (c : Char) : Bool :=
  c.isAlphanum || c = '+' || c = '-' || c = '.'

/-- A scheme starts with a letter. -/
def isScheme (chars : List Char) : Bool :=
  chars.all isSchemeChar && (chars.head?.map Char.isAlpha).getD true

/-- The scheme in front of the first colon, and what is behind it. -/
def cutScheme (chars : List Char) : List Char × List Char :=
  match chars.dropWhile isSchemeChar with
  | ':' :: rest =>
    if isScheme (chars.takeWhile isSchemeChar) then (chars.takeWhile isSchemeChar, rest)
    else ([], chars)
  | _ => ([], chars)

/-- The authority behind two slashes, and what follows it. -/
def cutAuthority : List Char → List Char × List Char
  | '/' :: '/' :: rest =>
    let inside (c : Char) := c ≠ '/' && c ≠ '?' && c ≠ '#'
    (rest.takeWhile inside, rest.dropWhile inside)
  | chars => ([], chars)

/-- What is in front of a mark, and what is behind it if it occurs. -/
def cutAt (mark : Char) (chars : List Char) : List Char × Option (List Char) :=
  match chars.dropWhile (· ≠ mark) with
  | [] => (chars, none)
  | _ :: rest => (chars.takeWhile (· ≠ mark), some rest)

def ofChars (chars : List Char) : UrlParts :=
  let (scheme, rest) := cutScheme chars
  let (authority, rest) := cutAuthority rest
  let (rest, fragment) := cutAt '#' rest
  let (path, query) := cutAt '?' rest
  { scheme := String.ofList scheme
    authority := String.ofList authority
    path := String.ofList path
    query := query.map String.ofList
    fragment := fragment.map String.ofList }

/-- A part behind its mark, if there is one. -/
def marked (mark : String) : Option String → String
  | none => ""
  | some part => mark ++ part

/-- The text that the parts make up. -/
def render (parts : UrlParts) : String :=
  (if parts.scheme.isEmpty then "" else parts.scheme ++ ":") ++
    (if parts.authority.isEmpty then "" else "//" ++ parts.authority) ++
    parts.path ++ marked "?" parts.query ++ marked "#" parts.fragment

/-- The user information of an authority, which ends at the last `@`, and what is behind it. -/
def cutUserInfo (authority : List Char) : List Char × List Char :=
  if authority.contains '@' then
    ((authority.reverse.dropWhile (· ≠ '@')).tail.reverse,
      (authority.reverse.takeWhile (· ≠ '@')).reverse)
  else ([], authority)

/-- The host at the front and what is behind it. A host in brackets ends at the last bracket, any
other at the first colon. -/
def cutHost (chars : List Char) : List Char × List Char :=
  let inner := (chars.reverse.dropWhile (· ≠ ']')).reverse
  if chars.head? = some '[' ∧ !inner.isEmpty then
    (inner, (chars.reverse.takeWhile (· ≠ ']')).reverse)
  else (chars.takeWhile (· ≠ ':'), chars.dropWhile (· ≠ ':'))

/-- The port number behind a host, where the colon may be missing behind a bracket. -/
def cutPort : List Char → List Char
  | ':' :: rest => rest
  | rest => rest

end UrlParts

/-! ## URLs -/

/-- A URL in normal form. -/
structure Url where
  scheme : String
  userInfo : String
  host : String
  portNumber : Option Int
  path : String
  query : Option String
  fragment : Option String
  deriving DecidableEq, Repr

/-- Where a request goes: two URLs have one origin if these three agree. -/
structure Origin where
  scheme : String
  host : String
  portNumber : Option Int
  deriving DecidableEq, Repr

namespace Url

/-- The port numbers that schemes imply. -/
def impliedPort? (scheme : String) : Option Int :=
  Keyed.get? [("ftp", 21), ("http", 80), ("https", 443), ("ws", 80), ("wss", 443)] scheme

/-- The port number that a text gives for a scheme, none if the scheme implies it. -/
def readPort (scheme written : String) : Except UrlError (Option Int) :=
  if written.isEmpty then .ok none
  else
    match readInteger? written with
    | none => .error (.badPortNumber written)
    | some number => .ok (if impliedPort? scheme = some number then none else some number)

/-- Drops the segments `.` and `..`, the latter together with the segment in front of it unless that
is the empty one at the front. -/
def dropDots (path : List Char) : List Char :=
  let step (kept : List (List Char)) (segment : List Char) : List (List Char) :=
    if segment = ['.'] then kept
    else if segment = ['.', '.'] then (if kept = [[]] then kept else kept.dropLast)
    else kept ++ [segment]
  (List.intersperse ['/'] ((path.splitOnP (· = '/')).foldl step [])).flatten

/-- Checks how a path starts, which must not blur where it starts. -/
def checkPath (hasScheme hasAuthority : Bool) (path : List Char) : Except UrlError Unit :=
  if hasAuthority then
    if path = [] ∨ path.head? = some '/' then .ok () else .error .unseparatedPath
  else if hasScheme then .ok ()
  else if path.take 2 = ['/', '/'] then .error .doubleSlash
  else if path.head? = some ':' then .error .leadingColon
  else .ok ()

/-- A part in which the given characters may stand. Halves of surrogate pairs have no escape. -/
def encodePart (keep : Char → Bool) (part : String) : Except UrlError String :=
  if part.toList.any Text.isHalf then .error .unencodable else .ok (Percent.encode keep part)

/-- A part that may be missing. -/
def encodePart? (keep : Char → Bool) : Option String → Except UrlError (Option String)
  | none => .ok none
  | some part => (encodePart keep part).map some

/-- The URL with the given user information, host and port number, and with the parts of a text
other than its authority. -/
def ofPieces (parts : UrlParts) (userInfo host portText : String) : Except UrlError Url := do
  let scheme := Text.lowercase parts.scheme
  let userInfo ← encodePart Percent.inUserInfo userInfo
  let host ← Host.normalize host
  let portNumber ← readPort parts.scheme portText
  let hasScheme := !scheme.isEmpty
  let hasAuthority := !userInfo.isEmpty || !host.isEmpty || portNumber.isSome
  checkPath hasScheme hasAuthority parts.path.toList
  let path := if hasScheme || hasAuthority then String.ofList (dropDots parts.path.toList)
    else parts.path
  return {
    scheme, userInfo, host, portNumber
    path := ← encodePart Percent.inPath path
    query := ← encodePart? Percent.inQuery parts.query
    fragment := ← encodePart? Percent.inFragment parts.fragment }

/-- The URL that the parts of a text make up. -/
def ofParts (parts : UrlParts) : Except UrlError Url :=
  let (userInfo, rest) := UrlParts.cutUserInfo parts.authority.toList
  let (host, rest) := UrlParts.cutHost rest
  ofPieces parts (String.ofList userInfo) (String.ofList host)
    (String.ofList (UrlParts.cutPort rest))

/-- The longest text that is read as a URL. -/
def maxLength : Nat := 65536

def isControl (c : Char) : Bool :=
  c.toNat < 0x20 || c.toNat = 0x7f

/-- The URL that a text gives. -/
def ofText (text : String) : Except UrlError Url :=
  let chars := text.toList
  if maxLength < chars.length then .error .tooLong
  else
    match chars.find? isControl with
    | some c => .error (.controlCharacter c (chars.takeWhile (· ≠ c)).length)
    | none => ofParts (.ofChars chars)

/-- A host as it is written, in brackets if it has colons. -/
def bracketed (host : String) : String :=
  if host.toList.contains ':' then "[" ++ host ++ "]" else host

/-- Host and port number as they are written. -/
def hostAndPort (url : Url) : String :=
  bracketed url.host ++ UrlParts.marked ":" (url.portNumber.map toString)

def toParts (url : Url) : UrlParts where
  scheme := url.scheme
  authority := (if url.userInfo.isEmpty then "" else url.userInfo ++ "@") ++ url.hostAndPort
  path := url.path
  query := url.query
  fragment := url.fragment

/-- The text of a URL. -/
def render (url : Url) : String :=
  url.toParts.render

/-- A URL that gives both scheme and host. -/
def isAbsolute (url : Url) : Bool :=
  !url.scheme.isEmpty && !url.host.isEmpty

/-- The origin, with the port number that the two web schemes imply filled in. -/
def origin (url : Url) : Origin :=
  { scheme := url.scheme
    host := url.host
    portNumber := url.portNumber.or
      (if url.scheme = "http" ∨ url.scheme = "https" then impliedPort? url.scheme else none) }

/-- Whether the text of a URL, the fragment apart, names a scheme or begins like one that does: with
a colon behind something without a slash. -/
def namesScheme (url : Url) : Bool :=
  let text := url.render.toList
  let body := if text.contains '#' then (text.reverse.dropWhile (· ≠ '#')).tail.reverse else text
  let front := body.takeWhile fun c => c ≠ '/' && c ≠ ':'
  !front.isEmpty && (body.drop front.length).head? = some ':'

/-! ## Changing a part

A URL with a changed part is read again as a whole. That drops a port number that the scheme as it
is kept implies, and puts escapes in the host into lower case.
-/

/-- What a request asks its host for: the path, which is never empty, and the query. -/
def target (url : Url) : String :=
  (if url.path.isEmpty then "/" else url.path) ++ UrlParts.marked "?" url.query

/-- Whether each part can be read again. -/
def fits (parts : UrlParts) : Bool :=
  [parts.scheme, parts.authority, parts.path, parts.query.getD "", parts.fragment.getD ""].all
    fun part => part.length ≤ maxLength

/-- The URL that the parts make up, if none of them is too long. -/
def reread (parts : UrlParts) : Except UrlError Url :=
  if fits parts then ofParts parts else .error .tooLong

/-- The URL with another path and query. -/
def withTarget (url : Url) (target : String) : Except UrlError Url :=
  let (path, query) := UrlParts.cutAt '?' target.toList
  reread { url.toParts with path := String.ofList path, query := query.map String.ofList }

/-- The URL with another host. -/
def withHost (url : Url) (host : String) : Except UrlError Url :=
  if fits url.toParts then
    ofPieces url.toParts url.userInfo (bracketed host)
      ((url.portNumber.map toString).getD "")
  else .error .tooLong

/-- The URL with the fragment of another one. -/
def withFragmentOf (url other : Url) : Except UrlError Url :=
  let fragment := Percent.decode (other.fragment.getD "")
  match fragment.toList.find? isControl with
  | some c => .error (.controlCharacter c (fragment.toList.takeWhile (· ≠ c)).length)
  | none => reread { url.toParts with fragment := some fragment }

/-! ## Credentials -/

/-- The name and the password in the user information. -/
def credentials (url : Url) : String × String :=
  let (name, password) := UrlParts.cutAt ':' url.userInfo.toList
  (Percent.decode (String.ofList name), Percent.decode (String.ofList (password.getD [])))

end Url

end ConstrainedDecoding
