import ConstrainedDecoding.Url.Basic

/-!
Putting two URLs together. A reference that a host sends is resolved against the URL it was asked
for; a path that a client is given is appended to its base.
-/

namespace ConstrainedDecoding

namespace UrlParts

/-! ## Resolving a reference -/

/-- Schemes whose URLs can be referred to from one another. -/
def linkingSchemes : List String :=
  ["", "ftp", "http", "gopher", "nntp", "imap", "wais", "file", "https", "shttp", "mms", "prospero",
   "rtsp", "rtspu", "sftp", "svn", "svn+ssh", "ws", "wss"]

/-- Schemes whose last path segment may carry parameters behind a semicolon. -/
def parameterSchemes : List String :=
  ["", "ftp", "hdl", "prospero", "http", "imap", "https", "shttp", "rtsp", "rtspu", "sip", "sips",
   "mms", "sftp", "tel"]

/-- A path without the parameters of its last segment, and those. -/
def cutParameters (scheme : String) (path : List Char) : List Char × List Char :=
  if parameterSchemes.contains scheme then
    let final := (path.reverse.takeWhile (· ≠ '/')).reverse
    let front := (path.reverse.dropWhile (· ≠ '/')).reverse
    match cutAt ';' final with
    | (plain, some parameters) => (front ++ plain, parameters)
    | (_, none) => (path, [])
  else (path, [])

/-- Behind a path its parameters, if there are any. -/
def joinParameters (path parameters : List Char) : List Char :=
  if parameters.isEmpty then path else path ++ ';' :: parameters

/-- The segments of a path with `.` and `..` carried out. -/
def walk (segments : List (List Char)) : List (List Char) :=
  let step (kept : List (List Char)) (segment : List Char) : List (List Char) :=
    if segment = ['.', '.'] then kept.dropLast
    else if segment = ['.'] then kept
    else kept ++ [segment]
  let final := segments.getLast?.getD []
  segments.foldl step [] ++ (if final = ['.'] ∨ final = ['.', '.'] then [[]] else [])

/-- Drops the empty segments except at the ends. -/
def dropInnerEmpty (segments : List (List Char)) : List (List Char) :=
  segments.take 1 ++ ((segments.drop 1).dropLast.filter (!·.isEmpty)) ++
    (segments.drop 1).getLast?.toList

/-- The path that a path leads to from another one. -/
def mergePath (base path : List Char) : List Char :=
  let isSlash (c : Char) : Bool := c = '/'
  let baseSegments := base.splitOnP isSlash
  let folder := if baseSegments.getLast? = some [] then baseSegments else baseSegments.dropLast
  let segments := if path.head? = some '/' then path.splitOnP isSlash
    else dropInnerEmpty (folder ++ path.splitOnP isSlash)
  match (List.intersperse ['/'] (walk segments)).flatten with
  | [] => ['/']
  | merged => merged

/-- Nothing in place of an empty part. -/
def nonEmpty? (part : Option String) : Option String :=
  part.filter (!·.isEmpty)

/-- The path in front of which an authority can stand. -/
def separated (path : List Char) : List Char :=
  if path.isEmpty ∨ path.head? = some '/' then path else '/' :: path

/-- What a reference leads to from a base. -/
def resolve (base reference : UrlParts) : UrlParts :=
  let scheme := if reference.scheme.isEmpty then base.scheme else reference.scheme
  let (path, parameters) := cutParameters scheme reference.path.toList
  let (basePath, baseParameters) := cutParameters base.scheme base.path.toList
  let finish (authority : String) (path : List Char) (query : Option String) : UrlParts :=
    { scheme, authority
      path := String.ofList (if authority.isEmpty then path else separated path)
      query := nonEmpty? query
      fragment := nonEmpty? reference.fragment }
  if reference = {} then base
  else if scheme ≠ base.scheme ∨ !linkingSchemes.contains scheme then reference
  else if !reference.authority.isEmpty then
    finish reference.authority (joinParameters path parameters) reference.query
  else if path.isEmpty ∧ parameters.isEmpty then
    finish base.authority (joinParameters basePath baseParameters)
      ((nonEmpty? reference.query).or base.query)
  else finish base.authority (joinParameters (mergePath basePath path) parameters) reference.query

end UrlParts

namespace Url

/-- What a reference leads to from a URL. -/
def resolve (base reference : Url) : Except UrlError Url :=
  ofText (base.toParts.resolve reference.toParts).render

/-! ## Appending to a base -/

/-- A text without the slashes at its front. -/
def dropSlashes (text : String) : String :=
  String.ofList (text.toList.dropWhile (· = '/'))

/-- The URL whose target ends with a slash. -/
def asBase (url : Url) : Except UrlError Url :=
  if url.target.toList.getLast? = some '/' then .ok url else url.withTarget (url.target ++ "/")

/-- The URL that a text gives for a client with a base: a relative one is appended to the base,
whether or not it starts with a slash. -/
def append (base : Url) (text : String) : Except UrlError Url := do
  let given ← ofText text
  if given.isAbsolute then return given
  else base.withTarget (base.target ++ dropSlashes given.target)

end Url

end ConstrainedDecoding
