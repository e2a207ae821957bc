import ConstrainedDecoding.Fault
import ConstrainedDecoding.Http.Headers
import ConstrainedDecoding.Url.Basic

/-!
Requests and responses. Documents are fetched through an HTTP library, which makes the requests,
follows redirects and decodes texts. How it does that is not this library's business: it comes in
as a part of the network that it reaches (`Http.Network`).
-/

namespace ConstrainedDecoding.Http

/-- A request to read a document. -/
structure Request where
  url : Url
  headers : Headers
  deriving DecidableEq

/-- Whether a request carries credentials. -/
def Request.isAuthorized (request : Request) : Bool :=
  request.headers.has "Authorization"

structure Response where
  status : Nat
  headers : Headers
  body : List UInt8
  deriving DecidableEq

/-- Where a response asks to look. -/
def Response.location? (response : Response) : Option String :=
  if isRedirect response.status then response.headers.get? "Location" else none

/-- What is raised in place of a response: a failure of the class that the HTTP library has for
failed exchanges, or anything else. -/
inductive Thrown
  | failure (failure : Failure)
  | foreign (fault : Fault)
  deriving DecidableEq

namespace Thrown

/-- A failure with its own class and wording. -/
def reported (name detail : String) : Thrown :=
  .failure (.reported name detail)

/-- The fault that reports a failure with the location asked for. Anything else passes through. -/
def fault (location : String) : Thrown → Fault
  | failure cause => .requestFailed cause location
  | foreign other => other

end Thrown

/-- What becomes of a single request. -/
abbrev Reply := Except Thrown Response

/-- What a response to a request comes to. -/
inductive Progress
  | final (response : Response)
  | redirected (request : Request)

/-- What reading a document at a path comes to, with the requests made for it, oldest first. -/
structure Fetched where
  outcome : Except Thrown Response
  requests : List Request

/-- A network as an HTTP library reaches it. -/
structure Network where
  /-- What the far end replies to a request, given the requests before it, oldest first. -/
  reply : (earlier : List Request) → Request → Reply
  /-- The origin that a base location is at, if it is one. -/
  origin? : (base : String) → Option Origin
  /-- The first request for a path below a base location with the header fields of a client. -/
  first : (base : String) → Headers → (path : String) → Except Thrown Request
  /-- What the library makes of a response. -/
  progress : Request → Response → Except Thrown Progress
  /-- What the library comes to for a path, given the requests made before. -/
  get : (base : String) → Headers → (path : String) → (earlier : List Request) → Fetched
  /-- The body of a response as a text. -/
  text : Response → Except Fault String

/-- The most redirects that are followed. -/
def maxRedirects : Nat := 20

/-! ## Credentials on the way -/

/-- Whether an origin is the secure one of the same host, both on their usual ports. -/
def isUpgrade (source destination : Origin) : Bool :=
  source.host = destination.host &&
    source.scheme = "http" && source.portNumber = some 80 &&
    destination.scheme = "https" && destination.portNumber = some 443

/-- Whether credentials may go along from one origin to another. -/
def isTrusted (source destination : Origin) : Bool :=
  source = destination || isUpgrade source destination

end ConstrainedDecoding.Http
