import ConstrainedDecoding.Compression.Container
import ConstrainedDecoding.Http.ContentType
import ConstrainedDecoding.Http.Exchange
import ConstrainedDecoding.Text.Base64
import ConstrainedDecoding.Text.Blank
import ConstrainedDecoding.Url.Resolve

/-!
Networks that follow a script, behind an HTTP library of their own. The library follows a redirect
by a request with the same header fields, except that `Authorization` stays behind when the origin
changes. Only where a host moves from the usual port number of `http` to that of `https` the field
goes along. The replies of a script are made before the library sees them: their header fields have
to be ASCII, and their bodies are unpacked.
-/

namespace ConstrainedDecoding.Http

/-! ## Replies -/

/-- The ways in which a body is packed. -/
inductive Packing
  | file
  | bare
  deriving DecidableEq, Repr

namespace Packing

/-- The packing of a name, if it is a known one. -/
def ofName? (name : String) : Option Packing :=
  match String.ofList ((Text.trimBoth Text.isAsciiBlank name.toList).map Char.toLower) with
  | "gzip" => some file
  | "deflate" => some bare
  | _ => none

/-- The bytes that were packed. -/
def unpack (packing : Packing) (bytes : List UInt8) :
    Except Compression.StreamError (List UInt8) :=
  match packing with
  | file => Compression.unpackFile bytes
  | bare => Compression.unpackBare bytes

end Packing

namespace Response

/-- The packings of a body, the first one applied first. -/
def packings (response : Response) : List Packing :=
  ((response.headers.get? "Content-Encoding").getD "").splitOn "," |>.filterMap Packing.ofName?

/-- The response with its body unpacked. -/
def unpacked (response : Response) : Reply := do
  let body ← response.packings.reverse.foldlM (fun bytes packing =>
    (packing.unpack bytes).mapError (.failure ∘ .badContent)) response.body
  return { response with body }

end Response

/-- The reply that a script gives with a response. -/
def Reply.made (reply : Reply) : Reply := do
  let response ← reply
  if !response.headers.isAscii then .error (.foreign .notAsciiHeader)
  response.unpacked

/-- The replies in turn, the last one again and again. -/
def scriptedReply (replies : List Reply) (earlier : List Request) (_ : Request) : Reply :=
  ((replies[earlier.length]?.or replies.getLast?).getD (.ok ⟨200, [], []⟩)).made

/-! ## Requests -/

namespace Request

/-- The request with the credentials that its URL contains. -/
def withUrlCredentials (request : Request) : Request :=
  let (name, password) := request.url.credentials
  if name.isEmpty ∧ password.isEmpty then request
  else
    let encoded := Text.base64 (Text.encode name ++ Text.encode ":" ++ Text.encode password)
    { request with
      headers := request.headers.set "Authorization" ("Basic " ++ String.ofList encoded) }

/-- The readable form of the host of a URL. -/
def readHost (url : Url) : Except Thrown String :=
  (Host.readable url.host).mapError (.foreign ∘ .unreadableHost)

/-- Checks the host of a URL that goes into a header field: it has to have a readable form and to be
ASCII. -/
def checkHost (url : Url) : Except Thrown Unit := do
  let _ ← readHost url
  if !Host.isAscii url.host then .error (.foreign .notAsciiHost)

end Request

/-- The first request of a client with a base location and header fields for a path. -/
def firstRequest (base : String) (headers : Headers) (path : String) : Except Thrown Request := do
  let base ← (Url.ofText base).mapError (.foreign ∘ .invalidUrl)
  let base ← base.asBase.mapError (.foreign ∘ .invalidUrl)
  if !headers.isAscii then .error (.foreign .notAsciiHeader)
  let url ← (base.append path).mapError (.foreign ∘ .invalidUrl)
  if !headers.has "Host" then Request.checkHost url
  return Request.withUrlCredentials ⟨url, headers⟩

/-! ## Redirects -/

namespace Request

/-- The URL that a location means for a request. A location with a scheme but without a host is on
the host of the request. A fragment is kept unless the location has one. -/
def target (request : Request) (location : String) : Except Thrown Url := do
  let given ← (Url.ofText location).mapError (.failure ∘ .badLocation)
  let hosted ← if given.scheme.isEmpty then .ok given
    else do
      if (← readHost given).isEmpty then
        (given.withHost (← readHost request.url)).mapError (.foreign ∘ .invalidUrl)
      else .ok given
  let resolved ← if hosted.isAbsolute then .ok hosted
    else (request.url.resolve hosted).mapError (.foreign ∘ .invalidUrl)
  if !(request.url.fragment.getD "").isEmpty && (resolved.fragment.getD "").isEmpty then
    (resolved.withFragmentOf request.url).mapError (.foreign ∘ .invalidUrl)
  else return resolved

/-- The request that goes to another URL instead. -/
def redirect (request : Request) (url : Url) : Request :=
  { url
    headers := if isTrusted request.url.origin url.origin then request.headers
      else request.headers.erase "Authorization" }

/-- The request that a location asks for. Hosts of both URLs are compared in readable form, and that
of another origin goes into a header field. -/
def follow (request : Request) (location : String) : Except Thrown Request := do
  let url ← request.target location
  let _ ← readHost url
  let _ ← readHost request.url
  if url.origin ≠ request.url.origin then checkHost url
  return request.redirect url

/-- Whether a response to a request is final or asks for another request. A response to a URL
without a scheme is of no use. -/
def progress (request : Request) (response : Response) : Except Thrown Progress := do
  if !request.url.namesScheme then .error (.foreign (.schemelessUrl request.url.render))
  match response.location? with
  | none => return .final response
  | some location => return .redirected (← request.follow location)

end Request

/-- Sends a request and follows up to `left` redirects. -/
def send (reply : List Request → Request → Reply) : (left : Nat) → List Request → Request → Fetched
  | left, earlier, request =>
    match reply earlier request >>= request.progress with
    | .error thrown => ⟨.error thrown, [request]⟩
    | .ok (.final response) => ⟨.ok response, [request]⟩
    | .ok (.redirected next) =>
      match left with
      | 0 => ⟨.error (.failure .redirectLimit), [request]⟩
      | left + 1 =>
        let later := send reply left (earlier ++ [request]) next
        ⟨later.outcome, request :: later.requests⟩

/-- The network that gives the replies in turn, the last one again and again. -/
def Network.scripted (replies : List Reply) : Network where
  reply := scriptedReply replies
  origin? base := (Url.ofText base).toOption.map Url.origin
  first := firstRequest
  progress := Request.progress
  get base headers path earlier :=
    match firstRequest base headers path with
    | .error thrown => ⟨.error thrown, []⟩
    | .ok request => send (scriptedReply replies) maxRedirects earlier request
  text := Response.text

end ConstrainedDecoding.Http
