import ConstrainedDecoding.Environment
import ConstrainedDecoding.Http.Exchange
import ConstrainedDecoding.Stack

/-!
A client that reads JSON documents below one base location. There is one attempt for each document,
and every outcome other than a decoded document is a fault that names the location asked for.
-/

namespace ConstrainedDecoding.Http

/-- A base location without slashes at its end, and the header fields of every request. -/
structure Client where
  base : String
  headers : Headers
  deriving DecidableEq, Repr

namespace Client

/-- A client with further header fields. JSON is asked for unless they ask for something else. -/
def create (base : String) (given : Headers) : Client :=
  { base := Environment.trimSlashes base
    headers := given.foldl (fun headers field => Keyed.insert headers field.1 field.2)
      [("Accept", "application/json")] }

/-- The location of a path in the wording of faults. -/
def location (client : Client) (path : String) : String :=
  client.base ++ path

variable [Stack] (client : Client) (network : Network)

/-- The document in a final response. -/
def read (path : String) (response : Response) : Except Fault Json :=
  if isSuccess response.status then
    match Json.readBytesWithin (Stack.levels .responseText) response.body with
    | .ok document => .ok document
    | .error error =>
      if error.isMalformed then .error (.responseNotJson (client.location path) error)
      else .error (.unreadable error)
  else
    network.text response >>= fun text =>
      .error (.badStatus response.status (client.location path) text)

/-- Reads the document at a path. The second result are all requests that the network has seen. -/
def getJson (earlier : List Request) (path : String) : Except Fault Json × List Request :=
  let fetched := network.get client.base client.headers path earlier
  (fetched.outcome.mapError (Thrown.fault (client.location path)) >>= client.read network path,
    earlier ++ fetched.requests)

end Client

end ConstrainedDecoding.Http
