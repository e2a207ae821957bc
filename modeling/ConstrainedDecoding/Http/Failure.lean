import ConstrainedDecoding.Compression.Bits
import ConstrainedDecoding.Url.Error

/-!
How an exchange fails without leaving a response to look at.
-/

namespace ConstrainedDecoding.Http

/-- A failed exchange. -/
inductive Failure
  /-- Reported by the network, with its own class and wording. -/
  | reported (name detail : String)
  | redirectLimit
  /-- A response that asks to look at what is not a URL. -/
  | badLocation (error : UrlError)
  /-- A body that is not packed as its response says. -/
  | badContent (error : Compression.StreamError)
  deriving DecidableEq, Repr

/-- The wording of a failure. -/
def Failure.message : Failure → String
  | reported _ detail => detail
  | redirectLimit => "Exceeded maximum allowed redirects."
  | badLocation error => s!"Invalid URL in location header: {error.message}."
  | badContent error => error.message

end ConstrainedDecoding.Http
