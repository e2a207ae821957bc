import ConstrainedDecoding.Number.Integer
import ConstrainedDecoding.Text.Blank

/-!
Defaults taken from the environment. An explicit argument comes first; an empty text counts as not
given.
-/

namespace ConstrainedDecoding

/-- The variables of the environment that are read. -/
structure Environment where
  hubToken : Option String := none
  hubEndpoint : Option String := none
  logLevel : Option String := none

namespace Environment

/-- The first text that is given and not empty. -/
def firstGiven (candidates : List (Option String)) : Option String :=
  candidates.findSome? fun candidate => candidate.filter (!·.isEmpty)

/-- A text without the slashes at its end. -/
def trimSlashes (text : String) : String :=
  String.ofList (Text.trimEnd (· = '/') text.toList)

/-- The base location of the hub, without slashes at its end. -/
def hubUrl (environment : Environment) (base : Option String) : String :=
  trimSlashes ((firstGiven [base, environment.hubEndpoint]).getD "https://huggingface.co")

/-- The credential for the hub. -/
def hubCredential (environment : Environment) (token : Option String) : Option String :=
  firstGiven [token, environment.hubToken]

/-- The log level for engines, which is 1 unless a numeral is given. -/
def engineLogLevel (environment : Environment) : Int :=
  (environment.logLevel.bind readInteger?).getD 1

end Environment

end ConstrainedDecoding
