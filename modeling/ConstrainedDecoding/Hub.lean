import ConstrainedDecoding.Http.Client
import ConstrainedDecoding.Tokenizer.Description

/-!
Tokenizers from a model hub. The hub keeps the tokenizer document of each revision of a model under
a path of its own.
-/

namespace ConstrainedDecoding.Hub

/-- A model at a revision, and how to get at the hub where the environment does not say. -/
structure Source where
  model : String
  revision : String := "main"
  token : Option String := none
  base : Option String := none
  deriving DecidableEq, Repr

/-- The path of the tokenizer document, below the hub's base location. Slashes around the model's
name are dropped. -/
def documentPath (model revision : String) : String :=
  let name := String.ofList (Text.trimBoth (· = '/') model.toList)
  s!"/{name}/resolve/{revision}/tokenizer.json"

/-- The path of a source's document. -/
def Source.path (source : Source) : String :=
  documentPath source.model source.revision

/-- The client for a hub, which presents the credential if there is one. -/
def Source.client (source : Source) (environment : Environment) : Http.Client :=
  .create (environment.hubUrl source.base) <|
    match environment.hubCredential source.token with
    | some credential => [("Authorization", s!"Bearer {credential}")]
    | none => []

/-- Loads the tokenizer of a source. The second result are the requests made. -/
def load [Stack] (environment : Environment) (network : Http.Network) (source : Source) :
    Except Fault Tokenizer × List Http.Request :=
  let (document, seen) := (source.client environment).getJson network [] source.path
  (document >>= fun document => Tokenizer.parse (.ofJson document), seen)

end ConstrainedDecoding.Hub
