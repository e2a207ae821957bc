import ConstrainedDecoding.Session.Action

/-!
Grammar sessions. A session is a live parse that answers which tokens may come next; how it does
that is not this library's business. A backend makes sessions from the texts of a grammar and of a
tokenizer record.
-/

namespace ConstrainedDecoding

/-- The operations of a session whose live parse is a state `σ`. -/
structure Session (σ : Type) where
  /-- The number of tokens, which are counted from zero. -/
  vocabSize : σ → Int
  /-- Whether a token may come next. -/
  isAllowed : (token : Int) → Action σ Bool
  /-- For each token whether it may come next. -/
  mask : Action σ (List Bool)
  /-- Commits a token to the parse. -/
  advance : (token : Int) → Action σ Unit
  /-- Whether the parse may end here. -/
  isComplete : Action σ Bool
  /-- Starts the parse again on the text of a grammar; an empty text is the first grammar. -/
  reset : (grammar : String) → Action σ Unit

/-- Where sessions come from. -/
structure Backend (σ : Type) where
  /-- Waits until sessions can be made. -/
  start : Action Unit Unit
  /-- Makes a session from the texts of a grammar and of a tokenizer record. -/
  init : (grammar tokenizer : String) → Action Unit σ

end ConstrainedDecoding
