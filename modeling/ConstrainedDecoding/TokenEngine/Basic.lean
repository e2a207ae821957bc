import ConstrainedDecoding.Bitmask
import ConstrainedDecoding.Grammar.Constraint

/-!
Token engines. A token engine compiles constraints to grammars and opens parsers on them; a parser
says which tokens it takes, one by one or as a packed mask of all of them.
-/

namespace ConstrainedDecoding

/-- The operations of a token engine with loaded tokenizers `τ` and parsers `ρ`. -/
structure TokenEngine (τ ρ : Type) where
  /-- Loads a tokenizer document with its vocabulary size and end-of-sequence token. -/
  loadTokenizer : (document : String) → (size : Int) → (endToken : Option Int) → Except Fault τ
  /-- Compiles a constraint to the text of a grammar. -/
  compile : Constraint → Except Fault String
  /-- Opens a parser on a compiled grammar. -/
  openParser : τ → (grammar : String) → (logLevel : Int) → ρ
  /-- What is wrong with a parser, if its grammar is unusable. -/
  defect? : ρ → Option String
  /-- Whether a parser takes a token. -/
  takes : ρ → (token : Int) → Bool
  /-- Whether a parser moved on a token, and the parser after it. -/
  consume : ρ → (token : Int) → Bool × ρ
  /-- What a parser says after refusing a token. -/
  refusal : ρ → String
  /-- Whether a parser may end. -/
  isAccepting : ρ → Bool
  /-- A parser at the start of its grammar. -/
  restart : ρ → ρ
  /-- A packed mask with room for so many tokens. -/
  allocate : (size : Int) → Except Fault (List MaskWord)
  /-- A packed mask overwritten with the tokens that a parser takes. -/
  fill : ρ → List MaskWord → List MaskWord

end ConstrainedDecoding
