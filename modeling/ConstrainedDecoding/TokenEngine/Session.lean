import ConstrainedDecoding.Environment
import ConstrainedDecoding.Session.Basic
import ConstrainedDecoding.TokenEngine.Basic
import ConstrainedDecoding.Tokenizer.EngineForm

/-!
Grammar sessions over a token engine. Such a session keeps one parser and one packed mask; single
tokens are put to the parser, and the mask of all tokens is unpacked from the packed one after the
parser has filled it. A new grammar takes a new parser, and a grammar that is turned down sets the
parser in use back to its start.
-/

namespace ConstrainedDecoding

/-- A session over a token engine. Its grammar is the first one until another replaces it. -/
structure EngineSession (τ ρ : Type) where
  tokenizer : τ
  parser : ρ
  /-- The number of the parser in use. -/
  number : Nat
  /-- How many parsers have been opened. -/
  opened : Nat
  first : String
  replacement : Option String := none
  size : Int
  logLevel : Int
  buffer : List MaskWord

namespace EngineSession

variable [Stack] {τ ρ σ : Type} (E : TokenEngine τ ρ)

/-- Compiles what a wire form constrains. -/
def compile (wire : Value) : Action σ String := do
  let constraint ← Action.ofExcept (Constraint.ofWire wire)
  Action.call (.compile constraint)
  Action.ofExcept (E.compile constraint)

/-- Reads a JSON text that a session is sent. -/
def readText (text : String) : Action σ Value :=
  Action.ofExcept
    (((Json.readWithin (Stack.levels .sentText) text).mapError Fault.unreadable).map Value.ofJson)

/-- Refuses a parser that is defective. -/
def checkParser (parser : ρ) : Action σ Unit :=
  match E.defect? parser with
  | some detail => Action.fail (.engineRejected detail)
  | none => pure ()

/-- Opens the next parser on a compiled grammar. -/
def openNext (grammar : String) : Action (EngineSession τ ρ) (ρ × Nat) := do
  let session ← Action.get
  let parser := E.openParser session.tokenizer grammar session.logLevel
  Action.call (.openParser session.opened grammar session.logLevel)
  Action.modify fun session => { session with opened := session.opened + 1 }
  checkParser E parser
  return (parser, session.opened)

/-- Sets the parser in use back to the start of its grammar. -/
def restartParser : Action (EngineSession τ ρ) Unit := do
  Action.call (.restart (← Action.get).number)
  Action.modify fun session => { session with parser := E.restart session.parser }

/-- Puts a parser to use on the first grammar or on one that replaces it. -/
def install (parser : ρ) (number : Nat) (replacement : Option String) :
    Action (EngineSession τ ρ) Unit :=
  Action.modify fun session => { session with parser, number, replacement }

/-- Starts the parse again on the first grammar. -/
def resetToFirst : Action (EngineSession τ ρ) Unit := do
  let session ← Action.get
  match session.replacement with
  | none => restartParser E
  | some _ =>
    let (parser, number) ← openNext E session.first
    install parser number none

/-- Starts the parse on the grammar of another wire form. -/
def resetTo (text : String) : Action (EngineSession τ ρ) Unit := do
  let (grammar, parser, number) ← Action.recover
    (do
      let wire ← readText text
      let grammar ← compile E wire
      let (parser, number) ← openNext E grammar
      return (grammar, parser, number))
    fun fault => do
      if fault.kind.isRejection then restartParser E
      Action.fail fault
  install parser number (some grammar)

/-- The number of a session's parser and a question put to it. -/
def ask {α : Type} (call : Nat → Call) (answer : ρ → α) : Action (EngineSession τ ρ) α := do
  let session ← Action.get
  Action.call (call session.number)
  return answer session.parser

/-- Commits a token to the parse; a refusal is only noted in the log. -/
def advance (token : Int) : Action (EngineSession τ ρ) Unit := do
  let session ← Action.get
  let (moved, parser) := E.consume session.parser token
  Action.call (.consume session.number token moved)
  Action.modify fun session => { session with parser }
  unless moved do
    Action.log .debug .engineSession s!"llguidance refused token {token}: {E.refusal parser}"

/-- For each token whether the parser takes it, unpacked from the packed mask. -/
def mask : Action (EngineSession τ ρ) (List Bool) := do
  let session ← Action.get
  Action.call (.fill session.number)
  let buffer := E.fill session.parser session.buffer
  Action.modify fun session => { session with buffer }
  return Bitmask.unpack buffer session.size

/-- The operations of a session over a token engine. -/
def operations : Session (EngineSession τ ρ) where
  vocabSize := size
  isAllowed token := ask (.validate · token) (E.takes · token)
  mask := mask E
  advance := advance E
  isComplete := ask .accepting E.isAccepting
  reset grammar := if grammar.isEmpty then resetToFirst E else resetTo E grammar

/-- Makes a session from the texts of a grammar and of a tokenizer record. -/
def init (logLevel : Int) (grammarText tokenizerText : String) :
    Action Unit (EngineSession τ ρ) := do
  let record ← readText tokenizerText
  let size ← Action.ofExcept (EngineForm.vocabSize record >>= EngineForm.wholeSize)
  if size = 0 then Action.fail .emptyVocabulary
  let (document, skipped) ← Action.ofExcept (EngineForm.document record)
  if skipped ≠ 0 then
    Action.log .debug .engineSession
      s!"Skipped {skipped} merges not covered by the vocabulary"
  let documentText ← Action.ofExcept (document.renderWithin (Stack.levels .document))
  let endToken ← Action.ofExcept (EngineForm.endToken record)
  Action.call (.loadTokenizer documentText size endToken)
  let tokenizer ← Action.ofExcept (E.loadTokenizer documentText size endToken)
  let grammar ← compile E (← readText grammarText)
  Action.log .debug .engineSession s!"Creating llguidance session (vocab_size={size})"
  let parser := E.openParser tokenizer grammar logLevel
  Action.call (.openParser 0 grammar logLevel)
  checkParser E parser
  Action.call (.allocate size)
  let buffer ← Action.ofExcept (E.allocate size)
  return {
    tokenizer, parser, size, logLevel, buffer
    number := 0, opened := 1, first := grammar }

end EngineSession

/-- Where a token engine comes from: its module, which may be missing, and the log level it is
given. -/
structure EngineSource (τ ρ : Type) where
  engine : Option (TokenEngine τ ρ)
  logLevel : Int

namespace EngineSource

variable [Stack] {τ ρ : Type}

/-- The log level for engines: the one given, else that of the environment. -/
def chooseLogLevel (environment : Environment) (given : Option Int) : Int :=
  given.getD environment.engineLogLevel

/-- Loads the engine. -/
def start (source : EngineSource τ ρ) : Action Unit Unit :=
  if source.engine.isSome then pure () else Action.fail .engineMissing

/-- Makes a session, once the engine has been loaded. -/
def init (source : EngineSource τ ρ) (started : Bool) (grammar tokenizer : String) :
    Action Unit (EngineSession τ ρ) :=
  match started, source.engine with
  | true, some engine => EngineSession.init engine source.logLevel grammar tokenizer
  | _, _ => Action.fail .engineNotStarted

/-- The backend whose sessions run over the engine. -/
def backend (source : EngineSource τ ρ) : Backend (EngineSession τ ρ) where
  start := source.start
  init := source.init true

end EngineSource

end ConstrainedDecoding
