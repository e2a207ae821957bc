import ConstrainedDecoding.Grammar.Basic
import ConstrainedDecoding.Session.Basic
import ConstrainedDecoding.Tokenizer.Basic

/-!
Matchers. A matcher owns one session and knows which grammar the session enforces. It is ready or
complete once it has been created, and can always be set back to the start of its first grammar, of
its current one or of another. A grammar that is turned down leaves the matcher at the start of its
current one.
-/

namespace ConstrainedDecoding

/-- A matcher with a session: the grammar it was created with, and the one that has replaced it, if
any. -/
structure LiveMatcher (σ : Type) where
  session : σ
  first : Grammar
  replacement : Option Grammar := none

/-- A matcher, which has no session until it is created over one. -/
abbrev Matcher (σ : Type) := Option (LiveMatcher σ)

/-- Where a matcher is in its life. -/
inductive MatcherState
  | uninitialized
  | ready
  | complete
  deriving DecidableEq, Repr

/-- What a matcher may be reset to: the grammar it was created with, the one it is at, or another.
-/
inductive ResetTarget
  | first
  | current
  | other (grammar : Grammar)

namespace LiveMatcher

variable {σ : Type}

/-- The grammar that is enforced. -/
def grammar (matcher : LiveMatcher σ) : Grammar :=
  matcher.replacement.getD matcher.first

/-- The grammar of a target and the replacement that reaching it leaves. -/
def resolve (matcher : LiveMatcher σ) : ResetTarget → Grammar × Option Grammar
  | .first => (matcher.first, none)
  | .current => (matcher.grammar, matcher.replacement)
  | .other grammar => (grammar, some grammar)

end LiveMatcher

namespace Matcher

variable [Stack] {σ α : Type}

/-- The grammar that is enforced, if there is a session. -/
def grammar? (matcher : Matcher σ) : Option Grammar :=
  matcher.map LiveMatcher.grammar

/-- An action on a matcher that has a session. -/
def whenLive (action : Action (LiveMatcher σ) α) : Action (Matcher σ) α
  | none => ⟨.error .uninitialized, none, []⟩
  | some live =>
    let outcome := action live
    ⟨outcome.result, some outcome.state, outcome.events⟩

/-- An action on the session of a matcher. -/
def onSession (action : Action σ α) : Action (LiveMatcher σ) α :=
  action.onPart LiveMatcher.session fun session live => { live with session }

variable (S : Session σ)

/-- Where the matcher is in its life. -/
def state : Action (Matcher σ) MatcherState
  | none => ⟨.ok .uninitialized, none, []⟩
  | some live => whenLive (do
      return if ← onSession S.isComplete then .complete else .ready) (some live)

/-- The number of tokens. -/
def vocabSize : Action (Matcher σ) Int :=
  whenLive do return S.vocabSize (← Action.get).session

/-- Whether a token may come next. Tokens outside the vocabulary never may. -/
def isAllowed (token : Int) : Action (Matcher σ) Bool :=
  whenLive do
    let size := S.vocabSize (← Action.get).session
    if token < 0 ∨ size ≤ token then return false else onSession (S.isAllowed token)

/-- For each token whether it may come next. -/
def mask : Action (Matcher σ) (List Bool) :=
  whenLive (onSession S.mask)

/-- Commits a token to the parse. It is not checked again. -/
def advance (token : Int) : Action (Matcher σ) Unit :=
  whenLive (onSession (S.advance token))

/-- Whether generation may end here. -/
def isComplete : Action (Matcher σ) Bool :=
  whenLive (onSession S.isComplete)

/-! ## Resetting -/

/-- Starts the current grammar again. -/
def restartCurrent : Action (LiveMatcher σ) Unit := do
  match (← Action.get).replacement with
  | none => onSession (S.reset "")
  | some grammar =>
    let text ← Action.ofExcept grammar.render
    onSession (S.reset text)

/-- What follows when a grammar is turned down: the current grammar is started again, and the fault
is reported as a rejection. A fault that is no rejection passes through. -/
def turnDown (fault : Fault) : Action (LiveMatcher σ) Unit :=
  if fault.kind.isRejection then do
    restartCurrent S
    Action.fail (if fault.kind = .oracleInit then fault else .rejectedOnReset fault)
  else Action.fail fault

/-- Switches to a grammar; `replacement` is what it replaces the first grammar by. -/
def switchTo (grammar : Grammar) (replacement : Option Grammar) : Action (LiveMatcher σ) Unit := do
  Action.recover
    (do
      let text ← Action.ofExcept grammar.render
      onSession (S.reset text))
    (turnDown S)
  Action.modify fun live => { live with replacement }

/-- Discards the progress of the parse. Without a target the matcher goes back to its first grammar,
which is only handed over again if another has replaced it. -/
def reset (target : Option ResetTarget) : Action (Matcher σ) Unit :=
  whenLive do
    let live ← Action.get
    match target with
    | none =>
      match live.replacement with
      | none => onSession (S.reset "")
      | some _ => switchTo S live.first none
    | some target => switchTo S (live.resolve target).1 (live.resolve target).2

/-! ## Creation -/

/-- A fault in making a session, as the creation of a matcher reports it. -/
def creationFault (fault : Fault) : Fault :=
  if fault.kind = .oracleInit then fault
  else if fault.kind.isRejection then .rejectedAtCreation fault
  else fault

/-- Makes the session for a grammar and a tokenizer. -/
def openSession (B : Backend σ) (grammar : Grammar) (tokenizer : Tokenizer) : Action Unit σ := do
  let grammarText ← Action.ofExcept grammar.render
  let tokenizerText ← Action.ofExcept tokenizer.render
  B.init grammarText tokenizerText

/-- A matcher over a new session. -/
def create (B : Backend σ) (grammar : Grammar) (tokenizer : Tokenizer) :
    Action Unit (Matcher σ) := do
  B.start
  let session ← Action.recover (openSession B grammar tokenizer) fun fault =>
    Action.fail (creationFault fault)
  Action.log .debug .matcher
    s!"GrammarMatcher ready: grammar={grammar.variantName}, vocab_size={S.vocabSize session}"
  return some { session, first := grammar }

end Matcher

end ConstrainedDecoding
