import ConstrainedDecoding.Masking.Mask
import ConstrainedDecoding.Masking.Rank
import ConstrainedDecoding.Matcher
import ConstrainedDecoding.Settings
import ConstrainedDecoding.Value.Convert

/-!
Logits processors. The best-ranked tokens are put to the matcher one by one, as far as the settings
say, and the first one it allows is forced; only if it allows none of them is the mask of all tokens
computed and applied. Statistics count how often each way was taken.
-/

namespace ConstrainedDecoding

/-- Counts of a processor's work since it was made. -/
structure Statistics where
  /-- Score vectors taken on. -/
  steps : Nat := 0
  /-- Those resolved by a well-ranked token. -/
  hits : Nat := 0
  /-- Those resolved by the full mask. -/
  misses : Nat := 0
  /-- Tokens put to the matcher one by one. -/
  candidateChecks : Nat := 0
  fullMasks : Nat := 0
  deriving DecidableEq, Repr

/-- The share of steps resolved by a well-ranked token. -/
def Statistics.hitRate (statistics : Statistics) : Binary .double :=
  if statistics.steps = 0 then .ofMagnitude false 0
  else .ofQuotient .double false statistics.hits statistics.steps

/-- A logits processor over a matcher, with the tokens generated so far. -/
structure Processor (σ : Type) where
  matcher : Matcher σ
  settings : Settings := {}
  history : List Int := []
  statistics : Statistics := {}

/-- Masked scores, and what has become of the scores that were given: they are changed in place when
the full mask is applied. `same` says whether the result is the very tensor that was given. -/
structure Masked (α : Type) where
  result : Tensor α
  input : Tensor α
  same : Bool

/-- Masked scores that are a new tensor beside the given one. -/
def Masked.beside {α : Type} (given result : Tensor α) : Masked α :=
  { result, input := given, same := false }

/-- Masked scores that have replaced the given ones. -/
def Masked.inPlace {α : Type} (result : Tensor α) : Masked α :=
  { result, input := result, same := true }

/-- The token ids of a prompt, which a processor looks at only to take them for ids. -/
inductive PromptIds
  | sequence (ids : Value)
  | tensor (ids : Tensor Int)

/-- Checks that prompt ids are a sequence. A tensor without dimensions passes only if it is zero,
which counts as empty. -/
def PromptIds.check : PromptIds → Except Fault Unit
  | sequence ids => ids.items.map fun _ => ()
  | tensor ids =>
    if ids.shape = [] ∧ ids.elements ≠ [0] then .error (.notIndexable "int") else .ok ()

namespace Processor

variable [Stack] {σ α β : Type}

/-- An action on the matcher. -/
def onMatcher (action : Action (Matcher σ) β) : Action (Processor σ) β :=
  action.onPart Processor.matcher fun matcher processor => { processor with matcher }

/-- Changes the statistics. -/
def count (change : Statistics → Statistics) : Action (Processor σ) Unit :=
  Action.modify fun processor => { processor with statistics := change processor.statistics }

/-- Traces a decision, at a level that is seen by default if the settings say so. -/
def trace (message : String) : Action (Processor σ) Unit := do
  if (← Action.get).settings.debug.truthy then
    Action.log .info .processor ("[SpeculativeLogitsProcessor] " ++ message)
  else Action.log .debug .processor message

/-- Ids in brackets. -/
def showIds (ids : List Nat) : String :=
  "[" ++ ", ".intercalate (ids.map toString) ++ "]"

variable (S : Session σ)

/-- Puts tokens to the matcher in turn, up to the first that it allows; `rank` counts those before
the first. -/
def firstAllowed : (tokens : List Nat) → (rank : Nat) → Action (Processor σ) (Option (Nat × Nat))
  | [], _ => return none
  | token :: rest, rank => do
    count fun statistics =>
      { statistics with candidateChecks := statistics.candidateChecks + 1 }
    if ← onMatcher (Matcher.isAllowed S token) then return some (token, rank)
    else firstAllowed rest (rank + 1)

/-- Resolves a step by a well-ranked token, which is forced. -/
def hit [Score α] (scores : Tensor α) (token rank : Nat) : Action (Processor σ) (Masked α) := do
  count fun statistics => { statistics with hits := statistics.hits + 1 }
  trace s!"speculation hit token={token} rank={rank}"
  return .beside scores (← Action.ofExcept (scores.maskAllExcept token))

/-- Resolves a step by the full mask. -/
def miss [Score α] (scores : Tensor α) : Action (Processor σ) (Masked α) := do
  count fun statistics =>
    { statistics with misses := statistics.misses + 1, fullMasks := statistics.fullMasks + 1 }
  trace "speculation miss, computing full mask"
  let mask ← onMatcher (Matcher.mask S)
  return .inPlace (← Action.ofExcept (scores.applyMask mask))

/-- Masks a score vector. -/
def process [Score α] (scores : Tensor α) : Action (Processor σ) (Masked α) := do
  if scores.dimensions ≠ 1 then Action.fail (.notVector scores.shape)
  else
    count fun statistics => { statistics with steps := statistics.steps + 1 }
    let processor ← Action.get
    let candidates := topRanked scores.elements processor.settings.depth
    trace s!"step={processor.statistics.steps} top{candidates.length}={showIds candidates}"
    match ← firstAllowed S candidates 0 with
    | some (token, rank) => hit scores token rank
    | none => miss S scores

/-- Masks scores as a generation loop passes them: a vector, or a batch of one. -/
def call [Score α] (ids : PromptIds) (scores : Tensor α) : Action (Processor σ) (Masked α) := do
  Action.ofExcept ids.check
  match shape_eq : scores.shape with
  | [1, length] =>
    let masked ← process S (scores.unwrap [length] shape_eq)
    return { result := masked.result.wrap, input := masked.input.wrap, same := false }
  | [batch, _] => Action.fail (.batched batch)
  | _ => process S scores

/-- Records a generated token and commits it to the parse. -/
def onToken (token : Int) : Action (Processor σ) Unit := do
  Action.modify fun processor => { processor with history := processor.history ++ [token] }
  onMatcher (Matcher.advance S token)
  trace s!"advanced token={token} position={(← Action.get).history.length}"

/-- Whether generation may end here. -/
def canStop : Action (Processor σ) Bool :=
  onMatcher (Matcher.isComplete S)

/-- Prepares for another generation with the first grammar. Statistics are kept. -/
def reset : Action (Processor σ) Unit := do
  Action.modify fun processor => { processor with history := [] }
  onMatcher (Matcher.reset S none)

/-- A processor over a new matcher. -/
def create (B : Backend σ) (grammar : Grammar) (tokenizer : Tokenizer) (settings : Settings) :
    Action Unit (Processor σ) := do
  return { matcher := ← Matcher.create S B grammar tokenizer, settings }

end Processor

end ConstrainedDecoding
