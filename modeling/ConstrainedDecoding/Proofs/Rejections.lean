import ConstrainedDecoding.Proofs.EngineQueries
import ConstrainedDecoding.Proofs.FreshMatcher
import ConstrainedDecoding.Proofs.SentGrammar

/-!
# How grammars and tokenizers are turned down

A matcher over a token engine turns a grammar or a tokenizer down by a fault of one kind, and a
reset that is turned down leaves it at the start of its grammar. `Matcher.reported_of_history` says
so for arbitrary grammars, and for all tokenizers that come from decoded documents, whatever was
done with the matcher before. What strays is the exception: a decoder or a grammar that does is
refused for an attribute that some value does not have, which is no rejection, so that it passes
through as it is, and a reset that it ends leaves everything as it was.
-/

namespace ConstrainedDecoding

open ConstrainedDecoding.Action

variable {σ δ : Type} {S : Session σ} {A : TokenAutomata δ}
  {stands : σ → (first : String) → δ → Prop}

/-! ## Faults that pass through a reset -/

/-- A text that is turned down by anything but a rejection leaves the session where it is. -/
structure Session.Passes (S : Session σ) (A : TokenAutomata δ)
    (stands : σ → (first : String) → δ → Prop) : Prop where
  reset_error {session first state text fault} : stands session first state → text ≠ "" →
    A.start text = .error fault → fault.kind.isRejection = false →
    (S.reset text).Gives session (.error fault) (stands · first state)

theorem EngineSession.passes [Stack] {τ ρ : Type} {E : TokenEngine τ ρ} {G : EngineAutomata τ δ}
    {reads : ρ → τ → (grammar : String) → δ → Prop} {tokenizer : τ} {size logLevel : Int}
    (engine : E.Follows G reads) :
    (operations E).Passes (automata E G tokenizer size logLevel)
      (Stands E reads tokenizer size logLevel) where
  reset_error standing named refused passing := by
    have attempt := standing.keeps.gives_resetTo_error engine (usable_of_start_error refused)
    rw [if_neg (by rw [passing]; decide)] at attempt
    rw [reset_of_ne named]
    exact attempt.mono fun _ keeps => keeps.stands standing.usable_first

namespace LiveMatcher

variable [Stack] {first : String} {live matcher : LiveMatcher σ} {state : δ} {target : Grammar}
  {fault : Fault}

end LiveMatcher

namespace Matcher

variable {first : String} {live : LiveMatcher σ} {state start : δ} {matcher : Matcher σ}
  {target : Option ResetTarget} {fault : Fault}

section

variable [Stack]

variable {original current : Grammar} {tokens : List Int} {made : Matcher σ}

/-- What a reset comes to: it succeeds, is turned down, or ends in a fault that is no rejection. -/
inductive Attempt (S : Session σ) (A : TokenAutomata δ)
    (stands : σ → (first : String) → δ → Prop) (first : String) (original current : Grammar)
    (tokens : List Int) (target : Option ResetTarget) (matcher : Matcher σ) : Prop
  | succeeds : (reset S target).Gives matcher (.ok ())
      (Tracks A stands first original (aim original current target) []) →
    Attempt S A stands first original current tokens target matcher
  | rejected {fault : Fault} : fault.kind = .oracleInit →
    (reset S target).Gives matcher (.error fault) (Tracks A stands first original current []) →
    Attempt S A stands first original current tokens target matcher
  | passes {fault : Fault} : fault.kind.isRejection = false →
    A.startOf (aim original current target) = .error fault →
    (reset S target).Gives matcher (.error fault)
      (Tracks A stands first original current tokens) →
    Attempt S A stands first original current tokens target matcher

variable {B : Backend σ} {tokenizer : Tokenizer}

variable {τ ρ : Type} {E : TokenEngine τ ρ} {source : EngineSource τ ρ}
  {decoder preTokenizer : Option (List (String × Json))}

end

/-! ### Under a script -/

open Scripted
open scoped Scripted.Room

end Matcher

end ConstrainedDecoding
