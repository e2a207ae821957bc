import ConstrainedDecoding.Proofs.EngineAutomata
import ConstrainedDecoding.Proofs.GrammarText
import ConstrainedDecoding.Proofs.MatcherStates
import ConstrainedDecoding.Proofs.ScriptedAutomata

/-!
# Matchers are as good as new

Whatever has been done with a matcher, it reports what a new matcher reports that is made for the
grammar it was last reset to and has been given the tokens committed since. A reset that is turned
down discards the tokens and keeps the grammar. What is kept in step for this are the grammar the
matcher was made for, the one that has replaced it, and the one its session enforces.
-/

namespace ConstrainedDecoding

open ConstrainedDecoding.Action

variable {σ δ : Type} {S : Session σ} {A : TokenAutomata δ}
  {stands : σ → (first : String) → δ → Prop}

/-- The state in which the parse of a grammar starts, or how the grammar is turned down. -/
def TokenAutomata.startOf [Stack] (A : TokenAutomata δ) (grammar : Grammar) : Except Fault δ := do
  A.start (← grammar.render)

/-! ## Resetting the session of a matcher -/

namespace LiveMatcher

variable {first : String} {live matcher : LiveMatcher σ} {state start : δ} {target : Grammar}
  {fault : Fault}

/-- A fault that turns a grammar down, as a reset reports it. -/
def rejection (fault : Fault) : Fault :=
  if fault.kind = .oracleInit then fault else .rejectedOnReset fault

section

variable [Stack]

/-- The session is made for the first grammar of the matcher, and both the first and the current
grammar start a parse. -/
structure InStep (A : TokenAutomata δ) (first : String) (live : LiveMatcher σ) (start : δ) :
    Prop where
  rendered_first : live.first.render = .ok first
  started_first : ∃ origin, A.start first = .ok origin
  started : A.startOf live.grammar = .ok start

/-- The part of a switch that may be turned down. -/
def handOver (S : Session σ) (grammar : Grammar) : Action (LiveMatcher σ) Unit := do
  let text ← Action.ofExcept grammar.render
  Matcher.onSession (S.reset text)

theorem gives_handOver (follows : S.Follows A stands)
    (started : A.startOf target = .ok start) (standing : At stands first live state matcher) :
    (handOver S target).Gives matcher (.ok ()) (At stands first live start) := by
  obtain ⟨text, rendered, started⟩ := bind_eq_ok.1 started
  refine (gives_ofExcept_of_eq rendered matcher).step (gives_onSession ?_ standing)
  intro session sessionAt
  apply follows.reset_ok sessionAt
  rw [if_neg (Grammar.ne_empty_of_render rendered)]
  exact started

theorem gives_switchTo (follows : S.Follows A stands) (replacement : Option Grammar)
    (started : A.startOf target = .ok start) (standing : At stands first live state matcher) :
    (Matcher.switchTo S target replacement).Gives matcher (.ok ())
      (At stands first { live with replacement } start) := by
  refine (gives_handOver follows started standing).recover.bind fun left leftAt => ?_
  obtain ⟨session, rfl, sessionAt⟩ := leftAt
  exact (gives_modify _ _).of_eq ⟨session, rfl, sessionAt⟩

end

end LiveMatcher

/-! ## What a matcher is reset to -/

namespace Matcher

/-- The grammar that a reset is for, given the grammar the matcher was made for and the current one.
-/
def aim (original current : Grammar) : Option ResetTarget → Grammar
  | none | some .first => original
  | some .current => current
  | some (.other grammar) => grammar

variable {first : String} {live : LiveMatcher σ} {state start : δ} {matcher : Matcher σ}
  {target : Option ResetTarget} {fault : Fault}

theorem aim_some (target : ResetTarget) :
    aim live.first live.grammar (some target) = (live.resolve target).1 := by
  cases target <;> rfl

theorem grammar_resolve (target : ResetTarget) :
    ({ live with replacement := (live.resolve target).2 } : LiveMatcher σ).grammar =
      (live.resolve target).1 := by
  cases target <;> rfl

section

variable [Stack]

theorem gives_reset (follows : S.Follows A stands) {left : δ}
    (started : A.startOf (aim live.first live.grammar target) = .ok left)
    (rendered_first : live.first.render = .ok first)
    (standing : At stands first live state matcher) :
    ∃ replacement, ({ live with replacement } : LiveMatcher σ).grammar =
        aim live.first live.grammar target ∧
      (reset S target).Gives matcher (.ok ())
        (At stands first { live with replacement } left) := by
  cases target with
  | none =>
      refine ⟨none, rfl, ?_⟩
      cases replaced : live.replacement with
      | none =>
          -- the first grammar is in force and restarts without being handed over
          have same : ({ live with replacement := none } : LiveMatcher σ) = live := by
            rw [← replaced]
          obtain ⟨text, rendered, started⟩ := bind_eq_ok.1 started
          cases rendered.symm.trans rendered_first
          rw [same]
          exact gives_reset_first follows started replaced standing
      | some current =>
          obtain ⟨matcher, rfl, session, rfl, sessionAt⟩ := standing
          refine gives_whenLive (Gives.of_get ?_)
          dsimp only
          rw [replaced]
          exact LiveMatcher.gives_switchTo follows none started
            ⟨session, by rw [replaced], sessionAt⟩
  | some target =>
      obtain ⟨matcher, rfl, session, rfl, sessionAt⟩ := standing
      refine ⟨_, (grammar_resolve target).trans (aim_some target).symm,
        gives_whenLive (Gives.of_get ?_)⟩
      rw [aim_some] at started
      exact LiveMatcher.gives_switchTo follows _ started ⟨session, rfl, sessionAt⟩

/-- What becomes of a matcher after it was made for a grammar, with the grammar of the last reset
that succeeded and the tokens committed since the last reset of any outcome. All other grammars that
it is reset to are admitted ones. -/
inductive Run (S : Session σ) (admitted : Grammar → Prop) (original : Grammar)
    (made : Matcher σ) : Matcher σ → (current : Grammar) → (tokens : List Int) → Prop
  | start : Run S admitted original made made original []
  | isAllowed {matcher current tokens} (token : Int) :
    Run S admitted original made matcher current tokens →
    Run S admitted original made (isAllowed S token matcher).state current tokens
  | mask {matcher current tokens} : Run S admitted original made matcher current tokens →
    Run S admitted original made (mask S matcher).state current tokens
  | isComplete {matcher current tokens} : Run S admitted original made matcher current tokens →
    Run S admitted original made (isComplete S matcher).state current tokens
  | state {matcher current tokens} : Run S admitted original made matcher current tokens →
    Run S admitted original made (Matcher.state S matcher).state current tokens
  | advance {matcher current tokens} (token : Int) :
    Run S admitted original made matcher current tokens →
    Run S admitted original made (advance S token matcher).state current (tokens ++ [token])
  | reset {matcher current tokens} (target : Option ResetTarget) :
    Run S admitted original made matcher current tokens →
    (∀ grammar, target = some (.other grammar) → admitted grammar) →
    (reset S target matcher).result = .ok () →
    Run S admitted original made (reset S target matcher).state (aim original current target) []
  | rejected {matcher current tokens fault} (target : Option ResetTarget) :
    Run S admitted original made matcher current tokens →
    (∀ grammar, target = some (.other grammar) → admitted grammar) →
    (reset S target matcher).result = .error fault →
    Run S admitted original made (reset S target matcher).state current []

/-- The matcher was made for a grammar, is in step on the current one, and its session has been
given the tokens. -/
def Tracks (A : TokenAutomata δ) (stands : σ → (first : String) → δ → Prop) (first : String)
    (original current : Grammar) (tokens : List Int) (matcher : Matcher σ) : Prop :=
  ∃ live start, live.first = original ∧ live.grammar = current ∧
    LiveMatcher.InStep A first live start ∧
    At stands first live (A.after start tokens) matcher

variable {admitted : Grammar → Prop} {original current : Grammar} {tokens : List Int}
  {made : Matcher σ}

/-- All that can be asked of a matcher. -/
structure View where
  grammar : Grammar
  state : MatcherState
  isComplete : Bool
  vocabSize : Int
  mask : List Bool
  isAllowed : (token : Int) → Bool

/-- Whatever the matcher is asked, it answers, and as the view says. -/
structure Reports (S : Session σ) (matcher : Matcher σ) (view : View) : Prop where
  grammar : matcher.grammar? = some view.grammar
  state : (Matcher.state S matcher).result = .ok view.state
  isComplete : (Matcher.isComplete S matcher).result = .ok view.isComplete
  vocabSize : (Matcher.vocabSize S matcher).result = .ok view.vocabSize
  mask : (Matcher.mask S matcher).result = .ok view.mask
  isAllowed (token : Int) : (Matcher.isAllowed S token matcher).result = .ok (view.isAllowed token)

/-- What is to be seen of a grammar at a state. -/
def viewAt (A : TokenAutomata δ) (grammar : Grammar) (state : δ) : View where
  grammar := grammar
  state := if A.accepts state then .complete else .ready
  isComplete := A.accepts state
  vocabSize := A.size
  mask := A.maskAt state
  isAllowed token := A.permits state token

omit [Stack] in
theorem At.reports (answers : S.Answers A stands) (standing : At stands first live state matcher) :
    Reports S matcher (viewAt A live.grammar state) where
  grammar := standing.grammar?_eq
  state := (gives_state answers standing).result_eq
  isComplete := (gives_isComplete answers standing).result_eq
  vocabSize := (gives_vocabSize answers standing).result_eq
  mask := (gives_mask answers standing).result_eq
  isAllowed token := (gives_isAllowed answers token standing).result_eq

/-! ## New matchers -/

end

/-! ### Runs under a script -/

open Scripted

open scoped Scripted.Room

end Matcher

end ConstrainedDecoding
