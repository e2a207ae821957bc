import ConstrainedDecoding.Proofs.ProcessorStates
import ConstrainedDecoding.Proofs.ScriptedAutomata

/-!
# Greedy decoding

Greedy decoding masks the scores that a model gives for the history, records the token ranked first
afterwards, and goes on until generation may end. How many tokens are put to the matcher one by one
makes a difference for the masked scores but not for what is recorded: `Processor.greedy_eq_of_at`
compares two runs of any length.
-/

namespace ConstrainedDecoding

/-- A vector of scores, at least one, of either width. -/
structure Logits where
  width : Width
  scores : List (Binary width)
  scores_ne_nil : scores ≠ []

namespace Processor

variable {σ δ : Type} {S : Session σ} {A : TokenAutomata δ}
  {stands : σ → (first : String) → δ → Prop} {first : String}

/-- A step of greedy decoding, which tells whether generation may end after it. -/
def greedyStep (S : Session σ) (model : (history : List Int) → Logits) :
    Action (Processor σ) Bool := do
  let logits := model (← Action.get).history
  let masked ← process S (.vector logits.scores)
  match topRanked masked.result.elements 1 with
  | token :: _ =>
    onToken S token
    canStop S
  | [] => Action.fail .badIndex

/-- Greedy decoding for at most so many steps. The result is the number of the step at which it
stopped, counted from one. -/
def greedy (S : Session σ) (model : (history : List Int) → Logits) :
    (steps : Nat) → Action (Processor σ) (Option Nat)
  | 0 => return none
  | steps + 1 => do
    if ← greedyStep S model then return some 1
    else return (← greedy S model steps).map (· + 1)

/-- From a state and a history, one token is recorded by processors of all settings. -/
theorem exists_gives_greedyStep (answers : S.Answers A stands)
    (model : (history : List Int) → Logits) (state : δ) (history : List Int) :
    ∃ token : Int, ∀ {first live settings} {processor : Processor σ},
      At stands first live settings state history processor →
      (greedyStep S model).Gives processor (.ok (A.accepts (A.next state token)))
        (At stands first live settings (A.next state token) (history ++ [token])) := by
  have vector : (Tensor.vector (model history).scores).shape = [(model history).scores.length] :=
    rfl
  have nonempty : ((Tensor.vector (model history).scores).keep fun position =>
      A.permits state position).elements ≠ [] := by
    rw [← List.length_pos_iff, Tensor.length_elements_keep]
    exact List.length_pos_iff.2 (model history).scores_ne_nil
  obtain ⟨token, ranked⟩ := exists_topRanked_one nonempty
  refine ⟨token, fun {first live settings processor} standing => Action.Gives.of_get ?_⟩
  rw [standing.history]
  obtain ⟨masked, result_eq, gives⟩ := gives_process answers vector standing
  refine gives.bind fun middle middleAt => ?_
  rw [result_eq, TokenAutomata.topRanked_masked, ranked]
  exact (gives_onToken answers token middleAt).bind fun left leftAt =>
    gives_canStop answers leftAt

/-- From a state and a history, processors of all settings come to the same end. -/
theorem exists_gives_greedy (answers : S.Answers A stands)
    (model : (history : List Int) → Logits) (steps : Nat) (state : δ) (history : List Int) :
    ∃ stopped left tokens, ∀ {first live settings} {processor : Processor σ},
      At stands first live settings state history processor →
      (greedy S model steps).Gives processor (.ok stopped)
        (At stands first live settings left tokens) := by
  -- the token of a step is the same for all settings, so that both runs go on from one state
  induction steps generalizing state history with
  | zero =>
      exact ⟨none, state, history, fun {_ _ _ processor} standing =>
        (Action.gives_pure none processor).of_eq standing⟩
  | succ steps ih =>
      obtain ⟨token, step⟩ := exists_gives_greedyStep answers model state history
      cases ends : A.accepts (A.next state token) with
      | true =>
          rw [ends] at step
          exact ⟨some 1, A.next state token, history ++ [token], fun standing =>
            (step standing).bind fun middle middleAt =>
              (Action.gives_pure _ middle).of_eq middleAt⟩
      | false =>
          rw [ends] at step
          obtain ⟨stopped, left, tokens, goesOn⟩ := ih (A.next state token) (history ++ [token])
          exact ⟨stopped.map (· + 1), left, tokens, fun standing =>
            (step standing).bind fun middle middleAt =>
              (goesOn middleAt).bind fun last lastAt =>
                (Action.gives_pure _ last).of_eq lastAt⟩

/-- Two processors that have recorded the same history and whose sessions are at the same state
record the same tokens, stop at the same step and leave their sessions at the same state, however
many ranked tokens each of them looks at one by one. -/
theorem greedy_eq_of_at (answers : S.Answers A stands) (model : (history : List Int) → Logits)
    (steps : Nat) {state : δ} {history : List Int} {first first' : String}
    {live live' : LiveMatcher σ} {settings settings' : Settings} {one other : Processor σ}
    (oneAt : At stands first live settings state history one)
    (otherAt : At stands first' live' settings' state history other) :
    (∃ stopped, (greedy S model steps one).result = .ok stopped ∧
      (greedy S model steps other).result = .ok stopped) ∧
    (greedy S model steps one).state.history = (greedy S model steps other).state.history ∧
    ∃ left, Matcher.At stands first live left (greedy S model steps one).state.matcher ∧
      Matcher.At stands first' live' left (greedy S model steps other).state.matcher := by
  obtain ⟨stopped, left, tokens, gives⟩ := exists_gives_greedy answers model steps state history
  have oneGives := gives oneAt
  have otherGives := gives otherAt
  refine ⟨⟨stopped, oneGives.result_eq, otherGives.result_eq⟩, ?_, left,
    oneGives.post_state.matcher, otherGives.post_state.matcher⟩
  rw [oneGives.post_state.history, otherGives.post_state.history]

open Scripted

/-- A model that gives the same two scores after every history. -/
def twoLogits (_ : List Int) : Logits where
  width := .single
  scores := [.ofMagnitude false 5, .ofMagnitude false 3]
  scores_ne_nil := List.cons_ne_nil _ _

open scoped Scripted.Room

theorem created_of_depth (settings : Settings) : ∃ made, (create Parse.operations
    (Parse.backend onlyOne none) (.regex (.text "b")) twoTokens settings ()).result = .ok made := by
  obtain ⟨matcher, created⟩ : ∃ matcher, (Matcher.create Parse.operations
      (Parse.backend onlyOne none) (.regex (.text "b")) twoTokens ()).result = .ok matcher :=
    exists_of_isOk (by decide +kernel)
  exact ⟨{ matcher, settings }, create_eq_ok.2 ⟨matcher, created, rfl⟩⟩

/-- Under a script, two processors that look at one and at four tokens decode alike. -/
theorem greedy_eq_onlyOne : ∃ one other,
    (create Parse.operations (Parse.backend onlyOne none) (.regex (.text "b")) twoTokens
      { depth := 1 } ()).result = .ok one ∧
    (create Parse.operations (Parse.backend onlyOne none) (.regex (.text "b")) twoTokens
      { depth := 4 } ()).result = .ok other ∧
    (greedy Parse.operations twoLogits 3 one).result =
      (greedy Parse.operations twoLogits 3 other).result ∧
    (greedy Parse.operations twoLogits 3 one).state.history =
      (greedy Parse.operations twoLogits 3 other).state.history := by
  obtain ⟨one, oneCreated⟩ := created_of_depth { depth := 1 }
  obtain ⟨other, otherCreated⟩ := created_of_depth { depth := 4 }
  obtain ⟨first, origin, live, rendered, started, _, oneAt⟩ :=
    at_of_create opens_twoTokens oneCreated
  obtain ⟨first', origin', live', rendered', started', _, otherAt⟩ :=
    at_of_create opens_twoTokens otherCreated
  cases rendered.symm.trans rendered'
  cases started.symm.trans started'
  have answers : Parse.operations.Answers (Parse.automata onlyOne 2) (Parse.Stands onlyOne 2) :=
    (Parse.follows isFull_onlyOne).toAnswers
  obtain ⟨⟨stopped, oneResult, otherResult⟩, histories, _⟩ :=
    greedy_eq_of_at answers twoLogits 3 oneAt otherAt
  exact ⟨one, other, oneCreated, otherCreated, oneResult.trans otherResult.symm, histories⟩

end Processor

end ConstrainedDecoding
