import ConstrainedDecoding.Matcher
import ConstrainedDecoding.Proofs.TokenAutomata

/-!
# Matchers over sessions that follow automata

`Matcher.At stands first live state` says of a matcher that its session was made for the text
`first` and is at an automaton state, and that the matcher is `live` in everything else. Questions
leave such a matcher where it is, a token takes it to the next state, and what it answers is what
the automaton says: tokens outside the vocabulary are refused without asking the session.
-/

namespace ConstrainedDecoding

open ConstrainedDecoding.Action

variable {σ δ α : Type} {S : Session σ} {A : TokenAutomata δ}
  {stands : σ → (first : String) → δ → Prop} {first : String} {live : LiveMatcher σ}
  {state : δ}

/-! ## Matchers that have a session -/

namespace LiveMatcher

/-- The session of the matcher is at a state, and the rest of the matcher is known. -/
def At (stands : σ → (first : String) → δ → Prop) (first : String) (live : LiveMatcher σ)
    (state : δ) (matcher : LiveMatcher σ) : Prop :=
  ∃ session, matcher = { live with session } ∧ stands session first state

/-- What is asked of the session or committed to it goes through the matcher as it is. -/
theorem gives_onSession {action : Action σ α} {result : Except Fault α} {left : δ}
    {matcher : LiveMatcher σ}
    (gives : ∀ session, stands session first state →
      action.Gives session result (stands · first left))
    (standing : At stands first live state matcher) :
    (Matcher.onSession action).Gives matcher result (At stands first live left) := by
  obtain ⟨session, rfl, sessionAt⟩ := standing
  apply (Gives.onPart (gives session sessionAt)).mono
  rintro _ ⟨moved, movedAt, rfl⟩
  exact ⟨moved, rfl, movedAt⟩

end LiveMatcher

namespace Matcher

theorem gives_whenLive {action : Action (LiveMatcher σ) α} {matcher : LiveMatcher σ}
    {result : Except Fault α} {post : LiveMatcher σ → Prop}
    (gives : action.Gives matcher result post) :
    (whenLive action).Gives (some matcher) result
      fun left => ∃ live', left = some live' ∧ post live' :=
  ⟨gives.result_eq, _, rfl, gives.post_state⟩

/-! ## A matcher at a state -/

/-- The matcher has a session which is at a state, and the rest of the matcher is known. -/
def At (stands : σ → (first : String) → δ → Prop) (first : String) (live : LiveMatcher σ)
    (state : δ) (matcher : Matcher σ) : Prop :=
  ∃ matcher', matcher = some matcher' ∧ LiveMatcher.At stands first live state matcher'

variable {matcher : Matcher σ}

theorem At.grammar?_eq (standing : At stands first live state matcher) :
    matcher.grammar? = some live.grammar := by
  obtain ⟨_, rfl, session, rfl, _⟩ := standing
  rfl

theorem gives_mask (answers : S.Answers A stands) (standing : At stands first live state matcher) :
    (mask S).Gives matcher (.ok (A.maskAt state)) (At stands first live state) := by
  obtain ⟨matcher, rfl, standing⟩ := standing
  exact gives_whenLive (LiveMatcher.gives_onSession (fun _ => answers.mask) standing)

theorem gives_advance (answers : S.Answers A stands) (token : Int)
    (standing : At stands first live state matcher) :
    (advance S token).Gives matcher (.ok ()) (At stands first live (A.next state token)) := by
  obtain ⟨matcher, rfl, standing⟩ := standing
  exact gives_whenLive (LiveMatcher.gives_onSession (fun _ => answers.advance token) standing)

theorem gives_isComplete (answers : S.Answers A stands)
    (standing : At stands first live state matcher) :
    (isComplete S).Gives matcher (.ok (A.accepts state)) (At stands first live state) := by
  obtain ⟨matcher, rfl, standing⟩ := standing
  exact gives_whenLive (LiveMatcher.gives_onSession (fun _ => answers.isComplete) standing)

/-- A parse that may end here makes the matcher complete. -/
theorem gives_state (answers : S.Answers A stands)
    (standing : At stands first live state matcher) :
    (Matcher.state S).Gives matcher (.ok (if A.accepts state then .complete else .ready))
      (At stands first live state) := by
  obtain ⟨matcher, rfl, standing⟩ := standing
  have asked : (do
      return if ← onSession S.isComplete then MatcherState.complete else .ready :
        Action (LiveMatcher σ) MatcherState).Gives matcher
      (.ok (if A.accepts state then .complete else .ready))
      (LiveMatcher.At stands first live state) := by
    exact (LiveMatcher.gives_onSession (fun _ => answers.isComplete) standing).bind
      fun left leftAt => (gives_pure _ left).of_eq leftAt
  have answered := gives_whenLive asked
  exact ⟨answered.result_eq, answered.post_state⟩

theorem gives_vocabSize (answers : S.Answers A stands)
    (standing : At stands first live state matcher) :
    (vocabSize S).Gives matcher (.ok A.size) (At stands first live state) := by
  obtain ⟨matcher, rfl, session, rfl, sessionAt⟩ := standing
  refine gives_whenLive (Gives.of_get ?_)
  rw [answers.vocabSize sessionAt]
  exact (gives_pure _ _).of_eq ⟨session, rfl, sessionAt⟩

/-- The matcher allows what is in the vocabulary and may come next. -/
theorem gives_isAllowed (answers : S.Answers A stands) (token : Int)
    (standing : At stands first live state matcher) :
    (isAllowed S token).Gives matcher (.ok (A.permits state token))
      (At stands first live state) := by
  obtain ⟨matcher, rfl, session, rfl, sessionAt⟩ := standing
  have standing : LiveMatcher.At stands first live state { live with session } :=
    ⟨session, rfl, sessionAt⟩
  refine gives_whenLive (Gives.of_get ?_)
  dsimp only
  rw [answers.vocabSize sessionAt]
  by_cases outside : token < 0 ∨ A.size ≤ token
  · have refused : A.permits state token = false := by
      simp only [TokenAutomata.permits]
      grind
    rw [if_pos outside, refused]
    exact (gives_pure _ _).of_eq standing
  · have inside : A.permits state token = A.allows state token := by
      simp only [TokenAutomata.permits]
      grind
    rw [if_neg outside, inside]
    exact LiveMatcher.gives_onSession
      (fun _ known => answers.isAllowed known (by omega) (by omega)) standing

/-- Without another grammar in force, going back to the first one is a restart. -/
theorem gives_reset_first [Stack] (follows : S.Follows A stands) {origin : δ}
    (started : A.start first = .ok origin) (original : live.replacement = none)
    (standing : At stands first live state matcher) :
    (reset S none).Gives matcher (.ok ()) (At stands first live origin) := by
  obtain ⟨matcher, rfl, standing⟩ := standing
  have unreplaced : matcher.replacement = none := by
    obtain ⟨session, rfl, _⟩ := standing
    exact original
  refine gives_whenLive (Gives.of_get ?_)
  dsimp only
  rw [unreplaced]
  exact LiveMatcher.gives_onSession
    (fun _ (known : stands _ first state) => follows.reset_ok known started) standing

/-! ## Creation -/

theorem openSession_eq_ok [Stack] {B : Backend σ} {grammar : Grammar} {tokenizer : Tokenizer}
    {session : σ} : (openSession B grammar tokenizer ()).result = .ok session ↔
      ∃ text tokenizerText, grammar.render = .ok text ∧ tokenizer.render = .ok tokenizerText ∧
        (B.init text tokenizerText ()).result = .ok session := by
  unfold openSession
  simp only [result_bind, result_ofExcept, bind_eq_ok]
  constructor
  · rintro ⟨text, rendered, tokenizerText, tokenizerRendered, made⟩
    exact ⟨text, tokenizerText, rendered, tokenizerRendered, made⟩
  · rintro ⟨text, tokenizerText, rendered, tokenizerRendered, made⟩
    exact ⟨text, rendered, tokenizerText, tokenizerRendered, made⟩

/-- A matcher is created if the backend starts, both records have a text and a session is made. -/
theorem create_eq_ok [Stack] {B : Backend σ} {grammar : Grammar} {tokenizer : Tokenizer} :
    (create S B grammar tokenizer ()).result = .ok matcher ↔
      (B.start ()).result = .ok () ∧ ∃ text tokenizerText session,
        grammar.render = .ok text ∧ tokenizer.render = .ok tokenizerText ∧
        (B.init text tokenizerText ()).result = .ok session ∧
        matcher = some { session, first := grammar } := by
  unfold create
  simp only [result_bind, result_recover_fail, bind_eq_ok, mapError_eq_ok, openSession_eq_ok]
  constructor
  · rintro ⟨_, starts, session, ⟨text, tokenizerText, rendered, tokenizerRendered, init⟩, _, _,
      same⟩
    cases same
    exact ⟨starts, text, tokenizerText, session, rendered, tokenizerRendered, init, rfl⟩
  · rintro ⟨starts, text, tokenizerText, session, rendered, tokenizerRendered, init, rfl⟩
    exact ⟨(), starts, session, ⟨text, tokenizerText, rendered, tokenizerRendered, init⟩, (), rfl,
      rfl⟩

/-- A new matcher is at the start of its grammar. -/
theorem at_of_create [Stack] {B : Backend σ} {grammar : Grammar} {tokenizer : Tokenizer}
    (opens : ∀ {tokenizerText}, tokenizer.render = .ok tokenizerText →
      B.Opens A stands tokenizerText)
    (created : (create S B grammar tokenizer ()).result = .ok matcher) :
    ∃ first origin live, grammar.render = .ok first ∧ A.start first = .ok origin ∧
      live.first = grammar ∧ live.replacement = none ∧
      At stands first live origin matcher := by
  obtain ⟨_, first, tokenizerText, session, rendered, tokenizerRendered, made, rfl⟩ :=
    create_eq_ok.1 created
  obtain ⟨origin, started, standing⟩ := (opens tokenizerRendered).stands_of_init made
  exact ⟨first, origin, { session, first := grammar }, rendered, started, rfl, rfl,
    _, rfl, session, rfl, standing⟩

end Matcher

end ConstrainedDecoding
