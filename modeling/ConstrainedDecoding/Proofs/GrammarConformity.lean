import ConstrainedDecoding.Proofs.EngineAutomata
import ConstrainedDecoding.Proofs.ProcessorStates
import ConstrainedDecoding.Proofs.ScriptedAutomata

/-!
# Grammar conformity

As long as only tokens are recorded that masking has offered, the history of a processor is a path
of its first grammar's automaton, the session stands at the end of that path, and generation may end
there if and only if the automaton accepts. `Processor.Run` is what may be done with a processor, in
any order and with scores of any shape and any values; `Processor.conforms_of_run` holds after each
step of it.
-/

namespace ConstrainedDecoding.Processor

variable {σ δ : Type} {S : Session σ} {A : TokenAutomata δ}
  {stands : σ → (first : String) → δ → Prop}

/-- What becomes of a processor after it was made. The tokens that are `offered`, the only ones that
may be recorded next, are the positions that masking has offered since a token was recorded or the
processor was reset. Looking at the history, the settings or the statistics changes nothing and is
not listed. -/
inductive Run [Stack] (S : Session σ) (made : Processor σ) :
    Processor σ → (offered : Int → Prop) → Prop
  | start : Run S made made fun _ => False
  | process {processor offered} {w : Width} (scores : Tensor (Binary w)) :
    Run S made processor offered →
    Run S made (process S scores processor).state fun token =>
      offered token ∨ Offered (process S scores processor).result token
  | call {processor offered} {w : Width} (ids : PromptIds) (scores : Tensor (Binary w)) :
    Run S made processor offered →
    Run S made (call S ids scores processor).state fun token =>
      offered token ∨ Offered (call S ids scores processor).result token
  | onToken {processor offered} {token : Int} : Run S made processor offered → offered token →
    Run S made (onToken S token processor).state fun _ => False
  | canStop {processor offered} : Run S made processor offered →
    Run S made (canStop S processor).state offered
  | reset {processor offered} : Run S made processor offered →
    Run S made (reset S processor).state fun _ => False

/-- The history is a path of the grammar's automaton, the session is at its end, and generation may
end if the automaton accepts there. -/
def Conforms [Stack] (S : Session σ) (A : TokenAutomata δ)
    (stands : σ → (first : String) → δ → Prop)
    (grammar : Grammar) (processor : Processor σ) : Prop :=
  ∃ first origin state session, grammar.render = .ok first ∧ A.start first = .ok origin ∧
    A.Path origin processor.history state ∧
    processor.matcher.map LiveMatcher.session = some session ∧ stands session first state ∧
    (canStop S processor).result = .ok (A.accepts state)

/-! ## What a run preserves -/

variable {made processor : Processor σ} {offered : Int → Prop}

/-- The processor is at the end of its history, and what is offered is permitted there. -/
def Conforming (A : TokenAutomata δ) (stands : σ → (first : String) → δ → Prop) (first : String)
    (live : LiveMatcher σ) (settings : Settings) (origin : δ) (processor : Processor σ)
    (offered : Int → Prop) : Prop :=
  ∃ state history, At stands first live settings state history processor ∧
    A.Path origin history state ∧ ∀ token, offered token → A.permits state token = true

theorem conforming_of_run [Stack] (follows : S.Follows A stands) {first : String}
    {live : LiveMatcher σ} {settings : Settings} {origin : δ} (started : A.start first = .ok origin)
    (original : live.replacement = none)
    (new : At stands first live settings origin [] made) (run : Run S made processor offered) :
    Conforming A stands first live settings origin processor offered := by
  induction run with
  | start => exact ⟨origin, [], new, .nil origin, fun _ => False.elim⟩
  | process scores _ ih =>
      obtain ⟨state, history, standing, path, permitted⟩ := ih
      obtain ⟨result, offers, gives⟩ := process_offers follows.toAnswers scores standing
      refine ⟨state, history, gives.post_state, path, ?_⟩
      rintro token (earlier | now)
      · exact permitted token earlier
      · exact offers token (gives.result_eq ▸ now)
  | call ids scores _ ih =>
      obtain ⟨state, history, standing, path, permitted⟩ := ih
      obtain ⟨result, offers, gives⟩ := call_offers follows.toAnswers ids scores standing
      refine ⟨state, history, gives.post_state, path, ?_⟩
      rintro token (earlier | now)
      · exact permitted token earlier
      · exact offers token (gives.result_eq ▸ now)
  | onToken _ chosen ih =>
      obtain ⟨state, history, standing, path, permitted⟩ := ih
      -- what was offered before the token may be forbidden after it
      exact ⟨_, _, (gives_onToken follows.toAnswers _ standing).post_state,
        path.snoc (permitted _ chosen), fun _ => False.elim⟩
  | canStop _ ih =>
      obtain ⟨state, history, standing, path, permitted⟩ := ih
      exact ⟨state, history, (gives_canStop follows.toAnswers standing).post_state, path, permitted⟩
  | reset _ ih =>
      obtain ⟨state, history, standing, path, permitted⟩ := ih
      exact ⟨origin, [], (gives_reset follows started original standing).post_state,
        .nil origin, fun _ => False.elim⟩

theorem conforms_of_follows [Stack] {B : Backend σ} {grammar : Grammar} {tokenizer : Tokenizer}
    {settings : Settings} (follows : S.Follows A stands)
    (opens : ∀ {tokenizerText}, tokenizer.render = .ok tokenizerText →
      B.Opens A stands tokenizerText)
    (created : (create S B grammar tokenizer settings ()).result = .ok made)
    (run : Run S made processor offered) : Conforms S A stands grammar processor := by
  obtain ⟨first, origin, live, rendered, started, original, new⟩ := at_of_create opens created
  obtain ⟨state, history, standing, path, _⟩ :=
    conforming_of_run follows started original new run
  obtain ⟨matcher', matcher_eq, session, rfl, sessionAt⟩ := standing.matcher
  refine ⟨first, origin, state, session, rendered, started, standing.history ▸ path, ?_, sessionAt,
    (gives_canStop follows.toAnswers standing).result_eq⟩
  rw [matcher_eq]
  rfl

/-- A run can go on from a new processor: if the grammar permits a token to which the scores give
more than negative infinity, then masking offers a token that can be recorded. -/
theorem exists_run [Stack] {B : Backend σ} {grammar : Grammar} {tokenizer : Tokenizer}
    {settings : Settings} {w : Width} {scores : Tensor (Binary w)} {length position : Nat}
    {score : Binary w} (follows : S.Follows A stands)
    (opens : ∀ {tokenizerText}, tokenizer.render = .ok tokenizerText →
      B.Opens A stands tokenizerText)
    (created : (create S B grammar tokenizer settings ()).result = .ok made)
    (permits : (grammar.render >>= A.start).map (A.permits · position) = .ok true)
    (vector : scores.shape = [length]) (at_position : scores.elements[position]? = some score)
    (finite : score ≠ .negInfinity) :
    ∃ token, Run S made (onToken S token (process S scores made).state).state fun _ => False := by
  obtain ⟨first, origin, live, rendered, started, original, new⟩ := at_of_create opens created
  rw [rendered, ok_bind, started] at permits
  obtain ⟨token, offered⟩ :=
    exists_offered follows.toAnswers vector new (Except.ok.inj permits) at_position finite
  exact ⟨token, (Run.start.process scores).onToken (.inr offered)⟩

/-- Whatever is done with a processor, be its session any that follows automata or one over a token
engine, its history is a path of the automaton of the grammar it was made for, and so on. -/
theorem conforms_of_run [Stack] :
    (∀ {σ δ : Type} {S : Session σ} {B : Backend σ} {A : TokenAutomata δ}
      {stands : σ → (first : String) → δ → Prop} {grammar : Grammar} {tokenizer : Tokenizer}
      {settings : Settings} {made processor : Processor σ} {offered : Int → Prop},
      S.Follows A stands →
      (∀ {tokenizerText}, tokenizer.render = .ok tokenizerText →
        B.Opens A stands tokenizerText) →
      (create S B grammar tokenizer settings ()).result = .ok made →
      Run S made processor offered → Conforms S A stands grammar processor) ∧
    (∀ {τ ρ δ : Type} {E : TokenEngine τ ρ} {G : EngineAutomata τ δ}
      {reads : ρ → τ → (grammar : String) → δ → Prop} {source : EngineSource τ ρ}
      {grammar : Grammar} {tokenizer : Tokenizer} {settings : Settings}
      {made processor : Processor (EngineSession τ ρ)} {offered : Int → Prop},
      E.Follows G reads → source.engine = some E →
      (create (EngineSession.operations E) source.backend grammar tokenizer settings ()).result =
        .ok made →
      Run (EngineSession.operations E) made processor offered →
      ∃ tokenizerText loaded size, tokenizer.render = .ok tokenizerText ∧
        EngineSession.loaded E tokenizerText = .ok (loaded, size) ∧
        Conforms (EngineSession.operations E)
          (EngineSession.automata E G loaded size source.logLevel)
          (EngineSession.Stands E reads loaded size source.logLevel) grammar processor) := by
  constructor
  · intro σ δ S B A stands grammar tokenizer settings made processor offered follows opens created
      run
    exact conforms_of_follows follows opens created run
  · intro τ ρ δ E G reads source grammar tokenizer settings made processor offered engine loads
      created run
    obtain ⟨matcher, matcherCreated, _⟩ := create_eq_ok.1 created
    obtain ⟨tokenizerText, loaded, size, rendered, loaded_eq, opens⟩ :=
      EngineSource.opens_of_create engine loads matcherCreated
    exact ⟨tokenizerText, loaded, size, rendered, loaded_eq,
      conforms_of_follows (EngineSession.follows engine) opens created run⟩

/-! ### Runs under a script -/

open Scripted

/-- A vector of two scores. -/
def twoScores : Tensor (Binary .single) :=
  .vector [.ofMagnitude false 5, .ofMagnitude false 3]

theorem shape_twoScores : twoScores.shape = [2] := rfl

theorem at_one_twoScores : twoScores.elements[1]? = some (.ofMagnitude false 3) := rfl

theorem finite_twoScores : (.ofMagnitude false 3 : Binary .single) ≠ .negInfinity := by
  decide +kernel

theorem rankOrder_twoScores : rankOrder twoScores.elements = [0, 1] := by
  rw [rankOrder_eq, List.mergeSort_of_pairwise (by decide +kernel)]
  rfl

open scoped Scripted.Room

theorem created_onlyOne : ∃ made, (create Parse.operations (Parse.backend onlyOne none)
    (.regex (.text "b")) twoTokens {} ()).result = .ok made :=
  exists_of_isOk (by decide +kernel)

theorem permits_onlyOne : ((Grammar.regex (.text "b")).render >>=
    (Parse.automata onlyOne 2).start).map (fun state =>
      (Parse.automata onlyOne 2).permits state (1 : Nat)) = .ok true := by
  decide +kernel

theorem created_onlyOneSource : ∃ made,
    (create (EngineSession.operations (tokenEngine onlyOne none)) onlyOneSource.backend
      (.regex (.text "b")) twoTokens {} ()).result = .ok made :=
  exists_of_isOk (by decide +kernel)

theorem permits_onlyOneSource : ((Grammar.regex (.text "b")).render >>=
    (EngineSession.automata (tokenEngine onlyOne none) (Parser.automata onlyOne) () 2 0).start).map
      (fun state => (EngineSession.automata (tokenEngine onlyOne none) (Parser.automata onlyOne)
        () 2 0).permits state (1 : Nat)) = .ok true := by
  decide +kernel

/-- Under a script, with a session of its own and with one over the scripted engine, a processor can
be made and a token recorded that masking has offered. -/
theorem conforms_of_run_onlyOne :
    (∃ made token, (create Parse.operations (Parse.backend onlyOne none) (.regex (.text "b"))
        twoTokens {} ()).result = .ok made ∧
      Conforms Parse.operations (Parse.automata onlyOne 2) (Parse.Stands onlyOne 2)
        (.regex (.text "b"))
        (onToken Parse.operations token (process Parse.operations twoScores made).state).state) ∧
    (∃ made token, (create (EngineSession.operations (tokenEngine onlyOne none))
        onlyOneSource.backend (.regex (.text "b")) twoTokens {} ()).result = .ok made ∧
      ∃ tokenizerText loaded size, twoTokens.render = .ok tokenizerText ∧
        EngineSession.loaded (tokenEngine onlyOne none) tokenizerText = .ok (loaded, size) ∧
        Conforms (EngineSession.operations (tokenEngine onlyOne none))
          (EngineSession.automata (tokenEngine onlyOne none) (Parser.automata onlyOne) loaded size
            0)
          (EngineSession.Stands (tokenEngine onlyOne none) (Parser.Reads onlyOne) loaded size 0)
          (.regex (.text "b"))
          (onToken (EngineSession.operations (tokenEngine onlyOne none)) token
            (process (EngineSession.operations (tokenEngine onlyOne none)) twoScores
              made).state).state) := by
  constructor
  · have follows : Parse.operations.Follows (Parse.automata onlyOne 2) (Parse.Stands onlyOne 2) :=
      Parse.follows isFull_onlyOne
    obtain ⟨made, created⟩ := created_onlyOne
    obtain ⟨token, run⟩ := exists_run follows opens_twoTokens created permits_onlyOne
      shape_twoScores at_one_twoScores finite_twoScores
    exact ⟨made, token, created, conforms_of_run.1 follows opens_twoTokens created run⟩
  · have engine : (tokenEngine onlyOne none).Follows (Parser.automata onlyOne)
        (Parser.Reads onlyOne) := Parser.follows none
    obtain ⟨made, created⟩ := created_onlyOneSource
    obtain ⟨token, run⟩ := exists_run (EngineSession.follows engine) opens_onlyOneSource created
      permits_onlyOneSource shape_twoScores at_one_twoScores finite_twoScores
    exact ⟨made, token, created, conforms_of_run.2 engine rfl created run⟩

end ConstrainedDecoding.Processor
