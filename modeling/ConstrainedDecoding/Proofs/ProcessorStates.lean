import ConstrainedDecoding.Processor
import ConstrainedDecoding.Proofs.MaskedScores
import ConstrainedDecoding.Proofs.MatcherStates

/-!
# Processors over sessions that follow automata

`Processor.At` says of a processor that its matcher is at an automaton state and that it has
recorded a history; its statistics are left open, because no result depends on them. Masking leaves
a processor where it is and gives what `TokenAutomata.masked` says; a token is recorded and takes it
to the next state.
-/

namespace ConstrainedDecoding.Processor

open ConstrainedDecoding.Action

variable {σ δ α β : Type} {S : Session σ} {A : TokenAutomata δ}
  {stands : σ → (first : String) → δ → Prop} {first : String} {live : LiveMatcher σ}
  {settings : Settings} {state : δ} {history : List Int} {processor : Processor σ}

/-- The matcher of the processor is at a state, and the rest of the processor is known but for the
statistics. -/
structure At (stands : σ → (first : String) → δ → Prop) (first : String) (live : LiveMatcher σ)
    (settings : Settings) (state : δ) (history : List Int) (processor : Processor σ) : Prop where
  matcher : Matcher.At stands first live state processor.matcher
  settings : processor.settings = settings
  history : processor.history = history

/-! ## Steps that do not touch the matcher -/

theorem gives_count (change : Statistics → Statistics)
    (standing : At stands first live settings state history processor) :
    (count change).Gives processor (.ok ()) (At stands first live settings state history) := by
  exact (gives_modify _ processor).of_eq ⟨standing.matcher, standing.settings, standing.history⟩

/-- Tracing changes nothing, at whatever level it is done. -/
theorem gives_trace (message : String) (processor : Processor σ) :
    (trace message).Gives processor (.ok ()) (· = processor) := by
  apply Gives.of_get
  by_cases visible : processor.settings.debug.truthy = true
  · rw [if_pos visible]
    exact gives_log _ _ _ processor
  · rw [if_neg visible]
    exact gives_log _ _ _ processor

/-! ## Steps of the matcher -/

theorem gives_onMatcher {action : Action (Matcher σ) β} {result : Except Fault β} {left : δ}
    (gives : action.Gives processor.matcher result (Matcher.At stands first live left))
    (standing : At stands first live settings state history processor) :
    (onMatcher action).Gives processor result
      (At stands first live settings left history) := by
  apply (Gives.onPart gives).mono
  rintro _ ⟨moved, movedAt, rfl⟩
  exact ⟨movedAt, standing.settings, standing.history⟩

/-- The tokens are put to the matcher up to the first that the automaton permits. -/
theorem gives_firstAllowed (answers : S.Answers A stands) (tokens : List Nat) (rank : Nat)
    (standing : At stands first live settings state history processor) :
    (firstAllowed S tokens rank).Gives processor
      (.ok ((tokens.find? fun token : Nat => A.permits state token).map fun token =>
        (token, rank + tokens.findIdx fun token : Nat => A.permits state token)))
      (At stands first live settings state history) := by
  induction tokens generalizing rank processor with
  | nil =>
      exact (gives_pure _ processor).of_eq standing
  | cons token rest ih =>
      refine (gives_count _ standing).bind fun middle middleAt => ?_
      refine (gives_onMatcher (Matcher.gives_isAllowed answers token middleAt.matcher)
        middleAt).bind fun left leftAt => ?_
      rw [List.find?_cons, List.findIdx_cons]
      cases A.permits state token with
      | true =>
          exact (gives_pure _ left).of_eq leftAt
      | false =>
          have shifted : rank + (rest.findIdx (fun token : Nat => A.permits state token) + 1) =
              rank + 1 + rest.findIdx fun token : Nat => A.permits state token := by omega
          simp only [cond_false, shifted]
          exact ih (rank + 1) leftAt

/-! ## Masking -/

variable {w : Width} {scores : Tensor (Binary w)} {length : Nat}

theorem gives_hit {token : Nat} (rank : Nat) (vector : scores.shape = [length])
    (inside : token < length)
    (standing : At stands first live settings state history processor) :
    (hit scores token rank).Gives processor
      (.ok (.beside scores (scores.keep fun position => position == token)))
      (At stands first live settings state history) := by
  refine (gives_count _ standing).bind fun counted countedAt => ?_
  apply (gives_trace _ counted).step
  rw [Tensor.maskAllExcept_vector vector inside]
  exact (gives_pure _ counted).of_eq countedAt

theorem gives_miss (answers : S.Answers A stands) (vector : scores.shape = [length])
    (standing : At stands first live settings state history processor) :
    (miss S scores).Gives processor
      (.ok (.inPlace (scores.keep fun position => A.permits state position)))
      (At stands first live settings state history) := by
  refine (gives_count _ standing).bind fun counted countedAt => ?_
  apply (gives_trace _ counted).step
  refine (gives_onMatcher (Matcher.gives_mask answers countedAt.matcher) countedAt).bind
    fun left leftAt => ?_
  rw [Tensor.applyMask_vector vector]
  simp only [TokenAutomata.getElem?_maskAt]
  exact (gives_pure _ left).of_eq leftAt

/-- Masks by what came of putting the ranked tokens to the matcher. -/
def settle (S : Session σ) (scores : Tensor (Binary w)) :
    Option (Nat × Nat) → Action (Processor σ) (Masked (Binary w))
  | some (token, rank) => hit scores token rank
  | none => miss S scores

/-- What a state makes of a score vector, and whether it takes the place of the given scores. -/
def settled (A : TokenAutomata δ) (state : δ) (depth : Nat) (scores : Tensor (Binary w)) :
    Masked (Binary w) :=
  match A.pick state depth scores with
  | some token => .beside scores (scores.keep fun position => position == token)
  | none => .inPlace (scores.keep fun position => A.permits state position)

theorem result_settled (depth : Nat) :
    (settled A state depth scores).result = A.masked state depth scores := by
  unfold settled TokenAutomata.masked TokenAutomata.keeps
  cases A.pick state depth scores with
  | some token => rfl
  | none => rfl

theorem gives_settle (answers : S.Answers A stands) (vector : scores.shape = [length]) (rank : Nat)
    (depth : Nat) (standing : At stands first live settings state history processor) :
    (settle S scores ((A.pick state depth scores).map fun token => (token, rank))).Gives
      processor (.ok (settled A state depth scores))
      (At stands first live settings state history) := by
  have size := Tensor.length_elements_of_shape vector
  unfold settled
  cases picked : A.pick state depth scores with
  | some token =>
      have inside : token < length := size ▸ TokenAutomata.lt_of_pick picked
      exact gives_hit rank vector inside standing
  | none => exact gives_miss answers vector standing

/-- A score vector is masked as the state demands. -/
theorem gives_process_settled (answers : S.Answers A stands) (vector : scores.shape = [length])
    (standing : At stands first live settings state history processor) :
    (process S scores).Gives processor (.ok (settled A state settings.depth scores))
      (At stands first live settings state history) := by
  have oneDimension : ¬ scores.dimensions ≠ 1 := by
    rw [Tensor.dimensions, vector]
    exact not_not_intro rfl
  unfold process
  rw [if_neg oneDimension]
  refine (gives_count _ standing).bind fun counted countedAt => Gives.of_get ?_
  rw [countedAt.settings]
  apply (gives_trace _ counted).step
  exact (gives_firstAllowed answers _ 0 countedAt).bind fun left leftAt =>
    gives_settle answers vector _ settings.depth leftAt

theorem gives_process (answers : S.Answers A stands) (vector : scores.shape = [length])
    (standing : At stands first live settings state history processor) :
    ∃ masked, masked.result = A.masked state settings.depth scores ∧
      (process S scores).Gives processor (.ok masked)
        (At stands first live settings state history) :=
  ⟨_, result_settled settings.depth, gives_process_settled answers vector standing⟩

theorem gives_process_notVector {α : Type} [Score α] {scores : Tensor α}
    (other : scores.dimensions ≠ 1) :
    (process S scores).Gives processor (.error (.notVector scores.shape)) (· = processor) := by
  unfold process
  rw [if_pos other]
  exact gives_fail _ processor

/-- Masking has a result, and the result offers a token. -/
def Offered (result : Except Fault (Masked (Binary w))) (token : Int) : Prop :=
  ∃ masked, result = .ok masked ∧ masked.result.Offers token

/-- Scores of any shape leave the processor at its state, and nothing forbidden is offered. -/
theorem process_offers (answers : S.Answers A stands) (scores : Tensor (Binary w))
    (standing : At stands first live settings state history processor) :
    ∃ result, (∀ token, Offered result token → A.permits state token = true) ∧
      (process S scores).Gives processor result
        (At stands first live settings state history) := by
  by_cases vector : scores.dimensions = 1
  · obtain ⟨length, shape_eq⟩ := List.length_eq_one_iff.1 vector
    obtain ⟨masked, result_eq, gives⟩ := gives_process answers shape_eq standing
    refine ⟨_, ?_, gives⟩
    rintro token ⟨_, ⟨⟩, offers⟩
    rw [result_eq] at offers
    exact TokenAutomata.permits_of_offers offers
  · refine ⟨_, ?_, (gives_process_notVector vector).of_eq standing⟩
    rintro token ⟨_, ⟨⟩, _⟩

/-- Something is offered if anything permitted has a finite score. -/
theorem exists_offered (answers : S.Answers A stands) (vector : scores.shape = [length])
    (standing : At stands first live settings state history processor) {position : Nat}
    {score : Binary w} (permitted : A.permits state position = true)
    (at_position : scores.elements[position]? = some score) (finite : score ≠ .negInfinity) :
    ∃ token, Offered (process S scores processor).result token := by
  obtain ⟨masked, result_eq, gives⟩ := gives_process answers vector standing
  have offered : ∃ token, (A.masked state settings.depth scores).Offers token :=
    TokenAutomata.exists_offers permitted at_position finite
  rw [← result_eq] at offered
  obtain ⟨token, offers⟩ := offered
  exact ⟨token, masked, gives.result_eq, offers⟩

/-- A batch of one is masked as its row, and larger batches fail. -/
theorem call_offers (answers : S.Answers A stands) (ids : PromptIds) (scores : Tensor (Binary w))
    (standing : At stands first live settings state history processor) :
    ∃ result, (∀ token, Offered result token → A.permits state token = true) ∧
      (call S ids scores).Gives processor result
        (At stands first live settings state history) := by
  have nothing (fault : Fault) (token : Int) :
      Offered (.error fault : Except Fault (Masked (Binary w))) token →
        A.permits state token = true := by
    rintro ⟨_, ⟨⟩, _⟩
  cases checked : ids.check with
  | error fault =>
      refine ⟨_, nothing fault, Gives.bind_error ?_⟩
      exact (gives_ofExcept_of_eq checked processor).of_eq standing
  | ok passed =>
      have checks := gives_ofExcept_of_eq checked processor
      unfold call
      split
      · obtain ⟨result, permitted, gives⟩ :=
          process_offers answers (scores.unwrap _ ‹scores.shape = _›) standing
        cases result with
        | error fault => exact ⟨_, nothing fault, checks.step gives.bind_error⟩
        | ok masked =>
            refine ⟨.ok ⟨masked.result.wrap, masked.input.wrap, false⟩, ?_,
              checks.step (gives.bind fun left leftAt => (gives_pure _ left).of_eq leftAt)⟩
            rintro token ⟨_, ⟨⟩, offers⟩
            exact permitted token ⟨masked, rfl, offers⟩
      · exact ⟨_, nothing _, checks.step ((gives_fail _ processor).of_eq standing)⟩
      · obtain ⟨result, permitted, gives⟩ := process_offers answers scores standing
        exact ⟨result, permitted, checks.step gives⟩

/-! ## Recording tokens, stopping and starting again -/

theorem gives_onToken (answers : S.Answers A stands) (token : Int)
    (standing : At stands first live settings state history processor) :
    (onToken S token).Gives processor (.ok ())
      (At stands first live settings (A.next state token) (history ++ [token])) := by
  have recorded : At stands first live settings state (history ++ [token])
      { processor with history := processor.history ++ [token] } :=
    ⟨standing.matcher, standing.settings, by rw [standing.history]⟩
  apply (gives_modify _ processor).step
  refine (gives_onMatcher (Matcher.gives_advance answers token recorded.matcher) recorded).bind
    fun left leftAt => Gives.of_get ?_
  exact (gives_trace _ left).of_eq leftAt

theorem gives_canStop (answers : S.Answers A stands)
    (standing : At stands first live settings state history processor) :
    (canStop S).Gives processor (.ok (A.accepts state))
      (At stands first live settings state history) :=
  gives_onMatcher (Matcher.gives_isComplete answers standing.matcher) standing

theorem gives_reset [Stack] (follows : S.Follows A stands) {origin : δ}
    (started : A.start first = .ok origin) (original : live.replacement = none)
    (standing : At stands first live settings state history processor) :
    (reset S).Gives processor (.ok ()) (At stands first live settings origin []) := by
  have cleared : At stands first live settings state [] { processor with history := [] } :=
    ⟨standing.matcher, standing.settings, rfl⟩
  apply (gives_modify _ processor).step
  exact gives_onMatcher (Matcher.gives_reset_first follows started original cleared.matcher)
    cleared

/-! ## Creation -/

theorem create_eq_ok [Stack] {B : Backend σ} {grammar : Grammar} {tokenizer : Tokenizer} :
    (create S B grammar tokenizer settings ()).result = .ok processor ↔
      ∃ matcher, (Matcher.create S B grammar tokenizer ()).result = .ok matcher ∧
        processor = { matcher, settings } := by
  unfold create
  rw [Action.result_bind, bind_eq_ok]
  constructor
  · rintro ⟨matcher, created, ⟨⟩⟩
    exact ⟨matcher, created, rfl⟩
  · rintro ⟨matcher, created, rfl⟩
    exact ⟨matcher, created, rfl⟩

/-- A new processor has recorded nothing and is at the start of its grammar. -/
theorem at_of_create [Stack] {B : Backend σ} {grammar : Grammar} {tokenizer : Tokenizer}
    (opens : ∀ {tokenizerText}, tokenizer.render = .ok tokenizerText →
      B.Opens A stands tokenizerText)
    (created : (create S B grammar tokenizer settings ()).result = .ok processor) :
    ∃ first origin live, grammar.render = .ok first ∧ A.start first = .ok origin ∧
      live.replacement = none ∧ At stands first live settings origin [] processor := by
  obtain ⟨matcher, matcherCreated, rfl⟩ := create_eq_ok.1 created
  obtain ⟨first, origin, live, rendered, started, _, original, new⟩ :=
    Matcher.at_of_create opens matcherCreated
  exact ⟨first, origin, live, rendered, started, original, new, rfl, rfl⟩

end ConstrainedDecoding.Processor
