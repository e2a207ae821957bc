import ConstrainedDecoding.Proofs.StatisticsLedger

/-!
# What failed operations leave behind

Masking scores and recording a token do things before the points at which they can fail: a matcher
without a session fails to answer, a session may fail, and integers have no negative infinity. What
was done before stays done. A closed form of what an operation leaves, be its result a value or a
fault, is that of masking a vector (`Processor.gives_process_eq`), which counts by what comes of
looking at the candidates (`Processor.look`), and that of recording a token
(`Processor.gives_onToken_eq`). It follows that a failed operation leaves history and statistics
alone exactly where its arguments are turned down at once (`Attempt.unchanged_iff_refused`).
-/

namespace ConstrainedDecoding

variable {σ τ α β : Type} {S : Session σ}

namespace Processor

open ConstrainedDecoding.Action

/-! ## Looking at candidates -/

/-- What comes of putting candidates to a matcher: how many are looked at, which one is allowed, if
any, and the matcher that is left. -/
structure Looked (σ : Type) where
  checks : Nat
  found : Except Fault (Option Nat)
  matcher : Matcher σ

/-- Puts candidates to a matcher up to the first that it does not refuse. -/
def look (S : Session σ) : (candidates : List Nat) → Matcher σ → Looked σ
  | [], matcher => ⟨0, .ok none, matcher⟩
  | token :: rest, matcher =>
    let asked := Matcher.isAllowed S token matcher
    match asked.result with
    | .ok true => ⟨1, .ok (some token), asked.state⟩
    | .ok false =>
      let later := look S rest asked.state
      ⟨later.checks + 1, later.found, later.matcher⟩
    | .error fault => ⟨1, .error fault, asked.state⟩

theorem gives_onMatcher_eq (action : Action (Matcher σ) β) (processor : Processor σ) :
    (onMatcher action).Gives processor (action processor.matcher).result
      (· = { processor with matcher := (action processor.matcher).state }) :=
  ⟨rfl, rfl⟩

/-- Looking at candidates counts them and does nothing else to the processor. -/
theorem gives_look (candidates : List Nat) (rank : Nat) (processor : Processor σ) :
    ∃ result, result.map (Option.map Prod.fst) = (look S candidates processor.matcher).found ∧
      (firstAllowed S candidates rank).Gives processor result (· = { processor with
        matcher := (look S candidates processor.matcher).matcher
        statistics := { processor.statistics with
          candidateChecks := processor.statistics.candidateChecks +
            (look S candidates processor.matcher).checks } }) := by
  induction candidates generalizing rank processor with
  | nil => exact ⟨.ok none, rfl, gives_pure none processor⟩
  | cons token rest ih =>
      have counts := gives_modify (fun processor : Processor σ =>
        { processor with statistics := { processor.statistics with
          candidateChecks := processor.statistics.candidateChecks + 1 } }) processor
      have asks := gives_onMatcher_eq (Matcher.isAllowed S token)
        { processor with statistics := { processor.statistics with
          candidateChecks := processor.statistics.candidateChecks + 1 } }
      unfold look
      dsimp only at asks ⊢
      cases answer : (Matcher.isAllowed S token processor.matcher).result with
      | error fault =>
          rw [answer] at asks
          exact ⟨.error fault, rfl, counts.step asks.bind_error⟩
      | ok allowed =>
          rw [answer] at asks
          cases allowed with
          | true => exact ⟨.ok (some (token, rank)), rfl, counts.step (asks.step (gives_pure _ _))⟩
          | false =>
              obtain ⟨result, same, gives⟩ := ih (rank + 1) _
              refine ⟨result, same, counts.step (asks.step (gives.mono ?_))⟩
              rintro _ rfl
              simp only [Nat.add_assoc, Nat.add_comm 1]

/-- The statistics after a step in which candidates were looked at, whatever becomes of the scores:
that a token is forced or the full mask is computed is counted before it is done. -/
def Looked.charge (looked : Looked σ) (statistics : Statistics) : Statistics :=
  match looked.found with
  | .ok (some _) =>
    { statistics with
      steps := statistics.steps + 1
      hits := statistics.hits + 1
      candidateChecks := statistics.candidateChecks + looked.checks }
  | .ok none =>
    { statistics with
      steps := statistics.steps + 1
      misses := statistics.misses + 1
      candidateChecks := statistics.candidateChecks + looked.checks
      fullMasks := statistics.fullMasks + 1 }
  | .error _ =>
    { statistics with
      steps := statistics.steps + 1
      candidateChecks := statistics.candidateChecks + looked.checks }

/-- The matcher after such a step, which is asked for the full mask if no candidate is allowed. -/
def Looked.settled (S : Session σ) (looked : Looked σ) : Matcher σ :=
  match looked.found with
  | .ok none => (Matcher.mask S looked.matcher).state
  | .ok (some _) | .error _ => looked.matcher

variable [Score α]

/-- What becomes of scores after candidates were looked at. -/
def Looked.masked (S : Session σ) (scores : Tensor α) (looked : Looked σ) :
    Except Fault (Masked α) :=
  match looked.found with
  | .ok (some token) => (scores.maskAllExcept token).map (.beside scores)
  | .ok none => ((Matcher.mask S looked.matcher).result >>= scores.applyMask).map .inPlace
  | .error fault => .error fault

/-- Looks at the best-ranked ids of scores. -/
def lookAt (S : Session σ) (elements : List α) (processor : Processor σ) : Looked σ :=
  look S (topRanked elements processor.settings.depth) processor.matcher

/-- A processor after it has taken on scores. -/
def afterScores (S : Session σ) (elements : List α) (processor : Processor σ) : Processor σ :=
  { processor with
    matcher := (lookAt S elements processor).settled S
    statistics := (lookAt S elements processor).charge processor.statistics }

theorem gives_hit_eq (scores : Tensor α) (token rank : Nat) (processor : Processor σ) :
    (hit scores token rank).Gives processor ((scores.maskAllExcept token).map (.beside scores))
      (· = { processor with statistics := { processor.statistics with
        hits := processor.statistics.hits + 1 } }) :=
  (gives_modify _ processor).step ((gives_trace _ _).step (gives_ofExcept_map _ _ _))

theorem gives_miss_eq (scores : Tensor α) (processor : Processor σ) :
    (miss S scores).Gives processor
      (((Matcher.mask S processor.matcher).result >>= scores.applyMask).map .inPlace)
      (· = { processor with
        matcher := (Matcher.mask S processor.matcher).state
        statistics := { processor.statistics with
          misses := processor.statistics.misses + 1
          fullMasks := processor.statistics.fullMasks + 1 } }) := by
  refine (gives_modify _ processor).step ((gives_trace _ _).step ?_)
  have asks := gives_onMatcher_eq (Matcher.mask S) { processor with
    statistics := { processor.statistics with
      misses := processor.statistics.misses + 1
      fullMasks := processor.statistics.fullMasks + 1 } }
  dsimp only at asks
  cases answer : (Matcher.mask S processor.matcher).result with
  | error fault => exact (answer ▸ asks).bind_error
  | ok mask =>
      rw [ok_bind]
      exact (answer ▸ asks).step (gives_ofExcept_map _ _ _)

/-- What masking a vector does, whether it succeeds or fails. -/
theorem gives_process_eq {scores : Tensor α} (vector : scores.dimensions = 1)
    (processor : Processor σ) :
    (process S scores).Gives processor ((lookAt S scores.elements processor).masked S scores)
      (· = afterScores S scores.elements processor) := by
  unfold process
  rw [if_neg (not_not_intro vector)]
  refine (gives_modify _ processor).step (Gives.of_get ((gives_trace _ _).step ?_))
  obtain ⟨result, found, looks⟩ := gives_look (S := S)
    (topRanked scores.elements processor.settings.depth) 0 { processor with
      statistics := { processor.statistics with steps := processor.statistics.steps + 1 } }
  unfold afterScores Looked.masked Looked.charge Looked.settled lookAt
  dsimp only at found looks
  rw [← found]
  cases result with
  | error fault => exact looks.bind_error
  | ok placed =>
      cases placed with
      | some placed => exact looks.step (gives_hit_eq scores placed.1 placed.2 _)
      | none => exact looks.step (gives_miss_eq scores _)

theorem exists_gives_call {ids : PromptIds} {scores : Tensor α} (checked : ids.check = .ok ())
    (single : isSingle scores.shape = true) (processor : Processor σ) :
    ∃ result, (call S ids scores).Gives processor result
      (· = afterScores S scores.elements processor) := by
  obtain ⟨row, vector, same, passes⟩ := exists_row_of_single (S := S) checked single
  have gives := gives_process_eq (S := S) vector processor
  rw [same] at gives
  exact passes gives

omit [Score α] in
/-- A token is recorded before it is committed, and stays recorded if that fails. -/
theorem gives_onToken_eq (token : Int) (processor : Processor σ) :
    (onToken S token).Gives processor (Matcher.advance S token processor.matcher).result
      (· = { processor with
        matcher := (Matcher.advance S token processor.matcher).state
        history := processor.history ++ [token] }) := by
  refine (gives_modify _ processor).step ?_
  have commits := gives_onMatcher_eq (Matcher.advance S token) { processor with
    history := processor.history ++ [token] }
  dsimp only at commits
  cases answer : (Matcher.advance S token processor.matcher).result with
  | error fault => exact (answer ▸ commits).bind_error
  | ok done => exact (answer ▸ commits).step (Gives.of_get (gives_trace _ _))

end Processor

/-! ## Leaving the parse where it is -/

/-- By a view of its state, a session does not move when it is asked about tokens, nor when it fails
to take a token. -/
structure Session.Inert (S : Session σ) (view : σ → τ) : Prop where
  isAllowed (token : Int) : (S.isAllowed token).Keeps view
  mask : S.mask.Keeps view
  advance {token : Int} {session : σ} {fault : Fault} :
    (S.advance token session).result = .error fault →
    view (S.advance token session).state = view session

/-- What is seen of a matcher's session, if there is one. -/
def Matcher.position? (view : σ → τ) (matcher : Matcher σ) : Option τ :=
  matcher.map fun live => view live.session

section

open ConstrainedDecoding.Action

variable {view : σ → τ}

theorem Matcher.keeps_position {action : Action (LiveMatcher σ) α}
    (keeps : action.Keeps fun live => view live.session) :
    (whenLive action).Keeps (position? view) := by
  intro matcher
  cases matcher with
  | none => rfl
  | some live => exact congrArg some (keeps live)

theorem Session.Inert.keeps_isAllowed (inert : S.Inert view) (token : Int) :
    (Matcher.isAllowed S token).Keeps (Matcher.position? view) := by
  refine Matcher.keeps_position (keeps_get fun live => ?_)
  dsimp only
  split
  · exact keeps_pure false
  · exact fun live => inert.isAllowed token live.session

theorem Session.Inert.keeps_mask (inert : S.Inert view) :
    (Matcher.mask S).Keeps (Matcher.position? view) :=
  Matcher.keeps_position fun live => inert.mask live.session

theorem Session.Inert.position_advance (inert : S.Inert view) {token : Int} {matcher : Matcher σ}
    {fault : Fault} (failed : (Matcher.advance S token matcher).result = .error fault) :
    (Matcher.advance S token matcher).state.position? view = matcher.position? view := by
  cases matcher with
  | none => rfl
  | some live => exact congrArg some (inert.advance failed)

theorem Session.Inert.position_look (inert : S.Inert view) (candidates : List Nat)
    (matcher : Matcher σ) : (Processor.look S candidates matcher).matcher.position? view =
      matcher.position? view := by
  induction candidates generalizing matcher with
  | nil => rfl
  | cons token rest ih =>
      have asked := inert.keeps_isAllowed token matcher
      unfold Processor.look
      dsimp only
      split
      · exact asked
      · exact (ih _).trans asked
      · exact asked

theorem Session.Inert.position_afterScores [Score α] (inert : S.Inert view) (elements : List α)
    (processor : Processor σ) :
    (Processor.afterScores S elements processor).matcher.position? view =
      processor.matcher.position? view := by
  have looked := inert.position_look (topRanked elements processor.settings.depth)
    processor.matcher
  unfold Processor.afterScores Processor.lookAt Processor.Looked.settled
  dsimp only
  split
  · exact (inert.keeps_mask _).trans looked
  · exact looked
  · exact looked

end

/-! ## Attempts -/

/-- What is done with a processor in a step of generation: scores are masked, as they are or as a
generation loop passes them, or a token is recorded. -/
inductive Attempt (α : Type)
  | process (scores : Tensor α)
  | call (ids : PromptIds) (scores : Tensor α)
  | onToken (token : Int)

namespace Attempt

open ConstrainedDecoding.Action
open ConstrainedDecoding.Processor

/-- Whether the arguments are turned down, so that no scores are taken on. -/
def isRefused : Attempt α → Bool
  | process scores => scores.dimensions ≠ 1
  | call ids scores => !(ids.check.isOk && isSingle scores.shape)
  | onToken _ => false

variable [Score α]

/-- The attempt itself. The masked scores are left out. -/
def run (S : Session σ) : Attempt α → Action (Processor σ) Unit
  | process scores => do
    let _ ← Processor.process S scores
  | call ids scores => do
    let _ ← Processor.call S ids scores
  | onToken token => Processor.onToken S token

/-- What an attempt that is not refused leaves of a processor. -/
def leaves (S : Session σ) : Attempt α → Processor σ → Processor σ
  | process scores, processor | call _ scores, processor =>
    afterScores S scores.elements processor
  | onToken token, processor =>
    { processor with
      matcher := (Matcher.advance S token processor.matcher).state
      history := processor.history ++ [token] }

variable {attempt : Attempt α} {processor : Processor σ}

omit [Score α] in
theorem gives_discard {action : Action (Processor σ) β} {result : Except Fault β}
    {left : Processor σ} (gives : action.Gives processor result (· = left)) :
    ∃ outcome, (action >>= fun _ => pure ()).Gives processor outcome (· = left) := by
  cases result with
  | error fault => exact ⟨.error fault, gives.bind_error⟩
  | ok value => exact ⟨.ok (), gives.step (gives_pure () left)⟩

theorem exists_gives_of_refused (S : Session σ) (processor : Processor σ)
    (refused : attempt.isRefused = true) :
    ∃ outcome, (attempt.run S).Gives processor outcome (· = processor) := by
  cases attempt with
  | process scores =>
      exact gives_discard (gives_process_notVector (of_decide_eq_true refused))
  | call ids scores =>
      have refusal : (ids.check.isOk && isSingle scores.shape) = false := by
        rwa [isRefused, Bool.not_eq_true'] at refused
      obtain ⟨fault, gives⟩ := gives_call_refused (S := S) processor refusal
      exact gives_discard gives
  | onToken token => cases refused

theorem exists_gives_leaves (S : Session σ) (processor : Processor σ)
    (takenOn : attempt.isRefused = false) :
    ∃ outcome, (attempt.run S).Gives processor outcome (· = attempt.leaves S processor) := by
  cases attempt with
  | process scores =>
      exact gives_discard (gives_process_eq (by simpa [isRefused] using takenOn) processor)
  | call ids scores =>
      have passes : ids.check.isOk = true ∧ isSingle scores.shape = true := by
        simpa [isRefused] using takenOn
      obtain ⟨passed, checked⟩ := exists_of_isOk passes.1
      obtain ⟨result, gives⟩ := exists_gives_call (S := S) checked passes.2 processor
      exact gives_discard gives
  | onToken token => exact ⟨_, gives_onToken_eq token processor⟩

/-- What an attempt leaves of a processor, be its result a value or a fault. -/
theorem run_state (S : Session σ) (attempt : Attempt α) (processor : Processor σ) :
    (attempt.run S processor).state =
      if attempt.isRefused then processor else attempt.leaves S processor := by
  cases refused : attempt.isRefused with
  | true =>
      obtain ⟨_, gives⟩ := exists_gives_of_refused S processor refused
      exact gives.post_state
  | false =>
      obtain ⟨_, gives⟩ := exists_gives_leaves S processor refused
      exact gives.post_state

omit [Score α] in
theorem steps_charge (looked : Looked σ) (statistics : Statistics) :
    (looked.charge statistics).steps = statistics.steps + 1 := by
  unfold Looked.charge
  split <;> rfl

/-- An attempt that is not refused leaves a trace. -/
theorem leaves_changes (S : Session σ) (attempt : Attempt α) (processor : Processor σ) :
    ¬ ((attempt.leaves S processor).history = processor.history ∧
      (attempt.leaves S processor).statistics = processor.statistics) := by
  rintro ⟨history, statistics⟩
  cases attempt with
  | onToken token => simp [leaves] at history
  | process scores | call ids scores =>
      have steps := congrArg Statistics.steps statistics
      simp [leaves, afterScores, steps_charge] at steps

/-- A failed attempt leaves the history and the statistics as they were if and only if its arguments
were refused, and then it leaves the whole processor so. Otherwise it has done what it does before
the point of failure: the token is recorded that was not taken, or the step, the candidates that
were looked at and the way it was to be resolved are counted. The parse itself does not move. -/
theorem unchanged_iff_refused (S : Session σ) (attempt : Attempt α) (processor : Processor σ)
    {fault : Fault} (failed : (attempt.run S processor).result = .error fault) :
    ((attempt.run S processor).state.history = processor.history ∧
      (attempt.run S processor).state.statistics = processor.statistics ↔
        attempt.isRefused = true) ∧
    (attempt.run S processor).state =
      (if attempt.isRefused then processor else attempt.leaves S processor) ∧
    ∀ {τ : Type} {view : σ → τ}, S.Inert view →
      (attempt.run S processor).state.matcher.position? view =
        processor.matcher.position? view := by
  have left := run_state S attempt processor
  refine ⟨?_, left, fun {τ view} inert => ?_⟩
  · rw [left]
    cases refused : attempt.isRefused with
    | true => exact ⟨fun _ => rfl, fun _ => ⟨rfl, rfl⟩⟩
    | false =>
        exact ⟨fun same => absurd same (leaves_changes S attempt processor), fun refused => by
          cases refused⟩
  · rw [left]
    cases refused : attempt.isRefused with
    | true => rfl
    | false =>
        cases attempt with
        | process scores => exact inert.position_afterScores scores.elements processor
        | call ids scores => exact inert.position_afterScores scores.elements processor
        | onToken token =>
            have answer := (gives_onToken_eq (S := S) token processor).result_eq
            exact inert.position_advance (answer.symm.trans failed)

section

open ConstrainedDecoding.Scripted

theorem inert_position : Parse.operations.Inert Parse.position where
  isAllowed _ _ := rfl
  mask _ := rfl
  advance failed := by cases failed

/-- A processor over a matcher that was never initialized. -/
def uninitialized : Processor Parse where
  matcher := none

/-- Such a processor records a token that no matcher takes. -/
theorem unchanged_iff_refused_uninitialized :
    ((onToken 7 : Attempt (Binary .single)).run Parse.operations uninitialized).result =
        .error .uninitialized ∧
      ((onToken 7 : Attempt (Binary .single)).run Parse.operations uninitialized).state =
        { uninitialized with history := [7] } ∧
      ¬ (((onToken 7 : Attempt (Binary .single)).run Parse.operations
            uninitialized).state.history = uninitialized.history ∧
          ((onToken 7 : Attempt (Binary .single)).run Parse.operations
            uninitialized).state.statistics = uninitialized.statistics) ∧
      ((onToken 7 : Attempt (Binary .single)).run Parse.operations
          uninitialized).state.matcher.position? Parse.position =
        uninitialized.matcher.position? Parse.position := by
  have failed : ((onToken 7 : Attempt (Binary .single)).run Parse.operations
      uninitialized).result = .error .uninitialized := rfl
  obtain ⟨unchanged, left, position⟩ := unchanged_iff_refused _ _ _ failed
  exact ⟨failed, left, fun same => Bool.false_ne_true (unchanged.mp same), position inert_position⟩

/-- Not every failed operation leaves everything as it was. -/
theorem recorded_untaken : ¬ ∀ (processor : Processor Parse) (attempt : Attempt (Binary .single))
    (fault : Fault), (attempt.run Parse.operations processor).result = .error fault →
      (attempt.run Parse.operations processor).state.history = processor.history ∧
        (attempt.run Parse.operations processor).state.statistics = processor.statistics ∧
        (attempt.run Parse.operations processor).state.matcher.position? Parse.position =
          processor.matcher.position? Parse.position := by
  intro unchanged
  have same := (unchanged uninitialized (onToken 7) .uninitialized rfl).1
  cases same

end

end Attempt

end ConstrainedDecoding
