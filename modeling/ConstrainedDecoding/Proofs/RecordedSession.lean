import ConstrainedDecoding.Processor
import ConstrainedDecoding.Proofs.Outcome

/-!
# Sessions that keep a record

`Session.recorded` is a session that writes down what it is asked about the tokens that may come
next, and does everything else as the session it wraps. Nothing above a session can tell the
difference: whatever is done with a processor over a recorded session shows, when the record is
forgotten, what the same does over the session itself (`Processor.forget_performAll`). The record is
therefore that of the calls which the wrapped session receives.
-/

namespace ConstrainedDecoding

variable {σ τ α β : Type}

/-! ## Records -/

/-- What a session is asked about the tokens that may come next. -/
inductive Query
  /-- Whether a token may come next, asked of a session with so many tokens; no answer is a fault.
  -/
  | token (id size : Int) (answer : Option Bool)
  | mask
  deriving DecidableEq, Repr

/-- A session with the record of what it was asked, oldest first. -/
structure Recorded (σ : Type) where
  session : σ
  queries : List Query := []

/-- An action on the session after which the record goes on. -/
def Recorded.noting (action : Action σ α) (note : σ → Except Fault α → List Query) :
    Action (Recorded σ) α := fun recorded =>
  let outcome := action recorded.session
  ⟨outcome.result,
    ⟨outcome.state, recorded.queries ++ note recorded.session outcome.result⟩, outcome.events⟩

/-- The session with a record of its queries. -/
def Session.recorded (S : Session σ) : Session (Recorded σ) where
  vocabSize recorded := S.vocabSize recorded.session
  isAllowed token := Recorded.noting (S.isAllowed token) fun session result =>
    [.token token (S.vocabSize session) result.toOption]
  mask := Recorded.noting S.mask fun _ _ => [.mask]
  advance token := Recorded.noting (S.advance token) fun _ _ => []
  isComplete := Recorded.noting S.isComplete fun _ _ => []
  reset text := Recorded.noting (S.reset text) fun _ _ => []

/-! ## Seeing less of a state -/

/-- What is seen of an outcome by a view of its state. -/
def Outcome.seen (view : σ → τ) (outcome : Outcome σ α) : Outcome τ α :=
  ⟨outcome.result, view outcome.state, outcome.events⟩

namespace Action

/-- By a view of the state an action looks like another one. -/
def LooksLike (view : σ → τ) (action : Action σ α) (image : Action τ α) : Prop :=
  ∀ state, image (view state) = (action state).seen view

variable {view : σ → τ}

theorem looksLike_pure (value : α) : (pure value : Action σ α).LooksLike view (pure value) :=
  fun _ => rfl

theorem looksLike_fail (fault : Fault) : (fail fault : Action σ α).LooksLike view (fail fault) :=
  fun _ => rfl

theorem looksLike_ofExcept (result : Except Fault α) :
    (ofExcept result : Action σ α).LooksLike view (ofExcept result) := by
  cases result with
  | ok value => exact looksLike_pure value
  | error fault => exact looksLike_fail fault

theorem looksLike_log (level : LogLevel) (source : LogSource) (message : String) :
    (log level source message : Action σ Unit).LooksLike view (log level source message) :=
  fun _ => rfl

theorem looksLike_modify {change : σ → σ} {image : τ → τ}
    (same : ∀ state, image (view state) = view (change state)) :
    (modify change).LooksLike view (modify image) := by
  intro state
  show (⟨.ok (), image (view state), []⟩ : Outcome τ Unit) = _
  rw [same]
  rfl

theorem LooksLike.bind {first : Action σ α} {first' : Action τ α} {next : α → Action σ β}
    {next' : α → Action τ β} (starts : first.LooksLike view first')
    (goesOn : ∀ value, (next value).LooksLike view (next' value)) :
    (first >>= next).LooksLike view (first' >>= next') := by
  intro state
  have begun := starts state
  show andThen first' next' (view state) = (andThen first next state).seen view
  unfold andThen
  rcases ran : first state with ⟨fault | value, left, events⟩
  · rw [begun, ran]
    rfl
  · have ended := goesOn value left
    rw [begun, ran]
    dsimp only [Outcome.seen]
    rw [ended]
    rfl

/-- What is done in view of the state looks like what is done in view of what is seen of it. -/
theorem looksLike_get {next : σ → Action σ β} {next' : τ → Action τ β}
    (goesOn : ∀ state, (next state).LooksLike view (next' (view state))) :
    (get >>= next).LooksLike view (get >>= next') := by
  intro state
  have ended := goesOn state state
  show andThen get next' (view state) = (andThen get next state).seen view
  unfold andThen get
  dsimp only
  rw [ended]
  rfl

theorem LooksLike.recover {action : Action σ α} {action' : Action τ α}
    {handler : Fault → Action σ α} {handler' : Fault → Action τ α}
    (tries : action.LooksLike view action')
    (handles : ∀ fault, (handler fault).LooksLike view (handler' fault)) :
    (action.recover handler).LooksLike view (action'.recover handler') := by
  intro state
  have tried := tries state
  unfold Action.recover
  rcases ran : action state with ⟨fault | value, left, events⟩
  · have handled := handles fault left
    rw [tried, ran]
    dsimp only [Outcome.seen]
    rw [handled]
    rfl
  · rw [tried, ran]
    rfl

/-! ## Leaving what is seen as it is -/

/-- What is seen of the state stays as it is. -/
def Keeps (view : σ → τ) (action : Action σ α) : Prop :=
  ∀ state, view (action state).state = view state

theorem keeps_pure (value : α) : (pure value : Action σ α).Keeps view :=
  fun _ => rfl

theorem keeps_fail (fault : Fault) : (fail fault : Action σ α).Keeps view :=
  fun _ => rfl

theorem keeps_ofExcept (result : Except Fault α) : (ofExcept result : Action σ α).Keeps view := by
  cases result with
  | ok value => exact keeps_pure value
  | error fault => exact keeps_fail fault

theorem keeps_modify {change : σ → σ} (same : ∀ state, view (change state) = view state) :
    (modify change).Keeps view :=
  same

theorem Keeps.bind {first : Action σ α} {next : α → Action σ β} (starts : first.Keeps view)
    (goesOn : ∀ value, (next value).Keeps view) : (first >>= next).Keeps view := by
  intro state
  have begun := starts state
  show view (andThen first next state).state = view state
  unfold andThen
  rcases ran : first state with ⟨fault | value, left, events⟩
  · rw [ran] at begun
    exact begun
  · rw [ran] at begun
    exact (goesOn value left).trans begun

theorem keeps_get {next : σ → Action σ β} (goesOn : ∀ state, (next state).Keeps view) :
    (get >>= next).Keeps view :=
  Keeps.bind (fun _ => rfl) goesOn

theorem Keeps.recover {action : Action σ α} {handler : Fault → Action σ α}
    (tries : action.Keeps view) (handles : ∀ fault, (handler fault).Keeps view) :
    (action.recover handler).Keeps view := by
  intro state
  have tried := tries state
  unfold Action.recover
  rcases ran : action state with ⟨fault | value, left, events⟩
  · rw [ran] at tried
    exact (handles fault left).trans tried
  · rw [ran] at tried
    exact tried

end Action

theorem Recorded.looksLike_noting (action : Action σ α)
    (note : σ → Except Fault α → List Query) :
    (noting action note).LooksLike Recorded.session action :=
  fun _ => rfl

theorem Recorded.keeps_noting_nil (action : Action σ α) :
    (noting action fun _ _ => []).Keeps Recorded.queries :=
  fun recorded => List.append_nil recorded.queries

/-! ## Matchers and processors over another session -/

/-- The matcher with its session seen differently. -/
def LiveMatcher.over (view : σ → τ) (live : LiveMatcher σ) : LiveMatcher τ :=
  { session := view live.session, first := live.first, replacement := live.replacement }

/-- The processor with the session of its matcher seen differently. -/
def Processor.over (view : σ → τ) (processor : Processor σ) : Processor τ :=
  { matcher := processor.matcher.map (LiveMatcher.over view)
    settings := processor.settings
    history := processor.history
    statistics := processor.statistics }

namespace Matcher

open ConstrainedDecoding.Action

variable {view : σ → τ} {S : Session σ}

theorem looksLike_whenLive {action : Action (LiveMatcher σ) α} {image : Action (LiveMatcher τ) α}
    (looks : action.LooksLike (LiveMatcher.over view) image) :
    (whenLive action).LooksLike (Option.map (LiveMatcher.over view)) (whenLive image) := by
  intro matcher
  cases matcher with
  | none => rfl
  | some live =>
      have seen := looks live
      show whenLive image (some (live.over view)) = _
      unfold whenLive
      dsimp only
      rw [seen]
      rfl

theorem looksLike_onSession {action : Action σ α} {image : Action τ α}
    (looks : action.LooksLike view image) :
    (onSession action).LooksLike (LiveMatcher.over view) (onSession image) := by
  intro live
  have seen := looks live.session
  show onPart _ _ image (live.over view) = _
  unfold onPart
  dsimp only [LiveMatcher.over]
  rw [seen]
  rfl

theorem looksLike_isAllowed (token : Int) :
    (isAllowed S.recorded token).LooksLike (Option.map (LiveMatcher.over Recorded.session))
      (isAllowed S token) := by
  refine looksLike_whenLive (looksLike_get fun live => ?_)
  by_cases outside : token < 0 ∨ S.vocabSize live.session.session ≤ token
  · have inView : token < 0 ∨ S.vocabSize (live.over Recorded.session).session ≤ token := outside
    have recorded : token < 0 ∨ S.recorded.vocabSize live.session ≤ token := outside
    rw [if_pos inView, if_pos recorded]
    exact looksLike_pure false
  · have inView : ¬ (token < 0 ∨ S.vocabSize (live.over Recorded.session).session ≤ token) :=
      outside
    have recorded : ¬ (token < 0 ∨ S.recorded.vocabSize live.session ≤ token) := outside
    rw [if_neg inView, if_neg recorded]
    exact looksLike_onSession (Recorded.looksLike_noting _ _)

theorem looksLike_mask : (mask S.recorded).LooksLike
    (Option.map (LiveMatcher.over Recorded.session)) (mask S) :=
  looksLike_whenLive (looksLike_onSession (Recorded.looksLike_noting _ _))

theorem looksLike_advance (token : Int) : (advance S.recorded token).LooksLike
    (Option.map (LiveMatcher.over Recorded.session)) (advance S token) :=
  looksLike_whenLive (looksLike_onSession (Recorded.looksLike_noting _ _))

theorem looksLike_isComplete : (isComplete S.recorded).LooksLike
    (Option.map (LiveMatcher.over Recorded.session)) (isComplete S) :=
  looksLike_whenLive (looksLike_onSession (Recorded.looksLike_noting _ _))

theorem looksLike_restartSession (text : String) :
    (onSession (S.recorded.reset text)).LooksLike (LiveMatcher.over Recorded.session)
      (onSession (S.reset text)) :=
  looksLike_onSession (Recorded.looksLike_noting _ _)

variable [Stack]

theorem looksLike_handOver (grammar : Grammar) :
    (ofExcept grammar.render >>= fun text => onSession (S.recorded.reset text)).LooksLike
      (LiveMatcher.over Recorded.session)
      (ofExcept grammar.render >>= fun text => onSession (S.reset text)) :=
  (looksLike_ofExcept _).bind looksLike_restartSession

theorem looksLike_restartCurrent : (restartCurrent S.recorded).LooksLike
    (LiveMatcher.over Recorded.session) (restartCurrent S) := by
  refine looksLike_get fun live => ?_
  have same : (live.over Recorded.session).replacement = live.replacement := rfl
  rw [same]
  cases live.replacement with
  | none => exact looksLike_restartSession ""
  | some grammar => exact looksLike_handOver grammar

theorem looksLike_turnDown (fault : Fault) : (turnDown S.recorded fault).LooksLike
    (LiveMatcher.over Recorded.session) (turnDown S fault) := by
  unfold turnDown
  by_cases rejects : fault.kind.isRejection = true
  · rw [if_pos rejects, if_pos rejects]
    exact looksLike_restartCurrent.bind fun _ => looksLike_fail _
  · rw [if_neg rejects, if_neg rejects]
    exact looksLike_fail fault

theorem looksLike_switchTo (grammar : Grammar) (replacement : Option Grammar) :
    (switchTo S.recorded grammar replacement).LooksLike (LiveMatcher.over Recorded.session)
      (switchTo S grammar replacement) :=
  ((looksLike_handOver grammar).recover looksLike_turnDown).bind fun _ =>
    looksLike_modify fun _ => rfl

theorem looksLike_reset (target : Option ResetTarget) : (reset S.recorded target).LooksLike
    (Option.map (LiveMatcher.over Recorded.session)) (reset S target) := by
  refine looksLike_whenLive (looksLike_get fun live => ?_)
  cases target with
  | none =>
      have same : (live.over Recorded.session).replacement = live.replacement := rfl
      have original : (live.over Recorded.session).first = live.first := rfl
      dsimp only
      rw [same, original]
      cases live.replacement with
      | none => exact looksLike_restartSession ""
      | some _ => exact looksLike_switchTo live.first none
  | some target =>
      have same : (live.over Recorded.session).resolve target = live.resolve target := by
        cases target <;> rfl
      dsimp only
      rw [same]
      exact looksLike_switchTo _ _

end Matcher

/-! ## Operations of a processor -/

/-- What may be done with a processor: scores of any shape are masked or passed by a generation
loop, any token is recorded, it is asked whether generation may end, and it is reset. -/
inductive Operation
  | process {w : Width} (scores : Tensor (Binary w))
  | call {w : Width} (ids : PromptIds) (scores : Tensor (Binary w))
  | onToken (token : Int)
  | canStop
  | reset

namespace Processor

open ConstrainedDecoding.Action

/-- What an operation leaves of a processor, be its result a value or a fault. -/
def perform [Stack] (S : Session σ) : Operation → Processor σ → Processor σ
  | .process scores, processor => (process S scores processor).state
  | .call ids scores, processor => (call S ids scores processor).state
  | .onToken token, processor => (onToken S token processor).state
  | .canStop, processor => (canStop S processor).state
  | .reset, processor => (reset S processor).state

/-- What operations in turn leave of a processor. -/
def performAll [Stack] (S : Session σ) (operations : List Operation) (processor : Processor σ) :
    Processor σ :=
  operations.foldl (fun left operation => perform S operation left) processor

variable {S : Session σ}

/-- The processor without the record of its session. -/
def forget (processor : Processor (Recorded σ)) : Processor σ :=
  processor.over Recorded.session

theorem looksLike_onMatcher {action : Action (Matcher (Recorded σ)) α}
    {image : Action (Matcher σ) α}
    (looks : action.LooksLike (Option.map (LiveMatcher.over Recorded.session)) image) :
    (onMatcher action).LooksLike forget (onMatcher image) := by
  intro processor
  have seen := looks processor.matcher
  show onPart _ _ image processor.forget = _
  unfold onPart
  dsimp only [forget, Processor.over]
  rw [seen]
  rfl

theorem looksLike_count (change : Statistics → Statistics) :
    (count change : Action (Processor (Recorded σ)) Unit).LooksLike forget (count change) :=
  looksLike_modify fun _ => rfl

theorem looksLike_trace (message : String) :
    (trace message : Action (Processor (Recorded σ)) Unit).LooksLike forget (trace message) := by
  refine looksLike_get fun processor => ?_
  by_cases visible : processor.settings.debug.truthy = true
  · have inView : processor.forget.settings.debug.truthy = true := visible
    rw [if_pos visible, if_pos inView]
    exact looksLike_log _ _ _
  · have inView : ¬ processor.forget.settings.debug.truthy = true := visible
    rw [if_neg visible, if_neg inView]
    exact looksLike_log _ _ _

theorem looksLike_firstAllowed (tokens : List Nat) (rank : Nat) :
    (firstAllowed S.recorded tokens rank).LooksLike forget (firstAllowed S tokens rank) := by
  induction tokens generalizing rank with
  | nil => exact looksLike_pure none
  | cons token rest ih =>
      refine (looksLike_count _).bind fun _ => ?_
      refine (looksLike_onMatcher (Matcher.looksLike_isAllowed token)).bind fun allowed => ?_
      cases allowed with
      | true => exact looksLike_pure _
      | false => exact ih (rank + 1)

variable {w : Width}

theorem looksLike_hit (scores : Tensor (Binary w)) (token rank : Nat) :
    (hit scores token rank : Action (Processor (Recorded σ)) _).LooksLike forget
      (hit scores token rank) :=
  (looksLike_count _).bind fun _ => (looksLike_trace _).bind fun _ =>
    (looksLike_ofExcept _).bind fun _ => looksLike_pure _

theorem looksLike_miss (scores : Tensor (Binary w)) :
    (miss S.recorded scores).LooksLike forget (miss S scores) :=
  (looksLike_count _).bind fun _ => (looksLike_trace _).bind fun _ =>
    (looksLike_onMatcher Matcher.looksLike_mask).bind fun _ =>
      (looksLike_ofExcept _).bind fun _ => looksLike_pure _

theorem looksLike_process (scores : Tensor (Binary w)) :
    (process S.recorded scores).LooksLike forget (process S scores) := by
  unfold process
  by_cases other : scores.dimensions ≠ 1
  · rw [if_pos other, if_pos other]
    exact looksLike_fail _
  · rw [if_neg other, if_neg other]
    refine (looksLike_count _).bind fun _ => looksLike_get fun processor => ?_
    refine (looksLike_trace _).bind fun _ => (looksLike_firstAllowed _ 0).bind fun found => ?_
    cases found with
    | none => exact looksLike_miss scores
    | some placed => exact looksLike_hit scores placed.1 placed.2

theorem looksLike_call (ids : PromptIds) (scores : Tensor (Binary w)) :
    (call S.recorded ids scores).LooksLike forget (call S ids scores) := by
  refine (looksLike_ofExcept _).bind fun _ => ?_
  split
  · exact (looksLike_process _).bind fun _ => looksLike_pure _
  · exact looksLike_fail _
  · exact looksLike_process scores

theorem looksLike_onToken (token : Int) :
    (onToken S.recorded token).LooksLike forget (onToken S token) := by
  have noted : (modify fun processor : Processor (Recorded σ) =>
      { processor with history := processor.history ++ [token] }).LooksLike forget
      (modify fun processor => { processor with history := processor.history ++ [token] }) :=
    looksLike_modify fun _ => rfl
  refine noted.bind fun _ => ?_
  refine (looksLike_onMatcher (Matcher.looksLike_advance token)).bind fun _ => ?_
  exact looksLike_get fun _ => looksLike_trace _

theorem looksLike_reset [Stack] : (reset S.recorded).LooksLike forget (reset S) := by
  have cleared : (modify fun processor : Processor (Recorded σ) =>
      { processor with history := [] }).LooksLike forget
      (modify fun processor => { processor with history := [] }) :=
    looksLike_modify fun _ => rfl
  exact cleared.bind fun _ => looksLike_onMatcher (Matcher.looksLike_reset none)

theorem forget_perform [Stack] (operation : Operation) (processor : Processor (Recorded σ)) :
    (perform S.recorded operation processor).forget = perform S operation processor.forget := by
  cases operation with
  | process scores => exact (congrArg Outcome.state (looksLike_process scores processor)).symm
  | call ids scores => exact (congrArg Outcome.state (looksLike_call ids scores processor)).symm
  | onToken token => exact (congrArg Outcome.state (looksLike_onToken token processor)).symm
  | canStop =>
      have looks := looksLike_onMatcher (Matcher.looksLike_isComplete (S := S)) processor
      exact (congrArg Outcome.state looks).symm
  | reset => exact (congrArg Outcome.state (looksLike_reset processor)).symm

/-- Without the record, everything is as it is over the session itself. -/
theorem forget_performAll [Stack] (operations : List Operation)
    (processor : Processor (Recorded σ)) : (performAll S.recorded operations processor).forget =
      performAll S operations processor.forget := by
  induction operations generalizing processor with
  | nil => rfl
  | cons operation rest ih =>
      have first := forget_perform (S := S) operation processor
      have others := ih (perform S.recorded operation processor)
      rw [first] at others
      exact others

end Processor

end ConstrainedDecoding
