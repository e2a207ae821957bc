import ConstrainedDecoding.Session.Action

/-!
# Outcomes of actions

`action.Gives state result post` says what an action does from a state: it has the given result, a
value or a fault, and leaves a state with the property `post`. Actions always come to an end, so
this is a statement of total correctness. There is one rule for each way of making an action, and
the proofs about matchers and processors go through these rules instead of opening actions.
-/

namespace ConstrainedDecoding

variable {σ τ α β ε : Type}

theorem ok_bind (value : α) (next : α → Except ε β) : Except.ok value >>= next = next value :=
  rfl

theorem error_bind (fault : ε) (next : α → Except ε β) :
    Except.error fault >>= next = .error fault :=
  rfl

theorem bind_eq_ok {result : Except ε α} {next : α → Except ε β} {value : β} :
    result >>= next = .ok value ↔ ∃ middle, result = .ok middle ∧ next middle = .ok value := by
  cases result with
  | error fault =>
      constructor
      · intro impossible
        cases impossible
      · rintro ⟨_, impossible, _⟩
        cases impossible
  | ok middle =>
      constructor
      · exact fun holds => ⟨middle, rfl, holds⟩
      · rintro ⟨_, ⟨⟩, holds⟩
        exact holds

theorem bind_eq_error {result : Except ε α} {next : α → Except ε β} {fault : ε} :
    result >>= next = .error fault ↔
      result = .error fault ∨ ∃ middle, result = .ok middle ∧ next middle = .error fault := by
  cases result with
  | error fault' =>
      constructor
      · intro same
        cases same
        exact .inl rfl
      · rintro (⟨⟨⟩⟩ | ⟨_, impossible, _⟩)
        · rfl
        · cases impossible
  | ok middle =>
      constructor
      · exact fun fails => .inr ⟨middle, rfl, fails⟩
      · rintro (impossible | ⟨_, ⟨⟩, fails⟩)
        · cases impossible
        · exact fails

/-- A check that fails comes before anything else. -/
theorem checked_eq_ok {condition : Prop} [Decidable condition] {fault : ε}
    {goesOn : Unit → Except ε α} {value : α} :
    (if condition then Except.error fault >>= goesOn else goesOn ()) = .ok value ↔
      ¬ condition ∧ goesOn () = .ok value := by
  by_cases fails : condition
  · rw [if_pos fails]
    constructor
    · intro impossible
      cases impossible
    · exact fun passes => absurd fails passes.1
  · rw [if_neg fails]
    exact ⟨fun holds => ⟨fails, holds⟩, And.right⟩

theorem map_eq_error {result : Except ε α} {change : α → β} {fault : ε} :
    result.map change = .error fault ↔ result = .error fault := by
  cases result <;> simp [Except.map]

theorem map_eq_ok {result : Except ε α} {change : α → β} {value : β} :
    result.map change = .ok value ↔ ∃ inner, result = .ok inner ∧ change inner = value := by
  cases result <;> simp [Except.map]

theorem mapError_eq_ok {δ : Type} {change : ε → δ} {result : Except ε α} {value : α} :
    result.mapError change = .ok value ↔ result = .ok value := by
  cases result with
  | ok given =>
      constructor
      · exact fun known => congrArg Except.ok (Except.ok.inj known)
      · exact fun known => congrArg Except.ok (Except.ok.inj known)
  | error fault => constructor <;> rintro ⟨⟩

/-! ## Results without what went wrong -/

theorem toOption_map (change : α → β) (result : Except ε α) :
    (result.map change).toOption = result.toOption.map change := by
  cases result <;> rfl

theorem toOption_bind (result : Except ε α) (next : α → Except ε β) :
    (result >>= next).toOption = result.toOption.bind fun value => (next value).toOption := by
  cases result <;> rfl

theorem eq_ok_of_toOption {result : Except ε α} {value : α}
    (known : result.toOption = some value) : result = .ok value := by
  cases result with
  | error fault => cases known
  | ok other => exact congrArg Except.ok (Option.some.inj known)

theorem exists_error_of_toOption {result : Except ε α} (failed : result.toOption = none) :
    ∃ fault, result = .error fault := by
  cases result with
  | error fault => exact ⟨fault, rfl⟩
  | ok value => cases failed

/-! ## Results of sequences -/

theorem mapM_eq_ok {step : α → Except ε β} {value : α → β} {items : List α}
    (each : ∀ item ∈ items, step item = .ok (value item)) :
    items.mapM step = .ok (items.map value) := by
  induction items with
  | nil => rfl
  | cons item rest ih =>
      obtain ⟨first, others⟩ := List.forall_mem_cons.1 each
      rw [List.mapM_cons, first, ih others]
      rfl

theorem mapM_congr {step step' : α → Except ε β} {items : List α}
    (each : ∀ item ∈ items, step item = step' item) : items.mapM step = items.mapM step' := by
  induction items with
  | nil => rfl
  | cons item rest ih =>
      obtain ⟨first, others⟩ := List.forall_mem_cons.1 each
      rw [List.mapM_cons, List.mapM_cons, first, ih others]

/-- Changing the value of each step is changing the values of all. -/
theorem mapM_map_value {γ : Type} (step : α → Except ε β) (change : β → γ) (items : List α) :
    items.mapM (fun item => (step item).map change) = (items.mapM step).map (List.map change) := by
  induction items with
  | nil => rfl
  | cons item rest ih =>
      rw [List.mapM_cons, List.mapM_cons, ih]
      cases step item with
      | error fault => rfl
      | ok value => cases rest.mapM step <;> rfl

theorem exists_of_mem_mapM {step : α → Except ε β} {items : List α} {values : List β}
    (known : items.mapM step = .ok values) :
    ∀ value ∈ values, ∃ item ∈ items, step item = .ok value := by
  induction items generalizing values with
  | nil =>
      cases known
      simp
  | cons item rest ih =>
      rw [List.mapM_cons] at known
      obtain ⟨first, stepped, known⟩ := bind_eq_ok.1 known
      obtain ⟨others, inner, known⟩ := bind_eq_ok.1 known
      cases known
      intro value member
      rcases List.mem_cons.1 member with rfl | later
      · exact ⟨item, List.mem_cons_self, stepped⟩
      · obtain ⟨other, among, stepped⟩ := ih inner value later
        exact ⟨other, List.mem_cons_of_mem _ among, stepped⟩

/-- Steps in two parts may be taken with the first parts of all of them before the second parts. -/
theorem exists_mapM_of_mapM_bind {γ : Type} {first : α → Except ε β} {next : β → Except ε γ}
    {items : List α} {values : List γ}
    (known : items.mapM (fun item => first item >>= next) = .ok values) :
    ∃ between, items.mapM first = .ok between ∧ between.mapM next = .ok values := by
  induction items generalizing values with
  | nil =>
      cases known
      exact ⟨[], rfl, rfl⟩
  | cons item rest ih =>
      rw [List.mapM_cons] at known
      obtain ⟨value, stepped, known⟩ := bind_eq_ok.1 known
      obtain ⟨others, inner, known⟩ := bind_eq_ok.1 known
      cases known
      obtain ⟨middle, begun, ended⟩ := bind_eq_ok.1 stepped
      obtain ⟨between, restBegun, restEnded⟩ := ih inner
      refine ⟨middle :: between, ?_, ?_⟩
      · rw [List.mapM_cons, begun, ok_bind, restBegun]
        rfl
      · rw [List.mapM_cons, ended, ok_bind, restEnded]
        rfl

/-- What the steps keep of the items is what they keep of the sequence. -/
theorem map_of_mapM {γ : Type} {step : α → Except ε β} {kept : β → γ} {image : α → γ}
    (each : ∀ item value, step item = .ok value → kept value = image item) {items : List α}
    {values : List β} (known : items.mapM step = .ok values) :
    values.map kept = items.map image := by
  induction items generalizing values with
  | nil =>
      cases known
      rfl
  | cons item rest ih =>
      rw [List.mapM_cons] at known
      obtain ⟨first, stepped, known⟩ := bind_eq_ok.1 known
      obtain ⟨others, inner, known⟩ := bind_eq_ok.1 known
      cases known
      rw [List.map_cons, List.map_cons, each item first stepped, ih inner]

theorem filterAuxM_eq_ok {test : α → Except ε Bool} {holds : α → Bool} {items : List α}
    (each : ∀ item ∈ items, test item = .ok (holds item)) (kept : List α) :
    List.filterAuxM test items kept = .ok ((items.filter holds).reverse ++ kept) := by
  induction items generalizing kept with
  | nil => rfl
  | cons item rest ih =>
      obtain ⟨first, others⟩ := List.forall_mem_cons.1 each
      rw [List.filterAuxM, first, ok_bind, ih others]
      cases known : holds item <;> simp [known]

theorem filterM_eq_ok {test : α → Except ε Bool} {holds : α → Bool} {items : List α}
    (each : ∀ item ∈ items, test item = .ok (holds item)) :
    items.filterM test = .ok (items.filter holds) := by
  rw [List.filterM, filterAuxM_eq_ok each, ok_bind, List.append_nil, List.reverse_reverse]
  rfl

/-- A test of all items in turn has an answer if it has one for each item. -/
theorem exists_anyM_eq_ok {test : α → Except ε Bool} {items : List α}
    (each : ∀ item ∈ items, ∃ holds, test item = .ok holds) :
    ∃ found, items.anyM test = .ok found := by
  induction items with
  | nil => exact ⟨false, rfl⟩
  | cons item rest ih =>
      obtain ⟨⟨first, tested⟩, others⟩ := List.forall_mem_cons.1 each
      rw [List.anyM, tested, ok_bind]
      cases first with
      | true => exact ⟨true, rfl⟩
      | false => exact ih others

theorem exists_allM_eq_ok {test : α → Except ε Bool} {items : List α}
    (each : ∀ item ∈ items, ∃ holds, test item = .ok holds) :
    ∃ hold, items.allM test = .ok hold := by
  induction items with
  | nil => exact ⟨true, rfl⟩
  | cons item rest ih =>
      obtain ⟨⟨first, tested⟩, others⟩ := List.forall_mem_cons.1 each
      rw [List.allM, tested, ok_bind]
      cases first with
      | true => exact ih others
      | false => exact ⟨false, rfl⟩

/-! ## Checks of results -/

theorem exists_of_isOk {result : Except Fault α} (succeeds : result.isOk = true) :
    ∃ value, result = .ok value := by
  cases result with
  | error fault => cases succeeds
  | ok value => exact ⟨value, rfl⟩

theorem exists_of_any {result : Except ε α} {check : α → Bool}
    (holds : result.toOption.any check = true) :
    ∃ value, result = .ok value ∧ check value = true := by
  cases result with
  | error fault => cases holds
  | ok value => exact ⟨value, rfl, holds⟩

/-- The kind of the fault that a result is, if it is one. -/
def faultKind? : Except Fault α → Option FaultKind
  | .ok _ => none
  | .error fault => some fault.kind

theorem exists_of_faultKind? {result : Except Fault α} {kind : FaultKind}
    (known : faultKind? result = some kind) :
    ∃ fault, result = .error fault ∧ fault.kind = kind := by
  cases result with
  | ok value => cases known
  | error fault => exact ⟨fault, rfl, Option.some.inj known⟩

namespace Action

/-- From a state the action has the given result and leaves a state with the property. -/
structure Gives (action : Action σ α) (state : σ) (result : Except Fault α)
    (post : σ → Prop) : Prop where
  result_eq : (action state).result = result
  post_state : post (action state).state

theorem Gives.mono {action : Action σ α} {state : σ} {result : Except Fault α}
    {post post' : σ → Prop} (gives : action.Gives state result post)
    (weaker : ∀ left, post left → post' left) : action.Gives state result post' :=
  ⟨gives.result_eq, weaker _ gives.post_state⟩

theorem gives_pure (value : α) (state : σ) :
    (pure value : Action σ α).Gives state (.ok value) (· = state) :=
  ⟨rfl, rfl⟩

theorem gives_fail (fault : Fault) (state : σ) :
    (fail fault : Action σ α).Gives state (.error fault) (· = state) :=
  ⟨rfl, rfl⟩

theorem gives_get (state : σ) : (get : Action σ σ).Gives state (.ok state) (· = state) :=
  ⟨rfl, rfl⟩

theorem gives_modify (change : σ → σ) (state : σ) :
    (modify change).Gives state (.ok ()) (· = change state) :=
  ⟨rfl, rfl⟩

theorem gives_call (made : Call) (state : σ) : (call made).Gives state (.ok ()) (· = state) :=
  ⟨rfl, rfl⟩

theorem gives_log (level : LogLevel) (source : LogSource) (message : String) (state : σ) :
    (log level source message).Gives state (.ok ()) (· = state) :=
  ⟨rfl, rfl⟩

theorem gives_ofExcept (result : Except Fault α) (state : σ) :
    (ofExcept result).Gives state result (· = state) := by
  cases result with
  | ok value => exact ⟨rfl, rfl⟩
  | error fault => exact ⟨rfl, rfl⟩

theorem gives_ofExcept_of_eq {computed result : Except Fault α} (same : computed = result)
    (state : σ) : (ofExcept computed).Gives state result (· = state) :=
  same ▸ gives_ofExcept computed state

/-! ## One action after another -/

theorem ofExcept_bind {result : Except Fault α} {value : α} (known : result = .ok value)
    (next : α → Action σ β) (state : σ) : (ofExcept result >>= next) state = next value state := by
  subst known
  rfl

theorem andThen_assoc {γ : Type} (first : Action σ α) (next : α → Action σ β)
    (last : β → Action σ γ) :
    (first >>= next) >>= last = first >>= fun value => next value >>= last := by
  funext state
  show andThen (andThen first next) last state =
    andThen first (fun value => andThen (next value) last) state
  unfold andThen
  rcases first state with ⟨fault | value, left, events⟩
  · rfl
  · rcases ran : next value left with ⟨fault | value', left', events'⟩
    · simp [ran]
    · simp [ran]

theorem Gives.outcome {action : Action σ α} {state : σ} {result : Except Fault α}
    {post : σ → Prop} (gives : action.Gives state result post) :
    ∃ left events, action state = ⟨result, left, events⟩ ∧ post left :=
  ⟨_, (action state).events, by rw [← gives.result_eq], gives.post_state⟩

theorem Gives.bind {first : Action σ α} {next : α → Action σ β} {state : σ} {value : α}
    {result : Except Fault β} {between post : σ → Prop}
    (starts : first.Gives state (.ok value) between)
    (goesOn : ∀ middle, between middle → (next value).Gives middle result post) :
    (first >>= next).Gives state result post := by
  obtain ⟨middle, events, outcome, holds⟩ := starts.outcome
  obtain ⟨resultNext, postNext⟩ := goesOn middle holds
  have joined : (first >>= next) state =
      ⟨(next value middle).result, (next value middle).state,
        events ++ (next value middle).events⟩ := by
    show andThen first next state = _
    simp only [andThen, outcome]
  exact ⟨joined ▸ resultNext, joined ▸ postNext⟩

/-- What follows an action may be exchanged for what does the same from where the action leads. -/
theorem Gives.bind_congr {first : Action σ α} {next next' : α → Action σ β} {state : σ}
    {value : α} {between : σ → Prop} (starts : first.Gives state (.ok value) between)
    (same : ∀ middle, between middle → next value middle = next' value middle) :
    (first >>= next) state = (first >>= next') state := by
  obtain ⟨middle, events, outcome, holds⟩ := starts.outcome
  show andThen first next state = andThen first next' state
  unfold andThen
  rw [outcome]
  dsimp only
  rw [same middle holds]

theorem Gives.bind_error {first : Action σ α} {next : α → Action σ β} {state : σ}
    {fault : Fault} {post : σ → Prop} (fails : first.Gives state (.error fault) post) :
    (first >>= next).Gives state (.error fault) post := by
  obtain ⟨middle, events, outcome, holds⟩ := fails.outcome
  have joined : (first >>= next) state = ⟨.error fault, middle, events⟩ := by
    show andThen first next state = _
    simp only [andThen, outcome]
  exact ⟨joined ▸ rfl, joined ▸ holds⟩

/-- After a step that leaves a known state, that state is where the rest starts. -/
theorem Gives.step {first : Action σ α} {next : α → Action σ β} {state left : σ} {value : α}
    {result : Except Fault β} {post : σ → Prop} (starts : first.Gives state (.ok value) (· = left))
    (goesOn : (next value).Gives left result post) : (first >>= next).Gives state result post :=
  starts.bind fun _ same => same ▸ goesOn

theorem gives_ofExcept_map (result : Except Fault α) (change : α → β) (state : σ) :
    (ofExcept result >>= fun value => pure (change value)).Gives state (result.map change)
      (· = state) := by
  cases result with
  | error fault => exact (gives_ofExcept _ state).bind_error
  | ok value => exact (gives_ofExcept _ state).step (gives_pure _ state)

/-- Looking at the state goes before anything else without a trace. -/
theorem Gives.of_get {next : σ → Action σ β} {state : σ} {result : Except Fault β}
    {post : σ → Prop} (goesOn : (next state).Gives state result post) :
    (get >>= next).Gives state result post :=
  (gives_get state).step goesOn

/-- An action that leaves a known state has every property of that state. -/
theorem Gives.of_eq {action : Action σ α} {state left : σ} {result : Except Fault α}
    {post : σ → Prop} (gives : action.Gives state result (· = left)) (holds : post left) :
    action.Gives state result post :=
  gives.mono fun _ same => same ▸ holds

/-! ## Handlers and parts -/

theorem Gives.recover {action : Action σ α} {handler : Fault → Action σ α} {state : σ}
    {value : α} {post : σ → Prop} (gives : action.Gives state (.ok value) post) :
    (action.recover handler).Gives state (.ok value) post := by
  obtain ⟨left, events, outcome, holds⟩ := gives.outcome
  have passed : action.recover handler state = ⟨.ok value, left, events⟩ := by
    simp only [Action.recover, outcome]
  exact ⟨passed ▸ rfl, passed ▸ holds⟩

theorem Gives.recover_error {action : Action σ α} {handler : Fault → Action σ α} {state : σ}
    {fault : Fault} {result : Except Fault α} {between post : σ → Prop}
    (fails : action.Gives state (.error fault) between)
    (handles : ∀ middle, between middle → (handler fault).Gives middle result post) :
    (action.recover handler).Gives state result post := by
  obtain ⟨middle, events, outcome, holds⟩ := fails.outcome
  obtain ⟨resultHandler, postHandler⟩ := handles middle holds
  have handled : action.recover handler state =
      ⟨(handler fault middle).result, (handler fault middle).state,
        events ++ (handler fault middle).events⟩ := by
    simp only [Action.recover, outcome]
  exact ⟨handled ▸ resultHandler, handled ▸ postHandler⟩

theorem Gives.onPart {part : τ → σ} {replace : σ → τ → τ} {action : Action σ α} {state : τ}
    {result : Except Fault α} {post : σ → Prop}
    (gives : action.Gives (part state) result post) :
    (action.onPart part replace).Gives state result
      fun left => ∃ changed, post changed ∧ left = replace changed state :=
  ⟨gives.result_eq, _, gives.post_state, rfl⟩

/-! ## Actions that only compute -/

/-- The action leaves every state as it is and always has the same result. -/
def Computes (action : Action σ α) (result : Except Fault α) : Prop :=
  ∀ state, action.Gives state result (· = state)

theorem computes_pure (value : α) : (pure value : Action σ α).Computes (pure value) :=
  gives_pure value

theorem computes_fail (fault : Fault) : (fail fault : Action σ α).Computes (.error fault) :=
  gives_fail fault

theorem computes_ofExcept (result : Except Fault α) :
    (ofExcept result : Action σ α).Computes result :=
  gives_ofExcept result

theorem computes_call (made : Call) : (call made : Action σ Unit).Computes (pure ()) :=
  gives_call made

theorem computes_log (level : LogLevel) (source : LogSource) (message : String) :
    (log level source message : Action σ Unit).Computes (pure ()) :=
  gives_log level source message

theorem Computes.bind {first : Action σ α} {next : α → Action σ β} {result : Except Fault α}
    {results : α → Except Fault β} (starts : first.Computes result)
    (goesOn : ∀ value, (next value).Computes (results value)) :
    (first >>= next).Computes (result >>= results) := by
  intro state
  cases result with
  | error fault => exact (starts state).bind_error
  | ok value => exact (starts state).step (goesOn value state)

/-- A step without a result of its own does not show in what is computed. -/
theorem Computes.after {first : Action σ Unit} {next : Unit → Action σ β} {result : Except Fault β}
    (starts : first.Computes (pure ())) (goesOn : (next ()).Computes result) :
    (first >>= next).Computes result :=
  starts.bind fun _ => goesOn

/-- A step that is made only on some occasion does not show either. -/
theorem computes_when {condition : Prop} [Decidable condition] {first : Action σ Unit}
    {next : Unit → Action σ β} {result : Except Fault β} (starts : first.Computes (pure ()))
    (goesOn : (next ()).Computes result) :
    (if condition then first >>= next else next ()).Computes result := by
  by_cases holds : condition
  · rw [if_pos holds]
    exact starts.after goesOn
  · rw [if_neg holds]
    exact goesOn

/-! ## Actions without a state -/

theorem result_bind (first : Action Unit α) (next : α → Action Unit β) :
    ((first >>= next) ()).result = (first ()).result >>= fun value => (next value ()).result := by
  show (andThen first next ()).result = _
  unfold andThen
  rcases first () with ⟨fault | value, left, events⟩
  · rfl
  · rfl

/-- A handler that reports another fault does nothing else. -/
theorem result_recover_fail (action : Action Unit α) (change : Fault → Fault) :
    (action.recover (fun fault => fail (change fault)) ()).result =
      (action ()).result.mapError change := by
  unfold Action.recover
  rcases action () with ⟨fault | value, left, events⟩
  · rfl
  · rfl

theorem result_ofExcept (result : Except Fault α) :
    ((ofExcept result : Action Unit α) ()).result = result :=
  (gives_ofExcept result ()).result_eq

end Action

end ConstrainedDecoding
