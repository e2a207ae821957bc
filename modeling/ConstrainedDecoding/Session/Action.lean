import ConstrainedDecoding.Session.Event

/-!
Actions on a state. An action has a result or a fault, and in either case leaves a state behind:
what was done before a fault stays done. Its events are listed in the order in which they happened.
-/

namespace ConstrainedDecoding

/-- What an action leaves behind. -/
structure Outcome (σ α : Type) where
  result : Except Fault α
  state : σ
  events : List Event

/-- An action on states `σ` with results `α`. -/
def Action (σ α : Type) : Type := σ → Outcome σ α

namespace Action

variable {σ τ α β : Type}

/-- The outcome of an action on a state. -/
def run (action : Action σ α) (state : σ) : Outcome σ α := action state

/-- The action that does nothing and has a result. -/
def done (result : α) : Action σ α := fun state => ⟨.ok result, state, []⟩

/-- The action that does nothing and has a fault. -/
def fail (fault : Fault) : Action σ α := fun state => ⟨.error fault, state, []⟩

/-- One action after another, which takes its result; a fault of the first is the fault of both. -/
def andThen (first : Action σ α) (next : α → Action σ β) : Action σ β := fun state =>
  match first state with
  | ⟨.ok result, state, events⟩ =>
    let rest := next result state
    ⟨rest.result, rest.state, events ++ rest.events⟩
  | ⟨.error fault, state, events⟩ => ⟨.error fault, state, events⟩

instance : Monad (Action σ) where
  pure := done
  bind := andThen

/-- An action, and another one in its place if it has a fault. -/
def recover (action : Action σ α) (handler : Fault → Action σ α) : Action σ α := fun state =>
  match action state with
  | ⟨.ok result, state, events⟩ => ⟨.ok result, state, events⟩
  | ⟨.error fault, state, events⟩ =>
    let rest := handler fault state
    ⟨rest.result, rest.state, events ++ rest.events⟩

/-- The result of a computation that has no state. -/
def ofExcept : Except Fault α → Action σ α
  | .ok result => done result
  | .error fault => fail fault

/-- The state. -/
def get : Action σ σ := fun state => ⟨.ok state, state, []⟩

/-- Changes the state. -/
def modify (change : σ → σ) : Action σ Unit := fun state => ⟨.ok (), change state, []⟩

/-- Makes an event. -/
def emit (event : Event) : Action σ Unit := fun state => ⟨.ok (), state, [event]⟩

/-- Makes a call. -/
def call (made : Call) : Action σ Unit := emit (.call made)

/-- Writes a log entry. -/
def log (level : LogLevel) (source : LogSource) (message : String) : Action σ Unit :=
  emit (.log { level, source, message })

/-- An action on a part of the state. -/
def onPart (part : τ → σ) (replace : σ → τ → τ) (action : Action σ α) : Action τ α := fun state =>
  let outcome := action (part state)
  ⟨outcome.result, replace outcome.state state, outcome.events⟩

end Action

end ConstrainedDecoding
