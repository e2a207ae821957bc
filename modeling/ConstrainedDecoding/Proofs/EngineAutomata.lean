import ConstrainedDecoding.Proofs.MatcherStates
import ConstrainedDecoding.Proofs.PackedMask
import ConstrainedDecoding.Proofs.ValueText
import ConstrainedDecoding.TokenEngine.Session

/-!
# Sessions over token engines follow automata

A token engine is opaque as well. `TokenEngine.Follows` says that its parsers answer as automata do:
a compiled grammar starts an automaton, tokens lead from state to state, and a packed mask agrees
with what is asked of single tokens inside the vocabulary. Sessions over such an engine then follow
automata over the texts of grammars (`EngineSession.follows`), and the backend that makes them opens
them at the start (`EngineSource.opens`): which parser is in use, which grammar it was opened on and
whether the packed mask has been filled before cannot be told from outside.
-/

namespace ConstrainedDecoding

open ConstrainedDecoding.Action

/-- Automata for the compiled grammars of a token engine with loaded tokenizers `τ`. -/
structure EngineAutomata (τ δ : Type) where
  /-- The state in which the parse of a compiled grammar starts. -/
  origin : τ → (grammar : String) → δ
  allows : δ → (token : Int) → Bool
  next : δ → (token : Int) → δ
  accepts : δ → Bool

/-- A tokenizer may have been loaded with so many tokens. -/
def TokenEngine.Loads {τ ρ : Type} (E : TokenEngine τ ρ) (tokenizer : τ) (size : Int) : Prop :=
  ∃ document endToken, E.loadTokenizer document size endToken = .ok tokenizer

/-- A token engine answers as automata do. `reads parser tokenizer grammar state` relates a parser
to what it was opened on and to the state it is at. -/
structure TokenEngine.Follows {τ ρ δ : Type} (E : TokenEngine τ ρ) (G : EngineAutomata τ δ)
    (reads : ρ → τ → (grammar : String) → δ → Prop) : Prop where
  opened {tokenizer grammar} (logLevel : Int) :
    E.defect? (E.openParser tokenizer grammar logLevel) = none →
    reads (E.openParser tokenizer grammar logLevel) tokenizer grammar (G.origin tokenizer grammar)
  takes {parser tokenizer grammar state size} {token : Int} :
    reads parser tokenizer grammar state → E.Loads tokenizer size →
    0 ≤ token → token < size → E.takes parser token = G.allows state token
  consumed {parser tokenizer grammar state} (token : Int) : reads parser tokenizer grammar state →
    reads (E.consume parser token).2 tokenizer grammar (G.next state token)
  isAccepting {parser tokenizer grammar state} : reads parser tokenizer grammar state →
    E.isAccepting parser = G.accepts state
  restarted {parser tokenizer grammar state} : reads parser tokenizer grammar state →
    reads (E.restart parser) tokenizer grammar (G.origin tokenizer grammar)
  /-- There are words for all tokens and no more. -/
  allocated {size words} : E.allocate size = .ok words →
    size ≤ 32 * words.length ∧ 32 * words.length < size + 32
  length_filled (parser : ρ) (words : List MaskWord) : (E.fill parser words).length = words.length
  filled {parser tokenizer grammar state size words} {token : Nat} :
    reads parser tokenizer grammar state → E.Loads tokenizer size →
    size ≤ 32 * words.length → (token : Int) < size →
    Bitmask.bit (E.fill parser words) token = G.allows state token

namespace EngineSession

variable [Stack] {τ ρ δ σ : Type} (E : TokenEngine τ ρ)

/-! ## What is computed without a session -/

/-- The compiled grammar for the value of a wire form. -/
def compiledOf (wire : Value) : Except Fault String := do
  E.compile (← Constraint.ofWire wire)

/-- The compiled grammar for the text of a wire form. -/
def compiledText (text : String) : Except Fault String := do
  compiledOf E (← valueOf (Stack.levels .sentText) text)

/-- Whether a parser may be used. -/
def checked (parser : ρ) : Except Fault Unit :=
  match E.defect? parser with
  | some detail => .error (.engineRejected detail)
  | none => .ok ()

/-- The compiled grammar for the text of a wire form, if a parser opened on it may be used. -/
def usable (tokenizer : τ) (logLevel : Int) (text : String) : Except Fault String := do
  let grammar ← compiledText E text
  checked E (E.openParser tokenizer grammar logLevel)
  return grammar

/-- The tokenizer for the text of a record, and its size. -/
def loaded (text : String) : Except Fault (τ × Int) := do
  let record ← valueOf (Stack.levels .sentText) text
  let size ← EngineForm.vocabSize record >>= EngineForm.wholeSize
  if size = 0 then .error .emptyVocabulary
  else
    let (document, _) ← EngineForm.document record
    let documentText ← document.renderWithin (Stack.levels .document)
    let endToken ← EngineForm.endToken record
    let tokenizer ← E.loadTokenizer documentText size endToken
    return (tokenizer, size)

/-- A session over a new parser for a compiled grammar. -/
def atStart (tokenizer : τ) (logLevel size : Int) (buffer : List MaskWord) (grammar : String) :
    EngineSession τ ρ where
  tokenizer := tokenizer
  parser := E.openParser tokenizer grammar logLevel
  number := 0
  opened := 1
  first := grammar
  size := size
  logLevel := logLevel
  buffer := buffer

/-- The session for the texts of a grammar and of a tokenizer record. -/
def created (logLevel : Int) (grammarText tokenizerText : String) :
    Except Fault (EngineSession τ ρ) := do
  let (tokenizer, size) ← loaded E tokenizerText
  let grammar ← usable E tokenizer logLevel grammarText
  let buffer ← E.allocate size
  return atStart E tokenizer logLevel size buffer grammar

theorem computes_readText (text : String) :
    (readText text : Action σ Value).Computes (valueOf (Stack.levels .sentText) text) :=
  computes_ofExcept _

theorem computes_compile (wire : Value) :
    (compile E wire : Action σ String).Computes (compiledOf E wire) := by
  refine (computes_ofExcept _).bind fun constraint => ?_
  exact (computes_call _).after (computes_ofExcept _)

omit [Stack] in
theorem computes_checkParser (parser : ρ) :
    (checkParser E parser : Action σ Unit).Computes (checked E parser) := by
  unfold checkParser checked
  cases E.defect? parser with
  | some detail => exact computes_fail _
  | none => exact computes_pure ()

theorem computes_init (logLevel : Int) (grammarText tokenizerText : String) :
    (init E logLevel grammarText tokenizerText).Computes
      (created E logLevel grammarText tokenizerText) := by
  unfold created loaded
  rw [bind_assoc]
  refine (computes_readText tokenizerText).bind fun record => ?_
  rw [bind_assoc]
  refine (computes_ofExcept _).bind fun size => ?_
  by_cases empty : size = 0
  · rw [if_pos empty, if_pos empty]
    intro state
    exact (gives_fail _ state).bind_error
  rw [if_neg empty, if_neg empty, bind_assoc]
  refine (computes_ofExcept _).bind fun (document, skipped) => ?_
  apply computes_when (computes_log _ _ _)
  show Computes _ (_ >>= _)
  rw [bind_assoc]
  refine (computes_ofExcept _).bind fun documentText => ?_
  rw [bind_assoc]
  refine (computes_ofExcept _).bind fun endToken => ?_
  rw [bind_assoc]
  refine (computes_call _).after ((computes_ofExcept _).bind fun tokenizer => ?_)
  rw [pure_bind]
  -- from here on the grammar is read, compiled and tried
  show Computes _ (usable _ _ _ _ >>= _)
  unfold usable compiledText
  rw [bind_assoc, bind_assoc]
  refine (computes_readText _).bind fun wire => ?_
  refine (computes_compile E wire).bind fun grammar => ?_
  refine (computes_log _ _ _).after ((computes_call _).after ?_)
  rw [bind_assoc]
  refine (computes_checkParser E _).bind fun _ => ?_
  rw [pure_bind]
  exact (computes_call _).after ((computes_ofExcept _).bind fun _ => computes_pure _)

/-! ## The automata of a session -/

variable (G : EngineAutomata τ δ) (reads : ρ → τ → (grammar : String) → δ → Prop)
  (tokenizer : τ) (size logLevel : Int)

/-- The automata that the grammars of a session follow: a text starts what it compiles to. -/
def automata : TokenAutomata δ where
  size := size
  start text := (usable E tokenizer logLevel text).map (G.origin tokenizer)
  allows := G.allows
  next := G.next
  accepts := G.accepts

/-- A session made for a text is at a state: its parser reads the grammar in force. -/
structure Stands (session : EngineSession τ ρ) (first : String) (state : δ) : Prop where
  tokenizer_eq : session.tokenizer = tokenizer
  logLevel_eq : session.logLevel = logLevel
  size_eq : session.size = size
  loads : E.Loads tokenizer size
  enough : size ≤ 32 * session.buffer.length
  tight : 32 * session.buffer.length < size + 32
  usable_first : usable E tokenizer logLevel first = .ok session.first
  reads : reads session.parser tokenizer (session.replacement.getD session.first) state

variable {E G reads tokenizer size logLevel}

omit [Stack] in
theorem defect?_of_checked {parser : ρ} (sound : checked E parser = .ok ()) :
    E.defect? parser = none := by
  unfold checked at sound
  cases defect : E.defect? parser with
  | some detail =>
      rw [defect] at sound
      cases sound
  | none => rfl

theorem checked_of_usable {text grammar : String}
    (usable_text : usable E tokenizer logLevel text = .ok grammar) :
    checked E (E.openParser tokenizer grammar logLevel) = .ok () := by
  obtain ⟨grammar', _, opens⟩ := bind_eq_ok.1 usable_text
  obtain ⟨passed, sound, same⟩ := bind_eq_ok.1 opens
  cases same
  exact sound

theorem opened_of_usable (engine : E.Follows G reads) {text grammar : String}
    (usable_text : usable E tokenizer logLevel text = .ok grammar) :
    reads (E.openParser tokenizer grammar logLevel) tokenizer grammar
      (G.origin tokenizer grammar) :=
  engine.opened logLevel (defect?_of_checked (checked_of_usable usable_text))

theorem start_eq_ok {text grammar : String}
    (usable_text : usable E tokenizer logLevel text = .ok grammar) :
    (automata E G tokenizer size logLevel).start text = .ok (G.origin tokenizer grammar) :=
  congrArg (Except.map _) usable_text

theorem usable_of_start {text : String} {origin : δ}
    (started : (automata E G tokenizer size logLevel).start text = .ok origin) :
    ∃ grammar, usable E tokenizer logLevel text = .ok grammar ∧
      origin = G.origin tokenizer grammar := by
  change (usable E tokenizer logLevel text).map _ = _ at started
  cases usable_text : usable E tokenizer logLevel text with
  | error fault =>
      rw [usable_text] at started
      cases started
  | ok grammar =>
      rw [usable_text] at started
      cases started
      exact ⟨grammar, rfl, rfl⟩

theorem usable_of_start_error {text : String} {fault : Fault}
    (refused : (automata E G tokenizer size logLevel).start text = .error fault) :
    usable E tokenizer logLevel text = .error fault := by
  change (usable E tokenizer logLevel text).map _ = _ at refused
  cases usable_text : usable E tokenizer logLevel text with
  | error fault' =>
      rw [usable_text] at refused
      exact congrArg Except.error (Except.error.inj refused)
  | ok grammar =>
      rw [usable_text] at refused
      cases refused

/-! ## What a session keeps -/

/-- A session keeps its first compiled grammar, another one if that is in force in its place, and a
parser at a state of the grammar in force. -/
structure Keeps (E : TokenEngine τ ρ) (reads : ρ → τ → (grammar : String) → δ → Prop)
    (tokenizer : τ) (size logLevel : Int) (session : EngineSession τ ρ) (first : String)
    (replacement : Option String) (state : δ) : Prop where
  tokenizer_eq : session.tokenizer = tokenizer
  logLevel_eq : session.logLevel = logLevel
  size_eq : session.size = size
  first_eq : session.first = first
  replacement_eq : session.replacement = replacement
  loads : E.Loads tokenizer size
  enough : size ≤ 32 * session.buffer.length
  tight : 32 * session.buffer.length < size + 32
  sound : checked E (E.openParser tokenizer first logLevel) = .ok ()
  reads : reads session.parser tokenizer (replacement.getD first) state

theorem Stands.keeps {session : EngineSession τ ρ} {first : String} {state : δ}
    (standing : Stands E reads tokenizer size logLevel session first state) :
    Keeps E reads tokenizer size logLevel session session.first session.replacement state :=
  { standing with
    first_eq := rfl
    replacement_eq := rfl
    sound := checked_of_usable standing.usable_first }

theorem Keeps.stands {session : EngineSession τ ρ} {text first : String}
    {replacement : Option String} {state : δ}
    (keeps : Keeps E reads tokenizer size logLevel session first replacement state)
    (usable_text : usable E tokenizer logLevel text = .ok first) :
    Stands E reads tokenizer size logLevel session text state :=
  { keeps with
    usable_first := keeps.first_eq ▸ usable_text
    reads := by
      rw [keeps.first_eq, keeps.replacement_eq]
      exact keeps.reads }

section

variable {session : EngineSession τ ρ} {first : String} {replacement : Option String} {state : δ}

omit [Stack] in
/-- What is opened on the way does not show. -/
theorem Keeps.of_opened (opened : Nat)
    (keeps : Keeps E reads tokenizer size logLevel session first replacement state) :
    Keeps E reads tokenizer size logLevel { session with opened } first replacement state :=
  { keeps with }

/-! ## Questions and tokens -/

omit [Stack] in
theorem gives_ask {α : Type} (call : Nat → Call) (answer : ρ → α) (session : EngineSession τ ρ) :
    (ask call answer).Gives session (.ok (answer session.parser)) (· = session) :=
  Gives.of_get ((gives_call _ session).step (gives_pure _ session))

omit [Stack] in
theorem Keeps.gives_isAllowed (engine : E.Follows G reads) {token : Int}
    (keeps : Keeps E reads tokenizer size logLevel session first replacement state)
    (nonnegative : 0 ≤ token) (inside : token < size) :
    (ask (.validate · token) (E.takes · token)).Gives session (.ok (G.allows state token))
      (· = session) := by
  have asked := gives_ask (.validate · token) (E.takes · token) session
  rwa [engine.takes keeps.reads keeps.loads nonnegative inside] at asked

theorem Keeps.gives_mask (engine : E.Follows G reads)
    (keeps : Keeps E reads tokenizer size logLevel session first replacement state) :
    (mask E).Gives session (.ok ((automata E G tokenizer size logLevel).maskAt state))
      fun left => Keeps E reads tokenizer size logLevel left first replacement state := by
  have length := engine.length_filled session.parser session.buffer
  have unpacked : Bitmask.unpack (E.fill session.parser session.buffer) session.size =
      (automata E G tokenizer size logLevel).maskAt state := by
    rw [keeps.size_eq, Bitmask.unpack_eq_map_bit (length ▸ keeps.enough) (length ▸ keeps.tight)]
    refine List.map_congr_left fun token member => ?_
    have inside : token < size.toNat := List.mem_range.1 member
    exact engine.filled keeps.reads keeps.loads keeps.enough (by omega)
  refine Gives.of_get ((gives_call _ session).step ((gives_modify _ session).step ?_))
  rw [unpacked]
  exact (gives_pure _ _).of_eq { keeps with
    enough := length ▸ keeps.enough
    tight := length ▸ keeps.tight }

omit [Stack] in
theorem Keeps.gives_advance (engine : E.Follows G reads) (token : Int)
    (keeps : Keeps E reads tokenizer size logLevel session first replacement state) :
    (advance E token).Gives session (.ok ()) fun left =>
      Keeps E reads tokenizer size logLevel left first replacement (G.next state token) := by
  have moved : Keeps E reads tokenizer size logLevel
      { session with parser := (E.consume session.parser token).2 } first replacement
      (G.next state token) :=
    { keeps with reads := engine.consumed token keeps.reads }
  refine Gives.of_get ((gives_call _ session).step ((gives_modify _ session).step ?_))
  by_cases taken : (E.consume session.parser token).1 = true
  · rw [if_pos taken]
    exact (gives_pure () _).of_eq moved
  · rw [if_neg taken]
    exact (gives_log _ _ _ _).of_eq moved

/-! ## Starting again -/

omit [Stack] in
theorem Keeps.gives_restartParser (engine : E.Follows G reads)
    (keeps : Keeps E reads tokenizer size logLevel session first replacement state) :
    (restartParser E).Gives session (.ok ()) fun left =>
      Keeps E reads tokenizer size logLevel left first replacement
        (G.origin tokenizer (replacement.getD first)) := by
  refine Gives.of_get ((gives_call _ session).step ((gives_modify _ session).of_eq ?_))
  exact { keeps with reads := engine.restarted keeps.reads }

omit [Stack] in
/-- Opening the next parser does not put it to use. -/
theorem gives_openNext (grammar : String) (session : EngineSession τ ρ) :
    (openNext E grammar).Gives session
      (do
        checked E (E.openParser session.tokenizer grammar session.logLevel)
        return (E.openParser session.tokenizer grammar session.logLevel, session.opened))
      (· = { session with opened := session.opened + 1 }) := by
  refine Gives.of_get ((gives_call _ session).step ((gives_modify _ session).step ?_))
  exact (computes_checkParser E _).bind (fun _ => computes_pure _) _

omit [Stack] in
theorem Keeps.gives_resetToFirst (engine : E.Follows G reads)
    (keeps : Keeps E reads tokenizer size logLevel session first replacement state) :
    (resetToFirst E).Gives session (.ok ()) fun left =>
      Keeps E reads tokenizer size logLevel left first none (G.origin tokenizer first) := by
  apply Gives.of_get
  obtain rfl := keeps.replacement_eq
  obtain rfl := keeps.first_eq
  cases replaced : session.replacement with
  | none =>
      have restarts := keeps.gives_restartParser engine
      rw [replaced] at restarts
      exact restarts
  | some grammar =>
      obtain rfl := keeps.tokenizer_eq
      obtain rfl := keeps.logLevel_eq
      have opens := gives_openNext (E := E) session.first session
      rw [keeps.sound] at opens
      refine opens.step ((gives_modify _ _).of_eq ?_)
      exact { keeps with
        replacement_eq := rfl
        reads := engine.opened _ (defect?_of_checked keeps.sound) }

/-- The text of another wire form is compiled and a parser opened on it. -/
theorem gives_openText (text : String) (session : EngineSession τ ρ) :
    (do
      let wire ← readText text
      let grammar ← compile E wire
      let (parser, number) ← openNext E grammar
      return (grammar, parser, number)).Gives session
      ((usable E session.tokenizer session.logLevel text).map fun grammar =>
        (grammar, E.openParser session.tokenizer grammar session.logLevel, session.opened))
      fun left => ∃ opened, left = { session with opened } := by
  have compiling := ((computes_readText text).bind (computes_compile E)) session
  rw [← andThen_assoc]
  change (readText text >>= compile E).Gives session (compiledText E text) _ at compiling
  unfold usable
  cases compiled : compiledText E text with
  | error fault =>
      rw [compiled] at compiling
      exact (compiling.mono fun _ same => ⟨session.opened, same⟩).bind_error
  | ok grammar =>
      rw [compiled] at compiling
      apply compiling.step
      have opening := gives_openNext (E := E) grammar session
      rw [ok_bind]
      cases sound : checked E (E.openParser session.tokenizer grammar session.logLevel) with
      | error fault =>
          rw [sound, error_bind] at opening
          exact (opening.mono fun _ same => ⟨session.opened + 1, same⟩).bind_error
      | ok passed =>
          rw [sound, ok_bind] at opening
          exact opening.step ((gives_pure _ _).mono fun _ same => ⟨session.opened + 1, same⟩)

/-- A text that is turned down leaves the grammar in force, at its start if that is a rejection. -/
theorem Keeps.gives_resetTo_error (engine : E.Follows G reads) {text : String} {fault : Fault}
    (keeps : Keeps E reads tokenizer size logLevel session first replacement state)
    (refused : usable E tokenizer logLevel text = .error fault) :
    (resetTo E text).Gives session (.error fault) fun left =>
      Keeps E reads tokenizer size logLevel left first replacement
        (if fault.kind.isRejection then G.origin tokenizer (replacement.getD first)
          else state) := by
  obtain rfl := keeps.tokenizer_eq
  obtain rfl := keeps.logLevel_eq
  have attempt := gives_openText (E := E) text session
  rw [refused] at attempt
  refine Gives.bind_error (attempt.recover_error ?_)
  rintro _ ⟨opened, rfl⟩
  by_cases rejection : fault.kind.isRejection = true
  · rw [if_pos rejection, if_pos rejection]
    apply ((keeps.of_opened opened).gives_restartParser engine).bind
    intro left leftAt
    exact (gives_fail fault left).of_eq leftAt
  · rw [if_neg rejection, if_neg rejection]
    exact (gives_fail fault _).of_eq (keeps.of_opened opened)

theorem Keeps.gives_resetTo (engine : E.Follows G reads) {text grammar : String}
    (keeps : Keeps E reads tokenizer size logLevel session first replacement state)
    (usable_text : usable E tokenizer logLevel text = .ok grammar) :
    (resetTo E text).Gives session (.ok ()) fun left =>
      Keeps E reads tokenizer size logLevel left first (some grammar)
        (G.origin tokenizer grammar) := by
  obtain rfl := keeps.tokenizer_eq
  obtain rfl := keeps.logLevel_eq
  have attempt := gives_openText (E := E) text session
  rw [usable_text] at attempt
  apply Gives.bind attempt.recover
  rintro _ ⟨opened, rfl⟩
  exact (gives_modify _ _).of_eq { keeps with
    replacement_eq := rfl
    reads := opened_of_usable engine usable_text }

end

/-! ## Following and opening -/

theorem follows (engine : E.Follows G reads) :
    (operations E).Follows (automata E G tokenizer size logLevel)
      (Stands E reads tokenizer size logLevel) where
  vocabSize standing := standing.size_eq
  isAllowed standing nonnegative inside :=
    (standing.keeps.gives_isAllowed engine nonnegative inside).of_eq standing
  mask standing :=
    (standing.keeps.gives_mask engine).mono fun _ keeps => keeps.stands standing.usable_first
  advance token standing :=
    (standing.keeps.gives_advance engine token).mono fun _ keeps =>
      keeps.stands standing.usable_first
  isComplete {session first state} standing := by
    have asked := gives_ask .accepting E.isAccepting session
    rw [engine.isAccepting standing.reads] at asked
    exact asked.of_eq standing
  reset_ok {session first state text origin} standing started := by
    by_cases empty : text = ""
    · rw [if_pos empty, start_eq_ok standing.usable_first] at started
      obtain rfl := Except.ok.inj started
      show (if text.isEmpty then resetToFirst E else resetTo E text).Gives _ _ _
      rw [empty]
      exact (standing.keeps.gives_resetToFirst engine).mono fun _ keeps =>
        keeps.stands standing.usable_first
    · rw [if_neg empty] at started
      obtain ⟨grammar, usable_text, rfl⟩ := usable_of_start started
      show (if text.isEmpty then resetToFirst E else resetTo E text).Gives _ _ _
      rw [if_neg (by simpa using empty)]
      exact (standing.keeps.gives_resetTo engine usable_text).mono fun _ keeps =>
        keeps.stands standing.usable_first
  reset_error {session first state text fault} standing refused := by
    by_cases empty : text = ""
    · rw [if_pos empty, start_eq_ok standing.usable_first] at refused
      cases refused
    · rw [if_neg empty] at refused
      show (if text.isEmpty then resetToFirst E else resetTo E text).Gives _ _ _
      rw [if_neg (by simpa using empty)]
      have unusable := usable_of_start_error refused
      exact (standing.keeps.gives_resetTo_error engine unusable).mono fun _ keeps =>
        ⟨_, keeps.stands standing.usable_first⟩

theorem loads_of_loaded {text : String} (loaded_text : loaded E text = .ok (tokenizer, size)) :
    E.Loads tokenizer size := by
  obtain ⟨record, _, loaded_text⟩ := bind_eq_ok.1 loaded_text
  obtain ⟨whole, _, loaded_text⟩ := bind_eq_ok.1 loaded_text
  by_cases empty : whole = 0
  · rw [if_pos empty] at loaded_text
    cases loaded_text
  · rw [if_neg empty] at loaded_text
    obtain ⟨document, _, loaded_text⟩ := bind_eq_ok.1 loaded_text
    obtain ⟨documentText, _, loaded_text⟩ := bind_eq_ok.1 loaded_text
    obtain ⟨endToken, _, loaded_text⟩ := bind_eq_ok.1 loaded_text
    obtain ⟨tokenizer', loads, same⟩ := bind_eq_ok.1 loaded_text
    cases same
    exact ⟨documentText, endToken, loads⟩

end EngineSession

theorem EngineSource.init_eq [Stack] {τ ρ : Type} {E : TokenEngine τ ρ} {source : EngineSource τ ρ}
    (loads : source.engine = some E) (text tokenizerText : String) :
    (source.backend.init text tokenizerText ()).result =
      EngineSession.created E source.logLevel text tokenizerText := by
  show (source.init true text tokenizerText ()).result = _
  unfold EngineSource.init
  rw [loads]
  exact (EngineSession.computes_init E source.logLevel text tokenizerText ()).result_eq

/-- Once a session could be made for the text of a tokenizer record, the engine's backend opens
sessions at the start of every grammar that is not turned down. -/
theorem EngineSource.opens [Stack] {τ ρ δ : Type} {E : TokenEngine τ ρ} {G : EngineAutomata τ δ}
    {reads : ρ → τ → (grammar : String) → δ → Prop} {source : EngineSource τ ρ}
    {text tokenizerText : String} {session : EngineSession τ ρ}
    (engine : E.Follows G reads) (loads : source.engine = some E)
    (made : (source.backend.init text tokenizerText ()).result = .ok session) :
    ∃ tokenizer size, EngineSession.loaded E tokenizerText = .ok (tokenizer, size) ∧
      source.backend.Opens (EngineSession.automata E G tokenizer size source.logLevel)
        (EngineSession.Stands E reads tokenizer size source.logLevel) tokenizerText := by
  rw [init_eq loads] at made
  obtain ⟨⟨tokenizer, size⟩, loaded_text, made⟩ := bind_eq_ok.1 made
  obtain ⟨_, _, made⟩ := bind_eq_ok.1 made
  obtain ⟨buffer, allocates, _⟩ := bind_eq_ok.1 made
  obtain ⟨enough, tight⟩ := engine.allocated allocates
  have created_eq (text : String) : (source.backend.init text tokenizerText ()).result = do
      let grammar ← EngineSession.usable E tokenizer source.logLevel text
      return EngineSession.atStart E tokenizer source.logLevel size buffer grammar := by
    rw [init_eq loads, EngineSession.created, loaded_text, ok_bind]
    dsimp only
    rw [allocates]
    rfl
  refine ⟨tokenizer, size, loaded_text, ?_, ?_⟩
  · intro text origin started
    obtain ⟨grammar, usable_text, rfl⟩ := EngineSession.usable_of_start started
    refine ⟨EngineSession.atStart E tokenizer source.logLevel size buffer grammar, ?_, ?_⟩
    · rw [created_eq, usable_text]
      rfl
    · exact ⟨rfl, rfl, rfl, EngineSession.loads_of_loaded loaded_text, enough, tight, usable_text,
        EngineSession.opened_of_usable engine usable_text⟩
  · intro text fault refused
    have unusable := EngineSession.usable_of_start_error refused
    refine ⟨fault, ?_⟩
    rw [created_eq, unusable]
    rfl

/-- So it does for the tokenizer of a matcher that could be created. -/
theorem EngineSource.opens_of_create [Stack] {τ ρ δ : Type} {E : TokenEngine τ ρ}
    {G : EngineAutomata τ δ}
    {reads : ρ → τ → (grammar : String) → δ → Prop} {source : EngineSource τ ρ}
    {grammar : Grammar} {tokenizer : Tokenizer} {made : Matcher (EngineSession τ ρ)}
    (engine : E.Follows G reads) (loads : source.engine = some E)
    (created : (Matcher.create (EngineSession.operations E) source.backend grammar tokenizer
      ()).result = .ok made) :
    ∃ tokenizerText loaded size, tokenizer.render = .ok tokenizerText ∧
      EngineSession.loaded E tokenizerText = .ok (loaded, size) ∧
      ∀ {text}, tokenizer.render = .ok text →
        source.backend.Opens (EngineSession.automata E G loaded size source.logLevel)
          (EngineSession.Stands E reads loaded size source.logLevel) text := by
  obtain ⟨_, _, tokenizerText, session, _, rendered, init, _⟩ := Matcher.create_eq_ok.1 created
  obtain ⟨loaded, size, loaded_eq, opens⟩ := EngineSource.opens engine loads init
  refine ⟨tokenizerText, loaded, size, rendered, loaded_eq, fun rendered' => ?_⟩
  cases rendered.symm.trans rendered'
  exact opens

end ConstrainedDecoding
