import ConstrainedDecoding.Grammar.Basic
import ConstrainedDecoding.Proofs.EngineAutomata
import ConstrainedDecoding.Scripted.Parse
import ConstrainedDecoding.Scripted.TokenEngine
import ConstrainedDecoding.Tokenizer.Basic

/-!
# Scripts follow automata

Scripted sessions and the scripted token engine meet the laws that are asked of real ones, as long
as no rule of the script shortens the full mask. In both cases the state of an automaton is a rule
and a position in its automaton.
-/

namespace ConstrainedDecoding.Scripted

open ConstrainedDecoding.Action

variable {rules : List Rule} {size : Int}

/-- Each rule has full masks of the vocabulary size. -/
def IsFull (rules : List Rule) : Prop :=
  ∀ rule ∈ rules, rule.maskLength = none

theorem maskLength_ruleFor (full : IsFull rules) (text : String) :
    (ruleFor rules text).maskLength = none := by
  unfold ruleFor
  cases found : rules.find? fun rule => Value.occursIn rule.piece.toList text.toList with
  | none => rfl
  | some rule => exact full rule (List.mem_of_find?_eq_some found)

/-! ## Sessions -/

namespace Parse

/-- The automata of scripted sessions with so many tokens. -/
def automata (rules : List Rule) (size : Int) : TokenAutomata (Rule × Nat) where
  size := size
  start text := (raise (ruleFor rules text).rejection).map fun _ => (ruleFor rules text, 0)
  allows state token := state.1.automaton.allows state.2 token
  next state token := (state.1, state.1.automaton.advance state.2 token)
  accepts state := state.1.automaton.isAccepting state.2

/-- A scripted session is at the position of a rule. -/
structure Stands (rules : List Rule) (size : Int) (parse : Parse) (first : String)
    (state : Rule × Nat) : Prop where
  rules_eq : parse.rules = rules
  first_eq : parse.first = first
  size_eq : parse.size = size
  state_eq : (parse.rule, parse.position) = state
  full : parse.rule.maskLength = none

variable {parse : Parse} {first text : String} {state origin : Rule × Nat} {fault : Fault}

theorem raise_of_start (started : (automata rules size).start text = .ok origin) :
    raise (ruleFor rules text).rejection = .ok () ∧ origin = (ruleFor rules text, 0) := by
  change (raise (ruleFor rules text).rejection).map _ = _ at started
  cases raised : raise (ruleFor rules text).rejection with
  | error fault =>
      rw [raised] at started
      cases started
  | ok passed =>
      rw [raised] at started
      cases started
      exact ⟨rfl, rfl⟩

theorem raise_of_start_error (refused : (automata rules size).start text = .error fault) :
    raise (ruleFor rules text).rejection = .error fault := by
  change (raise (ruleFor rules text).rejection).map _ = _ at refused
  cases raised : raise (ruleFor rules text).rejection with
  | error fault' =>
      rw [raised] at refused
      cases refused
      rfl
  | ok passed =>
      rw [raised] at refused
      cases refused

theorem gives_load (full : IsFull rules) (standing : Stands rules size parse first state)
    (started : (automata rules size).start text = .ok origin) :
    (load text).Gives parse (.ok ()) (Stands rules size · first origin) := by
  obtain ⟨raised, rfl⟩ := raise_of_start started
  apply Gives.of_get
  rw [standing.rules_eq]
  refine (gives_ofExcept_of_eq raised parse).step ((gives_modify _ parse).of_eq ?_)
  exact { standing with
    state_eq := rfl
    full := maskLength_ruleFor full text }

theorem gives_load_error (standing : Stands rules size parse first state)
    (refused : (automata rules size).start text = .error fault) :
    (load text).Gives parse (.error fault) (Stands rules size · first state) := by
  refine Gives.of_get (Gives.bind_error ?_)
  rw [standing.rules_eq]
  exact (gives_ofExcept_of_eq (raise_of_start_error refused) parse).of_eq standing

theorem isEmpty_eq (text first : String) :
    (if text.isEmpty then first else text) = if text = "" then first else text := by
  simp

theorem follows (full : IsFull rules) :
    operations.Follows (automata rules size) (Stands rules size) where
  vocabSize standing := standing.size_eq
  isAllowed {parse first state token} standing _ _ := by
    obtain rfl := standing.state_eq
    refine (gives_call _ parse).step (Gives.of_get ?_)
    exact (gives_pure _ parse).of_eq standing
  mask {parse first state} standing := by
    obtain rfl := standing.state_eq
    refine (gives_call _ parse).step (Gives.of_get ?_)
    unfold maskedIds
    rw [standing.full, standing.size_eq]
    exact (gives_pure _ parse).of_eq standing
  advance {parse first state} token standing := by
    obtain rfl := standing.state_eq
    refine Gives.of_get ((gives_call _ parse).step ((gives_modify _ parse).of_eq ?_))
    exact { standing with state_eq := rfl }
  isComplete {parse first state} standing := by
    obtain rfl := standing.state_eq
    refine (gives_call _ parse).step (Gives.of_get ?_)
    exact (gives_pure _ parse).of_eq standing
  reset_ok {parse first state text origin} standing started := by
    refine (gives_call _ parse).step (Gives.of_get ?_)
    rw [standing.first_eq, isEmpty_eq]
    exact gives_load full standing started
  reset_error {parse first state text fault} standing refused := by
    refine (gives_call _ parse).step (Gives.of_get ?_)
    rw [standing.first_eq, isEmpty_eq]
    exact (gives_load_error standing refused).mono fun _ leftAt => ⟨state, leftAt⟩

/-- The backend opens sessions for records whose vocabulary size can be told. -/
theorem opens [Stack] (full : IsFull rules) {startFault : Option ScriptedFault} {tokenizer : String}
    (sized : sizeOf tokenizer = .ok size) :
    (backend rules startFault).Opens (automata rules size) (Stands rules size) tokenizer := by
  have sizes := gives_ofExcept_of_eq sized ()
  constructor
  · intro text origin started
    obtain ⟨raised, rfl⟩ := raise_of_start started
    have raises := gives_ofExcept_of_eq raised ()
    have made : (init rules text tokenizer).Gives ()
        (.ok { rules, first := text, rule := ruleFor rules text, size }) (· = ()) :=
      (gives_call _ ()).step (sizes.step (raises.step (gives_pure _ ())))
    exact ⟨_, made.result_eq, rfl, rfl, rfl, rfl, maskLength_ruleFor full text⟩
  · intro text fault refused
    have raises := gives_ofExcept_of_eq (raise_of_start_error refused) ()
    have refuses : (init rules text tokenizer).Gives () (.error fault) (· = ()) :=
      (gives_call _ ()).step (sizes.step raises.bind_error)
    exact ⟨fault, refuses.result_eq⟩

end Parse

/-! ## The token engine -/

namespace Parser

/-- The automata of the scripted engine. -/
def automata (rules : List Rule) : EngineAutomata Unit (Rule × Nat) where
  origin _ grammar := (ruleFor rules grammar, 0)
  allows state token := state.1.automaton.allows state.2 token
  next state token := (state.1, state.1.automaton.advance state.2 token)
  accepts state := state.1.automaton.isAccepting state.2

/-- A scripted parser reads a grammar by the rule for it. -/
def Reads (rules : List Rule) (parser : Parser) (_ : Unit) (grammar : String)
    (state : Rule × Nat) : Prop :=
  (parser.rule, parser.position) = state ∧ parser.rule = ruleFor rules grammar

theorem advance_of_refused {automaton : Automaton} {position : Nat} {token : Int}
    (refused : automaton.allows position token ≠ true) :
    automaton.advance position token = position := by
  have nowhere : automaton.target? position token = none := by
    simpa [Automaton.allows] using refused
  rw [Automaton.advance, nowhere]
  rfl

theorem wordsFor_spec (size : Int) :
    size ≤ 32 * wordsFor size ∧ 32 * wordsFor size < size + 32 := by
  rw [wordsFor, Int.fdiv_eq_ediv_of_nonneg _ (by decide)]
  omega

theorem reads_consume {tokenizerFault : Option ScriptedFault} {parser : Parser} {grammar : String}
    {state : Rule × Nat} (token : Int) (reading : Reads rules parser () grammar state) :
    Reads rules ((tokenEngine rules tokenizerFault).consume parser token).2 () grammar
      (state.1, state.1.automaton.advance state.2 token) := by
  obtain ⟨rfl, rule_eq⟩ := reading
  dsimp only [tokenEngine]
  by_cases allowed : parser.rule.automaton.allows parser.position token = true
  · rw [if_pos allowed]
    exact ⟨rfl, rule_eq⟩
  · rw [if_neg allowed, advance_of_refused allowed]
    exact ⟨rfl, rule_eq⟩

theorem length_allocate {size : Int} {words : List MaskWord}
    (allocates : allocate size = .ok words) : (words.length : Int) = wordsFor size := by
  unfold allocate at allocates
  by_cases negative : wordsFor size < 0
  · rw [if_pos negative] at allocates
    cases allocates
  · rw [if_neg negative] at allocates
    cases allocates
    rw [List.length_replicate]
    omega

theorem follows (tokenizerFault : Option ScriptedFault) :
    (tokenEngine rules tokenizerFault).Follows (automata rules) (Reads rules) where
  opened _ _ := ⟨rfl, rfl⟩
  takes reading _ _ _ := by
    obtain ⟨rfl, _⟩ := reading
    rfl
  consumed token reading := reads_consume token reading
  isAccepting reading := by
    obtain ⟨rfl, _⟩ := reading
    rfl
  restarted reading := by
    obtain ⟨rfl, rule_eq⟩ := reading
    exact ⟨Prod.ext rule_eq rfl, rule_eq⟩
  allocated {size words} allocates := by
    rw [length_allocate allocates]
    exact wordsFor_spec size
  length_filled parser words := by
    dsimp only [tokenEngine, Bitmask.pack]
    rw [List.length_map, List.length_range]
  filled {parser _ grammar state size words token} reading _ enough inside := by
    obtain ⟨rfl, _⟩ := reading
    have below : token < 32 * words.length := by omega
    dsimp only [tokenEngine]
    rw [Bitmask.bit_pack _ below]
    rfl

end Parser

/-! ## A small script -/

open scoped Room

/-- Grammars that mention `never` are turned down; all others take the token 1 and then end. -/
def onlyOne : List Rule :=
  [{ piece := "never", rejection := some (.badValue, "scripted rejection"),
      compileFault := some (.badValue, "scripted rejection") },
    { automaton := ⟨[{ next := [(1, 1)] }, { accepting := true }]⟩ }]

/-- A tokenizer with two tokens. -/
def twoTokens : Tokenizer where
  vocabulary := Vocabulary.ofPairs [("a", 0), ("b", 1)]

/-- The scripted engine as a source of sessions. -/
def onlyOneSource : EngineSource Unit Parser where
  engine := some (tokenEngine onlyOne none)
  logLevel := 0

theorem isFull_onlyOne : IsFull onlyOne := by
  unfold IsFull onlyOne
  simp

theorem opens_twoTokens {startFault : Option ScriptedFault} {text : String}
    (rendered : twoTokens.render = .ok text) : (Parse.backend onlyOne startFault).Opens
      (Parse.automata onlyOne 2) (Parse.Stands onlyOne 2) text := by
  have sized : (twoTokens.render >>= Parse.sizeOf) = .ok 2 := by decide +kernel
  rw [rendered] at sized
  exact Parse.opens isFull_onlyOne sized

theorem opens_onlyOneSource {text : String} (rendered : twoTokens.render = .ok text) :
    onlyOneSource.backend.Opens
      (EngineSession.automata (tokenEngine onlyOne none) (Parser.automata onlyOne) () 2 0)
      (EngineSession.Stands (tokenEngine onlyOne none) (Parser.Reads onlyOne) () 2 0) text := by
  have loads : (twoTokens.render >>= EngineSession.loaded (tokenEngine onlyOne none)) =
      .ok ((), 2) := by decide +kernel
  have succeeds : (do
      let grammarText ← (Grammar.regex (.text "b")).render
      let text ← twoTokens.render
      (onlyOneSource.backend.init grammarText text ()).result).isOk = true := by decide +kernel
  obtain ⟨session, made⟩ := exists_of_isOk succeeds
  obtain ⟨grammarText, _, made⟩ := bind_eq_ok.1 made
  rw [rendered, ok_bind] at loads made
  obtain ⟨loaded, size, loaded_eq, opens⟩ :=
    EngineSource.opens (Parser.follows none) rfl made
  cases loads.symm.trans loaded_eq
  exact opens

end ConstrainedDecoding.Scripted
