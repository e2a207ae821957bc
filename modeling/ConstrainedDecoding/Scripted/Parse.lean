import ConstrainedDecoding.Scripted.Automaton
import ConstrainedDecoding.Scripted.Surroundings
import ConstrainedDecoding.Session.Basic
import ConstrainedDecoding.Tokenizer.EngineForm

/-!
Grammar sessions that follow a script. The live parse is a state of the automaton that the script
has for the grammar's text.
-/

namespace ConstrainedDecoding.Scripted

/-- A live scripted parse. -/
structure Parse where
  rules : List Rule
  /-- The text of the first grammar. -/
  first : String
  rule : Rule
  position : Nat := 0
  size : Int

namespace Parse

/-- Goes over to the rule for a grammar's text, unless the rule turns the grammar down. -/
def load (text : String) : Action Parse Unit := do
  let rule := ruleFor (← Action.get).rules text
  Action.ofExcept (raise rule.rejection)
  Action.modify fun parse => { parse with rule, position := 0 }

/-- The ids that the full mask covers. -/
def maskedIds (parse : Parse) : List Nat :=
  List.range (parse.rule.maskLength.getD parse.size.toNat)

/-- The operations of a scripted session. -/
def operations : Session Parse where
  vocabSize := size
  isAllowed token := do
    Action.call (.allowed token)
    let parse ← Action.get
    return parse.rule.automaton.allows parse.position token
  mask := do
    Action.call .mask
    let parse ← Action.get
    return parse.maskedIds.map fun token : Nat => parse.rule.automaton.allows parse.position token
  advance token := do
    let parse ← Action.get
    Action.call (.advance token (parse.rule.automaton.allows parse.position token))
    Action.modify fun parse =>
      { parse with position := parse.rule.automaton.advance parse.position token }
  isComplete := do
    Action.call .complete
    let parse ← Action.get
    return parse.rule.automaton.isAccepting parse.position
  reset text := do
    Action.call (.reset text)
    let parse ← Action.get
    load (if text.isEmpty then parse.first else text)

/-- The vocabulary size that the text of a tokenizer record implies. -/
def sizeOf [Stack] (tokenizer : String) : Except Fault Int := do
  let record ← (Json.readWithin (Stack.levels .sentText) tokenizer).mapError Fault.unreadable
  EngineForm.vocabSize (.ofJson record) >>= EngineForm.wholeSize

/-- Makes a session from the texts of a grammar and of a tokenizer record. -/
def init [Stack] (rules : List Rule) (grammar tokenizer : String) : Action Unit Parse := do
  Action.call (.init grammar tokenizer)
  let size ← Action.ofExcept (sizeOf tokenizer)
  let rule := ruleFor rules grammar
  Action.ofExcept (raise rule.rejection)
  return { rules, first := grammar, rule, size }

/-- The backend that makes scripted sessions; it may fail to start. -/
def backend [Stack] (rules : List Rule) (startFault : Option ScriptedFault) : Backend Parse where
  start := do
    Action.call .start
    Action.ofExcept (raise startFault)
  init := init rules

end Parse

end ConstrainedDecoding.Scripted
