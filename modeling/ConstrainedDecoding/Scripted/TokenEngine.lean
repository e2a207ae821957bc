import ConstrainedDecoding.Scripted.Automaton
import ConstrainedDecoding.Scripted.Surroundings
import ConstrainedDecoding.TokenEngine.Basic
import ConstrainedDecoding.Value.Encode

/-!
A token engine that follows a script. A compiled grammar is the text of its constraint after the
name of its kind, and a parser is a state of the automaton that the script has for that text.
-/

namespace ConstrainedDecoding.Scripted

/-- A parser of the scripted engine. -/
structure Parser where
  rule : Rule
  position : Nat := 0
  /-- The last token that was refused. -/
  refused : Option Int := none

/-- The name of a constraint's kind. -/
def kindName : Constraint → String
  | .jsonSchema _ => "json"
  | .regex _ => "regex"
  | .lark _ => "grammar"

/-- The text of a constraint after the name of its kind. -/
def grammarText (constraint : Constraint) : Except Fault String := do
  let content ← match constraint with
    | .jsonSchema schema => schema.render
    | .regex content | .lark content => content.str usualLevels
  return kindName constraint ++ ":" ++ content

/-- The number of words that hold so many bits. -/
def wordsFor (size : Int) : Int :=
  -(Int.fdiv (-size) 32)

/-- Zero words with room for a mask of so many tokens. -/
def allocate (size : Int) : Except Fault (List MaskWord) :=
  if wordsFor size < 0 then .error (.negativeLength (wordsFor size))
  else .ok (List.replicate (wordsFor size).toNat 0)

/-- The token engine that follows the rules; it may turn tokenizers down. -/
def tokenEngine (rules : List Rule) (tokenizerFault : Option ScriptedFault) :
    TokenEngine Unit Parser where
  loadTokenizer _ _ _ := raise tokenizerFault
  compile constraint := do
    let text ← grammarText constraint
    raise (ruleFor rules text).compileFault
    return text
  openParser _ grammar _ := { rule := ruleFor rules grammar }
  defect? parser := if parser.rule.defect.isEmpty then none else some parser.rule.defect
  takes parser token := parser.rule.automaton.allows parser.position token
  consume parser token :=
    if parser.rule.automaton.allows parser.position token then
      (true, { parser with position := parser.rule.automaton.advance parser.position token })
    else (false, { parser with refused := some token })
  refusal parser :=
    match parser.refused with
    | some token => s!"token {token} not allowed"
    | none => ""
  isAccepting parser := parser.rule.automaton.isAccepting parser.position
  restart parser := { parser with position := 0 }
  allocate := allocate
  fill parser words :=
    Bitmask.pack words.length fun token => parser.rule.automaton.allows parser.position token

end ConstrainedDecoding.Scripted
