import ConstrainedDecoding.Grammar.Lark
import ConstrainedDecoding.Stack
import ConstrainedDecoding.Value.Convert
import ConstrainedDecoding.Value.Field
import ConstrainedDecoding.Value.Sorted

/-!
Constraints as engines take them, read from the wire. Only the first constraint of a list counts,
and of the kinds it names the JSON schema comes first, then the regular expression, then the Lark
text.
-/

namespace ConstrainedDecoding

/-- A constraint for an engine to compile. -/
inductive Constraint
  | jsonSchema (schema : Value)
  | regex (pattern : Value)
  /-- A Lark text that is entered at the rule `start`. -/
  | lark (grammar : Value)

namespace Constraint

/-- The first of a sequence of constraints. -/
def firstOf : Value → Except Fault Value
  | .list (first :: _) | .tuple (first :: _) => .ok first
  | .text given =>
    match given.toList with
    | c :: _ => .ok (.text (String.singleton c))
    | [] => .error .badIndex
  | .bytes (byte :: _) => .ok (.int byte.toNat)
  | .dict entries | .view entries =>
    match Keyed.get? entries (.int 0) with
    | some first => .ok first
    | none => .error (.noKey "0")
  | .list [] | .tuple [] | .bytes [] => .error .badIndex
  | given => .error (.notIndexable given.typeName)

/-- A Lark text entered at a start symbol. A text of another type passes where it need not be
changed, or is empty. -/
def selectStart [Stack] (grammar start : Value) : Except Fault Value :=
  if start == .text "start" then .ok grammar
  else
    match grammar with
    | .text given => do
      let symbol ← start.str (Stack.levels .startRule)
      .ok (.text (Lark.selectStart given symbol))
    | .list [] | .tuple [] | .bytes [] | .dict [] | .view [] => do
      let symbol ← start.str (Stack.levels .startRule)
      let content ← grammar.str (Stack.levels .startRule)
      .ok (.text (Lark.selectStart content symbol))
    | .list _ | .tuple _ | .dict _ | .view _ =>
      .error (.noAttribute grammar.typeName "startswith")
    | .bytes _ => .error (.notContainer grammar.typeName)
    | given => .error (.notSized given.typeName)

/-- The constraint that one entry of the wire form describes. -/
def read [Stack] (given : Value) : Except Fault Constraint := do
  if ← given.holds "json_schema" then return .jsonSchema (← given.member "json_schema")
  if ← given.holds "rx" then return .regex (← given.member "rx")
  if ← given.holds "lark" then
    let grammar ← given.member "lark"
    let start ← given.memberOrNull "start"
    return .lark (← selectStart grammar (if start.truthy then start else .text "start"))
  let names := Value.list (← Value.sorted (← given.items))
  .error (.unknownConstraint (← names.str (Stack.levels .constraint)))

/-- The constraint that the wire form of a grammar describes. -/
def ofWire [Stack] (wire : Value) : Except Fault Constraint := do
  let grammars ← wire.memberOrNull "grammars"
  if grammars.truthy then read (← firstOf grammars) else .error .noGrammars

end Constraint

end ConstrainedDecoding
