import ConstrainedDecoding.Json.Reader
import ConstrainedDecoding.Stack
import ConstrainedDecoding.Value.Encode

/-!
Grammars and their wire form. A grammar constrains output by a JSON schema, by a regular expression
or by a Lark text with a start symbol; on the wire it is the single entry of a list of constraints.
The parts of a grammar are arbitrary values, and so is what may be given in place of a grammar:
whether they can go over the wire is found out there.
-/

namespace ConstrainedDecoding

/-- A grammar, or a foreign value given in place of one. -/
inductive Grammar
  | jsonSchema (schema : Value)
  | regex (pattern : Value)
  | lark (grammar : Value) (start : Value := .text "start")
  | foreign (value : Value)

namespace Grammar

/-- The name of a grammar's variant. -/
def variantName : Grammar → String
  | jsonSchema _ => "JsonSchemaGrammar"
  | regex _ => "RegexGrammar"
  | lark _ _ => "LarkGrammar"
  | foreign value => value.typeName

/-- A schema as a value: a text or a byte string is read as JSON, a mapping is taken in plain form.
-/
def decodeSchema [Stack] : Value → Except Fault Value
  | .text given =>
    ((Json.readWithin (Stack.levels .schemaText) given).mapError Fault.unreadable).map Value.ofJson
  | .bytes given =>
    ((Json.readBytesWithin (Stack.levels .schemaText) given).mapError Fault.unreadable).map
      Value.ofJson
  | .view entries => .ok (.dict entries)
  | schema => .ok schema

/-- The constraint that a grammar puts on the wire. A start symbol that counts as false is the usual
one. -/
def constraint [Stack] : Grammar → Except Fault Value
  | jsonSchema schema => do return .dict [(.text "json_schema", ← decodeSchema schema)]
  | regex pattern => .ok (.dict [(.text "rx", pattern)])
  | lark grammar start =>
    .ok (.dict [(.text "lark", grammar),
      (.text "start", if start.truthy then start else .text "start")])
  | foreign value => .error (.notGrammar value.typeName)

/-- The wire form of a grammar. -/
def toWire [Stack] (grammar : Grammar) : Except Fault Value := do
  return .dict [(.text "grammars", .list [← grammar.constraint])]

/-- The text of the wire form. -/
def render [Stack] (grammar : Grammar) : Except Fault String := do
  (← grammar.toWire).renderWithin (Stack.levels .grammar)

end Grammar

end ConstrainedDecoding
