import ConstrainedDecoding.Fault
import ConstrainedDecoding.Keyed
import ConstrainedDecoding.Value.Field

/-!
Scripted grammars. In place of a grammar an engine may follow a script: a finite automaton over
token ids, chosen by a piece of the grammar's text, which may also say that the grammar is turned
down. Nothing of the grammar itself is interpreted.
-/

namespace ConstrainedDecoding.Scripted

/-- A state of an automaton: where each token leads, where all others lead, and whether the parse
may end. -/
structure Node where
  next : List (Int × Nat) := []
  otherwise : Option Nat := none
  accepting : Bool := false
  deriving DecidableEq, Repr

/-- A finite automaton, which starts at its first state. -/
structure Automaton where
  nodes : List Node
  deriving DecidableEq, Repr

namespace Automaton

/-- The automaton that takes every token and may always end. -/
def permissive : Automaton :=
  ⟨[{ otherwise := some 0, accepting := true }]⟩

/-- A state of the automaton; a missing one has no way out. -/
def node (automaton : Automaton) (position : Nat) : Node :=
  automaton.nodes.getD position {}

/-- Where a token leads, if it is allowed. -/
def target? (automaton : Automaton) (position : Nat) (token : Int) : Option Nat :=
  let node := automaton.node position
  (Keyed.get? node.next token).or node.otherwise

/-- Whether a token is allowed. -/
def allows (automaton : Automaton) (position : Nat) (token : Int) : Bool :=
  (automaton.target? position token).isSome

/-- The state after a token; a token that is not allowed changes nothing. -/
def advance (automaton : Automaton) (position : Nat) (token : Int) : Nat :=
  (automaton.target? position token).getD position

/-- Whether the parse may end. -/
def isAccepting (automaton : Automaton) (position : Nat) : Bool :=
  (automaton.node position).accepting

end Automaton

/-- A fault that a script raises. -/
abbrev ScriptedFault := FaultKind × String

/-- What a script says about grammars whose text holds `piece`. -/
structure Rule where
  piece : String := ""
  automaton : Automaton := .permissive
  /-- The fault with which a session turns the grammar down. -/
  rejection : Option ScriptedFault := none
  /-- The fault with which a token engine turns the constraint down. -/
  compileFault : Option ScriptedFault := none
  /-- What is wrong with a token engine's parser. -/
  defect : String := ""
  /-- The length of the full mask, if it is not the vocabulary size. -/
  maskLength : Option Nat := none

/-- The rule for the text of a grammar: the first whose piece it holds, else the one that allows
everything. -/
def ruleFor (rules : List Rule) (text : String) : Rule :=
  (rules.find? fun rule => Value.occursIn rule.piece.toList text.toList).getD {}

/-- Raises a scripted fault, if there is one. -/
def raise : Option ScriptedFault → Except Fault Unit
  | some (kind, message) => .error (.reported kind message)
  | none => .ok ()

end ConstrainedDecoding.Scripted
