/-!
Room for nested values. Whatever reads, writes or shows a value gives up where the value is nested
deeper than there are levels left. How many are left depends on the interpreter and on the calls
that led to the place. So each place has a number of its own, and nothing is known of any of them.
-/

namespace ConstrainedDecoding

/-- The places at which values are gone through level by level. -/
inductive Place
  -- texts that are read
  /-- The text of a schema. -/
  | schemaText
  /-- What a live object's pipeline is written as. -/
  | pipelineText
  | fileText
  | responseText
  /-- The text of a grammar or of a tokenizer record, where a session gets it. -/
  | sentText
  -- texts that are written
  | grammar
  | record
  /-- The document for an engine. -/
  | document
  -- values that are shown
  | token
  | mergePart
  | mergeRule
  | content
  | modelType
  | startRule
  | constraint
  | setting
  deriving DecidableEq, Repr

/-- How many levels of nesting are left at each place. -/
class Stack where
  levels : Place → Nat

/-- Whether every place has at least so many levels left. -/
def Stack.HasRoom [Stack] (depth : Nat) : Prop :=
  ∀ place, depth ≤ levels place

end ConstrainedDecoding
