import ConstrainedDecoding.Keyed
import ConstrainedDecoding.Stack
import ConstrainedDecoding.Value.Encode

/-!
Tokenizers in canonical form: token texts with their ids, merge rules, added tokens and, where they
are known, the components that decode and split text. `Tokenizer.toRecord` is the form in which an
engine receives them.
-/

namespace ConstrainedDecoding

/-- Token texts with their ids, in the order in which the texts first came. -/
structure Vocabulary where
  entries : List (String × Int)
  distinct : (Keyed.keys entries).Nodup

/-- The vocabulary that assigns the ids in turn: a repeated text keeps its place and takes the later
id. -/
def Vocabulary.ofPairs (pairs : List (String × Int)) : Vocabulary :=
  ⟨Keyed.ofList pairs, Keyed.nodup_keys_ofList pairs⟩

/-- Two token texts that may be merged into one. -/
abbrev Merge := String × String

/-- A token added beside the vocabulary. The flags say how it is matched in a text; a special token
controls generation. -/
structure AddedToken where
  id : Int
  content : String
  singleWord : Bool := false
  leftStrip : Bool := false
  rightStrip : Bool := false
  normalized : Bool := true
  special : Bool := false
  deriving DecidableEq, Repr

/-- A component of a tokenizer, which an engine interprets. -/
abbrev Component := List (Value × Value)

/-- A tokenizer in canonical form. The model type is advisory. -/
structure Tokenizer where
  vocabulary : Vocabulary
  merges : List Merge := []
  addedTokens : List AddedToken := []
  modelType : String := "unknown"
  decoder : Option Component := none
  preTokenizer : Option Component := none

/-- The model type that merge rules suggest. -/
def Merge.modelType (merges : List Merge) : String :=
  if merges.isEmpty then "unknown" else "bpe"

/-- The written form of a merge rule. -/
def Merge.joined (merge : Merge) : String :=
  merge.1 ++ " " ++ merge.2

namespace AddedToken

/-- The record of an added token. -/
def toRecord (token : AddedToken) : Value :=
  .dict [
    (.text "id", .int token.id),
    (.text "content", .text token.content),
    (.text "single_word", .bool token.singleWord),
    (.text "lstrip", .bool token.leftStrip),
    (.text "rstrip", .bool token.rightStrip),
    (.text "normalized", .bool token.normalized),
    (.text "special", .bool token.special)]

end AddedToken

namespace Tokenizer

/-- The ids of the vocabulary and of the added tokens. -/
def ids (tokenizer : Tokenizer) : List Int :=
  Keyed.values tokenizer.vocabulary.entries ++ tokenizer.addedTokens.map AddedToken.id

/-- The length of the logits vector that the ids imply: one more than the greatest of them. -/
def vocabSize (tokenizer : Tokenizer) : Int :=
  match tokenizer.ids.max? with
  | some greatest => greatest + 1
  | none => 0

/-- The entry for a component, where it is known. -/
def componentEntry (name : String) : Option Component → List (Value × Value)
  | some component => [(.text name, .dict component)]
  | none => []

/-- The record handed to an engine. Components are only included where they are known. -/
def toRecord (tokenizer : Tokenizer) : Value :=
  .dict ([
    (.text "vocab", .dict (tokenizer.vocabulary.entries.map fun entry =>
      (.text entry.1, .int entry.2))),
    (.text "merges", .list (tokenizer.merges.map fun merge => .text merge.joined)),
    (.text "added_tokens", .list (tokenizer.addedTokens.map AddedToken.toRecord)),
    (.text "model_type", .text tokenizer.modelType)] ++
    componentEntry "decoder" tokenizer.decoder ++
    componentEntry "pre_tokenizer" tokenizer.preTokenizer)

/-- The text of the record. -/
def render [Stack] (tokenizer : Tokenizer) : Except Fault String :=
  tokenizer.toRecord.renderWithin (Stack.levels .record)

end Tokenizer

end ConstrainedDecoding
