import ConstrainedDecoding.Json.Reader
import ConstrainedDecoding.Text.Lowercase
import ConstrainedDecoding.Tokenizer.Basic
import ConstrainedDecoding.Value.Convert
import ConstrainedDecoding.Value.Field

/-!
Tokenizers from descriptions. A description may be a decoded document, in which the vocabulary is a
field of the model, or a live object with accessors. `Tokenizer.extract` takes either and tries the
places where a vocabulary may be in order; `Tokenizer.parse` takes documents only, insists on the
vocabulary of the model and lets the document declare the model type.
-/

namespace ConstrainedDecoding

variable [Stack]

/-! ## Vocabularies -/

namespace Vocabulary

/-- A token text and its id, as given. -/
def readEntry (token id : Value) : Except Fault (String × Int) := do
  let number ← id.toInteger
  let content ← token.str (Stack.levels .token)
  .ok (content, number)

/-- The vocabulary that a mapping or a sequence of pairs describes. -/
def read (source : Value) : Except Fault Vocabulary :=
  match source.entries? with
  | some entries => do
    .ok (ofPairs (← entries.mapM fun entry => readEntry entry.1 entry.2))
  | none => do
    .ok (ofPairs (← (← source.items).mapM fun item => do
      let (token, id) ← item.pair
      readEntry token id))

/-- The vocabulary of a live object's accessor, unless it gives null. -/
def fromAccessor? (source : Value) : Except Fault (Option Vocabulary) :=
  if source.isMapping then .ok none
  else
    match source.attribute? "get_vocab" with
    | none => .ok none
    | some accessor =>
      if accessor.isCallable then do
        let given ← accessor.call
        if given.isNull then .ok none else return some (← read given)
      else .ok none

/-- The vocabulary of a description: from the accessor, else from the model, else from a field of
its own that is not a function. -/
def resolve (source : Value) : Except Fault (Option Vocabulary) := do
  match ← fromAccessor? source with
  | some vocabulary => return some vocabulary
  | none =>
    match (source.field "model").field? "vocab" with
    | some given => return some (← read given)
    | none =>
      match source.field? "vocab" with
      | some given => if given.isCallable then .ok none else return some (← read given)
      | none => .ok none

end Vocabulary

/-! ## Merge rules -/

namespace Merge

/-- The merge rule that a text with a space or a pair describes. -/
def read (rule : Value) : Except Fault Merge :=
  match rule with
  | .text given =>
    match Text.splitAtSpace? given with
    | some merge => .ok merge
    | none => .error (.mergeWithoutSeparator (Text.quoted given))
  | _ => do
    match ← rule.items with
    | [left, right] => do
      let first ← left.str (Stack.levels .mergePart)
      let second ← right.str (Stack.levels .mergePart)
      .ok (first, second)
    | _ => do .error (.mergeNotPair (← rule.repr (Stack.levels .mergeRule)))

/-- The merge rules that a sequence describes. Whatever counts as false describes none. -/
def readAll (rules : Value) : Except Fault (List Merge) :=
  if rules.truthy then do (← rules.items).mapM read else .ok []

end Merge

/-! ## Added tokens -/

namespace AddedToken

/-- A flag of an added token. -/
def flag (entry : Value) (name : String) (otherwise : Bool) : Bool :=
  ((entry.field? name).map Value.truthy).getD otherwise

/-- The added token that an entry describes; `id` stands in for an id that the entry lacks. -/
def read (entry id : Value) : Except Fault AddedToken := do
  let id ← ((entry.field? "id").getD id).toInteger
  let content ← (entry.field "content").str (Stack.levels .content)
  .ok {
    id, content
    singleWord := flag entry "single_word" false
    leftStrip := flag entry "lstrip" false
    rightStrip := flag entry "rstrip" false
    normalized := flag entry "normalized" true
    special := flag entry "special" false }

/-- The entries of a mapping from ids to added tokens, in ascending order of the ids. -/
def byId (entries : List (Value × Value)) : Except Fault (List (Value × Value)) := do
  let keyed ← entries.mapM fun entry => do return (← entry.1.toInteger, entry)
  .ok ((keyed.mergeSort fun a b => a.1 ≤ b.1).map Prod.snd)

/-- The added tokens of a description: a sequence of them, else a mapping from ids. -/
def readAll (source : Value) : Except Fault (List AddedToken) :=
  match source.field? "added_tokens" with
  | some given => do (← given.items).mapM fun entry => read entry .null
  | none =>
    match (source.field "added_tokens_decoder").entries? with
    | some entries => do (← byId entries).mapM fun entry => read entry.2 entry.1
    | none => .ok []

end AddedToken

/-! ## Components -/

namespace Component

/-- A component of a document, if it is a mapping. -/
def read (document : Value) (name : String) : Option Component :=
  (document.field name).entries?

/-- Reads what a live object's pipeline is written as. -/
def readDocument : Value → Except Fault Value
  | .text given =>
    (Json.readWithin (Stack.levels .pipelineText) given).mapError .unreadable |>.map Value.ofJson
  | .bytes given =>
    (Json.readBytesWithin (Stack.levels .pipelineText) given).mapError .unreadable
      |>.map Value.ofJson
  | given => .error (.notEncodable given.typeName)

/-- The document that carries the components: a mapping itself, or what a live object's pipeline is
written as. -/
def document? (source : Value) : Except Fault (Option Value) :=
  if source.isMapping then .ok (some source)
  else
    match ((source.attribute? "backend_tokenizer").getD .null).attribute? "to_str" with
    | none => .ok none
    | some writer =>
      if writer.isCallable then do return some (← readDocument (← writer.call))
      else .ok none

end Component

/-! ## Descriptions -/

namespace Tokenizer

/-- The tokenizer that a description gives, wherever its vocabulary is. -/
def extract (source : Value) : Except Fault Tokenizer := do
  match ← Vocabulary.resolve source with
  | none => .error .vocabularyNotFound
  | some vocabulary =>
    let merges ← Merge.readAll ((source.field "model").field "merges")
    let addedTokens ← AddedToken.readAll source
    let document ← Component.document? source
    .ok {
      vocabulary, merges, addedTokens
      modelType := Merge.modelType merges
      decoder := document.bind (Component.read · "decoder")
      preTokenizer := document.bind (Component.read · "pre_tokenizer") }

/-- The model type that a document declares in lower case, else the one its merges suggest. -/
def declaredModelType (model : Value) (merges : List Merge) : Except Fault String :=
  let declared := model.field "type"
  if declared.truthy then (declared.str (Stack.levels .modelType)).map Text.lowercase
  else .ok (Merge.modelType merges)

/-- The tokenizer that a decoded document gives. -/
def parse (document : Value) : Except Fault Tokenizer :=
  if document.isMapping then
    let model := document.field "model"
    match model.field? "vocab" with
    | none => .error .documentWithoutVocabulary
    | some given => do
      let merges ← Merge.readAll (model.field "merges")
      let modelType ← declaredModelType model merges
      let vocabulary ← Vocabulary.read given
      let addedTokens ← AddedToken.readAll document
      .ok {
        vocabulary, merges, addedTokens, modelType
        decoder := Component.read document "decoder"
        preTokenizer := Component.read document "pre_tokenizer" }
  else .error (.documentNotObject document.typeName)

/-- The tokenizer that a file's bytes give. The path is used for wording only. -/
def ofFile (path : String) (bytes : List UInt8) : Except Fault Tokenizer :=
  match Text.decode .utf8 false bytes with
  | .error error => .error (.undecodableFile error)
  | .ok chars =>
    match Json.readWithin (Stack.levels .fileText) (String.ofList (Text.unifyLineEnds chars)) with
    | .error (.malformed error) => .error (.fileNotJson path error)
    | .error error => .error (.unreadable error)
    | .ok document => parse (.ofJson document)

end Tokenizer

end ConstrainedDecoding
