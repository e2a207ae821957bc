import ConstrainedDecoding.Text.Blank
import ConstrainedDecoding.Value.Convert
import ConstrainedDecoding.Value.Encode
import ConstrainedDecoding.Value.Field

/-!
What a token engine is given for a tokenizer record: the vocabulary size, the end-of-sequence token
and a document with the vocabulary, the merge rules that it covers and a decoder that engines
support.
-/

namespace ConstrainedDecoding.EngineForm

/-! ## Vocabulary size -/

/-- The ids of a vocabulary: the values of a mapping, or what an object gives as its values. -/
def vocabularyIds (vocabulary : Value) : Except Fault (List Value) :=
  match vocabulary.entries? with
  | some entries => .ok (Keyed.values entries)
  | none => do (← vocabulary.callMethod "values").items

/-- The ids of the added tokens. -/
def addedIds (record : Value) : Except Fault (List Int) := do
  (← (← record.memberOr "added_tokens" (.list [])).items).mapM fun token => do
    (← token.member "id").toInteger

/-- The greater of two ids, the first one unless the second exceeds it. -/
def greaterId (first second : Value) : Except Fault Value := do
  return if ← first.isLess second then second else first

/-- The number after an id. An id need not be an integer here. -/
def successor : Value → Except Fault Value
  | .int id => .ok (.int (id + 1))
  | .bool id => .ok (.int (id.toInt + 1))
  | .float id => .ok (.float id.successor)
  | id => .error (.notNumeric id.typeName)

/-- One more than the greatest id of the vocabulary and the added tokens, or zero without any. -/
def vocabSize (record : Value) : Except Fault Value := do
  let vocabulary ← vocabularyIds (← record.memberOr "vocab" (.dict []))
  let added ← addedIds record
  match vocabulary ++ added.map .int with
  | [] => return .int 0
  | first :: rest => successor (← rest.foldlM greaterId first)

/-- A vocabulary size as a number of tokens, which has to be whole unless it is zero. -/
def wholeSize : Value → Except Fault Int
  | .int size => .ok size
  | .float size => if size.isZero then .ok 0 else .error (.notNumeric "float")
  | size => .error (.notNumeric size.typeName)

/-! ## End of sequence -/

/-- The usual texts of an end-of-sequence token, the most likely first. -/
def endTexts : List String :=
  ["</s>", "<|endoftext|>", "<|im_end|>", "<|eot_id|>", "<|end_of_text|>", "<eos>"]

/-- The text and the id of a special token. -/
def specialEntry (token : Value) : Except Fault (Value × Int) := do
  let content ← token.member "content"
  let id ← (← token.member "id").toInteger
  if content.isHashable then .ok (content, id) else .error (.notHashable content.typeName)

/-- The special ones of the added tokens. -/
def specialTokens (record : Value) : Except Fault (List Value) := do
  (← (← record.memberOr "added_tokens" (.list [])).items).filterM fun token => do
    return (← token.memberOrNull "special").truthy

/-- The end-of-sequence token: the special token with the most likely of the usual texts, the last
such one if a text is repeated, else the last special token. -/
def endToken (record : Value) : Except Fault (Option Int) := do
  let entries ← (← specialTokens record).mapM specialEntry
  match endTexts.findSome? fun content => Keyed.get? entries.reverse (.text content) with
  | some id => return some id
  | none => return entries.getLast?.map Prod.snd

/-! ## Decoder -/

/-- The decoder of vocabularies that stand for bytes by printable characters. -/
def byteLevelDecoder : Value :=
  .dict [
    (.text "type", .text "ByteLevel"),
    (.text "add_prefix_space", .bool true),
    (.text "trim_offsets", .bool true),
    (.text "use_regex", .bool true)]

/-- The decoder of vocabularies in plain text, with a mark for the space and tokens for bytes. -/
def byteFallbackDecoder : Value :=
  .dict [
    (.text "type", .text "Sequence"),
    (.text "decoders", .list [
      .dict [
        (.text "type", .text "Replace"),
        (.text "pattern", .dict [(.text "String", .text "▁")]),
        (.text "content", .text " ")],
      .dict [(.text "type", .text "ByteFallback")],
      .dict [(.text "type", .text "Fuse")]])]

/-- Whether an engine can derive token bytes from a decoder. -/
def isSupported (decoder : Value) : Except Fault Bool := do
  if decoder.truthy then
    let type ← decoder.memberOrNull "type"
    if type == .text "ByteLevel" then return true
    else if type == .text "Sequence" then
      let steps ← decoder.memberOrNull "decoders"
      if steps.truthy then
        (← steps.items).anyM fun step => do
          return (← step.memberOrNull "type") == .text "ByteFallback"
      else return false
    else return false
  else return false

/-- Whether a token holds one of the two characters that mark a byte-level vocabulary. -/
def isMarked (token : Value) : Except Fault Bool := do
  if ← token.holds "Ġ" then return true else token.holds "Ċ"

/-- Whether a token is made of printable ASCII characters other than the space. -/
def isPlain (token : Value) : Except Fault Bool := do
  if token.truthy then
    (← token.items).allM fun item => do
      return !(← item.isLess (.text "!")) && !(← (Value.text "~").isLess item)
  else return false

/-- The decoder that a vocabulary suggests. -/
def inferDecoder (vocabulary : Value) : Except Fault Value := do
  let tokens ← vocabulary.items
  if ← tokens.anyM isMarked then return byteLevelDecoder
  else if ← tokens.allM isPlain then return byteLevelDecoder
  else return byteFallbackDecoder

/-! ## Merge rules -/

/-- Whether both parts of a merge rule and the token they merge into are in the vocabulary. -/
def isUsable (vocabulary rule : Value) : Except Fault Bool := do
  match rule with
  | .text given =>
    let (left, right) := (Text.splitAtSpace? given).getD (given, "")
    if ← vocabulary.holds left then
      if ← vocabulary.holds right then vocabulary.holds (left ++ right)
      else return false
    else return false
  | .bytes _ => .error (.notContainer rule.typeName)
  | _ => .error (rule.methodFault "partition")

/-- The merge rules that the vocabulary covers, and how many there are beside them. -/
def usableMerges (vocabulary merges : Value) : Except Fault (List Value × Nat) := do
  let rules ← merges.items
  let kept ← rules.filterM (isUsable vocabulary)
  return (kept, rules.length - kept.length)

/-! ## Document -/

/-- The document for an engine, and the number of merge rules left out of it. A decoder that the
record carries is kept if engines support it. -/
def document (record : Value) : Except Fault (Value × Nat) := do
  let vocabulary ← record.memberOr "vocab" (.dict [])
  let carried ← record.memberOrNull "decoder"
  let decoder ← if ← isSupported carried then .ok carried else inferDecoder vocabulary
  let addedTokens ← record.memberOr "added_tokens" (.list [])
  let preTokenizer ← record.memberOrNull "pre_tokenizer"
  let (merges, skipped) ← usableMerges vocabulary (← record.memberOr "merges" (.list []))
  return (.dict [
    (.text "version", .text "1.0"),
    (.text "truncation", .null),
    (.text "padding", .null),
    (.text "added_tokens", addedTokens),
    (.text "normalizer", .null),
    (.text "pre_tokenizer", preTokenizer),
    (.text "post_processor", .null),
    (.text "decoder", decoder),
    (.text "model", .dict [
      (.text "type", .text "BPE"),
      (.text "dropout", .null),
      (.text "unk_token", .null),
      (.text "continuing_subword_prefix", .null),
      (.text "end_of_word_suffix", .null),
      (.text "fuse_unk", .bool false),
      (.text "byte_fallback", .bool false),
      (.text "vocab", vocabulary),
      (.text "merges", .list merges)])], skipped)

end ConstrainedDecoding.EngineForm
