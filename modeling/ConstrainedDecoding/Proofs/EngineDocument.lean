import ConstrainedDecoding.Proofs.Outcome
import ConstrainedDecoding.Proofs.ValueText
import ConstrainedDecoding.Tokenizer.Description
import ConstrainedDecoding.Tokenizer.EngineForm

/-!
# Documents for engines

From the record of a tokenizer an engine is given a document. `Tokenizer.engineDocument` says what
is in it: the vocabulary, the added tokens and the pre-tokenizer as they are, a decoder that engines
support, and those merge rules whose written form the vocabulary covers
(`EngineForm.document_toRecord`). A document always comes about, unless the decoder of the tokenizer
is a sequence of something else than mappings. The record is sent as a text, and for plain
tokenizers it comes back as it was (`Tokenizer.exists_sentDocument`).
-/

namespace ConstrainedDecoding

/-! ## Vocabularies -/

namespace Vocabulary

/-- The record of a vocabulary. -/
def toRecord (vocabulary : Vocabulary) : Value :=
  .dict (vocabulary.entries.map fun entry => (.text entry.1, .int entry.2))

/-- Whether a text is in the vocabulary. -/
def holds (vocabulary : Vocabulary) (token : String) : Bool :=
  Keyed.has vocabulary.entries token

/-- Whether both parts of a merge rule and the token they merge into are in the vocabulary. -/
def covers (vocabulary : Vocabulary) (merge : Merge) : Bool :=
  vocabulary.holds merge.1 && vocabulary.holds merge.2 && vocabulary.holds (merge.1 ++ merge.2)

variable (vocabulary : Vocabulary)

theorem holds_toRecord (token : String) :
    vocabulary.toRecord.holds token = .ok (vocabulary.holds token) := by
  simp [toRecord, Value.holds, holds, Keyed.has, List.any_map, Function.comp_def]

theorem items_toRecord :
    vocabulary.toRecord.items = .ok ((Keyed.keys vocabulary.entries).map .text) := by
  simp [toRecord, Value.items, Keyed.keys, Function.comp_def]

end Vocabulary

/-! ## Merge rules -/

/-- The rule that the written form of a merge rule is read as, split at the first space. -/
def Merge.resplit (merge : Merge) : Merge :=
  (Text.splitAtSpace? merge.joined).getD (merge.joined, "")

/-- The merge rules whose written form the vocabulary covers. -/
def Tokenizer.usableMerges (tokenizer : Tokenizer) : List Merge :=
  tokenizer.merges.filter fun merge => tokenizer.vocabulary.covers merge.resplit

namespace EngineForm

theorem isUsable_text (vocabulary : Vocabulary) (rule : String) :
    isUsable vocabulary.toRecord (.text rule) =
      .ok (vocabulary.covers ((Text.splitAtSpace? rule).getD (rule, ""))) := by
  rw [isUsable]
  simp only [Vocabulary.holds_toRecord, ok_bind, Vocabulary.covers]
  generalize (Text.splitAtSpace? rule).getD (rule, "") = parts
  cases vocabulary.holds parts.1 <;> cases vocabulary.holds parts.2 <;> rfl

theorem usableMerges_toRecord (tokenizer : Tokenizer) :
    usableMerges tokenizer.vocabulary.toRecord
        (.list (tokenizer.merges.map fun merge => .text merge.joined)) =
      .ok (tokenizer.usableMerges.map fun merge => .text merge.joined,
        tokenizer.merges.length - tokenizer.usableMerges.length) := by
  have each : ∀ rule ∈ tokenizer.merges.map fun merge => Value.text merge.joined,
      isUsable tokenizer.vocabulary.toRecord rule = .ok (tokenizer.vocabulary.covers
        ((Text.splitAtSpace? rule.toText).getD (rule.toText, ""))) := by
    intro rule member
    obtain ⟨merge, _, rfl⟩ := List.mem_map.1 member
    exact isUsable_text tokenizer.vocabulary merge.joined
  have kept := filterM_eq_ok each
  rw [List.filter_map] at kept
  rw [usableMerges, Value.items, ok_bind, kept, ok_bind, List.length_map, List.length_map]
  rfl

/-! ## Decoders -/

theorem exists_isMarked (token : String) : ∃ marked, isMarked (.text token) = .ok marked := by
  unfold isMarked
  simp only [Value.holds, ok_bind]
  split_ifs
  · exact ⟨_, rfl⟩
  · exact ⟨_, rfl⟩

theorem exists_isPlain (token : String) : ∃ plain, isPlain (.text token) = .ok plain := by
  unfold isPlain
  split_ifs
  · rw [Value.items, ok_bind]
    apply exists_allM_eq_ok
    intro item member
    obtain ⟨c, _, rfl⟩ := List.mem_map.1 member
    exact ⟨_, rfl⟩
  · exact ⟨false, rfl⟩

/-- Any vocabulary suggests one of the two decoders. -/
theorem inferDecoder_toRecord (vocabulary : Vocabulary) :
    inferDecoder vocabulary.toRecord = .ok byteLevelDecoder ∨
      inferDecoder vocabulary.toRecord = .ok byteFallbackDecoder := by
  have marks : ∀ item ∈ (Keyed.keys vocabulary.entries).map Value.text,
      ∃ marked, isMarked item = .ok marked := by
    intro item member
    obtain ⟨token, _, rfl⟩ := List.mem_map.1 member
    exact exists_isMarked token
  have plains : ∀ item ∈ (Keyed.keys vocabulary.entries).map Value.text,
      ∃ plain, isPlain item = .ok plain := by
    intro item member
    obtain ⟨token, _, rfl⟩ := List.mem_map.1 member
    exact exists_isPlain token
  obtain ⟨marked, anyMarked⟩ := exists_anyM_eq_ok marks
  obtain ⟨plain, allPlain⟩ := exists_allM_eq_ok plains
  rw [inferDecoder, Vocabulary.items_toRecord, ok_bind, anyMarked, ok_bind, allPlain, ok_bind]
  cases marked with
  | true => exact .inl rfl
  | false =>
      cases plain with
      | true => exact .inl rfl
      | false => exact .inr rfl

end EngineForm

/-- A decoder that is a sequence lists mappings, if it lists anything. -/
def Component.ListsMappings (decoder : Component) : Prop :=
  Value.lookup decoder "type" = some (.text "Sequence") →
    ∀ steps, Value.lookup decoder "decoders" = some steps → steps.truthy = true →
      ∃ items, steps = .list items ∧ ∀ item ∈ items, ∃ entries, item = .dict entries

/-- The value of a component, null where it is not known. -/
def Component.value : Option Component → Value
  | some component => .dict component
  | none => .null

namespace EngineForm

theorem eq_text_of_beq {value : Value} {content : String}
    (same : (value == .text content) = true) : value = .text content := by
  cases value with
  | text other =>
      rw [Value.text_beq, beq_iff_eq] at same
      rw [same]
  | _ => cases same

theorem exists_isSupported {decoder : Component} (lists : decoder.ListsMappings) :
    ∃ supported, isSupported (.dict decoder) = .ok supported := by
  unfold isSupported
  by_cases counts : (Value.dict decoder).truthy = true
  swap
  · exact ⟨false, if_neg counts⟩
  rw [if_pos counts]
  show ∃ supported,
    (if ((Value.lookup decoder "type").getD .null == .text "ByteLevel") = true then .ok true
    else if ((Value.lookup decoder "type").getD .null == .text "Sequence") = true then
      if ((Value.lookup decoder "decoders").getD .null).truthy = true then
        ((Value.lookup decoder "decoders").getD .null).items >>= fun items =>
          items.anyM fun step => do return (← step.memberOrNull "type") == .text "ByteFallback"
      else .ok false
    else .ok false : Except Fault Bool) = .ok supported
  split_ifs with byteLevel sequence listed
  · exact ⟨true, rfl⟩
  · have named : Value.lookup decoder "type" = some (.text "Sequence") := by
      have same := eq_text_of_beq sequence
      cases known : Value.lookup decoder "type" with
      | none =>
          rw [known] at same
          cases same
      | some type =>
          rw [known] at same
          exact congrArg some same
    cases known : Value.lookup decoder "decoders" with
    | none =>
        rw [known] at listed
        cases listed
    | some steps =>
        rw [known] at listed
        obtain ⟨items, rfl, mappings⟩ := lists named steps known listed
        apply exists_anyM_eq_ok
        intro step member
        obtain ⟨entries, rfl⟩ := mappings step member
        exact ⟨_, rfl⟩
  · exact ⟨false, rfl⟩
  · exact ⟨false, rfl⟩

theorem isSupported_byteLevelDecoder : isSupported byteLevelDecoder = .ok true := rfl

theorem isSupported_byteFallbackDecoder : isSupported byteFallbackDecoder = .ok true := rfl

end EngineForm

/-- A decoder may stand in the document of a tokenizer: engines support it, and it is the
tokenizer's own, if engines support that, or one that a vocabulary suggests. -/
structure Tokenizer.SendsDecoder (tokenizer : Tokenizer) (decoder : Component) : Prop where
  isSupported : EngineForm.isSupported (.dict decoder) = .ok true
  kept : EngineForm.isSupported (Component.value tokenizer.decoder) = .ok true →
    tokenizer.decoder = some decoder
  known : tokenizer.decoder = some decoder ∨ .dict decoder = EngineForm.byteLevelDecoder ∨
    .dict decoder = EngineForm.byteFallbackDecoder

/-! ## Documents -/

/-- The model in a document with merge rules. -/
def Tokenizer.engineModel (tokenizer : Tokenizer) (merges : List Merge) : Value :=
  .dict [
    (.text "type", .text "BPE"),
    (.text "dropout", .null),
    (.text "unk_token", .null),
    (.text "continuing_subword_prefix", .null),
    (.text "end_of_word_suffix", .null),
    (.text "fuse_unk", .bool false),
    (.text "byte_fallback", .bool false),
    (.text "vocab", tokenizer.vocabulary.toRecord),
    (.text "merges", .list (merges.map fun merge => .text merge.joined))]

/-- The document with a decoder and with merge rules. -/
def Tokenizer.engineDocument (tokenizer : Tokenizer) (decoder : Component) (merges : List Merge) :
    Value :=
  .dict [
    (.text "version", .text "1.0"),
    (.text "truncation", .null),
    (.text "padding", .null),
    (.text "added_tokens", .list (tokenizer.addedTokens.map AddedToken.toRecord)),
    (.text "normalizer", .null),
    (.text "pre_tokenizer", Component.value tokenizer.preTokenizer),
    (.text "post_processor", .null),
    (.text "decoder", .dict decoder),
    (.text "model", tokenizer.engineModel merges)]

namespace EngineForm

variable (tokenizer : Tokenizer)

theorem memberOr_vocab : tokenizer.toRecord.memberOr "vocab" (.dict []) =
    .ok tokenizer.vocabulary.toRecord := rfl

theorem memberOr_addedTokens : tokenizer.toRecord.memberOr "added_tokens" (.list []) =
    .ok (.list (tokenizer.addedTokens.map AddedToken.toRecord)) := rfl

theorem memberOr_merges : tokenizer.toRecord.memberOr "merges" (.list []) =
    .ok (.list (tokenizer.merges.map fun merge => .text merge.joined)) := rfl

theorem memberOrNull_decoder : tokenizer.toRecord.memberOrNull "decoder" =
    .ok (Component.value tokenizer.decoder) := by
  unfold Tokenizer.toRecord
  cases tokenizer.decoder <;> cases tokenizer.preTokenizer <;> rfl

theorem memberOrNull_preTokenizer : tokenizer.toRecord.memberOrNull "pre_tokenizer" =
    .ok (Component.value tokenizer.preTokenizer) := by
  unfold Tokenizer.toRecord
  cases tokenizer.decoder <;> cases tokenizer.preTokenizer <;> rfl

/-- The decoder of the tokenizer is chosen if engines support it, and one that the vocabulary
suggests otherwise. -/
theorem exists_decoder
    (lists : ∀ decoder, tokenizer.decoder = some decoder → decoder.ListsMappings) :
    ∃ supported decoder,
      isSupported (Component.value tokenizer.decoder) = .ok supported ∧
      (if supported then .ok (Component.value tokenizer.decoder)
        else inferDecoder tokenizer.vocabulary.toRecord) = .ok (.dict decoder) ∧
      tokenizer.SendsDecoder decoder := by
  have inferred : ∃ decoder, inferDecoder tokenizer.vocabulary.toRecord = .ok (.dict decoder) ∧
      isSupported (.dict decoder) = .ok true ∧
      (.dict decoder = byteLevelDecoder ∨ .dict decoder = byteFallbackDecoder) := by
    rcases inferDecoder_toRecord tokenizer.vocabulary with known | known
    · exact ⟨_, known, isSupported_byteLevelDecoder, .inl rfl⟩
    · exact ⟨_, known, isSupported_byteFallbackDecoder, .inr rfl⟩
  obtain ⟨suggested, known, suits, oneOf⟩ := inferred
  cases carried : tokenizer.decoder with
  | none =>
      exact ⟨false, suggested, rfl, known, suits, by rw [carried]; nofun, .inr oneOf⟩
  | some decoder =>
      obtain ⟨supported, tested⟩ := exists_isSupported (lists decoder carried)
      cases supported with
      | true => exact ⟨true, decoder, tested, rfl, tested, fun _ => carried, .inl carried⟩
      | false =>
          have unsupported : isSupported (Component.value tokenizer.decoder) ≠ .ok true := by
            rw [carried]
            exact fun supported => nomatch tested.symm.trans supported
          exact ⟨false, suggested, tested, known, suits, fun supported =>
            absurd supported unsupported, .inr oneOf⟩

/-- A tokenizer has a document, with a decoder that engines support and the usable merge rules. -/
theorem document_toRecord
    (lists : ∀ decoder, tokenizer.decoder = some decoder → decoder.ListsMappings) :
    ∃ decoder skipped,
      document tokenizer.toRecord =
        .ok (tokenizer.engineDocument decoder tokenizer.usableMerges, skipped) ∧
      tokenizer.SendsDecoder decoder := by
  obtain ⟨supported, decoder, tested, chosen, given⟩ := exists_decoder tokenizer lists
  refine ⟨decoder, tokenizer.merges.length - tokenizer.usableMerges.length, ?_, given⟩
  unfold document
  rw [memberOr_vocab, ok_bind, memberOrNull_decoder, ok_bind, tested, ok_bind]
  simp only [memberOr_addedTokens, memberOrNull_preTokenizer, memberOr_merges,
    usableMerges_toRecord, ok_bind]
  cases supported with
  | true =>
      have same : Component.value tokenizer.decoder = .dict decoder := Except.ok.inj chosen
      rw [if_pos rfl, same]
      rfl
  | false =>
      have suggested : inferDecoder tokenizer.vocabulary.toRecord = .ok (.dict decoder) := chosen
      rw [if_neg (by decide), suggested]
      rfl

/-- Whatever decoder is chosen, a document holds the usable merge rules. -/
theorem merges_of_document {tokenizer : Tokenizer} {built : Value} {skipped : Nat}
    (known : document tokenizer.toRecord = .ok (built, skipped)) :
    (built.field "model").field "merges" =
      .list (tokenizer.usableMerges.map fun merge => .text merge.joined) := by
  unfold document at known
  rw [memberOr_vocab, ok_bind, memberOrNull_decoder, ok_bind] at known
  obtain ⟨supported, _, known⟩ := bind_eq_ok.1 known
  simp only [memberOr_addedTokens, memberOrNull_preTokenizer, memberOr_merges,
    usableMerges_toRecord, ok_bind] at known
  cases supported with
  | true =>
      cases known
      rfl
  | false =>
      obtain ⟨decoder, _, built⟩ := bind_eq_ok.1 known
      cases built
      rfl

end EngineForm

/-! ## Records sent as texts -/

namespace Tokenizer

/-- The document that an engine is given when it is sent the text of a tokenizer's record. -/
def sentDocument [Stack] (tokenizer : Tokenizer) : Except Fault Value := do
  let record ← EngineSession.valueOf (Stack.levels .sentText) (← tokenizer.render)
  return (← EngineForm.document record).1

/-- The text of that document. -/
def engineText [Stack] (tokenizer : Tokenizer) : Except Fault String := do
  (← tokenizer.sentDocument).renderWithin (Stack.levels .document)

/-- The record of a tokenizer comes back from its text where there is room for it: the ids have few
enough digits, and the components are JSON without floating-point numbers, nested at most `depth`
levels. The decoder is no sequence of something else than mappings. -/
structure IsPlain (depth : Nat) (tokenizer : Tokenizer) : Prop where
  ids : ∀ id ∈ tokenizer.ids, hasFewDigits id = true
  decoder : ∀ decoder, tokenizer.decoder = some decoder → (Value.dict decoder).Plain depth
  lists : ∀ decoder, tokenizer.decoder = some decoder → decoder.ListsMappings
  preTokenizer : ∀ preTokenizer, tokenizer.preTokenizer = some preTokenizer →
    (Value.dict preTokenizer).Plain depth

variable {tokenizer : Tokenizer} {depth : Nat}

theorem IsPlain.vocabulary (plain : tokenizer.IsPlain depth) :
    tokenizer.vocabulary.toRecord.Plain 1 := by
  have members : Value.Plain 1 (.dict ((tokenizer.vocabulary.entries.map fun entry =>
      (entry.1, Value.int entry.2)).map fun member => (.text member.1, member.2))) := by
    apply Value.Plain.dict
    · rw [Keyed.keys, List.map_map]
      exact tokenizer.vocabulary.distinct
    · intro member among
      obtain ⟨entry, known, rfl⟩ := List.mem_map.1 among
      exact .int (plain.ids _ (List.mem_append_left _ (List.mem_map_of_mem known)))
  rwa [List.map_map] at members

theorem IsPlain.addedTokens (plain : tokenizer.IsPlain depth) :
    Value.Plain 2 (.list (tokenizer.addedTokens.map AddedToken.toRecord)) := by
  apply Value.Plain.list
  intro record member
  obtain ⟨token, among, rfl⟩ := List.mem_map.1 member
  have short : hasFewDigits token.id = true :=
    plain.ids _ (List.mem_append_right _ (List.mem_map_of_mem among))
  refine Value.Plain.dict [("id", .int token.id), ("content", .text token.content),
    ("single_word", .bool token.singleWord), ("lstrip", .bool token.leftStrip),
    ("rstrip", .bool token.rightStrip), ("normalized", .bool token.normalized),
    ("special", .bool token.special)] (by simp [Keyed.keys]) ?_
  simp [Value.Plain.int short, Value.Plain.text, Value.Plain.bool]

theorem plain_merges (merges : List Merge) :
    Value.Plain 1 (.list (merges.map fun merge => .text merge.joined)) := by
  apply Value.Plain.list
  intro rule member
  obtain ⟨merge, _, rfl⟩ := List.mem_map.1 member
  exact .text _

theorem plain_component {component : Option Component} {depth : Nat}
    (plain : ∀ known, component = some known → (Value.dict known).Plain depth) :
    (Component.value component).Plain depth := by
  cases component with
  | none => exact .null
  | some known => exact plain known rfl

/-- The members of a record. -/
def recordMembers (tokenizer : Tokenizer) : List (String × Value) :=
  [("vocab", tokenizer.vocabulary.toRecord),
    ("merges", .list (tokenizer.merges.map fun merge => .text merge.joined)),
    ("added_tokens", .list (tokenizer.addedTokens.map AddedToken.toRecord)),
    ("model_type", .text tokenizer.modelType)] ++
  (tokenizer.decoder.toList.map fun decoder => ("decoder", .dict decoder)) ++
  tokenizer.preTokenizer.toList.map fun preTokenizer => ("pre_tokenizer", .dict preTokenizer)

theorem toRecord_eq (tokenizer : Tokenizer) :
    tokenizer.toRecord =
      .dict (tokenizer.recordMembers.map fun member => (.text member.1, member.2)) := by
  unfold toRecord recordMembers
  cases tokenizer.decoder <;> cases tokenizer.preTokenizer <;> rfl

/-- The record itself takes a level around its parts. The added tokens need two, and no part that
every record has needs more. -/
theorem IsPlain.toRecord (plain : tokenizer.IsPlain depth) (parts : 2 ≤ depth) :
    tokenizer.toRecord.Plain (depth + 1) := by
  rw [toRecord_eq]
  apply Value.Plain.dict
  · unfold recordMembers
    cases tokenizer.decoder <;> cases tokenizer.preTokenizer <;> simp [Keyed.keys]
  · intro member among
    unfold recordMembers at among
    simp only [List.cons_append, List.nil_append, List.mem_cons, List.mem_append,
      List.mem_map, Option.mem_toList] at among
    rcases among with rfl | rfl | rfl | rfl | ⟨decoder, known, rfl⟩ | ⟨preTokenizer, known, rfl⟩
    · exact plain.vocabulary.mono (by omega)
    · exact (plain_merges _).mono (by omega)
    · exact plain.addedTokens.mono parts
    · exact .text _
    · exact plain.decoder decoder known
    · exact plain.preTokenizer preTokenizer known

theorem IsPlain.engineModel (plain : tokenizer.IsPlain depth) (merges : List Merge) :
    (tokenizer.engineModel merges).Plain 2 := by
  refine Value.Plain.dict [("type", .text "BPE"), ("dropout", .null), ("unk_token", .null),
    ("continuing_subword_prefix", .null), ("end_of_word_suffix", .null),
    ("fuse_unk", .bool false), ("byte_fallback", .bool false),
    ("vocab", tokenizer.vocabulary.toRecord),
    ("merges", .list (merges.map fun merge => .text merge.joined))] (by simp [Keyed.keys]) ?_
  simp [plain.vocabulary, plain_merges, Value.Plain.text, Value.Plain.null, Value.Plain.bool]

theorem IsPlain.engineDocument (plain : tokenizer.IsPlain depth) (parts : 2 ≤ depth)
    {decoder : Component} (suits : (Value.dict decoder).Plain depth) (merges : List Merge) :
    (tokenizer.engineDocument decoder merges).Plain (depth + 1) := by
  refine Value.Plain.dict [("version", .text "1.0"), ("truncation", .null), ("padding", .null),
    ("added_tokens", .list (tokenizer.addedTokens.map AddedToken.toRecord)),
    ("normalizer", .null), ("pre_tokenizer", Component.value tokenizer.preTokenizer),
    ("post_processor", .null), ("decoder", .dict decoder),
    ("model", tokenizer.engineModel merges)] (by simp [Keyed.keys]) ?_
  intro member among
  simp only [List.mem_cons, List.not_mem_nil, or_false] at among
  rcases among with rfl | rfl | rfl | rfl | rfl | rfl | rfl | rfl | rfl
  · exact .text _
  · exact .null
  · exact .null
  · exact plain.addedTokens.mono parts
  · exact .null
  · exact plain_component plain.preTokenizer
  · exact .null
  · exact suits
  · exact (plain.engineModel merges).mono parts

theorem plain_byteLevelDecoder : EngineForm.byteLevelDecoder.Plain 1 :=
  ⟨.object [("type", .text "ByteLevel"), ("add_prefix_space", .bool true),
    ("trim_offsets", .bool true), ("use_regex", .bool true)], rfl, rfl, rfl⟩

theorem plain_byteFallbackDecoder : EngineForm.byteFallbackDecoder.Plain 4 :=
  ⟨.object [("type", .text "Sequence"), ("decoders", .array [
      .object [("type", .text "Replace"), ("pattern", .object [("String", .text "▁")]),
        ("content", .text " ")],
      .object [("type", .text "ByteFallback")], .object [("type", .text "Fuse")]])],
    rfl, rfl, rfl⟩

/-- An engine that is sent the record of a plain tokenizer is given the document of the tokenizer
itself. -/
theorem exists_sentDocument [Stack] (plain : tokenizer.IsPlain depth) (parts : 2 ≤ depth)
    (room : Stack.HasRoom (depth + 1)) :
    ∃ decoder,
      tokenizer.sentDocument =
        .ok (tokenizer.engineDocument decoder tokenizer.usableMerges) ∧
      tokenizer.SendsDecoder decoder := by
  obtain ⟨text, written, reads⟩ := (plain.toRecord parts).exists_text
  obtain ⟨decoder, skipped, built, given⟩ := EngineForm.document_toRecord tokenizer plain.lists
  have sent : tokenizer.sentDocument =
      .ok (tokenizer.engineDocument decoder tokenizer.usableMerges) := by
    have rendered : tokenizer.render = .ok text := written _ (room .record)
    rw [sentDocument, rendered, ok_bind, reads _ (room .sentText), ok_bind, built]
    rfl
  exact ⟨decoder, sent, given⟩

end Tokenizer

end ConstrainedDecoding
