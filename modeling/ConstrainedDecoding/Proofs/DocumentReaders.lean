import ConstrainedDecoding.Proofs.JsonText
import ConstrainedDecoding.Proofs.LevelsLeft

/-!
# The two readers of documents

A document with a vocabulary in its model can be read in two ways: `Tokenizer.extract` takes it for
a description like any other, `Tokenizer.parse` insists on its being a document. They read the parts
in different orders, so that they may report different faults, and only the parser lets a document
declare the model type. So the parser refuses what cannot be extracted and what declares a type that
cannot be shown (`Tokenizer.readers_agree`), and in nothing but the model type do the tokenizers
differ.
-/

namespace ConstrainedDecoding

/-- A mapping has no accessors, so that a vocabulary in its model is the one that counts. -/
theorem Vocabulary.resolve_of_mapping [Stack] {document given : Value}
    (mapping : document.isMapping = true)
    (present : (document.field "model").field? "vocab" = some given) :
    resolve document = (read given).map some := by
  have noAccessor : fromAccessor? document = .ok none := by
    rw [fromAccessor?, if_pos mapping]
  rw [resolve, noAccessor, ok_bind]
  simp only [present]
  cases read given <;> rfl

theorem Component.document?_of_mapping [Stack] {document : Value}
    (mapping : document.isMapping = true) : document? document = .ok (some document) := by
  rw [document?, if_pos mapping]

namespace Tokenizer

/-- The tokenizer of a document with the parts that have to be read. -/
def ofParts (document : Value) (vocabulary : Vocabulary) (merges : List Merge)
    (addedTokens : List AddedToken) (modelType : String) : Tokenizer where
  vocabulary := vocabulary
  merges := merges
  addedTokens := addedTokens
  modelType := modelType
  decoder := Component.read document "decoder"
  preTokenizer := Component.read document "pre_tokenizer"

variable {document given : Value}

theorem extract_of_mapping (stack : Stack) (mapping : document.isMapping = true)
    (present : (document.field "model").field? "vocab" = some given) :
    extract document = (do
      let vocabulary ← Vocabulary.read given
      let merges ← Merge.readAll ((document.field "model").field "merges")
      let addedTokens ← AddedToken.readAll document
      .ok (ofParts document vocabulary merges addedTokens (Merge.modelType merges))) := by
  rw [extract, Vocabulary.resolve_of_mapping mapping present]
  simp only [Component.document?_of_mapping mapping]
  cases Vocabulary.read given with
  | error fault => rfl
  | ok vocabulary => rfl

theorem parse_of_mapping (stack : Stack) (mapping : document.isMapping = true)
    (present : (document.field "model").field? "vocab" = some given) :
    parse document = (do
      let merges ← Merge.readAll ((document.field "model").field "merges")
      let modelType ← declaredModelType (document.field "model") merges
      let vocabulary ← Vocabulary.read given
      let addedTokens ← AddedToken.readAll document
      .ok (ofParts document vocabulary merges addedTokens modelType)) := by
  rw [parse, if_pos mapping]
  simp only [present]
  rfl

/-! ## Parts that are read -/

/-- The parts that both readers read, with the values they were read as. -/
structure ReadsParts (stack : Stack) (document given : Value) (vocabulary : Vocabulary)
    (merges : List Merge) (addedTokens : List AddedToken) : Prop where
  vocabulary : Vocabulary.read given = .ok vocabulary
  merges : Merge.readAll ((document.field "model").field "merges") = .ok merges
  addedTokens : AddedToken.readAll document = .ok addedTokens

variable {vocabulary : Vocabulary} {merges : List Merge} {addedTokens : List AddedToken}

theorem extract_eq_ok (stack : Stack) (mapping : document.isMapping = true)
    (present : (document.field "model").field? "vocab" = some given) {extracted : Tokenizer} :
    extract document = .ok extracted ↔ ∃ vocabulary merges addedTokens,
      ReadsParts stack document given vocabulary merges addedTokens ∧
      extracted = ofParts document vocabulary merges addedTokens (Merge.modelType merges) := by
  rw [extract_of_mapping stack mapping present]
  constructor
  · intro known
    obtain ⟨vocabulary, vocabularyRead, known⟩ := bind_eq_ok.1 known
    obtain ⟨merges, mergesRead, known⟩ := bind_eq_ok.1 known
    obtain ⟨addedTokens, addedTokensRead, known⟩ := bind_eq_ok.1 known
    cases known
    exact ⟨vocabulary, merges, addedTokens, ⟨vocabularyRead, mergesRead, addedTokensRead⟩, rfl⟩
  · rintro ⟨vocabulary, merges, addedTokens, parts, rfl⟩
    rw [parts.vocabulary, ok_bind, parts.merges, ok_bind, parts.addedTokens, ok_bind]

theorem parse_eq_ok (stack : Stack) (mapping : document.isMapping = true)
    (present : (document.field "model").field? "vocab" = some given) {parsed : Tokenizer} :
    parse document = .ok parsed ↔ ∃ vocabulary merges addedTokens modelType,
      ReadsParts stack document given vocabulary merges addedTokens ∧
      declaredModelType (document.field "model") merges = .ok modelType ∧
      parsed = ofParts document vocabulary merges addedTokens modelType := by
  rw [parse_of_mapping stack mapping present]
  constructor
  · intro known
    obtain ⟨merges, mergesRead, known⟩ := bind_eq_ok.1 known
    obtain ⟨modelType, declared, known⟩ := bind_eq_ok.1 known
    obtain ⟨vocabulary, vocabularyRead, known⟩ := bind_eq_ok.1 known
    obtain ⟨addedTokens, addedTokensRead, known⟩ := bind_eq_ok.1 known
    cases known
    exact ⟨vocabulary, merges, addedTokens, modelType,
      ⟨vocabularyRead, mergesRead, addedTokensRead⟩, declared, rfl⟩
  · rintro ⟨vocabulary, merges, addedTokens, modelType, parts, declared, rfl⟩
    rw [parts.merges, ok_bind, declared, ok_bind, parts.vocabulary, ok_bind, parts.addedTokens,
      ok_bind]

/-- The values of the parts do not depend on the levels. -/
theorem ReadsParts.unique {here there : Stack} {vocabulary' : Vocabulary} {merges' : List Merge}
    {addedTokens' : List AddedToken}
    (parts : ReadsParts here document given vocabulary merges addedTokens)
    (parts' : ReadsParts there document given vocabulary' merges' addedTokens') :
    vocabulary = vocabulary' ∧ merges = merges' ∧ addedTokens = addedTokens' := by
  refine ⟨?_, ?_, ?_⟩
  · exact (Vocabulary.sameUnless_read here there given).eq_of_ok parts.vocabulary parts'.vocabulary
  · exact (Merge.sameUnless_readAll here there _).eq_of_ok parts.merges parts'.merges
  · exact (AddedToken.sameUnless_readAll here there document).eq_of_ok parts.addedTokens
      parts'.addedTokens

/-- What can be parsed in one place is extracted in another, unless the levels run out there. -/
theorem readsParts_of_parsed {here there : Stack} (mapping : document.isMapping = true)
    (present : (document.field "model").field? "vocab" = some given)
    (parts : ReadsParts there document given vocabulary merges addedTokens)
    (enough : ¬ RunsOut (@extract here document)) :
    ReadsParts here document given vocabulary merges addedTokens := by
  rw [extract_of_mapping here mapping present] at enough
  have vocabularyRead := ((Vocabulary.sameUnless_read there here given).ok_or_endsIn
    parts.vocabulary).resolve_right fun ends => enough (ends.bind _)
  rw [vocabularyRead, ok_bind] at enough
  have mergesRead := ((Merge.sameUnless_readAll there here _).ok_or_endsIn
    parts.merges).resolve_right fun ends => enough (ends.bind _)
  rw [mergesRead, ok_bind] at enough
  have addedTokensRead := ((AddedToken.sameUnless_readAll there here document).ok_or_endsIn
    parts.addedTokens).resolve_right fun ends => enough (ends.bind _)
  exact ⟨vocabularyRead, mergesRead, addedTokensRead⟩

/-- What can be extracted in one place is read by the parser in another, if it declares a type that
can be shown there and unless the levels run out. -/
theorem readsParts_of_extracted {here there : Stack} (mapping : document.isMapping = true)
    (present : (document.field "model").field? "vocab" = some given)
    (parts : ReadsParts here document given vocabulary merges addedTokens) {modelType : String}
    (declared : @declaredModelType there (document.field "model") merges = .ok modelType)
    (enough : ¬ RunsOut (@parse there document)) :
    ReadsParts there document given vocabulary merges addedTokens := by
  rw [parse_of_mapping there mapping present] at enough
  have mergesRead := ((Merge.sameUnless_readAll here there _).ok_or_endsIn
    parts.merges).resolve_right fun ends => enough (ends.bind _)
  rw [mergesRead, ok_bind, declared, ok_bind] at enough
  have vocabularyRead := ((Vocabulary.sameUnless_read here there given).ok_or_endsIn
    parts.vocabulary).resolve_right fun ends => enough (ends.bind _)
  rw [vocabularyRead, ok_bind] at enough
  have addedTokensRead := ((AddedToken.sameUnless_readAll here there document).ok_or_endsIn
    parts.addedTokens).resolve_right fun ends => enough (ends.bind _)
  exact ⟨vocabularyRead, mergesRead, addedTokensRead⟩

/-! ## Declared types -/

theorem declaredModelType_of_undeclared (stack : Stack) {model : Value} (merges : List Merge)
    (undeclared : (model.field "type").truthy = false) :
    declaredModelType model merges = .ok (Merge.modelType merges) := by
  unfold declaredModelType
  simp only [undeclared]
  rfl

/-- A type that is declared has to be shown. -/
theorem exists_declaredModelType_iff (stack : Stack) (model : Value) (merges : List Merge) :
    (∃ modelType, declaredModelType model merges = .ok modelType) ↔
      (model.field "type").truthy = false ∨
        ∃ shown, (model.field "type").str (Stack.levels .modelType) = .ok shown := by
  cases declares : (model.field "type").truthy with
  | false =>
      rw [declaredModelType_of_undeclared stack merges declares]
      exact iff_of_true ⟨_, rfl⟩ (.inl rfl)
  | true =>
      unfold declaredModelType
      simp only [declares, if_true, map_eq_ok]
      constructor
      · rintro ⟨_, shown, known, _⟩
        exact .inr ⟨shown, known⟩
      · rintro (⟨⟨⟩⟩ | ⟨shown, known⟩)
        exact ⟨_, shown, known, rfl⟩

/-! ## The readers beside each other -/

/-- The parser takes those documents with a vocabulary in the model that can be extracted and whose
declared type, if there is one, can be shown, as long as neither reader runs out of levels. Both
give the same tokenizer but for a declared model type. -/
theorem readers_agree (here there : Stack) (mapping : document.isMapping = true)
    (present : ((document.field "model").field? "vocab").isSome = true) :
    (¬ RunsOut (@extract here document) → ¬ RunsOut (@parse there document) →
      ((∃ parsed, @parse there document = .ok parsed) ↔
        (∃ extracted, @extract here document = .ok extracted) ∧
          (((document.field "model").field "type").truthy = false ∨
            ∃ shown, ((document.field "model").field "type").str (there.levels .modelType) =
              .ok shown))) ∧
    ∀ extracted parsed, @extract here document = .ok extracted →
      @parse there document = .ok parsed →
      extracted.vocabulary = parsed.vocabulary ∧
      extracted.merges = parsed.merges ∧
      extracted.addedTokens = parsed.addedTokens ∧
      extracted.decoder = parsed.decoder ∧
      extracted.preTokenizer = parsed.preTokenizer ∧
      extracted.vocabSize = parsed.vocabSize ∧
      (((document.field "model").field "type").truthy = false →
        extracted.modelType = parsed.modelType) := by
  obtain ⟨given, present⟩ := Option.isSome_iff_exists.1 present
  refine ⟨?taken, ?same⟩
  case taken =>
    intro enoughHere enoughThere
    constructor
    · rintro ⟨parsed, isParsed⟩
      obtain ⟨vocabulary, merges, addedTokens, modelType, parts, declared, -⟩ :=
        (parse_eq_ok there mapping present).1 isParsed
      have partsHere := readsParts_of_parsed mapping present parts enoughHere
      exact ⟨⟨_, (extract_eq_ok here mapping present).2
        ⟨vocabulary, merges, addedTokens, partsHere, rfl⟩⟩,
        (exists_declaredModelType_iff there _ merges).1 ⟨modelType, declared⟩⟩
    · rintro ⟨⟨extracted, isExtracted⟩, shows⟩
      obtain ⟨vocabulary, merges, addedTokens, parts, -⟩ :=
        (extract_eq_ok here mapping present).1 isExtracted
      obtain ⟨modelType, declared⟩ := (exists_declaredModelType_iff there _ merges).2 shows
      have partsThere := readsParts_of_extracted mapping present parts declared enoughThere
      exact ⟨_, (parse_eq_ok there mapping present).2
        ⟨vocabulary, merges, addedTokens, modelType, partsThere, declared, rfl⟩⟩
  case same =>
    intro extracted parsed isExtracted isParsed
    obtain ⟨vocabulary, merges, addedTokens, parts, rfl⟩ :=
      (extract_eq_ok here mapping present).1 isExtracted
    obtain ⟨vocabulary', merges', addedTokens', modelType, parts', declared, rfl⟩ :=
      (parse_eq_ok there mapping present).1 isParsed
    obtain ⟨rfl, rfl, rfl⟩ := parts.unique parts'
    refine ⟨rfl, rfl, rfl, rfl, rfl, rfl, fun undeclared => ?_⟩
    exact Except.ok.inj ((declaredModelType_of_undeclared there merges undeclared).symm.trans
      declared)

/-- A document whose model is an object that declares no type. -/
def undeclaring : Value :=
  .dict [
    (.text "model", .object [
      ("vocab", .list [.tuple [.text "a", .text " 1 "], .text "b2"]),
      ("merges", .tuple [.text "a b", .list [.int 1, .null]]),
      ("type", .text "")]),
    (.text "added_tokens_decoder", .view [(.text "7", .text "</s>")]),
    (.text "decoder", .view []),
    (.text "pre_tokenizer", .list [])]

/-- The parts of a rule are shown where a single level is left. -/
theorem readers_agree_undeclaring :
    undeclaring.isMapping = true ∧
    ((undeclaring.field "model").field? "vocab").isSome = true ∧
    ∃ extracted parsed, @extract ⟨fun _ => 1⟩ undeclaring = .ok extracted ∧
      @parse ⟨fun _ => 2⟩ undeclaring = .ok parsed ∧ extracted.modelType = parsed.modelType := by
  have mapping : undeclaring.isMapping = true := rfl
  have extracts : (@extract ⟨fun _ => 1⟩ undeclaring).isOk = true := by decide +kernel
  have parses : (@parse ⟨fun _ => 2⟩ undeclaring).isOk = true := by decide +kernel
  obtain ⟨extracted, isExtracted⟩ := exists_of_isOk extracts
  obtain ⟨parsed, isParsed⟩ := exists_of_isOk parses
  obtain ⟨_, agree⟩ := readers_agree ⟨fun _ => 1⟩ ⟨fun _ => 2⟩ mapping rfl
  obtain ⟨_, _, _, _, _, _, sameType⟩ := agree extracted parsed isExtracted isParsed
  exact ⟨mapping, rfl, extracted, parsed, isExtracted, isParsed, sameType rfl⟩

/-- A document that declares an integer with too many digits as its type is extracted and not
parsed, however many levels are left. -/
theorem readers_disagree_numbered :
    ∃ document : Value, document.isMapping = true ∧
      ((document.field "model").field? "vocab").isSome = true ∧
      (∀ here : Stack, ∃ extracted, @extract here document = .ok extracted) ∧
      ¬ ∃ (there : Stack) (parsed : Tokenizer), @parse there document = .ok parsed := by
  have long : 10 ^ maxIntegerDigits ≤ (10 ^ maxIntegerDigits : Int).natAbs :=
    Nat.le_of_eq (Json.natAbs_pow_ten maxIntegerDigits).symm
  refine ⟨.dict [(.text "model", .dict [(.text "vocab", .dict [(.text "a", .int 0)]),
    (.text "type", .int (10 ^ maxIntegerDigits))])], rfl, rfl, fun _ => ⟨_, rfl⟩, ?_⟩
  rintro ⟨there, parsed, isParsed⟩
  obtain ⟨vocabulary, merges, addedTokens, modelType, -, declared, -⟩ :=
    (parse_eq_ok there rfl rfl).1 isParsed
  rcases (exists_declaredModelType_iff there _ merges).1 ⟨modelType, declared⟩ with
    undeclared | ⟨shown, known⟩
  · have zero : decide ((10 ^ maxIntegerDigits : Int) ≠ 0) = false := undeclared
    simp at zero
  · have short := (Json.hasFewDigits_iff _).1 (Value.short_of_str known)
    exact absurd long (Nat.not_le.2 short)

end Tokenizer

end ConstrainedDecoding
