import ConstrainedDecoding.Proofs.MergeRules

/-!
# Parsing the documents of engines

The document that an engine is given can be parsed like any other, and gives the tokenizer back: its
vocabulary, its added tokens, its pre-tokenizer and the decoder that was chosen
(`Tokenizer.parse_engineDocument`). The merge rules are the usable ones as their written forms are
read. The document built from what was parsed is the same one, to the character
(`Tokenizer.engineText_stable`).
-/

namespace ConstrainedDecoding

/-! ## Parts of a document -/

theorem Vocabulary.ofPairs_entries (vocabulary : Vocabulary) :
    ofPairs vocabulary.entries = vocabulary := by
  obtain ⟨entries, distinct⟩ := vocabulary
  simp only [ofPairs, Keyed.ofList_of_nodup distinct]

theorem Vocabulary.read_toRecord [Stack] (vocabulary : Vocabulary) :
    read vocabulary.toRecord = .ok vocabulary := by
  have entries : (vocabulary.entries.map fun entry => (Value.text entry.1, Value.int entry.2)).mapM
      (fun entry => readEntry entry.1 entry.2) = .ok vocabulary.entries := by
    have each : ∀ entry ∈ vocabulary.entries, ((fun entry => readEntry entry.1 entry.2) ∘
        fun entry : String × Int => (Value.text entry.1, Value.int entry.2)) entry = .ok entry :=
      fun _ _ => rfl
    rw [List.mapM_map, mapM_eq_ok each, List.map_id']
  show ((vocabulary.entries.map fun entry => (Value.text entry.1, Value.int entry.2)).mapM
      (fun entry => readEntry entry.1 entry.2) >>= fun pairs => Except.ok (ofPairs pairs)) = _
  rw [entries, ok_bind, ofPairs_entries]

theorem AddedToken.read_toRecord [Stack] (token : AddedToken) :
    read token.toRecord .null = .ok token := rfl

theorem Merge.readAll_joined [Stack] (merges : List Merge) :
    readAll (.list (merges.map fun merge => .text merge.joined)) = .ok (merges.map resplit) := by
  cases merges with
  | nil => rfl
  | cons merge rest =>
      show ((merge :: rest).map fun merge => Value.text merge.joined).mapM read = _
      rw [List.mapM_map]
      exact mapM_eq_ok fun merge _ => read_joined merge

namespace Tokenizer

variable {tokenizer : Tokenizer} {depth : Nat}

/-- What is parsed from a document with a decoder and with merge rules. -/
def parsed (tokenizer : Tokenizer) (decoder : Component) (merges : List Merge) : Tokenizer where
  vocabulary := tokenizer.vocabulary
  merges := merges.map Merge.resplit
  addedTokens := tokenizer.addedTokens
  modelType := "bpe"
  decoder := some decoder
  preTokenizer := tokenizer.preTokenizer

theorem parse_engineDocument [Stack] (tokenizer : Tokenizer) (decoder : Component)
    (merges : List Merge) :
    parse (tokenizer.engineDocument decoder merges) = .ok (tokenizer.parsed decoder merges) := by
  have addedTokens : AddedToken.readAll (tokenizer.engineDocument decoder merges) =
      .ok tokenizer.addedTokens := by
    have each : ∀ token ∈ tokenizer.addedTokens, ((fun entry => AddedToken.read entry .null) ∘
        AddedToken.toRecord) token = .ok token := fun token _ => AddedToken.read_toRecord token
    show (tokenizer.addedTokens.map AddedToken.toRecord).mapM
      (fun entry => AddedToken.read entry .null) = _
    rw [List.mapM_map, mapM_eq_ok each, List.map_id']
  have preTokenizer : Component.read (tokenizer.engineDocument decoder merges) "pre_tokenizer" =
      tokenizer.preTokenizer := by
    unfold engineDocument
    cases tokenizer.preTokenizer <;> rfl
  have modelType : declaredModelType (tokenizer.engineModel merges) (merges.map Merge.resplit) =
      .ok "bpe" := by
    have lower : Text.lowercase "BPE" = "bpe" := by decide +kernel
    show Except.ok (Text.lowercase "BPE") = _
    rw [lower]
  have model : (tokenizer.engineDocument decoder merges).field "model" =
      tokenizer.engineModel merges := rfl
  have vocab : (tokenizer.engineModel merges).field? "vocab" =
      some tokenizer.vocabulary.toRecord := rfl
  have rules : (tokenizer.engineModel merges).field "merges" =
      .list (merges.map fun merge => .text merge.joined) := rfl
  have carried : Component.read (tokenizer.engineDocument decoder merges) "decoder" =
      some decoder := rfl
  have mapping : (tokenizer.engineDocument decoder merges).isMapping = true := rfl
  unfold parse
  rw [if_pos mapping]
  simp only [model, vocab, rules, Merge.readAll_joined, Vocabulary.read_toRecord, addedTokens,
    ok_bind, modelType, carried, preTokenizer]
  rfl

/-! ## Building the document again -/

theorem SendsDecoder.listsMappings {decoder : Component} (given : tokenizer.SendsDecoder decoder)
    (plain : tokenizer.IsPlain depth) : decoder.ListsMappings := by
  rcases given.known with carried | byteLevel | byteFallback
  · exact plain.lists decoder carried
  · cases byteLevel
    intro sequence
    have names : "ByteLevel" = "Sequence" := Value.text.inj (Option.some.inj sequence)
    exact absurd names (by decide)
  · cases byteFallback
    intro _ steps known _
    cases known
    refine ⟨_, rfl, ?_⟩
    intro step member
    simp only [List.mem_cons, List.not_mem_nil, or_false] at member
    rcases member with rfl | rfl | rfl
    · exact ⟨_, rfl⟩
    · exact ⟨_, rfl⟩
    · exact ⟨_, rfl⟩

/-- The decoders that may be chosen take four levels at most. -/
theorem SendsDecoder.plain {decoder : Component} (given : tokenizer.SendsDecoder decoder)
    (plain : tokenizer.IsPlain depth) (parts : 4 ≤ depth) : (Value.dict decoder).Plain depth := by
  rcases given.known with carried | byteLevel | byteFallback
  · exact plain.decoder decoder carried
  · rw [byteLevel]
    exact plain_byteLevelDecoder.mono (by omega)
  · rw [byteFallback]
    exact plain_byteFallbackDecoder.mono parts

theorem IsPlain.parsed (plain : tokenizer.IsPlain depth) (parts : 4 ≤ depth) {decoder : Component}
    (given : tokenizer.SendsDecoder decoder) (merges : List Merge) :
    (tokenizer.parsed decoder merges).IsPlain depth where
  ids := plain.ids
  decoder := by
    rintro _ ⟨⟩
    exact given.plain plain parts
  lists := by
    rintro _ ⟨⟩
    exact given.listsMappings plain
  preTokenizer := plain.preTokenizer

/-- All the rules that were usable are usable again. -/
theorem usableMerges_parsed (tokenizer : Tokenizer) (decoder : Component) :
    (tokenizer.parsed decoder tokenizer.usableMerges).usableMerges =
      tokenizer.usableMerges.map Merge.resplit := by
  show (tokenizer.usableMerges.map Merge.resplit).filter
    (fun merge => tokenizer.vocabulary.covers merge.resplit) = _
  rw [List.filter_eq_self]
  intro merge member
  obtain ⟨rule, usable, rfl⟩ := List.mem_map.1 member
  rw [Merge.resplit_resplit]
  exact (List.mem_filter.1 usable).2

theorem engineDocument_parsed (tokenizer : Tokenizer) (decoder : Component)
    (merges : List Merge) :
    (tokenizer.parsed decoder merges).engineDocument decoder (merges.map Merge.resplit) =
      tokenizer.engineDocument decoder merges := by
  have written : (merges.map Merge.resplit).map (fun merge => Value.text merge.joined) =
      merges.map fun merge => Value.text merge.joined := by
    rw [List.map_map]
    exact List.map_congr_left fun merge _ => by simp only [Function.comp, Merge.joined_resplit]
  unfold engineDocument engineModel
  rw [written]
  rfl

/-- The document of a plain tokenizer gives the tokenizer back but for unusable merge rules, the
model type and a decoder that engines do not support, and is built from what it gives again. The
components may be nested as deep as there is room for at the places that texts go through, inside
one level of the record or the document. -/
theorem engineText_stable [Stack] (plain : tokenizer.IsPlain depth) (parts : 4 ≤ depth)
    (room : Stack.HasRoom (depth + 1)) :
    ∃ text parsed, tokenizer.engineText = .ok text ∧
      (∀ levels, depth < levels → EngineSession.valueOf levels text >>= parse = .ok parsed) ∧
      parsed.vocabulary = tokenizer.vocabulary ∧
      parsed.addedTokens = tokenizer.addedTokens ∧
      parsed.preTokenizer = tokenizer.preTokenizer ∧
      parsed.vocabSize = tokenizer.vocabSize ∧
      EngineForm.isSupported (Component.value parsed.decoder) = .ok true ∧
      (EngineForm.isSupported (Component.value tokenizer.decoder) = .ok true →
        parsed.decoder = tokenizer.decoder) ∧
      parsed.engineText = .ok text := by
  have two : 2 ≤ depth := by omega
  obtain ⟨decoder, sent, given⟩ := exists_sentDocument plain two room
  obtain ⟨text, written, reads⟩ :=
    (plain.engineDocument two (given.plain plain parts) tokenizer.usableMerges).exists_text
  have rendered := written _ (room .document)
  have again : (tokenizer.parsed decoder tokenizer.usableMerges).sentDocument =
      .ok (tokenizer.engineDocument decoder tokenizer.usableMerges) := by
    obtain ⟨decoder', sent', given'⟩ :=
      exists_sentDocument (plain.parsed parts given tokenizer.usableMerges) two room
    cases given'.kept given.isSupported
    rw [sent', usableMerges_parsed, engineDocument_parsed]
  refine ⟨text, tokenizer.parsed decoder tokenizer.usableMerges, ?_, ?_, rfl, rfl, rfl, rfl,
    given.isSupported, fun carries => (given.kept carries).symm, ?_⟩
  · rw [engineText, sent, ok_bind, rendered]
  · intro levels enough
    rw [reads levels enough, ok_bind, parse_engineDocument]
  · rw [engineText, again, ok_bind, rendered]

/-- A tokenizer with rules that are read as others, a decoder that engines do not support and an
empty pre-tokenizer. -/
def assorted : Tokenizer where
  vocabulary := .ofPairs [("a b", 0), ("c", -1), ("a bc", 2), ("é\"", 3)]
  merges := [("a b", "c"), ("a", "b c"), ("", "c"), ("c", "c")]
  addedTokens := [{ id := 7, content := "</s>", special := true }]
  decoder := some [(.text "type", .text "WordPiece")]
  preTokenizer := some []

theorem isPlain_assorted : assorted.IsPlain 4 where
  ids := by
    intro id member
    have short : ∀ id ∈ ([0, -1, 2, 3, 7] : List Int), hasFewDigits id = true := by decide
    exact short id member
  decoder := by
    rintro _ ⟨⟩
    exact ⟨.object [("type", .text "WordPiece")], rfl, rfl, rfl⟩
  lists := by
    rintro _ ⟨⟩ sequence
    have names : "WordPiece" = "Sequence" := Value.text.inj (Option.some.inj sequence)
    exact absurd names (by decide)
  preTokenizer := by
    rintro _ ⟨⟩
    exact ⟨.object [], rfl, rfl, rfl⟩

theorem engineText_stable_assorted :
    assorted.IsPlain 4 ∧ ∃ text parsed, @engineText ⟨fun _ => 5⟩ assorted = .ok text ∧
      EngineSession.valueOf 5 text >>= @parse ⟨fun _ => 5⟩ = .ok parsed ∧
      parsed.vocabulary = assorted.vocabulary ∧
      parsed.addedTokens = assorted.addedTokens ∧
      parsed.preTokenizer = assorted.preTokenizer ∧
      parsed.vocabSize = assorted.vocabSize ∧
      EngineForm.isSupported (Component.value parsed.decoder) = .ok true ∧
      @engineText ⟨fun _ => 5⟩ parsed = .ok text := by
  obtain ⟨text, parsed, built, reads, vocabulary, addedTokens, preTokenizer, size, supported, _,
    again⟩ := @engineText_stable assorted 4 ⟨fun _ => 5⟩ isPlain_assorted (Nat.le_refl 4)
      fun _ => Nat.le_refl 5
  exact ⟨isPlain_assorted, text, parsed, built, reads 5 (by decide), vocabulary, addedTokens,
    preTokenizer, size, supported, again⟩

/-! ## Records beyond the limits -/

/-- There is no document for a record that comes from JSON beyond the limits. -/
theorem no_engineText_of_beyond [Stack] (json : Json) (same : tokenizer.toRecord = .ofJson json)
    (beyond : json.fits (Stack.levels .record) = false) :
    ¬ ∃ text, tokenizer.engineText = .ok text := by
  rintro ⟨text, built⟩
  obtain ⟨fault, failed⟩ := Value.exists_error_of_renderWithin_ofJson beyond
  have unwritten : tokenizer.render = .error fault := by rw [render, same, failed]
  rw [engineText, sentDocument, unwritten] at built
  cases built

/-- There is no document for an id with too many digits, however much room there is. -/
theorem no_engineText_beyond_limits :
    ¬ ∃ (stack : Stack) (text : String), @engineText stack {
      vocabulary := .ofPairs [("a", 0), ("b", -10 ^ maxIntegerDigits)] } = .ok text := by
  rintro ⟨stack, text, built⟩
  refine @no_engineText_of_beyond _ stack (.object [
    ("vocab", .object [("a", .int 0), ("b", .int (-10 ^ maxIntegerDigits))]),
    ("merges", .array []), ("added_tokens", .array []), ("model_type", .text "unknown")]) rfl ?_
    ⟨text, built⟩
  have size : 10 ^ maxIntegerDigits ≤ (-10 ^ maxIntegerDigits : Int).natAbs := by
    rw [Int.natAbs_neg, Json.natAbs_pow_ten]
  rw [← Bool.not_eq_true]
  intro fits
  have deeper := Json.fits_of_le fits (Nat.le_add_right _ 2)
  simp [Json.fits_object, Json.fits_int_of_long size] at deeper

end Tokenizer

end ConstrainedDecoding
