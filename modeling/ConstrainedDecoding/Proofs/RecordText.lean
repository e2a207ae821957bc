import ConstrainedDecoding.Proofs.EngineDocument
import ConstrainedDecoding.Proofs.JsonText

/-!
# Records of tokenizers

The record of a tokenizer comes from JSON if its components do (`Tokenizer.toRecord_eq_ofJson`), and
is sent as the text of that JSON. `Tokenizer.record_lossless` says when it comes back: if no integer
in it has too many digits and there is room for its components, and there is no text otherwise. An
engine computes the vocabulary size from the record, the tokenizer from its own ids. Both come to
the same number, and every id is below it.
-/

namespace ConstrainedDecoding

/-! ## Vocabulary sizes -/

namespace Tokenizer

variable (tokenizer : Tokenizer)

theorem vocabSize_of_ids_eq_nil (none : tokenizer.ids = []) : tokenizer.vocabSize = 0 := by
  rw [vocabSize, none]
  rfl

theorem vocabSize_of_ids_eq_cons {first : Int} {rest : List Int}
    (some : tokenizer.ids = first :: rest) : tokenizer.vocabSize = rest.foldl max first + 1 := by
  rw [vocabSize, some, List.max?_cons']

theorem lt_vocabSize {id : Int} (member : id ∈ tokenizer.ids) : id < tokenizer.vocabSize := by
  unfold vocabSize
  split
  · rename_i greatest known
    exact Int.lt_add_one_of_le ((List.max?_le_iff known).1 (Int.le_refl greatest) id member)
  · rename_i unknown
    rw [List.max?_eq_none_iff.1 unknown] at member
    cases member

end Tokenizer

namespace EngineForm

theorem greaterId_int (first second : Int) :
    greaterId (.int first) (.int second) = .ok (.int (max first second)) := by
  have order : Value.isLess (.int first) (.int second) = .ok (decide (first < second)) := by
    show Except.ok (some (compare (first * (1 : Nat)) (second * (1 : Nat))) == some .lt) = _
    simp [Int.compare_eq_lt, Bool.beq_eq_decide_eq]
  rw [greaterId, order, ok_bind]
  by_cases less : first < second
  · simp [less, max_eq_right (Int.le_of_lt less), pure, Except.pure]
  · simp [less, max_eq_left (Int.not_lt.1 less), pure, Except.pure]

theorem foldlM_greaterId (first : Int) (rest : List Int) :
    (rest.map Value.int).foldlM greaterId (.int first) = .ok (.int (rest.foldl max first)) := by
  induction rest generalizing first with
  | nil => rfl
  | cons id rest ih =>
      rw [List.map_cons, List.foldlM_cons, greaterId_int, ok_bind, ih, List.foldl_cons]

variable (tokenizer : Tokenizer)

theorem vocabularyIds_toRecord (vocabulary : Vocabulary) :
    vocabularyIds vocabulary.toRecord = .ok ((Keyed.values vocabulary.entries).map .int) := by
  rw [Vocabulary.toRecord, vocabularyIds, Keyed.values, List.map_map]
  simp [Value.entries?, Keyed.values, Function.comp_def]

theorem addedIds_toRecord :
    addedIds tokenizer.toRecord = .ok (tokenizer.addedTokens.map AddedToken.id) := by
  have each : ∀ token ∈ tokenizer.addedTokens,
      ((fun record : Value => do (← record.member "id").toInteger) ∘ AddedToken.toRecord) token =
        .ok token.id := fun _ _ => rfl
  rw [addedIds, memberOr_addedTokens, ok_bind, Value.items, ok_bind, List.mapM_map,
    mapM_eq_ok each]

/-- An engine computes the size of the vocabulary that the tokenizer does. -/
theorem vocabSize_toRecord : vocabSize tokenizer.toRecord = .ok (.int tokenizer.vocabSize) := by
  have together : (Keyed.values tokenizer.vocabulary.entries).map Value.int ++
      (tokenizer.addedTokens.map AddedToken.id).map Value.int = tokenizer.ids.map Value.int := by
    rw [Tokenizer.ids, List.map_append]
  rw [vocabSize, memberOr_vocab, ok_bind, vocabularyIds_toRecord, ok_bind, addedIds_toRecord,
    ok_bind, together]
  cases known : tokenizer.ids with
  | nil =>
      rw [tokenizer.vocabSize_of_ids_eq_nil known]
      rfl
  | cons first rest =>
      rw [tokenizer.vocabSize_of_ids_eq_cons known, List.map_cons]
      simp only [foldlM_greaterId, ok_bind, successor]

end EngineForm

/-! ## Records as JSON -/

theorem Value.ofItems_eq (items : List Json) : ofItems items = items.map ofJson := by
  induction items with
  | nil => rfl
  | cons item rest ih => rw [ofItems, ih, List.map_cons]

namespace AddedToken

/-- The record of an added token as JSON. -/
def toJson (token : AddedToken) : Json :=
  .object [
    ("id", .int token.id),
    ("content", .text token.content),
    ("single_word", .bool token.singleWord),
    ("lstrip", .bool token.leftStrip),
    ("rstrip", .bool token.rightStrip),
    ("normalized", .bool token.normalized),
    ("special", .bool token.special)]

variable (token : AddedToken)

theorem toRecord_eq_ofJson : token.toRecord = .ofJson token.toJson := rfl

theorem isPlain_toJson : token.toJson.isPlain = true := rfl

theorem fits_toJson (depth : Nat) : token.toJson.fits (depth + 1) = hasFewDigits token.id := by
  rw [toJson, Json.fits_object]
  simp [Json.fits, Json.hasShortIntegers, Json.all, Json.nesting]

end AddedToken

namespace Tokenizer

/-- The record of a tokenizer as JSON, with the members of its components. -/
def recordJson (tokenizer : Tokenizer) (decoder preTokenizer : Option (List (String × Json))) :
    Json :=
  .object ([
    ("vocab", .object (tokenizer.vocabulary.entries.map fun entry => (entry.1, .int entry.2))),
    ("merges", .array (tokenizer.merges.map fun merge => .text merge.joined)),
    ("added_tokens", .array (tokenizer.addedTokens.map AddedToken.toJson)),
    ("model_type", .text tokenizer.modelType)] ++
    decoder.toList.map (fun members => ("decoder", .object members)) ++
    preTokenizer.toList.map fun members => ("pre_tokenizer", .object members))

variable {tokenizer : Tokenizer} {decoder preTokenizer : Option (List (String × Json))}

theorem toRecord_eq_ofJson (carried : tokenizer.decoder = decoder.map Value.ofMembers)
    (split : tokenizer.preTokenizer = preTokenizer.map Value.ofMembers) :
    tokenizer.toRecord = .ofJson (tokenizer.recordJson decoder preTokenizer) := by
  have vocabulary : Value.dict (tokenizer.vocabulary.entries.map fun entry =>
      (.text entry.1, .int entry.2)) = .ofJson (.object
        (tokenizer.vocabulary.entries.map fun entry => (entry.1, .int entry.2))) := by
    rw [Value.ofJson, Value.ofMembers_eq, List.map_map]
    rfl
  have merges : Value.list (tokenizer.merges.map fun merge => .text merge.joined) =
      .ofJson (.array (tokenizer.merges.map fun merge => .text merge.joined)) := by
    rw [Value.ofJson, Value.ofItems_eq, List.map_map]
    rfl
  have addedTokens : Value.list (tokenizer.addedTokens.map AddedToken.toRecord) =
      .ofJson (.array (tokenizer.addedTokens.map AddedToken.toJson)) := by
    rw [Value.ofJson, Value.ofItems_eq, List.map_map]
    rfl
  rw [toRecord, carried, split, vocabulary, merges, addedTokens, recordJson, Value.ofJson]
  cases decoder <;> cases preTokenizer <;> rfl

theorem isPlain_recordJson :
    (tokenizer.recordJson decoder preTokenizer).isPlain = true ↔
      (∀ members, decoder = some members → (Json.object members).isPlain = true) ∧
      ∀ members, preTokenizer = some members → (Json.object members).isPlain = true := by
  have vocabulary : (Json.object (tokenizer.vocabulary.entries.map fun entry =>
      (entry.1, .int entry.2))).isPlain = true := by
    have names : Keyed.keys (tokenizer.vocabulary.entries.map fun entry =>
        (entry.1, Json.int entry.2)) = Keyed.keys tokenizer.vocabulary.entries := by
      rw [Keyed.keys, List.map_map]
      rfl
    rw [Json.isPlain_object, names, decide_eq_true tokenizer.vocabulary.distinct, List.all_map]
    exact List.all_eq_true.2 fun _ _ => rfl
  have merges : (Json.array (tokenizer.merges.map fun merge => .text merge.joined)).isPlain =
      true := by
    rw [Json.isPlain_array, List.all_map]
    exact List.all_eq_true.2 fun _ _ => rfl
  have addedTokens : (Json.array (tokenizer.addedTokens.map AddedToken.toJson)).isPlain =
      true := by
    rw [Json.isPlain_array, List.all_map]
    exact List.all_eq_true.2 fun token _ => token.isPlain_toJson
  have modelType : (Json.text tokenizer.modelType).isPlain = true := rfl
  rw [recordJson, Json.isPlain_object]
  cases decoder <;> cases preTokenizer <;>
    simp [Keyed.keys, vocabulary, merges, addedTokens, modelType]

/-- Added tokens are the deepest of what is always there, three levels in all. -/
theorem fits_recordJson (depth : Nat) :
    (tokenizer.recordJson decoder preTokenizer).fits (depth + 3) = true ↔
      (∀ id ∈ tokenizer.ids, hasFewDigits id = true) ∧
      (∀ members, decoder = some members → (Json.object members).fits (depth + 2) = true) ∧
      ∀ members, preTokenizer = some members →
        (Json.object members).fits (depth + 2) = true := by
  have vocabulary (depth : Nat) : (Json.object (tokenizer.vocabulary.entries.map fun entry =>
      (entry.1, .int entry.2))).fits (depth + 1) =
        (Keyed.values tokenizer.vocabulary.entries).all hasFewDigits := by
    rw [Json.fits_object, List.all_map, Keyed.values, List.all_map]
    simp [Function.comp_def, Json.fits_int]
  have merges (depth : Nat) :
      (Json.array (tokenizer.merges.map fun merge => .text merge.joined)).fits (depth + 1) =
        true := by
    rw [Json.fits_array, List.all_map]
    exact List.all_eq_true.2 fun _ _ => rfl
  have addedTokens (depth : Nat) :
      (Json.array (tokenizer.addedTokens.map AddedToken.toJson)).fits (depth + 2) =
        (tokenizer.addedTokens.map AddedToken.id).all hasFewDigits := by
    rw [Json.fits_array, List.all_map, List.all_map]
    simp [Function.comp_def, AddedToken.fits_toJson]
  have modelType (depth : Nat) : (Json.text tokenizer.modelType).fits depth = true := rfl
  have ids : (∀ id ∈ tokenizer.ids, hasFewDigits id = true) ↔
      (Keyed.values tokenizer.vocabulary.entries).all hasFewDigits = true ∧
        (tokenizer.addedTokens.map AddedToken.id).all hasFewDigits = true := by
    rw [List.all_eq_true, List.all_eq_true, Tokenizer.ids, List.forall_mem_append]
  rw [ids, recordJson, Json.fits_object]
  cases decoder <;> cases preTokenizer <;>
    simp [vocabulary, merges, addedTokens, modelType, and_assoc]

/-- Each component is a level below the record. -/
theorem fits_components_of_recordJson {depth : Nat}
    (fits : (tokenizer.recordJson decoder preTokenizer).fits (depth + 1) = true) :
    (∀ members, decoder = some members → (Json.object members).fits depth = true) ∧
    ∀ members, preTokenizer = some members → (Json.object members).fits depth = true := by
  rw [recordJson, Json.fits_object, List.all_eq_true] at fits
  constructor
  · rintro members rfl
    exact fits ("decoder", .object members) (by simp)
  · rintro members rfl
    exact fits ("pre_tokenizer", .object members) (by simp)

/-! ## Records that come back -/

/-- The members of a component that is known, where each component that is known has some. -/
theorem exists_members {component : Option Component} {good : List (String × Json) → Prop}
    (each : ∀ known, component = some known →
      ∃ members, Value.ofMembers members = known ∧ good members) :
    ∃ members : Option (List (String × Json)), component = members.map Value.ofMembers ∧
      ∀ known, members = some known → good known := by
  cases component with
  | none => exact ⟨none, rfl, nofun⟩
  | some known =>
      obtain ⟨members, rfl, holds⟩ := each known rfl
      refine ⟨some members, rfl, ?_⟩
      rintro _ ⟨⟩
      exact holds

end Tokenizer

/-- A component that comes from a JSON object without floating-point numbers and names given
twice. -/
def Component.IsPlain (component : Component) : Prop :=
  ∃ members, Value.ofMembers members = component ∧ (Json.object members).isPlain = true

theorem Component.exists_members_of_plain {component : Component} {depth : Nat}
    (plain : (Value.dict component).Plain depth) :
    ∃ members, Value.ofMembers members = component ∧
      (Json.object members).isPlain = true ∧ (Json.object members).fits depth = true := by
  obtain ⟨json, same, good, within⟩ := plain
  cases json with
  | object members => exact ⟨members, Value.dict.inj same, good, within⟩
  | _ => cases same

namespace Tokenizer

/-- The components that are known come from JSON objects without floating-point numbers. -/
structure HasPlainComponents (tokenizer : Tokenizer) : Prop where
  decoder : ∀ decoder, tokenizer.decoder = some decoder → decoder.IsPlain
  preTokenizer : ∀ preTokenizer, tokenizer.preTokenizer = some preTokenizer →
    preTokenizer.IsPlain

/-- No integer has too many digits to be written, and no component is nested deeper than `depth`
levels. -/
structure IsWithinLimits (depth : Nat) (tokenizer : Tokenizer) : Prop where
  ids : ∀ id ∈ tokenizer.ids, hasFewDigits id = true
  decoder : ∀ decoder, tokenizer.decoder = some decoder → (Value.dict decoder).Plain depth
  preTokenizer : ∀ preTokenizer, tokenizer.preTokenizer = some preTokenizer →
    (Value.dict preTokenizer).Plain depth

section

variable [Stack] {tokenizer : Tokenizer} {depth : Nat}

/-- The record takes a level around its components. -/
theorem IsWithinLimits.exists_text (within : tokenizer.IsWithinLimits depth) (parts : 2 ≤ depth)
    (writable : depth < Stack.levels .record) :
    ∃ text, tokenizer.render = .ok text ∧
      ∀ levels, depth < levels → EngineSession.valueOf levels text = .ok tokenizer.toRecord := by
  obtain ⟨decoder, carried, decoderFits⟩ := exists_members fun known same =>
    Component.exists_members_of_plain (within.decoder known same)
  obtain ⟨preTokenizer, split, preTokenizerFits⟩ := exists_members fun known same =>
    Component.exists_members_of_plain (within.preTokenizer known same)
  have plain : (tokenizer.recordJson decoder preTokenizer).isPlain = true :=
    isPlain_recordJson.2 ⟨fun members same => (decoderFits members same).1,
      fun members same => (preTokenizerFits members same).1⟩
  obtain ⟨rest, rfl⟩ := Nat.exists_eq_add_of_le' parts
  have fits : (tokenizer.recordJson decoder preTokenizer).fits (rest + 3) = true :=
    (fits_recordJson rest).2 ⟨within.ids, fun members same => (decoderFits members same).2,
      fun members same => (preTokenizerFits members same).2⟩
  have same := toRecord_eq_ofJson carried split
  refine ⟨(tokenizer.recordJson decoder preTokenizer).render, ?_, ?_⟩
  · rw [render, same]
    exact Value.renderWithin_ofJson (Json.fits_of_le fits writable)
  · intro levels readable
    rw [same]
    exact Value.valueOf_render plain (Json.fits_of_le fits readable)

theorem render_eq_error (decoder preTokenizer : Option (List (String × Json)))
    (carried : tokenizer.decoder = decoder.map Value.ofMembers)
    (split : tokenizer.preTokenizer = preTokenizer.map Value.ofMembers)
    (beyond : ¬ (tokenizer.recordJson decoder preTokenizer).fits (Stack.levels .record) = true) :
    tokenizer.render = .error .longInteger ∨ tokenizer.render = .error .deepNesting := by
  rw [render, toRecord_eq_ofJson carried split]
  exact Value.renderWithin_ofJson_of_beyond (Bool.not_eq_true _ ▸ beyond)

theorem HasPlainComponents.exists_error (plain : tokenizer.HasPlainComponents)
    (beyond : ∀ depth < Stack.levels .record, ¬ tokenizer.IsWithinLimits depth) :
    tokenizer.render = .error .longInteger ∨ tokenizer.render = .error .deepNesting := by
  obtain ⟨decoder, carried, decoderPlain⟩ := exists_members plain.decoder
  obtain ⟨preTokenizer, split, preTokenizerPlain⟩ := exists_members plain.preTokenizer
  apply render_eq_error decoder preTokenizer carried split
  intro fits
  cases room : Stack.levels .record with
  | zero =>
      rw [room, recordJson, Json.fits_object_zero] at fits
      cases fits
  | succ depth =>
      rw [room] at fits
      obtain ⟨decoderFits, preTokenizerFits⟩ := fits_components_of_recordJson fits
      have ids := ((fits_recordJson depth).1 (Json.fits_of_le fits (by omega))).1
      refine beyond depth (by omega) ⟨ids, fun known same => ?_, fun known same => ?_⟩
      · obtain ⟨members, isSome, rfl⟩ := Option.map_eq_some_iff.1 (carried.symm.trans same)
        exact ⟨.object members, rfl, decoderPlain members isSome, decoderFits members isSome⟩
      · obtain ⟨members, isSome, rfl⟩ := Option.map_eq_some_iff.1 (split.symm.trans same)
        exact ⟨.object members, rfl, preTokenizerPlain members isSome,
          preTokenizerFits members isSome⟩

/-- The text of a record gives the record back, as long as no integer has too many digits and there
is room for the components where the record is written and where it is read. Without that there is
no text. Both sides agree on the size of the vocabulary, which is above every id. -/
theorem record_lossless (plain : tokenizer.HasPlainComponents) :
    (∀ depth, 2 ≤ depth → tokenizer.IsWithinLimits depth → depth < Stack.levels .record →
      ∃ text, tokenizer.render = .ok text ∧
        ∀ levels, depth < levels → EngineSession.valueOf levels text = .ok tokenizer.toRecord) ∧
    ((∀ depth < Stack.levels .record, ¬ tokenizer.IsWithinLimits depth) →
      tokenizer.render = .error .longInteger ∨ tokenizer.render = .error .deepNesting) ∧
    EngineForm.vocabSize tokenizer.toRecord = .ok (.int tokenizer.vocabSize) ∧
    (∀ id ∈ tokenizer.ids, id < tokenizer.vocabSize) ∧
    (tokenizer.ids = [] → tokenizer.vocabSize = 0) := by
  refine ⟨?comesBack, ?unwritten, ?agree, ?above, ?empty⟩
  case comesBack => exact fun _ parts within writable => within.exists_text parts writable
  case unwritten => exact plain.exists_error
  case agree => exact EngineForm.vocabSize_toRecord tokenizer
  case above => exact fun _ => tokenizer.lt_vocabSize
  case empty => exact tokenizer.vocabSize_of_ids_eq_nil

end

/-- A tokenizer with tokens that are escaped in texts and a decoder. -/
def escaped : Tokenizer where
  vocabulary := .ofPairs [("\"\\\n", 5), ("\u2028", -3), ("𐍈", 0)]
  merges := [("a b", "c")]
  addedTokens := [{ id := 9, content := "</s>", special := true }]
  decoder := some [(.text "type", .text "ByteLevel")]

theorem hasPlainComponents_escaped : escaped.HasPlainComponents where
  decoder := by
    rintro _ ⟨⟩
    exact ⟨[("type", .text "ByteLevel")], rfl, rfl⟩
  preTokenizer := nofun

theorem isWithinLimits_escaped : escaped.IsWithinLimits 2 where
  ids := by
    have short : ∀ id ∈ ([5, -3, 0, 9] : List Int), hasFewDigits id = true := by decide
    exact short
  decoder := by
    rintro _ ⟨⟩
    exact ⟨.object [("type", .text "ByteLevel")], rfl, rfl, rfl⟩
  preTokenizer := nofun

theorem record_lossless_escaped :
    escaped.HasPlainComponents ∧ escaped.IsWithinLimits 2 ∧
    (∃ text, @render ⟨fun _ => 3⟩ escaped = .ok text ∧
      EngineSession.valueOf 3 text = .ok escaped.toRecord) ∧
    EngineForm.vocabSize escaped.toRecord = .ok (.int 10) := by
  obtain ⟨comesBack, _, agree, _, _⟩ :=
    @record_lossless ⟨fun _ => 3⟩ escaped hasPlainComponents_escaped
  obtain ⟨text, written, reads⟩ :=
    comesBack 2 (by decide) isWithinLimits_escaped (by decide)
  exact ⟨hasPlainComponents_escaped, isWithinLimits_escaped,
    ⟨text, written, reads 3 (by decide)⟩, agree⟩

/-! ## Records beyond the limits -/

/-- A record with an id that has too many digits has no text, however much room there is. -/
theorem no_record_beyond_limits :
    ∃ tokenizer : Tokenizer, tokenizer.HasPlainComponents ∧
      tokenizer.ids = [0, -10 ^ maxIntegerDigits] ∧
      ¬ ∃ (stack : Stack) (text : String), @render stack tokenizer = .ok text := by
  refine ⟨{ vocabulary := .ofPairs [("a", 0), ("b", -10 ^ maxIntegerDigits)] }, ?_, rfl, ?_⟩
  · constructor <;> rintro _ ⟨⟩
  · rintro ⟨stack, text, written⟩
    have beyond := @render_eq_error stack
      { vocabulary := .ofPairs [("a", 0), ("b", -10 ^ maxIntegerDigits)] } none none rfl rfl
    rw [written] at beyond
    refine (beyond fun fits => ?_).elim nofun nofun
    have short : hasFewDigits (-10 ^ maxIntegerDigits) = true :=
      ((fits_recordJson _).1 (Json.fits_of_le fits (Nat.le_add_right _ 3))).1 _
        (List.mem_cons_of_mem _ List.mem_cons_self)
    rw [Json.hasFewDigits_iff, Int.natAbs_neg, Json.natAbs_pow_ten] at short
    exact Nat.lt_irrefl _ short

end Tokenizer

end ConstrainedDecoding
