import ConstrainedDecoding.Proofs.DocumentFaults
import ConstrainedDecoding.Proofs.EngineDocument

/-!
# Null fields

Documents that are written by programs are full of nulls. `Value.withoutNullFields` is a document
without the entries that are null, in itself, in its model and in the added tokens that it lists.
Both readers read it as they read the document (`Tokenizer.readers_ignore_nulls`): all fields are
read through `Value.field?`, to which a null field and an absent one are the same
(`Value.field?_withoutNulls`).
-/

namespace ConstrainedDecoding

namespace Value

/-! ## Documents without null entries -/

/-- A mapping with its entries changed. -/
def changeEntries (change : List (Value × Value) → List (Value × Value)) : Value → Value
  | dict entries => dict (change entries)
  | view entries => view (change entries)
  | other => other

/-- A mapping without the entries that are null. -/
def withoutNulls : Value → Value :=
  changeEntries (List.filter fun entry => !entry.2.isNull)

/-- An entry with its value changed, if it is the entry of a name. -/
def changeNamed (name : String) (change : Value → Value) (entry : Value × Value) : Value × Value :=
  (entry.1, if entry.1 == text name then change entry.2 else entry.2)

/-- A mapping with the value of a name changed. -/
def changeField (name : String) (change : Value → Value) : Value → Value :=
  changeEntries (List.map (changeNamed name change))

/-- A mapping with all its values changed. -/
def changeValues (change : Value → Value) : Value → Value :=
  changeEntries (List.map fun entry => (entry.1, change entry.2))

/-- A list with all its items changed. -/
def changeItems (change : Value → Value) : Value → Value
  | list items => list (items.map change)
  | other => other

/-- A document without the entries that are null: in the document itself, in its model, and in the
added tokens, in whichever way they are listed. -/
def withoutNullFields (document : Value) : Value :=
  document.withoutNulls
    |>.changeField "model" withoutNulls
    |>.changeField "added_tokens" (changeItems withoutNulls)
    |>.changeField "added_tokens_decoder" (changeValues withoutNulls)

/-- No two keys of a mapping are the same. -/
def HasDistinctKeys (value : Value) : Prop :=
  ∀ entries, value.entries? = some entries →
    (Keyed.keys entries).Pairwise fun key other => (key == other) = false

/-- The mappings that lose null entries have distinct keys. -/
structure HasDistinctFields (document : Value) : Prop where
  keys : document.HasDistinctKeys
  model : (document.field "model").HasDistinctKeys
  addedTokens : ∀ items, document.field "added_tokens" = list items →
    ∀ entry ∈ items, entry.HasDistinctKeys
  addedTokensById : ∀ entries, (document.field "added_tokens_decoder").entries? = some entries →
    ∀ entry ∈ entries, entry.2.HasDistinctKeys

/-- The change makes nothing null that was not, and the other way round. -/
def KeepsNull (change : Value → Value) : Prop :=
  ∀ value, (change value).isNull = value.isNull

/-! ## Entries -/

variable {value : Value} {change : List (Value × Value) → List (Value × Value)}

theorem entries?_changeEntries :
    (value.changeEntries change).entries? = value.entries?.map change := by
  cases value <;> rfl

theorem isMapping_changeEntries : (value.changeEntries change).isMapping = value.isMapping := by
  rw [isMapping, entries?_changeEntries, Option.isSome_map, isMapping]

theorem changeEntries_of_unmapped (unmapped : value.entries? = none) :
    value.changeEntries change = value := by
  cases value with
  | dict entries | view entries => cases unmapped
  | _ => rfl

theorem keepsNull_changeEntries (change : List (Value × Value) → List (Value × Value)) :
    KeepsNull (changeEntries change) := by
  intro value
  cases value <;> rfl

theorem keepsNull_withoutNulls : KeepsNull withoutNulls :=
  keepsNull_changeEntries _

theorem keepsNull_changeValues (change : Value → Value) : KeepsNull (changeValues change) :=
  keepsNull_changeEntries _

theorem keepsNull_changeItems (change : Value → Value) : KeepsNull (changeItems change) := by
  intro value
  cases value <;> rfl

theorem field?_of_entries {entries : List (Value × Value)} (known : value.entries? = some entries)
    (name : String) :
    value.field? name = (lookup entries name).filter fun found => !found.isNull := by
  rw [field?, known]
  dsimp only
  cases lookup entries name with
  | none => rfl
  | some found => cases found <;> rfl

theorem lookup_cons (entry : Value × Value) (rest : List (Value × Value)) (name : String) :
    lookup (entry :: rest) name = if entry.1 == text name then some entry.2 else lookup rest name :=
  rfl

/-- A name that differs from all keys has no value. -/
theorem lookup_eq_none {entries : List (Value × Value)} {name : String}
    (others : ∀ key ∈ Keyed.keys entries, (text name == key) = false) :
    lookup entries name = none := by
  induction entries with
  | nil => rfl
  | cons entry rest ih =>
      obtain ⟨first, others⟩ := List.forall_mem_cons.1 others
      rw [lookup_cons, if_neg, ih others]
      intro same
      rw [EngineForm.eq_text_of_beq same, text_beq, beq_self_eq_true] at first
      cases first

/-- Without distinct keys the entry of a null could have hidden another one. -/
theorem lookup_withoutNulls {entries : List (Value × Value)}
    (distinct : (Keyed.keys entries).Pairwise fun key other => (key == other) = false)
    (name : String) :
    (lookup (entries.filter fun entry => !entry.2.isNull) name).filter
        (fun found => !found.isNull) =
      (lookup entries name).filter fun found => !found.isNull := by
  induction entries with
  | nil => rfl
  | cons entry rest ih =>
      obtain ⟨others, distinct⟩ := List.pairwise_cons.1 distinct
      rw [List.filter_cons, lookup_cons]
      cases isNull : entry.2.isNull with
      | false =>
          rw [Bool.not_false, if_pos rfl, lookup_cons]
          split_ifs
          · rfl
          · exact ih distinct
      | true =>
          rw [Bool.not_true, if_neg Bool.false_ne_true, ih distinct]
          split_ifs with same
          · rw [lookup_eq_none (EngineForm.eq_text_of_beq same ▸ others), Option.filter_some,
              isNull]
            rfl
          · rfl

theorem lookup_changeNamed (entries : List (Value × Value)) (changed name : String)
    (change : Value → Value) :
    lookup (entries.map (changeNamed changed change)) name =
      (lookup entries name).map fun found => if name = changed then change found else found := by
  induction entries with
  | nil => rfl
  | cons entry rest ih =>
      rw [List.map_cons, lookup_cons, lookup_cons, ih]
      show (if (entry.1 == text name) = true then some (changeNamed changed change entry).2
        else _) = _
      by_cases same : (entry.1 == text name) = true
      · rw [if_pos same, if_pos same, Option.map_some, changeNamed,
          EngineForm.eq_text_of_beq same, text_beq]
        simp only [beq_iff_eq]
      · rw [if_neg same, if_neg same]

/-! ## Fields -/

theorem field?_withoutNulls (distinct : value.HasDistinctKeys) (name : String) :
    value.withoutNulls.field? name = value.field? name := by
  cases known : value.entries? with
  | none => rw [withoutNulls, changeEntries_of_unmapped known]
  | some entries =>
      have kept : value.withoutNulls.entries? =
          some (entries.filter fun entry => !entry.2.isNull) := by
        rw [withoutNulls, entries?_changeEntries, known, Option.map_some]
      rw [field?_of_entries kept, field?_of_entries known,
        lookup_withoutNulls (distinct entries known)]

variable {changed name : String} {change : Value → Value}

theorem entries?_changeField {entries : List (Value × Value)}
    (known : value.entries? = some entries) :
    (value.changeField changed change).entries? =
      some (entries.map (changeNamed changed change)) := by
  rw [changeField, entries?_changeEntries, known, Option.map_some]

theorem field?_changeField_of_ne (different : name ≠ changed) :
    (value.changeField changed change).field? name = value.field? name := by
  cases known : value.entries? with
  | none => rw [changeField, changeEntries_of_unmapped known]
  | some entries =>
      rw [field?_of_entries (entries?_changeField known), field?_of_entries known,
        lookup_changeNamed]
      simp only [if_neg different, Option.map_id']

theorem field?_changeField_self (mapping : value.isMapping = true)
    (keeps : KeepsNull change) :
    (value.changeField changed change).field? changed = (value.field? changed).map change := by
  obtain ⟨entries, known⟩ := Option.isSome_iff_exists.1 mapping
  rw [field?_of_entries (entries?_changeField known), field?_of_entries known, lookup_changeNamed]
  simp only [if_pos, Option.filter_map, Function.comp_def, keeps _]

theorem isMapping_changeField :
    (value.changeField changed change).isMapping = value.isMapping :=
  isMapping_changeEntries

/-! ## Fields of a document without null entries -/

variable {document : Value}

theorem isMapping_withoutNulls (value : Value) :
    value.withoutNulls.isMapping = value.isMapping :=
  isMapping_changeEntries

theorem isMapping_withoutNullFields (document : Value) :
    document.withoutNullFields.isMapping = document.isMapping := by
  rw [withoutNullFields, isMapping_changeField, isMapping_changeField, isMapping_changeField,
    isMapping_withoutNulls]

theorem field?_withoutNullFields (distinct : document.HasDistinctKeys)
    (other : name ∉ ["model", "added_tokens", "added_tokens_decoder"]) :
    document.withoutNullFields.field? name = document.field? name := by
  simp only [List.mem_cons, List.not_mem_nil, or_false, not_or] at other
  rw [withoutNullFields, field?_changeField_of_ne other.2.2, field?_changeField_of_ne other.2.1,
    field?_changeField_of_ne other.1, field?_withoutNulls distinct]

section Mapping

variable (mapping : document.isMapping = true) (distinct : document.HasDistinctKeys)
include mapping distinct

theorem field?_model :
    document.withoutNullFields.field? "model" = (document.field? "model").map withoutNulls := by
  rw [withoutNullFields, field?_changeField_of_ne (by decide), field?_changeField_of_ne (by decide),
    field?_changeField_self ((isMapping_withoutNulls document).trans mapping)
      keepsNull_withoutNulls,
    field?_withoutNulls distinct]

theorem field?_addedTokens :
    document.withoutNullFields.field? "added_tokens" =
      (document.field? "added_tokens").map (changeItems withoutNulls) := by
  have isMapping := (isMapping_withoutNulls document).trans mapping
  rw [withoutNullFields, field?_changeField_of_ne (by decide),
    field?_changeField_self (isMapping_changeField.trans isMapping) (keepsNull_changeItems _),
    field?_changeField_of_ne (by decide), field?_withoutNulls distinct]

theorem field?_addedTokensById :
    document.withoutNullFields.field? "added_tokens_decoder" =
      (document.field? "added_tokens_decoder").map (changeValues withoutNulls) := by
  have isMapping := (isMapping_withoutNulls document).trans mapping
  rw [withoutNullFields, field?_changeField_self
      (isMapping_changeField.trans (isMapping_changeField.trans isMapping))
      (keepsNull_changeValues _),
    field?_changeField_of_ne (by decide), field?_changeField_of_ne (by decide),
    field?_withoutNulls distinct]

end Mapping

theorem entries?_addedTokensById (mapping : document.isMapping = true)
    (distinct : document.HasDistinctKeys) :
    (document.withoutNullFields.field "added_tokens_decoder").entries? =
      (document.field "added_tokens_decoder").entries?.map
        (List.map fun entry => (entry.1, entry.2.withoutNulls)) := by
  rw [field, field?_addedTokensById mapping distinct, field]
  cases document.field? "added_tokens_decoder" with
  | none => rfl
  | some given => exact entries?_changeEntries

/-- The model has the same fields as before. -/
theorem field?_model_withoutNullFields (mapping : document.isMapping = true)
    (distinct : document.HasDistinctFields) (name : String) :
    (document.withoutNullFields.field "model").field? name =
      (document.field "model").field? name := by
  have model := distinct.model
  rw [field] at model ⊢
  rw [field?_model mapping distinct.keys, field]
  cases given : document.field? "model" with
  | none => rfl
  | some value =>
      rw [given] at model
      exact field?_withoutNulls model name

end Value

/-! ## Readers -/

namespace AddedToken

/-- An added token is read field by field. -/
theorem read_withoutNulls [Stack] {entry : Value} (distinct : entry.HasDistinctKeys) (id : Value) :
    read entry.withoutNulls id = read entry id := by
  simp only [read, flag, Value.field, Value.field?_withoutNulls distinct]

/-- Entries are put in order by their keys, whatever stands under them. -/
theorem byId_map (change : Value → Value) (entries : List (Value × Value)) :
    byId (entries.map fun entry => (entry.1, change entry.2)) =
      (byId entries).map (List.map fun entry => (entry.1, change entry.2)) := by
  have keyed (entry : Value × Value) :
      (do return (← entry.1.toInteger, entry.1, change entry.2) : Except Fault _) =
        (do return (← entry.1.toInteger, entry) : Except Fault _).map
          fun pair => (pair.1, pair.2.1, change pair.2.2) := by
    cases entry.1.toInteger <;> rfl
  have sorted (pairs : List (Int × Value × Value)) :
      (pairs.map fun pair => (pair.1, pair.2.1, change pair.2.2)).mergeSort
          (fun a b => a.1 ≤ b.1) =
        (pairs.mergeSort fun a b => a.1 ≤ b.1).map
          fun pair => (pair.1, pair.2.1, change pair.2.2) := by
    refine (List.map_mergeSort ?_).symm
    intro a _ b _
    rfl
  unfold byId
  rw [List.mapM_map]
  simp only [Function.comp_def, keyed, mapM_map_value]
  cases entries.mapM fun entry => (do return (← entry.1.toInteger, entry) : Except Fault _) with
  | error fault => rfl
  | ok pairs =>
      show Except.ok _ = Except.ok _
      rw [sorted, List.map_map, List.map_map]
      rfl

theorem mapM_read_withoutNulls [Stack] {items : List Value}
    (distinct : ∀ entry ∈ items, entry.HasDistinctKeys) :
    (items.map Value.withoutNulls).mapM (fun entry => read entry .null) =
      items.mapM fun entry => read entry .null := by
  rw [List.mapM_map]
  exact mapM_congr fun entry member => read_withoutNulls (distinct entry member) .null

theorem mapM_readById_withoutNulls [Stack] {entries : List (Value × Value)}
    (distinct : ∀ entry ∈ entries, entry.2.HasDistinctKeys) :
    (byId (entries.map fun entry => (entry.1, entry.2.withoutNulls)) >>=
        List.mapM fun entry => read entry.2 entry.1) =
      byId entries >>= List.mapM fun entry => read entry.2 entry.1 := by
  rw [byId_map]
  cases ordered : byId entries with
  | error fault => rfl
  | ok sorted =>
      show (sorted.map fun entry => (entry.1, entry.2.withoutNulls)).mapM
        (fun entry => read entry.2 entry.1) = sorted.mapM fun entry => read entry.2 entry.1
      rw [List.mapM_map]
      refine mapM_congr fun entry member => ?_
      have among := (perm_of_byId ordered).mem_iff.1 member
      exact read_withoutNulls (distinct entry among) entry.1

theorem readAll_withoutNullFields [Stack] {document : Value} (mapping : document.isMapping = true)
    (distinct : document.HasDistinctFields) :
    readAll document.withoutNullFields = readAll document := by
  have inList := distinct.addedTokens
  have inMapping := distinct.addedTokensById
  unfold readAll
  rw [Value.field?_addedTokens mapping distinct.keys,
    Value.entries?_addedTokensById mapping distinct.keys]
  rw [Value.field] at inList
  cases listed : document.field? "added_tokens" with
  | some given =>
      rw [listed] at inList
      cases given with
      | list items => exact mapM_read_withoutNulls (inList items rfl)
      | _ => rfl
  | none =>
      cases keyed : (document.field "added_tokens_decoder").entries? with
      | none => rfl
      | some entries => exact mapM_readById_withoutNulls (inMapping entries keyed)

end AddedToken

theorem Component.read_withoutNullFields {document : Value} {name : String}
    (distinct : document.HasDistinctKeys)
    (other : name ∉ ["model", "added_tokens", "added_tokens_decoder"]) :
    read document.withoutNullFields name = read document name := by
  rw [read, Value.field, Value.field?_withoutNullFields distinct other, ← Value.field, ← read]

namespace Tokenizer

variable {document : Value}

section Reading

variable (mapping : document.isMapping = true) (distinct : document.HasDistinctFields)
include mapping distinct

theorem model_withoutNullFields (name : String) :
    (document.withoutNullFields.field "model").field name =
      (document.field "model").field name := by
  rw [Value.field, Value.field?_model_withoutNullFields mapping distinct, ← Value.field]

theorem resolve_withoutNullFields [Stack] :
    Vocabulary.resolve document.withoutNullFields = Vocabulary.resolve document := by
  have stays := (Value.isMapping_withoutNullFields document).trans mapping
  unfold Vocabulary.resolve Vocabulary.fromAccessor?
  rw [if_pos mapping, if_pos stays, Value.field?_model_withoutNullFields mapping distinct,
    Value.field?_withoutNullFields distinct.keys (by decide)]

theorem extract_withoutNullFields
    [Stack] : extract document.withoutNullFields = extract document := by
  have stays := (Value.isMapping_withoutNullFields document).trans mapping
  unfold extract
  rw [resolve_withoutNullFields mapping distinct, model_withoutNullFields mapping distinct,
    AddedToken.readAll_withoutNullFields mapping distinct,
    Component.document?_of_mapping mapping, Component.document?_of_mapping stays]
  simp only [ok_bind, Option.bind_some]
  rw [Component.read_withoutNullFields distinct.keys (by decide),
    Component.read_withoutNullFields distinct.keys (by decide)]

theorem parse_withoutNullFields [Stack] : parse document.withoutNullFields = parse document := by
  have stays := (Value.isMapping_withoutNullFields document).trans mapping
  unfold parse declaredModelType
  rw [if_pos mapping, if_pos stays]
  dsimp only
  rw [Value.field?_model_withoutNullFields mapping distinct,
    model_withoutNullFields mapping distinct, model_withoutNullFields mapping distinct,
    AddedToken.readAll_withoutNullFields mapping distinct,
    Component.read_withoutNullFields distinct.keys (by decide),
    Component.read_withoutNullFields distinct.keys (by decide)]

end Reading

/-- A document is read the same without its null entries, or refused with the same fault. -/
theorem readers_ignore_nulls [Stack] (mapping : document.isMapping = true)
    (distinct : document.HasDistinctFields) :
    extract document.withoutNullFields = extract document ∧
    parse document.withoutNullFields = parse document :=
  ⟨extract_withoutNullFields mapping distinct, parse_withoutNullFields mapping distinct⟩

/-- A document with nulls wherever they are left out. -/
def nulled : Value :=
  .dict [
    (.text "model", .dict [(.text "type", .null), (.text "vocab", .dict [(.text "a", .int 0)]),
      (.text "merges", .null)]),
    (.text "added_tokens", .list [.dict [(.text "id", .int 7), (.text "content", .text "</s>"),
      (.text "normalized", .null), (.text "special", .bool true)]]),
    (.text "added_tokens_decoder", .view [(.int 5, .view [(.text "lstrip", .null)])]),
    (.text "decoder", .null)]

theorem hasDistinctFields_nulled : nulled.HasDistinctFields where
  keys := by
    rintro _ ⟨⟩
    decide
  model := by
    rintro _ ⟨⟩
    decide
  addedTokens := by
    rintro _ ⟨⟩ entry member
    obtain rfl := List.mem_singleton.1 member
    rintro _ ⟨⟩
    decide
  addedTokensById := by
    rintro _ ⟨⟩ entry member
    obtain rfl := List.mem_singleton.1 member
    rintro _ ⟨⟩
    decide

theorem readers_ignore_nulls_nulled :
    nulled.isMapping = true ∧ nulled.HasDistinctFields ∧
    nulled.withoutNullFields = .dict [
      (.text "model", .dict [(.text "vocab", .dict [(.text "a", .int 0)])]),
      (.text "added_tokens", .list [.dict [(.text "id", .int 7), (.text "content", .text "</s>"),
        (.text "special", .bool true)]]),
      (.text "added_tokens_decoder", .view [(.int 5, .view [])])] ∧
    @extract ⟨fun _ => 3⟩ nulled.withoutNullFields = @extract ⟨fun _ => 3⟩ nulled ∧
    @parse ⟨fun _ => 3⟩ nulled.withoutNullFields = @parse ⟨fun _ => 3⟩ nulled :=
  ⟨rfl, hasDistinctFields_nulled, rfl,
    @readers_ignore_nulls _ ⟨fun _ => 3⟩ rfl hasDistinctFields_nulled⟩

end Tokenizer

end ConstrainedDecoding
