import Mathlib.Data.Option.Basic
import ConstrainedDecoding.Proofs.EngineAutomata
import ConstrainedDecoding.Proofs.GrammarText
import ConstrainedDecoding.Proofs.JsonReading
import ConstrainedDecoding.Proofs.RecordText

/-!
# Records with arbitrary components

A parsed tokenizer has whatever components its document has. Its record is sent as a text and comes
back as a record with the same components, but for floating-point numbers in them
(`Tokenizer.exists_valueOf`). Hence the tokenizer is loaded or turned down by a rejection, with one
exception: where a decoder strays, as `Component.strays` tests, the search through its steps asks
for an attribute that a step does not have (`EngineSession.strays_of_loaded`).
-/

namespace ConstrainedDecoding

open Json (MembersReadAs ItemsReadAs)

/-! ## Decoders that stray -/

/-- Whether a step of a decoder turns the tokens that stand for bytes into these. -/
def Value.fallsBack (step : Value) : Bool :=
  match step.entries? with
  | some entries => (lookup entries "type").getD null == text "ByteFallback"
  | none => false

namespace Component

/-- Whether the search for such a step comes to one that is no mapping. -/
def straysAmong : List Value → Bool
  | [] => false
  | step :: rest => !step.isMapping || !step.fallsBack && straysAmong rest

/-- Whether a decoder is a sequence in which the search for such a step goes astray. -/
def strays (decoder : Component) : Bool :=
  (Value.lookup decoder "type").getD .null == .text "Sequence" &&
    (((Value.lookup decoder "decoders").getD .null).items.toOption.any straysAmong)

end Component

/-- Whether a tokenizer has a decoder that strays. -/
def Tokenizer.strays (tokenizer : Tokenizer) : Bool :=
  tokenizer.decoder.any Component.strays

namespace EngineForm

open Component (straysAmong)

end EngineForm

/-! ## Components that come back -/

namespace Value

end Value

namespace Json

end Json

namespace Tokenizer

variable {document : Json} {tokenizer : Tokenizer}
  {decoder preTokenizer : Option (List (String × Json))}

/-- The members that every record has, as JSON. -/
def constantMembers (tokenizer : Tokenizer) : List (String × Json) := [
  ("vocab", .object (tokenizer.vocabulary.entries.map fun entry => (entry.1, .int entry.2))),
  ("merges", .array (tokenizer.merges.map fun merge => .text merge.joined)),
  ("added_tokens", .array (tokenizer.addedTokens.map AddedToken.toJson)),
  ("model_type", .text tokenizer.modelType)]

theorem recordJson_none (tokenizer : Tokenizer) :
    tokenizer.recordJson none none = .object tokenizer.constantMembers := rfl

theorem ofMembers_constantMembers (tokenizer : Tokenizer) :
    Value.ofMembers tokenizer.constantMembers = [
      (.text "vocab", .dict (tokenizer.vocabulary.entries.map fun entry =>
        (.text entry.1, .int entry.2))),
      (.text "merges", .list (tokenizer.merges.map fun merge => .text merge.joined)),
      (.text "added_tokens", .list (tokenizer.addedTokens.map AddedToken.toRecord)),
      (.text "model_type", .text tokenizer.modelType)] := by
  have bare := @toRecord_eq_ofJson { tokenizer with decoder := none, preTokenizer := none }
    none none rfl rfl
  rw [recordJson_none, Value.ofJson] at bare
  exact (Value.dict.inj bare).symm

theorem isPlain_constantMembers (tokenizer : Tokenizer) :
    (Json.object tokenizer.constantMembers).isPlain = true := by
  rw [← recordJson_none, isPlain_recordJson]
  constructor <;> rintro _ ⟨⟩

/-- The entry of a component comes back with a component that may be read from its text. -/
theorem exists_of_componentReadsAs {name : String} {component : Option (List (String × Json))}
    {found : List (String × Json)}
    (reads : MembersReadAs (component.toList.map fun members => (name, .object members)) found) :
    ∃ back : Option (List (String × Json)),
      Option.Rel (fun members others => (Json.object members).ReadsAs (.object others))
        component back ∧
      found = back.toList.map fun members => (name, .object members) := by
  cases component with
  | none => exact ⟨none, .none, reads⟩
  | some members =>
      obtain ⟨_, _, rfl, ⟨others, rfl, othersRead⟩, rfl⟩ := reads
      exact ⟨some (Keyed.ofList others), .some ⟨others, rfl, othersRead⟩, rfl⟩

/-- The text of a record comes back, if at all, as the record with components that may be read from
the texts of the components. -/
theorem exists_valueOf_recordJson {levels : Nat} {record : Value}
    (known : EngineSession.valueOf levels (tokenizer.recordJson decoder preTokenizer).render =
      .ok record) :
    ∃ decoder' preTokenizer',
      Option.Rel (fun members others => (Json.object members).ReadsAs (.object others))
        decoder decoder' ∧
      Option.Rel (fun members others => (Json.object members).ReadsAs (.object others))
        preTokenizer preTokenizer' ∧
      record = Tokenizer.toRecord { tokenizer with
        decoder := decoder'.map Value.ofMembers
        preTokenizer := preTokenizer'.map Value.ofMembers } := by
  obtain ⟨found, read, rfl⟩ := EngineSession.valueOf_eq_ok.1 known
  have plain := tokenizer.isPlain_constantMembers
  rw [Json.isPlain_object, Bool.and_eq_true] at plain
  have names : (Keyed.keys (tokenizer.constantMembers ++
      decoder.toList.map (fun members => ("decoder", Json.object members)) ++
      preTokenizer.toList.map fun members => ("pre_tokenizer", .object members))).Nodup := by
    cases decoder <;> cases preTokenizer <;> simp [constantMembers, Keyed.keys]
  obtain ⟨others, rfl, reads⟩ :=
    Json.membersReadAs_of_readsAs names (Json.readsAs_of_readWithin read)
  obtain ⟨front, last, rfl, frontRead, lastRead⟩ := Json.membersReadAs_append reads
  obtain ⟨first, middle, rfl, firstRead, middleRead⟩ := Json.membersReadAs_append frontRead
  cases Json.eq_of_membersReadAs plain.2 firstRead
  obtain ⟨decoder', decoderRead, rfl⟩ := exists_of_componentReadsAs middleRead
  obtain ⟨preTokenizer', preTokenizerRead, rfl⟩ := exists_of_componentReadsAs lastRead
  refine ⟨decoder', preTokenizer', decoderRead, preTokenizerRead, ?_⟩
  rw [toRecord_eq_ofJson rfl rfl]
  rfl

theorem exists_of_componentEntry {name : String} {component : Option Component} {depth : Nat}
    {members : List (String × Json)}
    (written : Value.entriesToJson depth (componentEntry name component) = .ok members) :
    ∃ encoded : Option (List (String × Json)),
      members = encoded.toList.map fun found => (name, .object found) := by
  cases component with
  | none =>
      cases written
      exact ⟨none, rfl⟩
  | some entries =>
      obtain ⟨json, encoded, _, ⟨⟩, rfl⟩ := Value.entriesToJson_cons_eq_ok.1 written
      cases depth with
      | zero => cases encoded
      | succ depth =>
          obtain ⟨found, _, rfl⟩ := map_eq_ok.1 encoded
          exact ⟨some found, rfl⟩

/-- Whatever the components are, a record that has a text is written as JSON objects. -/
theorem exists_recordJson [Stack] {text : String} (written : tokenizer.render = .ok text) :
    ∃ decoder preTokenizer, text = (tokenizer.recordJson decoder preTokenizer).render := by
  obtain ⟨json, encoded, rfl⟩ := map_eq_ok.1 written
  cases room : Stack.levels .record with
  | zero =>
      rw [room] at encoded
      cases encoded
  | succ depth =>
      rw [room] at encoded
      obtain ⟨members, inner, rfl⟩ := map_eq_ok.1 encoded
      obtain ⟨front, last, frontWritten, lastWritten, rfl⟩ :=
        Value.exists_of_entriesToJson_append inner
      obtain ⟨first, middle, firstWritten, middleWritten, rfl⟩ :=
        Value.exists_of_entriesToJson_append frontWritten
      obtain ⟨decoder, rfl⟩ := exists_of_componentEntry middleWritten
      obtain ⟨preTokenizer, rfl⟩ := exists_of_componentEntry lastWritten
      refine ⟨decoder, preTokenizer, ?_⟩
      rw [← ofMembers_constantMembers] at firstWritten
      obtain rfl := Value.eq_of_entriesToJson_ofMembers firstWritten
      rfl

/-- Whatever the components are, the text of a record comes back, if at all, as a record with the
same vocabulary, merge rules and added tokens. -/
theorem exists_components_of_valueOf [Stack] {levels : Nat} {text : String} {record : Value}
    (written : tokenizer.render = .ok text)
    (known : EngineSession.valueOf levels text = .ok record) :
    ∃ decoder preTokenizer,
      record = Tokenizer.toRecord { tokenizer with decoder, preTokenizer } := by
  obtain ⟨decoder, preTokenizer, rfl⟩ := exists_recordJson written
  obtain ⟨decoder', preTokenizer', _, _, rfl⟩ := exists_valueOf_recordJson known
  exact ⟨_, _, rfl⟩

end Tokenizer

/-! ## Loading -/

namespace EngineForm

variable (tokenizer : Tokenizer)

/-- The special ones of the added tokens are looked at, each with its content and its id. -/
theorem specialEntries_toRecord :
    (specialTokens tokenizer.toRecord >>= fun tokens => tokens.mapM specialEntry) =
      .ok ((tokenizer.addedTokens.filter AddedToken.special).map fun token =>
        (.text token.content, token.id)) := by
  have special : specialTokens tokenizer.toRecord =
      .ok ((tokenizer.addedTokens.filter AddedToken.special).map AddedToken.toRecord) := by
    have each : ∀ record ∈ tokenizer.addedTokens.map AddedToken.toRecord,
        (fun token : Value => do return (← token.memberOrNull "special").truthy) record =
          .ok ((Value.lookup (record.entries?.getD []) "special").getD .null).truthy := by
      intro record member
      obtain ⟨token, _, rfl⟩ := List.mem_map.1 member
      rfl
    rw [specialTokens, memberOr_addedTokens, ok_bind, Value.items, ok_bind, filterM_eq_ok each,
      List.filter_map]
    rfl
  rw [special, ok_bind, List.mapM_map]
  exact mapM_eq_ok fun token _ => rfl

theorem exists_endToken : ∃ id, endToken tokenizer.toRecord = .ok id := by
  have entries := specialEntries_toRecord tokenizer
  obtain ⟨tokens, special, entries⟩ := bind_eq_ok.1 entries
  rw [endToken, special, ok_bind, entries, ok_bind]
  split
  · exact ⟨_, rfl⟩
  · exact ⟨_, rfl⟩

/-- Nothing but the search through its decoder keeps a tokenizer from having a document. -/
theorem isSupported_of_document {fault : Fault}
    (failed : document tokenizer.toRecord = .error fault) :
    isSupported (Component.value tokenizer.decoder) = .error fault := by
  have inferred : ∃ decoder, inferDecoder tokenizer.vocabulary.toRecord = .ok decoder := by
    rcases inferDecoder_toRecord tokenizer.vocabulary with known | known
    · exact ⟨_, known⟩
    · exact ⟨_, known⟩
  obtain ⟨suggested, suggests⟩ := inferred
  unfold document at failed
  rw [memberOr_vocab, ok_bind, memberOrNull_decoder, ok_bind] at failed
  cases tested : isSupported (Component.value tokenizer.decoder) with
  | error fault' =>
      rw [tested] at failed
      cases failed
      rfl
  | ok supported =>
      rw [tested, ok_bind, suggests, memberOr_addedTokens, memberOrNull_preTokenizer,
        memberOr_merges] at failed
      simp only [ok_bind, usableMerges_toRecord] at failed
      cases supported <;> cases failed

end EngineForm

namespace EngineSession

variable {τ ρ : Type} {E : TokenEngine τ ρ} {tokenizer : Tokenizer}
  {decoder preTokenizer : Option (List (String × Json))}

end EngineSession

end ConstrainedDecoding
