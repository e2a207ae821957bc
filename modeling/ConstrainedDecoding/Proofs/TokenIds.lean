import Mathlib.Data.List.Forall2
import ConstrainedDecoding.Proofs.DocumentReaders
import ConstrainedDecoding.Proofs.SentRecord
import ConstrainedDecoding.Scripted.TokenEngine

/-!
# Token ids

Ids are meant for indices into a logits vector, so that none should be negative. A description may
give anything for an id that stands for an integer, and the id is that integer, in whatever way the
vocabulary and the added tokens are listed (`Tokenizer.exists_givenIds`). All ids are below the
vocabulary size, but it is positive only if one of them is an index
(`Tokenizer.vocabSize_pos_iff`). A backend refuses the size zero and no other, so that an engine may
have to load a tokenizer with a negative size (`Tokenizer.sizeDecides_init`).
-/

namespace ConstrainedDecoding

open List (Forall₂)

theorem forall₂_of_mapM {ε α β : Type} {step : α → Except ε β} {items : List α} {values : List β}
    (known : items.mapM step = .ok values) :
    Forall₂ (fun item value => step item = .ok value) items values := by
  induction items generalizing values with
  | nil =>
      cases known
      exact .nil
  | cons item rest ih =>
      rw [List.mapM_cons] at known
      obtain ⟨first, stepped, known⟩ := bind_eq_ok.1 known
      obtain ⟨others, inner, known⟩ := bind_eq_ok.1 known
      cases known
      exact .cons stepped (ih inner)

theorem mapM_of_forall₂ {ε α β : Type} {step : α → Except ε β} {items : List α} {values : List β}
    (each : Forall₂ (fun item value => step item = .ok value) items values) :
    items.mapM step = .ok values := by
  induction each with
  | nil => rfl
  | cons first _ ih =>
      rw [List.mapM_cons, first, ok_bind, ih]
      rfl

theorem exists_mem_of_forall₂ {α β : Type} {holds : α → β → Prop} {items : List α}
    {values : List β} (related : Forall₂ holds items values) {item : α} (member : item ∈ items) :
    ∃ value ∈ values, holds item value := by
  induction related with
  | nil => cases member
  | cons first _ ih =>
      rcases List.mem_cons.1 member with same | later
      · exact ⟨_, List.mem_cons_self, same ▸ first⟩
      · obtain ⟨value, among, held⟩ := ih later
        exact ⟨value, List.mem_cons_of_mem _ among, held⟩

namespace Keyed

variable {κ ν μ : Type} {holds : ν → μ → Prop}

/-- Two maps have the same keys in the same order, and the values of a key belong together. -/
abbrev Alike (holds : ν → μ → Prop) : List (κ × ν) → List (κ × μ) → Prop :=
  Forall₂ fun entry other => entry.1 = other.1 ∧ holds entry.2 other.2

theorem Alike.values {entries : List (κ × ν)} {others : List (κ × μ)}
    (alike : Alike holds entries others) : Forall₂ holds (values entries) (values others) := by
  unfold Keyed.values
  rw [List.forall₂_map_left_iff, List.forall₂_map_right_iff]
  exact alike.imp fun _ _ both => both.2

variable [BEq κ]

theorem Alike.insert {entries : List (κ × ν)} {others : List (κ × μ)}
    (alike : Alike holds entries others) (key : κ) {value : ν} {other : μ}
    (belongs : holds value other) :
    Alike holds (insert entries key value) (insert others key other) := by
  induction alike with
  | nil => exact .cons ⟨rfl, belongs⟩ .nil
  | @cons entry other' rest rest' first tail ih =>
      obtain ⟨k, v⟩ := entry
      obtain ⟨k', v'⟩ := other'
      obtain ⟨rfl, held⟩ := first
      unfold Keyed.insert
      split_ifs
      · exact .cons ⟨rfl, belongs⟩ tail
      · exact .cons ⟨rfl, held⟩ ih

theorem Alike.foldl_insert {pairs : List (κ × ν)} {others : List (κ × μ)}
    (alike : Alike holds pairs others) {built : List (κ × ν)} {built' : List (κ × μ)}
    (start : Alike holds built built') :
    Alike holds (pairs.foldl (fun entries pair => Keyed.insert entries pair.1 pair.2) built)
      (others.foldl (fun entries pair => Keyed.insert entries pair.1 pair.2) built') := by
  induction alike generalizing built built' with
  | nil => exact start
  | cons first _ ih =>
      obtain ⟨same, held⟩ := first
      rw [List.foldl_cons, List.foldl_cons, same]
      exact ih (start.insert _ held)

/-- Pairs that belong together one by one make maps that do. -/
theorem Alike.ofList {pairs : List (κ × ν)} {others : List (κ × μ)}
    (alike : Alike holds pairs others) : Alike holds (ofList pairs) (ofList others) :=
  alike.foldl_insert .nil

end Keyed

/-! ## Where ids come from -/

/-- The value is taken for the integer. -/
def Value.StandsFor (value : Value) (id : Int) : Prop :=
  value.toInteger = .ok id

namespace Vocabulary

/-- What the accessor of a live object gives, unless it is null. -/
def accessed? (source : Value) : Except Fault (Option Value) :=
  if source.isMapping then .ok none
  else
    match source.attribute? "get_vocab" with
    | none => .ok none
    | some accessor =>
      if accessor.isCallable then do
        let given ← accessor.call
        return if given.isNull then none else some given
      else .ok none

/-- What a description gives for its vocabulary. -/
def given? (source : Value) : Except Fault (Option Value) := do
  match ← accessed? source with
  | some given => return some given
  | none =>
    match (source.field "model").field? "vocab" with
    | some given => return some given
    | none => return (source.field? "vocab").filter fun given => !given.isCallable

/-- The tokens and ids that are listed for a vocabulary. -/
def listed (given : Value) : Except Fault (List (Value × Value)) :=
  match given.entries? with
  | some entries => .ok entries
  | none => do (← given.items).mapM Value.pair

/-- The values listed for ids, one for each token text: the last one of a text that is listed more
than once. -/
def idValues (given : Value) : Except Fault (List Value) := do
  return Keyed.values (Keyed.ofList ((← listed given).map fun entry => (entry.1.toText, entry.2)))

variable [Stack]

/-- The vocabulary that is read of what is given for it, if anything is. -/
def readGiven : Option Value → Except Fault (Option Vocabulary)
  | some given => do return some (← read given)
  | none => return none

theorem fromAccessor?_eq (source : Value) :
    fromAccessor? source = accessed? source >>= readGiven := by
  unfold fromAccessor? accessed?
  split_ifs
  · rfl
  cases source.attribute? "get_vocab" with
  | none => rfl
  | some accessor =>
      dsimp only
      split_ifs
      · cases accessor.call with
        | error fault => rfl
        | ok given =>
            simp only [ok_bind]
            split_ifs <;> rfl
      · rfl

/-- A vocabulary is read of what the description gives for it. -/
theorem resolve_eq (source : Value) : resolve source = given? source >>= readGiven := by
  unfold resolve given?
  rw [fromAccessor?_eq]
  cases accessed? source with
  | error fault => rfl
  | ok found =>
      cases found with
      | some given =>
          show (read given >>= fun vocabulary => pure (some vocabulary)) >>= _ =
            read given >>= fun vocabulary => pure (some vocabulary)
          cases read given <;> rfl
      | none =>
          show (match (source.field "model").field? "vocab" with
            | some given => readGiven (some given)
            | none => _) = _
          cases (source.field "model").field? "vocab" with
          | some given => rfl
          | none =>
              cases source.field? "vocab" with
              | none => rfl
              | some given =>
                  dsimp only
                  rw [Option.filter_some]
                  cases given.isCallable with
                  | true => rfl
                  | false => rfl

variable {given : Value} {vocabulary : Vocabulary}

/-- Reading entries one by one or after all of them have been listed comes to the same. -/
theorem exists_listed_of_read (readable : read given = .ok vocabulary) :
    ∃ entries numbered, listed given = .ok entries ∧
      entries.mapM (fun entry => readEntry entry.1 entry.2) = .ok numbered ∧
      vocabulary = ofPairs numbered := by
  unfold read at readable
  unfold listed
  cases mapping : given.entries? with
  | some entries =>
      rw [mapping] at readable
      obtain ⟨numbered, known, same⟩ := bind_eq_ok.1 readable
      cases same
      exact ⟨entries, numbered, rfl, known, rfl⟩
  | none =>
      rw [mapping] at readable
      obtain ⟨items, itemized, readable⟩ := bind_eq_ok.1 readable
      obtain ⟨numbered, known, same⟩ := bind_eq_ok.1 readable
      cases same
      obtain ⟨entries, paired, read⟩ := exists_mapM_of_mapM_bind known
      exact ⟨entries, numbered, by rw [itemized]; exact paired, read, rfl⟩

/-- The ids of a vocabulary are the integers that are listed. -/
theorem exists_idValues_of_read (readable : read given = .ok vocabulary) :
    ∃ values, idValues given = .ok values ∧
      Forall₂ Value.StandsFor values (Keyed.values vocabulary.entries) := by
  obtain ⟨entries, numbered, lists, numbers, rfl⟩ := exists_listed_of_read readable
  have alike : Keyed.Alike Value.StandsFor (entries.map fun entry => (entry.1.toText, entry.2))
      numbered := by
    rw [Keyed.Alike, List.forall₂_map_left_iff]
    refine (forall₂_of_mapM numbers).imp fun entry other stepped => ?_
    obtain ⟨id, stands, stepped⟩ := bind_eq_ok.1 stepped
    obtain ⟨content, shows, same⟩ := bind_eq_ok.1 stepped
    cases same
    exact ⟨Value.toText_of_str shows, stands⟩
  refine ⟨_, ?_, alike.ofList.values⟩
  rw [idValues, lists]
  rfl

end Vocabulary

namespace AddedToken

/-- The entries listed for added tokens, each with what stands in for an id that it lacks. -/
def listed (source : Value) : Except Fault (List (Value × Value)) :=
  match source.field? "added_tokens" with
  | some given => do return (← given.items).map fun entry => (entry, .null)
  | none =>
    match (source.field "added_tokens_decoder").entries? with
    | some entries => do return (← byId entries).map Prod.swap
    | none => .ok []

/-- The value for the id of an added token. -/
def idValue (entry id : Value) : Value :=
  (entry.field? "id").getD id

variable [Stack]

theorem readAll_eq (source : Value) :
    readAll source = listed source >>= List.mapM fun entry => read entry.1 entry.2 := by
  unfold readAll listed
  cases source.field? "added_tokens" with
  | some given => simp only [bind_assoc, pure_bind, List.mapM_map, Function.comp_def]
  | none =>
      cases (source.field "added_tokens_decoder").entries? with
      | some entries =>
          simp only [bind_assoc, pure_bind, List.mapM_map, Function.comp_def, Prod.fst_swap,
            Prod.snd_swap]
      | none => rfl

theorem standsFor_idValue {entry id : Value} {token : AddedToken}
    (readable : read entry id = .ok token) : (idValue entry id).StandsFor token.id := by
  obtain ⟨number, stands, readable⟩ := bind_eq_ok.1 readable
  obtain ⟨content, _, same⟩ := bind_eq_ok.1 readable
  cases same
  exact stands

/-- The ids of added tokens are the integers that are listed. -/
theorem exists_listed_of_readAll {source : Value} {tokens : List AddedToken}
    (readable : readAll source = .ok tokens) :
    ∃ entries, listed source = .ok entries ∧
      Forall₂ Value.StandsFor (entries.map fun entry => idValue entry.1 entry.2)
        (tokens.map AddedToken.id) := by
  rw [readAll_eq] at readable
  obtain ⟨entries, lists, reads⟩ := bind_eq_ok.1 readable
  refine ⟨entries, lists, ?_⟩
  rw [List.forall₂_map_left_iff, List.forall₂_map_right_iff]
  exact (forall₂_of_mapM reads).imp fun _ _ => standsFor_idValue

end AddedToken

namespace Tokenizer

/-- The values that a description gives for ids, first those of its vocabulary, then those of its
added tokens. -/
def givenIds (source : Value) : Except Fault (List Value) := do
  let ids ← match ← Vocabulary.given? source with
    | some given => Vocabulary.idValues given
    | none => .ok []
  let added ← AddedToken.listed source
  return ids ++ added.map fun entry => AddedToken.idValue entry.1 entry.2

variable [Stack] {source : Value} {tokenizer : Tokenizer}

theorem exists_parts_of_extract (extracted : extract source = .ok tokenizer) :
    Vocabulary.resolve source = .ok (some tokenizer.vocabulary) ∧
      AddedToken.readAll source = .ok tokenizer.addedTokens := by
  obtain ⟨found, resolved, extracted⟩ := bind_eq_ok.1 extracted
  cases found with
  | none => cases extracted
  | some vocabulary =>
      obtain ⟨merges, _, extracted⟩ := bind_eq_ok.1 extracted
      obtain ⟨addedTokens, readable, extracted⟩ := bind_eq_ok.1 extracted
      obtain ⟨document, _, extracted⟩ := bind_eq_ok.1 extracted
      cases extracted
      exact ⟨resolved, readable⟩

theorem exists_parts_of_parse (parsed : parse source = .ok tokenizer) :
    Vocabulary.resolve source = .ok (some tokenizer.vocabulary) ∧
      AddedToken.readAll source = .ok tokenizer.addedTokens := by
  by_cases mapping : source.isMapping = true
  · cases present : (source.field "model").field? "vocab" with
    | none =>
        rw [parse, if_pos mapping] at parsed
        simp only [present] at parsed
        cases parsed
    | some given =>
        rw [parse_of_mapping inferInstance mapping present] at parsed
        obtain ⟨merges, _, parsed⟩ := bind_eq_ok.1 parsed
        obtain ⟨modelType, _, parsed⟩ := bind_eq_ok.1 parsed
        obtain ⟨vocabulary, read, parsed⟩ := bind_eq_ok.1 parsed
        obtain ⟨addedTokens, readable, parsed⟩ := bind_eq_ok.1 parsed
        cases parsed
        refine ⟨?_, readable⟩
        rw [Vocabulary.resolve_of_mapping mapping present, read]
        rfl
  · rw [parse, if_neg mapping] at parsed
    cases parsed

/-- The ids of a tokenizer are the integers that its description gives for them. -/
theorem exists_givenIds
    (described : extract source = .ok tokenizer ∨ parse source = .ok tokenizer) :
    ∃ values, givenIds source = .ok values ∧ Forall₂ Value.StandsFor values tokenizer.ids := by
  obtain ⟨resolved, readable⟩ := described.elim exists_parts_of_extract exists_parts_of_parse
  rw [Vocabulary.resolve_eq] at resolved
  obtain ⟨found, given, resolved⟩ := bind_eq_ok.1 resolved
  cases found with
  | none => cases resolved
  | some value =>
      obtain ⟨vocabulary, read, same⟩ := bind_eq_ok.1 resolved
      cases same
      obtain ⟨values, vocabularyIds, stand⟩ := Vocabulary.exists_idValues_of_read read
      obtain ⟨entries, lists, addedStand⟩ := AddedToken.exists_listed_of_readAll readable
      refine ⟨_, ?_, List.rel_append stand addedStand⟩
      simp only [givenIds, given, ok_bind, vocabularyIds, lists]
      rfl

end Tokenizer

/-! ## Sizes -/

theorem forall_iff_of_standsFor {values : List Value} {ids : List Int}
    (stand : Forall₂ Value.StandsFor values ids) (good : Int → Prop) :
    (∀ id ∈ ids, good id) ↔ ∀ value ∈ values, ∀ id, value.StandsFor id → good id := by
  induction stand with
  | nil => simp
  | cons first _ ih =>
      rw [List.forall_mem_cons, List.forall_mem_cons, ih]
      refine and_congr_left fun _ => ⟨fun holds other stands => ?_, fun holds => holds _ first⟩
      cases first.symm.trans stands
      exact holds

namespace Tokenizer

variable (tokenizer : Tokenizer)

theorem vocabSize_eq_zero_iff :
    tokenizer.vocabSize = 0 ↔ tokenizer.ids = [] ∨ tokenizer.ids.max? = some (-1) := by
  unfold vocabSize
  cases known : tokenizer.ids.max? with
  | none => simp [List.max?_eq_none_iff.1 known]
  | some greatest =>
      have some : tokenizer.ids ≠ [] := by
        intro none
        rw [none] at known
        cases known
      simp only [some, false_or, Option.some.injEq]
      exact eq_neg_iff_add_eq_zero.symm

theorem vocabSize_pos_iff : 0 < tokenizer.vocabSize ↔ ∃ id ∈ tokenizer.ids, 0 ≤ id := by
  constructor
  · unfold vocabSize
    cases known : tokenizer.ids.max? with
    | none => intro impossible; cases impossible
    | some greatest =>
        exact fun positive => ⟨greatest, List.max?_mem known, Int.lt_add_one_iff.1 positive⟩
  · rintro ⟨id, member, nonneg⟩
    exact Int.lt_of_le_of_lt nonneg (tokenizer.lt_vocabSize member)

end Tokenizer

/-! ## Loading -/

/-- The size that a tokenizer is loaded with, if the event is such a call. -/
def Event.loadedSize? : Event → Option Int
  | .call (.loadTokenizer _ size _) => some size
  | _ => none

/-- The sizes that tokenizers have been loaded with. -/
def Outcome.loadedSizes {σ α : Type} (outcome : Outcome σ α) : List Int :=
  outcome.events.filterMap Event.loadedSize?

namespace Action

variable {σ α β : Type}

/-- The action does not load tokenizers. -/
def LoadsNone (action : Action σ α) : Prop :=
  ∀ state, (action state).loadedSizes = []

theorem loadedSizes_bind (first : Action σ α) (next : α → Action σ β) (state : σ) :
    ((first >>= next) state).loadedSizes = (first state).loadedSizes ++
      match (first state).result with
      | .ok value => (next value (first state).state).loadedSizes
      | .error _ => [] := by
  show (andThen first next state).loadedSizes = _
  unfold andThen
  rcases first state with ⟨fault | value, left, events⟩
  · exact (List.append_nil _).symm
  · exact List.filterMap_append ..

theorem LoadsNone.notMem {action : Action σ α} {state : σ} (loads : action.LoadsNone)
    (document : String) (size : Int) (endToken : Option Int) :
    .call (.loadTokenizer document size endToken) ∉ (action state).events := by
  intro member
  have loaded : size ∈ (action state).loadedSizes := List.mem_filterMap.2 ⟨_, member, rfl⟩
  rw [loads state] at loaded
  cases loaded

theorem loadsNone_pure (value : α) : (pure value : Action σ α).LoadsNone := fun _ => rfl

theorem loadsNone_fail (fault : Fault) : (fail fault : Action σ α).LoadsNone := fun _ => rfl

theorem loadsNone_log (level : LogLevel) (source : LogSource) (message : String) :
    (log level source message : Action σ Unit).LoadsNone := fun _ => rfl

theorem loadsNone_call {made : Call} (other : (Event.call made).loadedSize? = none) :
    (call made : Action σ Unit).LoadsNone := by
  intro state
  show [Event.call made].filterMap Event.loadedSize? = []
  rw [List.filterMap_cons_none other, List.filterMap_nil]

theorem loadsNone_ofExcept (result : Except Fault α) :
    (ofExcept result : Action σ α).LoadsNone := by
  cases result with
  | ok value => exact loadsNone_pure value
  | error fault => exact loadsNone_fail fault

theorem LoadsNone.bind {first : Action σ α} {next : α → Action σ β} (starts : first.LoadsNone)
    (goesOn : ∀ value, (next value).LoadsNone) : (first >>= next).LoadsNone := by
  intro state
  rw [loadedSizes_bind, starts state, List.nil_append]
  cases (first state).result with
  | ok value => exact goesOn value _
  | error fault => rfl

end Action

namespace EngineSession

variable {τ ρ σ : Type} (E : TokenEngine τ ρ)

theorem loadsNone_compile [Stack] (wire : Value) :
    (compile E wire : Action σ String).LoadsNone := by
  refine (Action.loadsNone_ofExcept _).bind fun constraint => ?_
  exact (Action.loadsNone_call rfl).bind fun _ => Action.loadsNone_ofExcept _

theorem loadsNone_checkParser (parser : ρ) :
    (checkParser E parser : Action σ Unit).LoadsNone := by
  unfold checkParser
  cases E.defect? parser with
  | some detail => exact Action.loadsNone_fail _
  | none => exact Action.loadsNone_pure ()

/-- What an engine is offered for the text of a tokenizer record: a document, a size and an end of
sequence. -/
def offered [Stack] (text : String) : Except Fault (String × Int × Option Int) := do
  let record ← valueOf (Stack.levels .sentText) text
  let size ← EngineForm.vocabSize record >>= EngineForm.wholeSize
  if size = 0 then .error .emptyVocabulary
  else
    let (document, _) ← EngineForm.document record
    let documentText ← document.renderWithin (Stack.levels .document)
    let endToken ← EngineForm.endToken record
    return (documentText, size, endToken)

/-- The action loads the tokenizer that is offered and no other, and fails as the offer does. -/
structure LoadsOffer {α : Type} (action : Action σ α)
    (offer : Except Fault (String × Int × Option Int)) : Prop where
  sizes_eq : ∀ state, (action state).loadedSizes = offer.toOption.toList.map fun made => made.2.1
  result_eq : ∀ {fault}, offer = .error fault → ∀ state, (action state).result = .error fault
  offer_eq : ∀ {state document size endToken},
    .call (.loadTokenizer document size endToken) ∈ (action state).events →
      offer = .ok (document, size, endToken)

variable {α β : Type}

theorem loadsOffer_fail (fault : Fault) (next : β → Action σ α) :
    LoadsOffer (Action.fail fault >>= next) (.error fault) where
  sizes_eq _ := rfl
  result_eq := by
    rintro _ ⟨⟩ _
    rfl
  offer_eq member := nomatch member

theorem loadsOffer_ofExcept (result : Except Fault α) {next : α → Action σ β}
    {offers : α → Except Fault (String × Int × Option Int)}
    (goesOn : ∀ value, LoadsOffer (next value) (offers value)) :
    LoadsOffer (Action.ofExcept result >>= next) (result >>= offers) := by
  cases result with
  | error fault => exact loadsOffer_fail fault next
  | ok value => exact ⟨(goesOn value).sizes_eq, (goesOn value).result_eq, (goesOn value).offer_eq⟩

/-- An entry that is only written on some occasion does not matter. -/
theorem loadsOffer_when {condition : Prop} [Decidable condition] (level : LogLevel)
    (source : LogSource) (message : String) {next : Unit → Action σ α}
    {offer : Except Fault (String × Int × Option Int)} (goesOn : LoadsOffer (next ()) offer) :
    LoadsOffer (if condition then Action.log level source message >>= next else next ())
      offer := by
  by_cases holds : condition
  · rw [if_pos holds]
    exact ⟨goesOn.sizes_eq, goesOn.result_eq, fun member =>
      goesOn.offer_eq ((List.mem_cons.1 member).resolve_left nofun)⟩
  · rw [if_neg holds]
    exact goesOn

theorem loadsOffer_load (document : String) (size : Int) (endToken : Option Int)
    {next : Unit → Action σ α} (goesOn : (next ()).LoadsNone) :
    LoadsOffer (Action.call (.loadTokenizer document size endToken) >>= next)
      (.ok (document, size, endToken)) where
  sizes_eq state := congrArg (size :: ·) (goesOn state)
  result_eq := nofun
  offer_eq := by
    intro state document' size' endToken' member
    rcases List.mem_cons.1 member with same | later
    · cases same
      rfl
    · exact absurd later (goesOn.notMem document' size' endToken')

/-- The engine loads what it is offered, and nothing else. -/
theorem loadsOffer_init [Stack] (logLevel : Int) (grammarText text : String) :
    LoadsOffer (init E logLevel grammarText text) (offered text) := by
  refine loadsOffer_ofExcept _ fun record => loadsOffer_ofExcept _ fun size => ?_
  by_cases empty : size = 0
  · rw [if_pos empty, if_pos empty]
    exact loadsOffer_fail .emptyVocabulary _
  rw [if_neg empty, if_neg empty]
  refine loadsOffer_ofExcept _ fun (document, skipped) => ?_
  apply loadsOffer_when
  refine loadsOffer_ofExcept _ fun documentText => loadsOffer_ofExcept _ fun endToken => ?_
  refine loadsOffer_load documentText size endToken ?_
  -- from here on nothing is loaded
  refine (Action.loadsNone_ofExcept _).bind fun tokenizer => ?_
  refine (Action.loadsNone_ofExcept _).bind fun wire => ?_
  refine (loadsNone_compile E wire).bind fun grammar => ?_
  refine (Action.loadsNone_log _ _ _).bind fun _ => ?_
  refine (Action.loadsNone_call rfl).bind fun _ => ?_
  refine (loadsNone_checkParser E _).bind fun _ => ?_
  refine (Action.loadsNone_call rfl).bind fun _ => ?_
  exact (Action.loadsNone_ofExcept _).bind fun _ => Action.loadsNone_pure _

variable {tokenizer : Tokenizer} {text : String}

theorem exists_sent [Stack] (written : tokenizer.render = .ok text) {record : Value}
    (known : valueOf (Stack.levels .sentText) text = .ok record) :
    ∃ sent : Tokenizer, record = sent.toRecord ∧ sent.vocabSize = tokenizer.vocabSize := by
  obtain ⟨decoder, preTokenizer, rfl⟩ := Tokenizer.exists_components_of_valueOf written known
  exact ⟨_, rfl, rfl⟩

/-- A tokenizer of size zero is refused as empty. -/
theorem offered_of_empty [Stack] (written : tokenizer.render = .ok text)
    (empty : tokenizer.vocabSize = 0) :
    offered text =
      valueOf (Stack.levels .sentText) text >>= fun _ => .error .emptyVocabulary := by
  cases known : valueOf (Stack.levels .sentText) text with
  | error fault =>
      rw [offered, known]
      rfl
  | ok record =>
      obtain ⟨sent, rfl, same⟩ := exists_sent written known
      rw [offered, known, ok_bind, EngineForm.vocabSize_toRecord, ok_bind, EngineForm.wholeSize,
        ok_bind, if_pos (same.trans empty)]
      rfl

/-- Any other tokenizer is offered with its size, if there is a document to offer it with. -/
theorem exists_offered_eq [Stack] (written : tokenizer.render = .ok text)
    (sized : tokenizer.vocabSize ≠ 0) :
    ∃ endToken, offered text =
      tokenizer.engineText.map fun document => (document, tokenizer.vocabSize, endToken) := by
  rw [Tokenizer.engineText, Tokenizer.sentDocument, written, ok_bind]
  cases known : valueOf (Stack.levels .sentText) text with
  | error fault =>
      refine ⟨none, ?_⟩
      rw [offered, known]
      rfl
  | ok record =>
      obtain ⟨sent, rfl, same⟩ := exists_sent written known
      obtain ⟨endToken, ends⟩ := EngineForm.exists_endToken sent
      refine ⟨endToken, ?_⟩
      rw [offered, known, ok_bind, EngineForm.vocabSize_toRecord, ok_bind, EngineForm.wholeSize,
        ok_bind, same, if_neg sized, ends, ok_bind]
      cases EngineForm.document sent.toRecord with
      | error fault => rfl
      | ok made =>
          obtain ⟨document, skipped⟩ := made
          show (document.renderWithin (Stack.levels .document) >>= fun documentText => _) =
            (document.renderWithin (Stack.levels .document)).map _
          cases document.renderWithin (Stack.levels .document) <;> rfl

end EngineSession

namespace Tokenizer

variable {source : Value} {tokenizer : Tokenizer}

/-- What the size of a tokenizer decides for a session made from the text of its record: zero is
refused as empty, and with any other size the tokenizer is loaded, if there is a document for it. -/
structure SizeDecides [Stack] {α : Type} (tokenizer : Tokenizer) (text : String)
    (outcome : Outcome Unit α) : Prop where
  empty : tokenizer.vocabSize = 0 → outcome.loadedSizes = [] ∧
    ∀ record, EngineSession.valueOf (Stack.levels .sentText) text = .ok record →
      outcome.result = .error .emptyVocabulary
  loaded : tokenizer.vocabSize ≠ 0 → ∀ document, tokenizer.engineText = .ok document →
    outcome.loadedSizes = [tokenizer.vocabSize]
  unwritten : tokenizer.vocabSize ≠ 0 → ∀ fault, tokenizer.engineText = .error fault →
    outcome.loadedSizes = [] ∧ outcome.result = .error fault

theorem sizeDecides_init [Stack] {τ ρ : Type} (E : TokenEngine τ ρ) (logLevel : Int)
    (grammarText : String) {text : String} (written : tokenizer.render = .ok text) :
    tokenizer.SizeDecides text (EngineSession.init E logLevel grammarText text ()) := by
  have loads := EngineSession.loadsOffer_init E logLevel grammarText text
  constructor
  case empty =>
    intro empty
    have offered := EngineSession.offered_of_empty written empty
    constructor
    · rw [loads.sizes_eq, offered]
      cases EngineSession.valueOf (Stack.levels .sentText) text <;> rfl
    · intro record known
      rw [known] at offered
      exact loads.result_eq offered ()
  case loaded =>
    intro sized document known
    obtain ⟨endToken, offered⟩ := EngineSession.exists_offered_eq written sized
    rw [loads.sizes_eq, offered, known]
    rfl
  case unwritten =>
    intro sized fault failed
    obtain ⟨endToken, offered⟩ := EngineSession.exists_offered_eq written sized
    rw [failed] at offered
    exact ⟨by rw [loads.sizes_eq, offered]; rfl, loads.result_eq offered ()⟩

/-- The ids of a tokenizer are the integers that its description gives for them. They are all below
the vocabulary size, so that nothing but a negative id that is given puts them out of range. The
size is zero if there is no token, but also if the greatest id is one below zero, and positive only
if some id is not negative; no size is refused but zero. -/
theorem ids_inRange_iff [Stack]
    (described : extract source = .ok tokenizer ∨ parse source = .ok tokenizer) :
    (∃ values, givenIds source = .ok values ∧ Forall₂ Value.StandsFor values tokenizer.ids ∧
      ((∀ id ∈ tokenizer.ids, 0 ≤ id ∧ id < tokenizer.vocabSize) ↔
        ∀ value ∈ values, ∀ id, value.StandsFor id → 0 ≤ id)) ∧
    (∀ id ∈ tokenizer.ids, id < tokenizer.vocabSize) ∧
    (tokenizer.vocabSize = 0 ↔ tokenizer.ids = [] ∨ tokenizer.ids.max? = some (-1)) ∧
    (0 < tokenizer.vocabSize ↔ ∃ id ∈ tokenizer.ids, 0 ≤ id) ∧
    ∀ {τ ρ : Type} (E : TokenEngine τ ρ) (logLevel : Int) (grammarText text : String),
      tokenizer.render = .ok text → tokenizer.SizeDecides text
        ((EngineSource.mk (some E) logLevel).backend.init grammarText text ()) := by
  obtain ⟨values, given, stand⟩ := exists_givenIds described
  have below : ∀ id ∈ tokenizer.ids, id < tokenizer.vocabSize := fun _ => tokenizer.lt_vocabSize
  refine ⟨⟨values, given, stand, ?_⟩, below, tokenizer.vocabSize_eq_zero_iff,
    tokenizer.vocabSize_pos_iff, fun E logLevel grammarText text => sizeDecides_init E logLevel _⟩
  rw [← forall_iff_of_standsFor stand]
  exact forall₂_congr fun id member => and_iff_left (below id member)

/-- A document whose vocabulary has one token. -/
def oneTokenDocument (id : Int) : Value :=
  .dict [(.text "model", .dict [(.text "vocab", .dict [(.text "a", .int id)])])]

/-- The tokenizer with that token. -/
def oneToken (id : Int) : Tokenizer where
  vocabulary := .ofPairs [("a", id)]

theorem extract_oneTokenDocument [Stack] (id : Int) :
    extract (oneTokenDocument id) = .ok (oneToken id) :=
  rfl

theorem parse_oneTokenDocument [Stack] (id : Int) :
    parse (oneTokenDocument id) = .ok (oneToken id) :=
  rfl

/-- A backend over an engine that takes whatever it is given, with room for the documents of such
tokenizers. -/
def lenientBackend : Backend (EngineSession Unit Scripted.Parser) :=
  @EngineSource.backend ⟨fun _ => 5⟩ _ _ (EngineSource.mk (some (Scripted.tokenEngine [] none)) 0)

theorem ids_inRange_iff_oneToken :
    @extract ⟨fun _ => 5⟩ (oneTokenDocument 7) = .ok (oneToken 7) ∧
    (∀ id ∈ (oneToken 7).ids, 0 ≤ id ∧ id < (oneToken 7).vocabSize) ∧
    ∃ text, @render ⟨fun _ => 5⟩ (oneToken 7) = .ok text ∧
      (lenientBackend.init "" text ()).loadedSizes = [8] := by
  have extracted := @extract_oneTokenDocument ⟨fun _ => 5⟩ 7
  obtain ⟨⟨values, given, stand, inRange⟩, _, _, _, sized⟩ :=
    @ids_inRange_iff _ _ ⟨fun _ => 5⟩ (.inl extracted)
  refine ⟨extracted, inRange.2 ?_, ?_⟩
  · rw [← forall_iff_of_standsFor stand]
    decide
  · obtain ⟨text, rendered⟩ : ∃ text, @render ⟨fun _ => 5⟩ (oneToken 7) = .ok text :=
      exists_of_isOk (by decide +kernel)
    obtain ⟨document, written⟩ : ∃ document, @engineText ⟨fun _ => 5⟩ (oneToken 7) = .ok document :=
      exists_of_isOk (by decide +kernel)
    obtain ⟨-, loaded, -⟩ := sized (Scripted.tokenEngine [] none) 0 "" text rendered
    exact ⟨text, rendered, loaded (by decide) document written⟩

/-- A negative id is taken like any other. With the only id one below zero the size is zero though
there is a token, and with one farther below a session is made whose size is negative. -/
theorem ids_out_of_range :
    (∃ tokenizer, @extract ⟨fun _ => 5⟩ (oneTokenDocument (-1)) = .ok tokenizer ∧
      @parse ⟨fun _ => 5⟩ (oneTokenDocument (-1)) = .ok tokenizer ∧
      tokenizer.ids = [-1] ∧ tokenizer.vocabSize = 0) ∧
    ∃ tokenizer text grammarText, @extract ⟨fun _ => 5⟩ (oneTokenDocument (-5)) = .ok tokenizer ∧
      @parse ⟨fun _ => 5⟩ (oneTokenDocument (-5)) = .ok tokenizer ∧
      tokenizer.ids = [-5] ∧ @render ⟨fun _ => 5⟩ tokenizer = .ok text ∧
      @Grammar.render ⟨fun _ => 5⟩ (.regex (.text "x")) = .ok grammarText ∧
      (lenientBackend.init grammarText text ()).result.isOk = true ∧
      (lenientBackend.init grammarText text ()).loadedSizes = [-4] := by
  refine ⟨⟨oneToken (-1), @extract_oneTokenDocument ⟨fun _ => 5⟩ _,
    @parse_oneTokenDocument ⟨fun _ => 5⟩ _, rfl, rfl⟩, oneToken (-5), ?_⟩
  have made : ((@render ⟨fun _ => 5⟩ (oneToken (-5))).toOption.any fun text =>
      (@Grammar.render ⟨fun _ => 5⟩ (.regex (.text "x"))).toOption.any fun grammarText =>
        (lenientBackend.init grammarText text ()).result.isOk &&
          decide ((lenientBackend.init grammarText text ()).loadedSizes = [-4])) = true := by
    decide +kernel
  obtain ⟨text, rendered, made⟩ := exists_of_any made
  obtain ⟨grammarText, written, made⟩ := exists_of_any made
  rw [Bool.and_eq_true, decide_eq_true_eq] at made
  exact ⟨text, grammarText, @extract_oneTokenDocument ⟨fun _ => 5⟩ _,
    @parse_oneTokenDocument ⟨fun _ => 5⟩ _, rfl, rendered, written, made.1, made.2⟩

end Tokenizer

end ConstrainedDecoding
