import Mathlib.Data.List.Induction
import ConstrainedDecoding.Proofs.AddedListings
import ConstrainedDecoding.Proofs.DocumentParsing

/-!
# Where vocabularies are found

A description may present its vocabulary in many ways: through an accessor, in its model or in a
field of its own, as a mapping or as a sequence of pairs, with places before it that have nothing to
give. Wherever it is found, the same tokens and ids make the same tokenizer
(`Tokenizer.vocabulary_presented`), in which a repeated token is where it came first and has the id
that came last (`Keyed.keys_ofList`, `Keyed.get?_ofList`).
-/

namespace ConstrainedDecoding

open List (Forall₂)

/-! ## First place, last value -/

namespace Keyed

variable {κ ν : Type} [BEq κ]

theorem ofList_concat (pairs : List (κ × ν)) (pair : κ × ν) :
    ofList (pairs ++ [pair]) = insert (ofList pairs) pair.1 pair.2 := by
  rw [ofList, List.foldl_append]
  rfl

variable [LawfulBEq κ]

theorem keys_insert_of_mem {entries : List (κ × ν)} {key : κ} (value : ν)
    (member : key ∈ keys entries) : keys (insert entries key value) = keys entries := by
  induction entries with
  | nil => cases member
  | cons entry rest ih =>
      unfold insert
      split_ifs with same
      · rfl
      · rcases List.mem_cons.1 member with first | later
        · exact absurd (beq_iff_eq.2 first.symm) same
        · rw [keys_cons, ih later, keys_cons]

/-- A key is where it came first. -/
theorem keys_ofList (pairs : List (κ × ν)) :
    keys (ofList pairs) = (pairs.map Prod.fst).eraseDups := by
  induction pairs using List.reverseRecOn with
  | nil => rfl
  | append_singleton pairs pair ih =>
      rw [ofList_concat, List.map_append, List.eraseDups_append, ← ih]
      have mem_iff : pair.1 ∈ pairs.map Prod.fst ↔ pair.1 ∈ keys (ofList pairs) := by
        rw [ih, List.mem_eraseDups]
      by_cases known : pair.1 ∈ keys (ofList pairs)
      · rw [keys_insert_of_mem _ known]
        simp [List.removeAll, mem_iff.2 known]
      · rw [insert_of_notMem _ known, keys, List.map_append]
        simp [List.removeAll, mt mem_iff.1 known, keys, List.eraseDups_cons]

/-- A key has the value that came last. -/
theorem get?_ofList (pairs : List (κ × ν)) (key : κ) :
    get? (ofList pairs) key = pairs.reverse.lookup key := by
  induction pairs using List.reverseRecOn with
  | nil => rfl
  | append_singleton pairs pair ih =>
      rw [ofList_concat, get?_insert (fun _ => beq_iff_eq) (fun _ => beq_iff_eq), ih,
        List.reverse_append, List.reverse_singleton, List.singleton_append, List.lookup_cons]
      rw [Bool.beq_comm]
      cases key == pair.1 <;> rfl

end Keyed

/-! ## Mappings and objects -/

namespace Value

/-- A mapping or an object has the named fields and no others. -/
inductive IsMadeOf (fields : List (String × Value)) : Value → Prop
  | dict : IsMadeOf fields (.dict (fields.map fun field => (.text field.1, field.2)))
  | view : IsMadeOf fields (.view (fields.map fun field => (.text field.1, field.2)))
  | object : IsMadeOf fields (.object fields)

variable {fields : List (String × Value)} {source : Value} {name : String}

theorem lookup_map_text (fields : List (String × Value)) (name : String) :
    lookup (fields.map fun field => (text field.1, field.2)) name = Keyed.get? fields name := by
  induction fields with
  | nil => rfl
  | cons field rest ih =>
      rw [List.map_cons, lookup_cons, text_beq, ih]
      rfl

theorem IsMadeOf.field? (made : IsMadeOf fields source) (name : String) :
    source.field? name = (Keyed.get? fields name).filter fun found => !found.isNull := by
  cases made with
  | dict => rw [field?_of_entries rfl, lookup_map_text]
  | view => rw [field?_of_entries rfl, lookup_map_text]
  | object => exact field?_of_attributes rfl name

theorem get?_of_notMem (absent : name ∉ Keyed.keys fields) : Keyed.get? fields name = none := by
  induction fields with
  | nil => rfl
  | cons field rest ih =>
      rw [Keyed.keys_cons, List.mem_cons, not_or] at absent
      rw [Keyed.get?, if_neg (by simpa using Ne.symm absent.1), ih absent.2]

theorem IsMadeOf.field?_of_notMem (made : IsMadeOf fields source)
    (absent : name ∉ Keyed.keys fields) : source.field? name = none := by
  rw [made.field?, get?_of_notMem absent]
  rfl

end Value

/-! ## Presentations -/

namespace Vocabulary

/-- A value lists tokens with their ids: it is a mapping, in which a repeated token has its first
place and its last id, or a sequence of pairs. -/
inductive Lists (given : Value) (pairs : List (String × Int)) : Prop
  | mapping (known : given.entries? =
      some ((Keyed.ofList pairs).map fun pair => (.text pair.1, .int pair.2)))
  | sequence {items : List Value} (unmapped : given.entries? = none)
    (known : given.items = .ok items)
    (each : Forall₂ (fun item pair => item.pair = .ok (.text pair.1, .int pair.2)) items pairs)

/-- A description has no accessor for its vocabulary, or one that gives null. -/
inductive IsSilent (source : Value) : Prop
  | mapping (mapped : source.isMapping = true)
  | without (absent : source.attribute? "get_vocab" = none)
  | null (found : source.attribute? "get_vocab" = some (.function .null))

/-- The place in a description where its vocabulary is: the accessor of an object, else its model,
else a field of its own. -/
inductive IsPlacedIn (source given : Value) : Prop
  | accessor (unmapped : source.isMapping = false)
    (found : source.attribute? "get_vocab" = some (.function given))
  | model (silent : IsSilent source) (found : (source.field "model").field? "vocab" = some given)
  | field (silent : IsSilent source) (absent : (source.field "model").field? "vocab" = none)
    (found : source.field? "vocab" = some given)

/-- A description has fields for its vocabulary only, and so has its model. -/
structure IsBare (source : Value) : Prop where
  fields : ∀ name ∉ ["get_vocab", "model", "vocab"], source.field? name = none
  model : ∀ name ∉ ["vocab"], (source.field "model").field? name = none

/-- A description presents tokens with their ids and nothing else. -/
structure Presents (source : Value) (pairs : List (String × Int)) : Prop where
  bare : IsBare source
  placed : ∃ given, IsPlacedIn source given ∧ Lists given pairs

variable {source given : Value} {pairs : List (String × Int)}

theorem ofPairs_ofList (pairs : List (String × Int)) :
    ofPairs (Keyed.ofList pairs) = ofPairs pairs :=
  ofPairs_entries (ofPairs pairs)

theorem read_of_lists [Stack] (lists : Lists given pairs) : read given = .ok (ofPairs pairs) := by
  unfold read
  cases lists with
  | mapping known =>
      have entries : ((Keyed.ofList pairs).map fun pair =>
          (Value.text pair.1, Value.int pair.2)).mapM (fun entry => readEntry entry.1 entry.2) =
            .ok (Keyed.ofList pairs) := by
        apply mapM_of_forall₂
        rw [List.forall₂_map_left_iff]
        exact List.forall₂_same.2 fun _ _ => rfl
      rw [known]
      dsimp only
      rw [entries, ok_bind, ofPairs_ofList]
  | @sequence items unmapped known each =>
      have entries : items.mapM (fun item =>
          item.pair >>= fun entry => readEntry entry.1 entry.2) = .ok pairs := by
        refine mapM_of_forall₂ (each.imp fun item pair paired => ?_)
        rw [paired]
        rfl
      rw [unmapped]
      dsimp only
      rw [known, ok_bind]
      show (items.mapM (fun item =>
          item.pair >>= fun entry => readEntry entry.1 entry.2) >>= fun entries =>
        Except.ok (ofPairs entries)) = _
      rw [entries, ok_bind]

theorem isNull_of_lists (lists : Lists given pairs) : given.isNull = false := by
  cases lists with
  | mapping known => exact Value.isNull_of_entries known
  | sequence _ known => exact Value.isNull_of_items known

theorem isCallable_of_lists (lists : Lists given pairs) : given.isCallable = false := by
  cases given with
  | function result | failing kind message => cases lists with
    | mapping known => cases known
    | sequence _ known => cases known
  | _ => rfl

theorem accessed?_of_silent (silent : IsSilent source) : accessed? source = .ok none := by
  unfold accessed?
  cases silent with
  | mapping mapped => rw [if_pos mapped]
  | without absent => rw [absent, ite_self]
  | null found =>
      rw [found]
      exact ite_self _

theorem given?_of_placed (placed : IsPlacedIn source given) (lists : Lists given pairs) :
    given? source = .ok (some given) := by
  unfold given?
  cases placed with
  | accessor unmapped found =>
      have accessed : accessed? source = .ok (some given) := by
        rw [accessed?, unmapped, found]
        show Except.ok (if given.isNull = true then none else some given) = _
        rw [isNull_of_lists lists]
        rfl
      rw [accessed]
      rfl
  | model silent found =>
      rw [accessed?_of_silent silent, found]
      rfl
  | field silent absent found =>
      rw [accessed?_of_silent silent, absent, found, ok_bind]
      dsimp only
      rw [Option.filter_some, isCallable_of_lists lists]
      rfl

/-! ### The places one by one -/

/-- What an object may have for an accessor that gives nothing. -/
def silences : List (List (String × Value)) := [[], [("get_vocab", .function .null)]]

/-- What a description may have for a model that gives nothing. -/
inductive IsEmptyModel : List (String × Value) → Prop
  | absent : IsEmptyModel []
  | null : IsEmptyModel [("model", .null)]
  | without {model : Value} {fields : List (String × Value)}
    (empty : fields ∈ [[], [("vocab", .null)]]) (made : Value.IsMadeOf fields model) :
    IsEmptyModel [("model", model)]

variable {front middle rest fields : List (String × Value)} {model : Value}

theorem isBare_of_made (made : Value.IsMadeOf fields source)
    (names : Keyed.keys fields ⊆ ["get_vocab", "model", "vocab"])
    (model : source.field "model" = .null ∨ ∃ inner, Value.IsMadeOf inner (source.field "model") ∧
      Keyed.keys inner ⊆ ["vocab"]) : IsBare source where
  fields name other := made.field?_of_notMem fun member => other (names member)
  model := by
    intro name other
    rcases model with null | ⟨inner, madeModel, innerNames⟩
    · rw [null]
      rfl
    · exact madeModel.field?_of_notMem fun member => other (innerNames member)

theorem get?_of_silences (silent : front ∈ silences) {name : String} (other : name ≠ "get_vocab") :
    Keyed.get? (front ++ rest) name = Keyed.get? rest name := by
  rcases List.mem_pair.1 silent with none | null
  · rw [none, List.nil_append]
  · rw [null, List.singleton_append, Keyed.get?, if_neg (by simpa using other.symm)]

theorem keys_of_silences (silent : front ∈ silences)
    (names : Keyed.keys rest ⊆ ["get_vocab", "model", "vocab"]) :
    Keyed.keys (front ++ rest) ⊆ ["get_vocab", "model", "vocab"] := by
  rcases List.mem_pair.1 silent with none | null
  · rw [none, List.nil_append]
    exact names
  · rw [null, List.singleton_append]
    exact List.cons_subset.2 ⟨List.mem_cons_self, names⟩

theorem isSilent_of_made (silent : front ∈ silences) (absent : Keyed.get? rest "get_vocab" = none)
    (made : Value.IsMadeOf (front ++ rest) source) : IsSilent source := by
  cases made with
  | dict => exact .mapping rfl
  | view => exact .mapping rfl
  | object =>
      rcases List.mem_pair.1 silent with none | null
      · rw [none]
        exact .without absent
      · rw [null]
        exact .null rfl

/-- The vocabulary is what an accessor gives. -/
theorem presents_accessor (lists : Lists given pairs) :
    Presents (.object [("get_vocab", .function given)]) pairs where
  bare := isBare_of_made .object (by simp [Keyed.keys]) (.inl rfl)
  placed := ⟨given, .accessor rfl rfl, lists⟩

theorem field?_of_made (silent : front ∈ silences) {name : String} (other : name ≠ "get_vocab")
    (made : Value.IsMadeOf (front ++ rest) source) :
    source.field? name = (Keyed.get? rest name).filter fun found => !found.isNull := by
  rw [made.field?, get?_of_silences silent other]

theorem isNull_of_made (made : Value.IsMadeOf fields source) : source.isNull = false := by
  cases made <;> rfl

/-- The vocabulary is in the model. -/
theorem presents_model (lists : Lists given pairs) (silent : front ∈ silences)
    (madeModel : Value.IsMadeOf [("vocab", given)] model)
    (made : Value.IsMadeOf (front ++ [("model", model)]) source) : Presents source pairs := by
  have known : source.field? "model" = some model := by
    rw [field?_of_made silent (by decide) made]
    exact Value.filter_present (isNull_of_made madeModel)
  have found : model.field? "vocab" = some given := by
    rw [madeModel.field?]
    exact Value.filter_present (isNull_of_lists lists)
  constructor
  case bare =>
    refine isBare_of_made made (keys_of_silences silent (by simp [Keyed.keys])) (.inr ?_)
    rw [Value.field, known]
    exact ⟨_, madeModel, by simp [Keyed.keys]⟩
  case placed =>
    refine ⟨given, .model (isSilent_of_made silent rfl made) ?_, lists⟩
    rw [Value.field, known]
    exact found

/-- The vocabulary is in a field of its own, after a model that has none. -/
theorem presents_field (lists : Lists given pairs) (silent : front ∈ silences)
    (empty : IsEmptyModel middle)
    (made : Value.IsMadeOf (front ++ (middle ++ [("vocab", given)])) source) :
    Presents source pairs := by
  have names : Keyed.keys (middle ++ [("vocab", given)]) ⊆ ["get_vocab", "model", "vocab"] := by
    cases empty <;> simp [Keyed.keys]
  have unnamed : Keyed.get? (middle ++ [("vocab", given)]) "get_vocab" = none := by
    cases empty <;> rfl
  have found : source.field? "vocab" = some given := by
    rw [field?_of_made silent (by decide) made]
    cases empty <;> exact Value.filter_present (isNull_of_lists lists)
  have field := field?_of_made silent (by decide : "model" ≠ "get_vocab") made
  have model : source.field "model" = .null ∨ ∃ inner,
      Value.IsMadeOf inner (source.field "model") ∧ inner ∈ [[], [("vocab", .null)]] := by
    rw [Value.field, field]
    cases empty with
    | absent => exact .inl rfl
    | null => exact .inl rfl
    | @without model fields empty madeModel =>
        show ((some model).filter _).getD _ = _ ∨ ∃ inner,
          Value.IsMadeOf inner (((some model).filter _).getD _) ∧ _
        rw [Value.filter_present (isNull_of_made madeModel)]
        exact .inr ⟨fields, madeModel, empty⟩
  constructor
  case bare =>
    refine isBare_of_made made (keys_of_silences silent names) (model.imp_right fun modelled => ?_)
    obtain ⟨inner, madeModel, empty⟩ := modelled
    refine ⟨inner, madeModel, ?_⟩
    rcases List.mem_pair.1 empty with none | null
    · rw [none]
      exact List.nil_subset _
    · rw [null]
      exact List.Subset.refl _
  case placed =>
    refine ⟨given, .field (isSilent_of_made silent unnamed made) ?_ found, lists⟩
    rcases model with null | ⟨inner, madeModel, empty⟩
    · rw [null]
      rfl
    · rw [madeModel.field?]
      rcases List.mem_pair.1 empty with none | null
      · rw [none]
        rfl
      · rw [null]
        rfl

end Vocabulary

namespace Tokenizer

open Vocabulary (Presents IsBare)

variable {source : Value} {vocabulary : Vocabulary} {pairs : List (String × Int)}

/-- A description with no more than a vocabulary gives a tokenizer with no more than that. -/
theorem extract_of_bare [Stack] (bare : IsBare source)
    (resolved : Vocabulary.resolve source = .ok (some vocabulary)) :
    extract source = .ok { vocabulary } := by
  have absent (name : String) (other : name ∉ ["get_vocab", "model", "vocab"]) :
      source.field name = .null := by
    rw [Value.field, bare.fields name other]
    rfl
  have merges : (source.field "model").field "merges" = .null := by
    rw [Value.field, bare.model "merges" (by decide)]
    rfl
  have addedTokens : AddedToken.readAll source = .ok [] := by
    rw [AddedToken.readAll, bare.fields "added_tokens" (by decide),
      absent "added_tokens_decoder" (by decide)]
    rfl
  rw [extract, resolved, ok_bind]
  dsimp only
  rw [merges, addedTokens]
  unfold Component.document?
  by_cases mapping : source.isMapping = true
  · rw [if_pos mapping]
    show Except.ok _ = _
    simp only [Option.bind_some, Component.read, absent "decoder" (by decide),
      absent "pre_tokenizer" (by decide)]
    rfl
  · have unmapped : source.entries? = none := by
      simpa [Value.isMapping] using mapping
    have backend : (source.attribute? "backend_tokenizer").getD .null = .null := by
      have none := bare.fields "backend_tokenizer" (by decide)
      rw [Value.field?_of_attributes unmapped] at none
      cases found : source.attribute? "backend_tokenizer" with
      | none => rfl
      | some value =>
          rw [found, Option.filter_some] at none
          cases value with
          | null => rfl
          | _ => cases none
    rw [if_neg mapping, backend]
    rfl

/-- However tokens and ids are presented, they make the same tokenizer, which has nothing else. A
token that is repeated is where it came first and has the id that came last. -/
theorem vocabulary_presented [Stack] (presents : Presents source pairs) :
    extract source = .ok { vocabulary := .ofPairs pairs } ∧
    Keyed.keys (Vocabulary.ofPairs pairs).entries = (pairs.map Prod.fst).eraseDups ∧
    ∀ token, Keyed.get? (Vocabulary.ofPairs pairs).entries token = pairs.reverse.lookup token := by
  obtain ⟨given, placed, lists⟩ := presents.placed
  refine ⟨extract_of_bare presents.bare ?_, Keyed.keys_ofList pairs, Keyed.get?_ofList pairs⟩
  rw [Vocabulary.resolve_eq, Vocabulary.given?_of_placed placed lists, ok_bind]
  show (Vocabulary.read given >>= fun vocabulary => pure (some vocabulary)) = _
  rw [Vocabulary.read_of_lists lists]
  rfl

/-- A token that is given two ids, and one between. -/
def repeated : List (String × Int) := [("a", 3), ("b", 1), ("a", 2)]

/-- The pairs in a sequence. -/
def repeatedSequence : Value :=
  .list [.tuple [.text "a", .int 3], .list [.text "b", .int 1], .tuple [.text "a", .int 2]]

/-- The mapping that is made of them. -/
def repeatedMapping : Value :=
  .view [(.text "a", .int 2), (.text "b", .int 1)]

/-- They are presented by accessors, in models and in fields. -/
def repeatedSources : List Value := [
  .object [("get_vocab", .function repeatedSequence)],
  .object [("get_vocab", .function .null), ("model", .dict [(.text "vocab", repeatedMapping)])],
  .dict [(.text "model", .object [("vocab", repeatedSequence)])],
  .object [("get_vocab", .function .null), ("model", .object [("vocab", .null)]),
    ("vocab", repeatedSequence)],
  .view [(.text "model", .null), (.text "vocab", repeatedMapping)]]

theorem presents_repeated : ∀ source ∈ repeatedSources, Presents source repeated := by
  have sequence : Vocabulary.Lists repeatedSequence repeated :=
    .sequence rfl rfl (.cons rfl (.cons rfl (.cons rfl .nil)))
  have mapping : Vocabulary.Lists repeatedMapping repeated := .mapping rfl
  have silent : [] ∈ Vocabulary.silences := List.mem_cons_self
  have null : [("get_vocab", .function .null)] ∈ Vocabulary.silences :=
    List.mem_cons_of_mem _ List.mem_cons_self
  simp only [repeatedSources, List.forall_mem_cons, List.not_mem_nil, false_implies,
    implies_true, and_true]
  exact ⟨Vocabulary.presents_accessor sequence,
    Vocabulary.presents_model mapping null .dict .object,
    Vocabulary.presents_model sequence silent .object .dict,
    Vocabulary.presents_field sequence null
      (.without (List.mem_cons_of_mem _ List.mem_cons_self) .object) .object,
    Vocabulary.presents_field mapping silent .null .view⟩

theorem vocabulary_presented_repeated :
    (∀ source ∈ repeatedSources,
      @extract ⟨fun _ => 3⟩ source = .ok { vocabulary := .ofPairs repeated }) ∧
    (Vocabulary.ofPairs repeated).entries = [("a", 2), ("b", 1)] :=
  ⟨fun source member =>
    (@vocabulary_presented _ _ ⟨fun _ => 3⟩ (presents_repeated source member)).1, by decide⟩

end Tokenizer

end ConstrainedDecoding
