import ConstrainedDecoding.Proofs.AddedContents
import ConstrainedDecoding.Proofs.NullFields

/-!
# The two listings of added tokens

A description may list its added tokens in a mapping from ids or as a sequence of entries with ids.
The two are interchangeable: the sequence of the entries of a mapping, each with the integer that
its key stands for and in the order of those integers, gives the same tokenizer as the mapping
(`Tokenizer.listings_interchangeable`). The order of the mapping does not matter, then, and the
added tokens come in strictly ascending order of their ids.
-/

namespace ConstrainedDecoding

open List (Forall₂)

/-! ## Setting a field -/

namespace Value

/-- Whether a value has named fields: a mapping or an object. -/
def hasFields : Value → Bool
  | dict _ | view _ | object _ => true
  | _ => false

/-- A mapping or an object with a named field set. -/
def setField (source : Value) (name : String) (given : Value) : Value :=
  match source with
  | dict entries => dict (Keyed.insert entries (text name) given)
  | view entries => view (Keyed.insert entries (text name) given)
  | object attributes => object (Keyed.insert attributes name given)
  | other => other

variable {source given : Value} {changed name : String}

theorem text_settled (name : String) (key : Value) :
    (key == text name) = true ↔ key = text name := by
  constructor
  · exact EngineForm.eq_text_of_beq
  · intro same
    rw [same, text_beq, beq_self_eq_true]

theorem lookup_insert (entries : List (Value × Value)) :
    lookup (Keyed.insert entries (text changed) given) name =
      if changed = name then some given else lookup entries name := by
  rw [lookup, Keyed.get?_insert (text_settled changed) (text_settled name), text_beq]
  simp only [beq_iff_eq]
  rfl

theorem get?_insert_attribute (attributes : List (String × Value)) :
    Keyed.get? (Keyed.insert attributes changed given) name =
      if changed = name then some given else Keyed.get? attributes name := by
  rw [Keyed.get?_insert (fun _ => beq_iff_eq) fun _ => beq_iff_eq]
  simp only [beq_iff_eq]

theorem isMapping_setField : (source.setField changed given).isMapping = source.isMapping := by
  cases source <;> rfl

theorem attribute?_setField_of_ne (different : changed ≠ name) :
    (source.setField changed given).attribute? name = source.attribute? name := by
  cases source with
  | object attributes => exact (get?_insert_attribute attributes).trans (if_neg different)
  | _ => rfl

theorem field?_of_attributes (unmapped : source.entries? = none) (name : String) :
    source.field? name = (source.attribute? name).filter fun found => !found.isNull := by
  rw [field?, unmapped]
  dsimp only
  cases source.attribute? name with
  | none => rfl
  | some found => cases found <;> rfl

theorem field?_setField_of_ne (different : changed ≠ name) :
    (source.setField changed given).field? name = source.field? name := by
  cases source with
  | dict entries | view entries =>
      rw [setField, field?_of_entries rfl, field?_of_entries rfl, lookup_insert,
        if_neg different]
  | object attributes =>
      rw [field?_of_attributes rfl, field?_of_attributes rfl, attribute?_setField_of_ne different]
  | _ => rfl

theorem isNull_of_entries {entries : List (Value × Value)}
    (mapping : given.entries? = some entries) : given.isNull = false := by
  cases given with
  | null => cases mapping
  | _ => rfl

theorem isNull_of_items {items : List Value} (known : given.items = .ok items) :
    given.isNull = false := by
  cases given with
  | null => cases known
  | _ => rfl

theorem filter_present (present : given.isNull = false) :
    (some given).filter (fun found => !found.isNull) = some given := by
  rw [Option.filter_some, present]
  rfl

theorem field?_setField_self (fields : source.hasFields = true) (present : given.isNull = false) :
    (source.setField name given).field? name = some given := by
  cases source with
  | dict entries | view entries =>
      rw [setField, field?_of_entries rfl, lookup_insert, if_pos rfl, filter_present present]
  | object attributes =>
      have set : ((object attributes).setField name given).attribute? name = some given :=
        (get?_insert_attribute attributes).trans (if_pos rfl)
      rw [field?_of_attributes rfl, set, filter_present present]
  | _ => cases fields

end Value

/-! ## Entries by their ids -/

theorem mapM_eq_of_forall₂ {ε α β γ : Type} {step : α → Except ε γ} {step' : β → Except ε γ}
    {items : List α} {items' : List β}
    (each : Forall₂ (fun item item' => step item = step' item') items items') :
    items.mapM step = items'.mapM step' := by
  induction each with
  | nil => rfl
  | cons first _ ih => rw [List.mapM_cons, List.mapM_cons, first, ih]

namespace AddedToken

/-- The added token that an entry describes, with the id given. -/
def describe [Stack] (pair : Int × Value) : Except Fault AddedToken :=
  ((pair.2.field "content").str (Stack.levels .content)).map fun content => {
    id := pair.1, content
    singleWord := flag pair.2 "single_word" false
    leftStrip := flag pair.2 "lstrip" false
    rightStrip := flag pair.2 "rstrip" false
    normalized := flag pair.2 "normalized" true
    special := flag pair.2 "special" false }

/-- A mapping is one from ids: its keys stand for different integers, and its entries are mappings
or objects without ids of their own. -/
structure IsFromIds (entries : List (Value × Value)) : Prop where
  integral : ∀ entry ∈ entries, ∃ id, entry.1.StandsFor id
  distinct : entries.Pairwise fun entry other =>
    ∀ id, entry.1.StandsFor id → ¬ other.1.StandsFor id
  fields : ∀ entry ∈ entries, entry.2.hasFields = true
  bare : ∀ entry ∈ entries, entry.2.field? "id" = none

/-- The pairs are the entries of a mapping, each with the integer that its key stands for. -/
abbrev AreNumbered : List (Value × Value) → List (Int × Value) → Prop :=
  Forall₂ fun entry pair => entry.1.StandsFor pair.1 ∧ entry.2 = pair.2

/-- The pairs are the entries of a mapping in ascending order of the integers that their keys stand
for, each with that integer. -/
def IsAscending (entries : List (Value × Value)) (numbered : List (Int × Value)) : Prop :=
  ∃ sorted, sorted.Perm entries ∧ AreNumbered sorted numbered ∧
    numbered.Pairwise fun pair other => pair.1 < other.1

/-- An entry with an id of its own. -/
def withId (pair : Int × Value) : Value :=
  pair.2.setField "id" (.int pair.1)

variable {entries others sorted : List (Value × Value)} {numbered : List (Int × Value)}

theorem flag_setField {entry given : Value} {changed name : String} (different : changed ≠ name)
    (otherwise : Bool) : flag (entry.setField changed given) name otherwise =
      flag entry name otherwise := by
  rw [flag, Value.field?_setField_of_ne different, flag]

section

variable [Stack] {pair : Int × Value}

theorem id_of_describe {token : AddedToken} (describes : describe pair = .ok token) :
    token.id = pair.1 := by
  obtain ⟨_, _, rfl⟩ := map_eq_ok.1 describes
  rfl

theorem judged_describe (pair : Int × Value) : Judged (describe pair)
    ((pair.2.field "content").IsShown (Stack.levels .content)) False :=
  (Value.judged_str _ _).map _

theorem read_of_id {entry id : Value} {number : Int}
    (counts : ((entry.field? "id").getD id).toInteger = .ok number) :
    read entry id = describe (number, entry) := by
  rw [read, counts, ok_bind, describe]
  cases (entry.field "content").str (Stack.levels .content) <;> rfl

/-- An entry without an id takes that of its key. -/
theorem read_of_bare {entry key : Value} (bare : entry.field? "id" = none) {id : Int}
    (stands : key.StandsFor id) : read entry key = describe (id, entry) := by
  apply read_of_id
  rw [bare, Option.getD_none, stands]

theorem describe_withId (pair : Int × Value) :
    describe (pair.1, withId pair) = describe pair := by
  unfold describe withId
  simp only [flag_setField, Value.field, Value.field?_setField_of_ne, ne_eq, String.reduceEq,
    not_false_eq_true]

theorem read_withId (fields : pair.2.hasFields = true) :
    read (withId pair) .null = describe pair := by
  have found : (withId pair).field? "id" = some (.int pair.1) :=
    Value.field?_setField_self fields rfl
  rw [← describe_withId]
  apply read_of_id
  rw [found]
  rfl

end

/-! ### In ascending order -/

/-- The key of an entry stands for a smaller integer than that of another one. -/
def IsBefore (entry other : Value × Value) : Prop :=
  ∃ id later, entry.1.StandsFor id ∧ other.1.StandsFor later ∧ id < later

theorem IsBefore.asymm {entry other : Value × Value} (before : IsBefore entry other) :
    ¬ IsBefore other entry := by
  intro ⟨later, id, laterStands, stands, above⟩
  obtain ⟨id', later', stands', laterStands', below⟩ := before
  cases stands.symm.trans stands'
  cases laterStands.symm.trans laterStands'
  exact lt_asymm below above

theorem exists_entry_of_numbered (numbers : AreNumbered entries numbered) {pair : Int × Value}
    (member : pair ∈ numbered) : ∃ entry ∈ entries, entry.1.StandsFor pair.1 ∧ entry.2 = pair.2 :=
  exists_mem_of_forall₂ numbers.flip member

theorem pairwise_isBefore (numbers : AreNumbered sorted numbered)
    (ascending : numbered.Pairwise fun pair other => pair.1 < other.1) :
    sorted.Pairwise IsBefore := by
  induction numbers with
  | nil => exact .nil
  | @cons entry pair rest rest' first tail ih =>
      obtain ⟨below, ascending⟩ := List.pairwise_cons.1 ascending
      refine .cons (fun other member => ?_) (ih ascending)
      obtain ⟨pair', among, stands, _⟩ := exists_mem_of_forall₂ tail member
      exact ⟨pair.1, pair'.1, first.1, stands, below pair' among⟩

theorem numbered_unique {numbered' : List (Int × Value)} (numbers : AreNumbered entries numbered)
    (numbers' : AreNumbered entries numbered') : numbered = numbered' := by
  induction numbers generalizing numbered' with
  | nil =>
      cases numbers'
      rfl
  | @cons entry pair rest rest' first tail ih =>
      cases numbers' with
      | @cons _ other _ others first' tail' =>
          have id : pair.1 = other.1 := Except.ok.inj (first.1.symm.trans first'.1)
          rw [Prod.ext id (first.2.symm.trans first'.2), ih tail']

/-- There is one ascending order only, and the order of the mapping has no part in it. -/
theorem IsAscending.unique {numbered' : List (Int × Value)} (ascends : IsAscending entries numbered)
    (ascends' : IsAscending others numbered') (perm : others.Perm entries) :
    numbered' = numbered := by
  obtain ⟨sorted, sortedPerm, numbers, ascending⟩ := ascends
  obtain ⟨sorted', sortedPerm', numbers', ascending'⟩ := ascends'
  have inOrder := pairwise_isBefore numbers ascending
  have inOrder' := pairwise_isBefore numbers' ascending'
  have same : sorted' = sorted := by
    refine List.Perm.eq_of_pairwise ?_ inOrder' inOrder ?_
    · intro entry other _ _ before after
      exact absurd after before.asymm
    · exact (sortedPerm'.trans perm).trans sortedPerm.symm
  subst same
  exact numbered_unique numbers' numbers

theorem IsFromIds.of_perm (ids : IsFromIds entries) (perm : others.Perm entries) :
    IsFromIds others where
  integral entry member := ids.integral entry (perm.mem_iff.1 member)
  distinct := by
    refine (perm.pairwise_iff ?_).2 ids.distinct
    intro entry other apart id stands stands'
    exact apart id stands' stands
  fields entry member := ids.fields entry (perm.mem_iff.1 member)
  bare entry member := ids.bare entry (perm.mem_iff.1 member)

/-- The integers of different keys differ, so that they ascend strictly. -/
theorem exists_numbered {ids : List Int}
    (stand : Forall₂ (fun entry id => entry.1.StandsFor id) sorted ids)
    (ascending : ids.Pairwise (· ≤ ·))
    (distinct : sorted.Pairwise fun entry other =>
      ∀ id, entry.1.StandsFor id → ¬ other.1.StandsFor id) :
    ∃ numbered, numbered.map Prod.fst = ids ∧ AreNumbered sorted numbered ∧
      numbered.Pairwise fun pair other => pair.1 < other.1 := by
  induction stand with
  | nil => exact ⟨[], rfl, .nil, .nil⟩
  | @cons entry id rest rest' first tail ih =>
      obtain ⟨least, ascending⟩ := List.pairwise_cons.1 ascending
      obtain ⟨apart, distinct⟩ := List.pairwise_cons.1 distinct
      obtain ⟨numbered, rfl, numbers, strictly⟩ := ih ascending distinct
      refine ⟨(id, entry.2) :: numbered, rfl, .cons ⟨first, rfl⟩ numbers, .cons ?_ strictly⟩
      intro pair member
      obtain ⟨other, among, stands, _⟩ := exists_entry_of_numbered numbers member
      have differs : id ≠ pair.1 := by
        intro same
        exact apart other among pair.1 (same ▸ first) stands
      exact lt_of_le_of_ne (least pair.1 (List.mem_map_of_mem member)) differs

/-! ### Reading either listing -/

theorem read_numbered [Stack] (numbers : AreNumbered sorted numbered)
    (fromIds : IsFromIds sorted) :
    sorted.mapM (fun entry => read entry.2 entry.1) = numbered.mapM describe := by
  apply mapM_eq_of_forall₂
  have bare := (List.forall₂_and_left sorted numbered).2 ⟨fromIds.bare, numbers⟩
  refine bare.imp fun entry pair both => ?_
  rw [read_of_bare both.1 both.2.1, both.2.2]

theorem fields_numbered (numbers : AreNumbered sorted numbered) (fromIds : IsFromIds sorted)
    {pair : Int × Value} (member : pair ∈ numbered) : pair.2.hasFields = true := by
  obtain ⟨entry, among, _, same⟩ := exists_entry_of_numbered numbers member
  exact same ▸ fromIds.fields entry among

variable {source keyed listed : Value}

/-- The mapping is read in ascending order, whatever its own order is. -/
theorem exists_readAll_keyed [Stack] (fields : source.hasFields = true)
    (absent : source.field? "added_tokens" = none) (mapping : keyed.entries? = some entries)
    (fromIds : IsFromIds entries) :
    ∃ numbered, IsAscending entries numbered ∧
      readAll (source.setField "added_tokens_decoder" keyed) = numbered.mapM describe := by
  obtain ⟨sorted, known⟩ := (judged_byId entries).exists_ok_iff.2 fromIds.integral
  have ordered := isOrdered_of_byId known
  obtain ⟨ids, stand, ascending⟩ := ordered.ascending
  have sortedIds := fromIds.of_perm ordered.perm
  obtain ⟨numbered, rfl, numbers, strictly⟩ := exists_numbered stand ascending sortedIds.distinct
  refine ⟨numbered, ⟨sorted, ordered.perm, numbers, strictly⟩, ?_⟩
  have unlisted : (source.setField "added_tokens_decoder" keyed).field? "added_tokens" = none := by
    rw [Value.field?_setField_of_ne (by decide), absent]
  have found : (source.setField "added_tokens_decoder" keyed).field "added_tokens_decoder" =
      keyed := by
    rw [Value.field, Value.field?_setField_self fields (Value.isNull_of_entries mapping)]
    rfl
  rw [readAll, unlisted]
  dsimp only
  rw [found, mapping]
  dsimp only
  rw [known, ok_bind, read_numbered numbers sortedIds]

theorem readAll_listed [Stack] (fields : source.hasFields = true)
    (entries : ∀ pair ∈ numbered, pair.2.hasFields = true)
    (items : listed.items = .ok (numbered.map withId)) :
    readAll (source.setField "added_tokens" listed) = numbered.mapM describe := by
  rw [readAll, Value.field?_setField_self fields (Value.isNull_of_items items)]
  dsimp only
  rw [items, ok_bind, List.mapM_map]
  exact mapM_congr fun pair member => read_withId (entries pair member)

/-- Added tokens are described one for one, if the contents of all of them can be shown. -/
theorem exists_describe_iff [Stack] (numbers : AreNumbered sorted numbered)
    (perm : sorted.Perm entries) :
    (∃ tokens, numbered.mapM describe = .ok tokens) ↔
      ∀ entry ∈ entries, (entry.2.field "content").IsShown (Stack.levels .content) := by
  rw [(Judged.mapM_of_conversion judged_describe numbered).exists_ok_iff]
  constructor
  · intro shown entry member
    obtain ⟨pair, among, _, same⟩ := exists_mem_of_forall₂ numbers (perm.mem_iff.2 member)
    exact same ▸ shown pair among
  · intro shown pair member
    obtain ⟨entry, among, _, same⟩ := exists_entry_of_numbered numbers member
    exact same ▸ shown entry (perm.mem_iff.1 among)

end AddedToken

namespace Tokenizer

variable {source keyed : Value} {entries : List (Value × Value)}

/-- The names under which added tokens are listed. -/
def listingNames : List String := ["added_tokens", "added_tokens_decoder"]

/-- Two descriptions are the same but for the fields that list added tokens. -/
structure DifferInListings (source other : Value) : Prop where
  isMapping : source.isMapping = other.isMapping
  field? : ∀ {name}, name ∉ listingNames → source.field? name = other.field? name
  attribute? : ∀ {name}, name ∉ listingNames → source.attribute? name = other.attribute? name

theorem differInListings_setField {changed changed' : String} {given given' : Value}
    (listing : changed ∈ listingNames) (listing' : changed' ∈ listingNames) :
    DifferInListings (source.setField changed given) (source.setField changed' given') where
  isMapping := by rw [Value.isMapping_setField, Value.isMapping_setField]
  field? := by
    intro name unlisted
    rw [Value.field?_setField_of_ne (ne_of_mem_of_not_mem listing unlisted),
      Value.field?_setField_of_ne (ne_of_mem_of_not_mem listing' unlisted)]
  attribute? := by
    intro name unlisted
    rw [Value.attribute?_setField_of_ne (ne_of_mem_of_not_mem listing unlisted),
      Value.attribute?_setField_of_ne (ne_of_mem_of_not_mem listing' unlisted)]

section Differ

variable {other : Value} (differ : DifferInListings source other)
include differ

theorem DifferInListings.field {name : String} (unlisted : name ∉ listingNames) :
    source.field name = other.field name := by
  rw [Value.field, differ.field? unlisted, Value.field]

theorem DifferInListings.resolve [Stack] :
    Vocabulary.resolve source = Vocabulary.resolve other := by
  unfold Vocabulary.resolve Vocabulary.fromAccessor?
  rw [differ.isMapping, differ.attribute? (by decide), differ.field (by decide),
    differ.field? (by decide)]

/-- Nothing but the added tokens is read of the fields that list them. -/
theorem DifferInListings.extract [Stack]
    (same : AddedToken.readAll source = AddedToken.readAll other) :
    extract source = extract other := by
  unfold Tokenizer.extract
  rw [differ.resolve, differ.field (by decide), same]
  unfold Component.document?
  rw [differ.isMapping, differ.attribute? (by decide)]
  by_cases mapping : other.isMapping = true
  · rw [if_pos mapping, if_pos mapping]
    have decoder : source.field "decoder" = other.field "decoder" := differ.field (by decide)
    have preTokenizer : source.field "pre_tokenizer" = other.field "pre_tokenizer" :=
      differ.field (by decide)
    simp only [ok_bind, Option.bind_some, Component.read, decoder, preTokenizer]
  · rw [if_neg mapping, if_neg mapping]

end Differ

/-- A mapping from ids gives the added tokens in strictly ascending order of the ids, unless the
content of one of them cannot be shown. A sequence of the same entries in that order, each with its
id, gives the same tokenizer, or fails in the same way, and so does a mapping with the same entries
in another order. -/
theorem listings_interchangeable [Stack] (fields : source.hasFields = true)
    (absent : source.field? "added_tokens" = none) (mapping : keyed.entries? = some entries)
    (fromIds : AddedToken.IsFromIds entries) :
    ∃ numbered, AddedToken.IsAscending entries numbered ∧
      (∀ numbered', AddedToken.IsAscending entries numbered' → numbered' = numbered) ∧
      ((∃ tokens, AddedToken.readAll (source.setField "added_tokens_decoder" keyed) = .ok tokens) ↔
        ∀ entry ∈ entries, (entry.2.field "content").IsShown (Stack.levels .content)) ∧
      (∀ tokens, AddedToken.readAll (source.setField "added_tokens_decoder" keyed) = .ok tokens →
        tokens.map AddedToken.id = numbered.map Prod.fst ∧
        (tokens.map AddedToken.id).Pairwise (· < ·)) ∧
      (∀ tokenizer, extract (source.setField "added_tokens_decoder" keyed) = .ok tokenizer →
        AddedToken.readAll (source.setField "added_tokens_decoder" keyed) =
          .ok tokenizer.addedTokens) ∧
      (∀ listed : Value, listed.items = .ok (numbered.map AddedToken.withId) →
        extract (source.setField "added_tokens" listed) =
          extract (source.setField "added_tokens_decoder" keyed)) ∧
      ∀ (keyed' : Value) (entries' : List (Value × Value)),
        keyed'.entries? = some entries' → entries'.Perm entries →
        extract (source.setField "added_tokens_decoder" keyed') =
          extract (source.setField "added_tokens_decoder" keyed) := by
  obtain ⟨numbered, ascends, reads⟩ :=
    AddedToken.exists_readAll_keyed fields absent mapping fromIds
  have ⟨sorted, perm, numbers, strictly⟩ := ascends
  refine ⟨numbered, ascends, ?unique, ?readable, ?ids, ?carried, ?sequence, ?reordered⟩
  case unique => exact fun _ other => ascends.unique other (.refl _)
  case readable =>
    rw [reads]
    exact AddedToken.exists_describe_iff numbers perm
  case ids =>
    intro tokens readable
    rw [reads] at readable
    have ids : tokens.map AddedToken.id = numbered.map Prod.fst :=
      map_of_mapM (fun _ _ => AddedToken.id_of_describe) readable
    refine ⟨ids, ?_⟩
    rw [ids, List.pairwise_map]
    exact strictly
  case carried => exact fun tokenizer extracted => (exists_parts_of_extract extracted).2
  case sequence =>
    intro listed items
    apply (differInListings_setField (by decide) (by decide)).extract
    rw [AddedToken.readAll_listed fields ?_ items, reads]
    exact fun pair => AddedToken.fields_numbered numbers (fromIds.of_perm perm)
  case reordered =>
    intro keyed' entries' mapping' perm'
    obtain ⟨numbered', ascends', reads'⟩ :=
      AddedToken.exists_readAll_keyed fields absent mapping' (fromIds.of_perm perm')
    apply (differInListings_setField (by decide) (by decide)).extract
    rw [reads', reads, ascends.unique ascends' perm']

/-- Two entries by their ids, out of order both as numbers and as texts. -/
def unsorted : List (Value × Value) := [
  (.int 10, .dict [(.text "content", .text "</s>"), (.text "special", .bool true)]),
  (.text "9", .object [("content", .int 5), ("id", .null)])]

theorem standsFor_nine : (Value.text "9").StandsFor 9 := by
  rfl

theorem isFromIds_unsorted : AddedToken.IsFromIds unsorted where
  integral := by
    intro entry member
    rcases List.mem_cons.1 member with rfl | last
    · exact ⟨10, rfl⟩
    · obtain rfl := List.mem_singleton.1 last
      exact ⟨9, standsFor_nine⟩
  distinct := by
    refine .cons (fun other member id stands stands' => ?_) (List.pairwise_singleton _ _)
    obtain rfl := List.mem_singleton.1 member
    cases stands
    cases standsFor_nine.symm.trans stands'
  fields := by decide
  bare := by
    intro entry member
    rcases List.mem_cons.1 member with rfl | last
    · rfl
    · obtain rfl := List.mem_singleton.1 last
      rfl

theorem isAscending_unsorted : AddedToken.IsAscending unsorted [
    (9, .object [("content", .int 5), ("id", .null)]),
    (10, .dict [(.text "content", .text "</s>"), (.text "special", .bool true)])] :=
  ⟨unsorted.reverse, List.reverse_perm _,
    .cons ⟨standsFor_nine, rfl⟩ (.cons ⟨rfl, rfl⟩ .nil), by decide⟩

theorem listings_interchangeable_unsorted :
    ∃ tokenizer,
      @extract ⟨fun _ => 3⟩
        ((oneTokenDocument 0).setField "added_tokens_decoder" (.view unsorted)) =
        .ok tokenizer ∧
      @extract ⟨fun _ => 3⟩ ((oneTokenDocument 0).setField "added_tokens" (.tuple [
        .object [("content", .int 5), ("id", .int 9)],
        .dict [(.text "content", .text "</s>"), (.text "special", .bool true),
          (.text "id", .int 10)]])) = .ok tokenizer ∧
      @extract ⟨fun _ => 3⟩
        ((oneTokenDocument 0).setField "added_tokens_decoder" (.dict unsorted.reverse)) =
        .ok tokenizer ∧
      tokenizer.addedTokens.map AddedToken.id = [9, 10] := by
  have fields : (oneTokenDocument 0).hasFields = true := rfl
  have mapping : (Value.view unsorted).entries? = some unsorted := rfl
  obtain ⟨numbered, _, unique, readable, ordered, carried, sequence, reordered⟩ :=
    @listings_interchangeable _ _ _ ⟨fun _ => 3⟩ fields rfl mapping isFromIds_unsorted
  obtain rfl := unique _ isAscending_unsorted
  obtain ⟨tokens, reads⟩ := readable.2 fun entry member => by
    rcases List.mem_cons.1 member with rfl | last
    · exact ⟨"</s>", rfl⟩
    · obtain rfl := List.mem_singleton.1 last
      exact ⟨"5", rfl⟩
  obtain ⟨tokenizer, extracted⟩ : ∃ tokenizer, @extract ⟨fun _ => 3⟩
      ((oneTokenDocument 0).setField "added_tokens_decoder" (.view unsorted)) = .ok tokenizer := by
    rw [extract_of_mapping ⟨fun _ => 3⟩ rfl rfl, reads]
    exact ⟨_, rfl⟩
  refine ⟨tokenizer, extracted, (sequence _ rfl).trans extracted, ?_, ?_⟩
  · exact (reordered _ _ rfl (List.reverse_perm _)).trans extracted
  · rw [(ordered _ (carried tokenizer extracted)).1]
    rfl

end Tokenizer

end ConstrainedDecoding
