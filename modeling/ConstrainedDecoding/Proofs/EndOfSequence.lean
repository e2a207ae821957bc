import ConstrainedDecoding.Proofs.DocumentParsing
import ConstrainedDecoding.Proofs.TokenIds

/-!
# The end of sequence

Together with its document and its size, an engine is told which token of a tokenizer ends a
sequence. It is one of the special tokens: the last one with the likeliest text that any of them
has, or else the last one of all (`AddedToken.EndsSequence`). What is handed over fits together: the
document lists that token, and its id is below the size (`Tokenizer.endToken_coherent`).
-/

namespace ConstrainedDecoding

/-! ## Which token ends a sequence -/

namespace AddedToken

/-- A token is the last one that is picked. -/
def IsLast (picked : AddedToken → Bool) (tokens : List AddedToken) (token : AddedToken) : Prop :=
  ∃ before after, tokens = before ++ token :: after ∧ picked token = true ∧
    ∀ later ∈ after, picked later = false

/-- The token is special and has the given text for its content. -/
def marks (content : String) (token : AddedToken) : Bool :=
  token.special && token.content == content

/-- The token is special and has one of the usual texts of an end-of-sequence token. -/
def isUsualEnd (token : AddedToken) : Bool :=
  token.special && EngineForm.endTexts.contains token.content

/-- The text is the likeliest of the usual ones that special tokens have. -/
def IsLikeliest (tokens : List AddedToken) (content : String) : Prop :=
  ∃ before after, EngineForm.endTexts = before ++ content :: after ∧
    (∃ token ∈ tokens, token.marks content = true) ∧
    ∀ earlier ∈ before, ∀ token ∈ tokens, token.marks earlier = false

/-- The token that ends a sequence, if there is one. -/
inductive EndsSequence (tokens : List AddedToken) : Option AddedToken → Prop
  | usual {content : String} {token : AddedToken} (likeliest : IsLikeliest tokens content)
    (last : IsLast (marks content) tokens token) : EndsSequence tokens (some token)
  | unusual {token : AddedToken} (others : ∀ other ∈ tokens, other.isUsualEnd = false)
    (last : IsLast special tokens token) : EndsSequence tokens (some token)
  | none (plain : ∀ other ∈ tokens, other.special = false) : EndsSequence tokens none

/-- The last token with the first of the usual texts that any special token has. -/
def usualEnd? (tokens : List AddedToken) : Option AddedToken :=
  EngineForm.endTexts.findSome? fun content => tokens.reverse.find? (marks content)

/-- The token that ends a sequence, looked for from the end of the tokens. -/
def end? (tokens : List AddedToken) : Option AddedToken :=
  (usualEnd? tokens).or (tokens.reverse.find? special)

variable {tokens : List AddedToken} {token : AddedToken} {content : String}

theorem IsLast.mem {picked : AddedToken → Bool} (last : IsLast picked tokens token) :
    token ∈ tokens := by
  obtain ⟨before, after, rfl, _⟩ := last
  exact List.mem_append_right before List.mem_cons_self

theorem IsLast.picked_eq {picked : AddedToken → Bool} (last : IsLast picked tokens token) :
    picked token = true := by
  obtain ⟨_, _, _, isPicked, _⟩ := last
  exact isPicked

theorem find?_reverse_eq_some {picked : AddedToken → Bool} :
    tokens.reverse.find? picked = some token ↔ IsLast picked tokens token := by
  rw [List.find?_eq_some_iff_append]
  constructor
  · intro ⟨isPicked, after, before, split, unpicked⟩
    refine ⟨before.reverse, after.reverse, ?_, isPicked, fun later member => ?_⟩
    · simpa using congrArg List.reverse split
    · simpa using unpicked later (List.mem_reverse.1 member)
  · intro ⟨before, after, split, isPicked, unpicked⟩
    refine ⟨isPicked, after.reverse, before.reverse, ?_, fun later member => ?_⟩
    · simp [split]
    · simpa using unpicked later (List.mem_reverse.1 member)

theorem find?_reverse_eq_none {picked : AddedToken → Bool} :
    tokens.reverse.find? picked = none ↔ ∀ token ∈ tokens, picked token = false := by
  simp

theorem special_of_marks (marked : token.marks content = true) : token.special = true :=
  (Bool.and_eq_true_iff.1 marked).1

theorem isUsualEnd_of_marks (usual : content ∈ EngineForm.endTexts)
    (marked : token.marks content = true) : token.isUsualEnd = true := by
  obtain ⟨isSpecial, same⟩ := Bool.and_eq_true_iff.1 marked
  rw [isUsualEnd, isSpecial, eq_of_beq same, List.contains_iff_mem.2 usual]
  rfl

theorem marks_of_isUsualEnd (usual : token.isUsualEnd = true) :
    token.content ∈ EngineForm.endTexts ∧ token.marks token.content = true := by
  obtain ⟨isSpecial, listed⟩ := Bool.and_eq_true_iff.1 usual
  refine ⟨List.contains_iff_mem.1 listed, ?_⟩
  rw [marks, isSpecial, beq_self_eq_true]
  rfl

theorem usualEnd?_eq_none_iff :
    usualEnd? tokens = none ↔ ∀ token ∈ tokens, token.isUsualEnd = false := by
  unfold usualEnd?
  rw [List.findSome?_eq_none_iff]
  constructor
  · intro unmarked token member
    rw [← Bool.not_eq_true]
    intro usual
    obtain ⟨listed, marked⟩ := marks_of_isUsualEnd usual
    have plain := find?_reverse_eq_none.1 (unmarked _ listed) token member
    rw [marked] at plain
    cases plain
  · intro others content listed
    refine find?_reverse_eq_none.2 fun token member => ?_
    rw [← Bool.not_eq_true]
    intro marked
    exact absurd (others token member) (by rw [isUsualEnd_of_marks listed marked]; decide)

theorem usualEnd?_eq_some_iff : usualEnd? tokens = some token ↔
    ∃ content, IsLikeliest tokens content ∧ IsLast (marks content) tokens token := by
  unfold usualEnd?
  rw [List.findSome?_eq_some_iff]
  constructor
  · intro ⟨before, content, after, split, found, earlier⟩
    have last := find?_reverse_eq_some.1 found
    exact ⟨content, ⟨before, after, split, ⟨token, last.mem, last.picked_eq⟩, fun other among =>
      find?_reverse_eq_none.1 (earlier other among)⟩, last⟩
  · intro ⟨content, ⟨before, after, split, _, earlier⟩, last⟩
    exact ⟨before, content, after, split, find?_reverse_eq_some.2 last, fun other among =>
      find?_reverse_eq_none.2 (earlier other among)⟩

/-- There is exactly one answer to which token ends a sequence. -/
theorem endsSequence_iff {chosen : Option AddedToken} :
    EndsSequence tokens chosen ↔ end? tokens = chosen := by
  unfold end?
  constructor
  · intro ends
    cases ends with
    | usual likeliest last => rw [usualEnd?_eq_some_iff.2 ⟨_, likeliest, last⟩, Option.some_or]
    | unusual others last =>
        rw [usualEnd?_eq_none_iff.2 others, Option.none_or, find?_reverse_eq_some.2 last]
    | none plain =>
        have others : ∀ other ∈ tokens, other.isUsualEnd = false := by
          intro other member
          rw [isUsualEnd, plain other member, Bool.false_and]
        rw [usualEnd?_eq_none_iff.2 others, Option.none_or, find?_reverse_eq_none.2 plain]
  · intro same
    subst same
    cases usual : usualEnd? tokens with
    | some token =>
        obtain ⟨content, likeliest, last⟩ := usualEnd?_eq_some_iff.1 usual
        exact .usual likeliest last
    | none =>
        rw [Option.none_or]
        cases found : tokens.reverse.find? special with
        | some token =>
            exact .unusual (usualEnd?_eq_none_iff.1 usual) (find?_reverse_eq_some.1 found)
        | none => exact .none (find?_reverse_eq_none.1 found)

theorem special_of_endsSequence (ends : EndsSequence tokens (some token)) :
    token ∈ tokens ∧ token.special = true := by
  cases ends with
  | usual likeliest last => exact ⟨last.mem, special_of_marks last.picked_eq⟩
  | unusual others last => exact ⟨last.mem, last.picked_eq⟩

theorem eq_none_iff_of_endsSequence {chosen : Option AddedToken}
    (ends : EndsSequence tokens chosen) :
    chosen = none ↔ ∀ token ∈ tokens, token.special = false := by
  constructor
  · intro absent
    subst absent
    cases ends with
    | none plain => exact plain
  · intro plain
    exact (endsSequence_iff.1 ends).symm.trans (endsSequence_iff.1 (.none plain))

/-- Only the tokens with one of the usual texts have a say if there are any. -/
theorem usualEnd?_filter (tokens : List AddedToken) :
    usualEnd? (tokens.filter isUsualEnd) = usualEnd? tokens := by
  unfold usualEnd?
  rw [← List.head?_filterMap, ← List.head?_filterMap]
  refine congrArg List.head? (List.filterMap_congr fun content listed => ?_)
  rw [← List.filter_reverse, List.find?_filter]
  refine congrArg (List.find? · tokens.reverse) (funext fun token => ?_)
  cases marked : token.marks content with
  | false => simp
  | true => simp [isUsualEnd_of_marks listed marked]

theorem end?_eq_of_filter_eq {others : List AddedToken}
    (same : others.filter isUsualEnd = tokens.filter isUsualEnd)
    (usual : ∃ token ∈ tokens, token.isUsualEnd = true) : end? others = end? tokens := by
  have alike : usualEnd? others = usualEnd? tokens := by
    rw [← usualEnd?_filter others, same, usualEnd?_filter]
  unfold end?
  rw [alike]
  cases found : usualEnd? tokens with
  | some token => rfl
  | none =>
      obtain ⟨token, member, isUsual⟩ := usual
      have plain := usualEnd?_eq_none_iff.1 found token member
      rw [isUsual] at plain
      cases plain

end AddedToken

namespace EngineForm

open AddedToken (marks end? usualEnd?)

theorem get?_map_text (tokens : List AddedToken) (content : String) :
    Keyed.get? (tokens.map fun token => (Value.text token.content, token.id)) (.text content) =
      (tokens.find? fun token => token.content == content).map AddedToken.id := by
  induction tokens with
  | nil => rfl
  | cons token rest ih =>
      rw [List.map_cons, Keyed.get?, Value.text_beq, List.find?_cons, ih]
      cases token.content == content <;> rfl

/-- The token that a record gives for the end of a sequence. -/
theorem endToken_toRecord (tokenizer : Tokenizer) :
    endToken tokenizer.toRecord = .ok ((end? tokenizer.addedTokens).map AddedToken.id) := by
  obtain ⟨tokens, special, entries⟩ := bind_eq_ok.1 (specialEntries_toRecord tokenizer)
  have found (content : String) :
      Keyed.get? ((tokenizer.addedTokens.filter AddedToken.special).map fun token =>
          (Value.text token.content, token.id)).reverse (.text content) =
        (tokenizer.addedTokens.reverse.find? (marks content)).map AddedToken.id := by
    rw [← List.map_reverse, get?_map_text, ← List.filter_reverse, List.find?_filter]
    simp only [Bool.decide_and, Bool.decide_eq_true]
    rfl
  have likeliest : (EngineForm.endTexts.findSome? fun content =>
      (tokenizer.addedTokens.reverse.find? (marks content)).map AddedToken.id) =
        (usualEnd? tokenizer.addedTokens).map AddedToken.id :=
    List.map_findSome?.symm
  have last : ((tokenizer.addedTokens.filter AddedToken.special).map fun token =>
      (Value.text token.content, token.id)).getLast?.map Prod.snd =
        (tokenizer.addedTokens.reverse.find? AddedToken.special).map AddedToken.id := by
    rw [List.getLast?_map, List.getLast?_filter, Option.map_map]
    rfl
  rw [endToken, special, ok_bind, entries, ok_bind]
  simp only [found, likeliest, last, end?]
  cases usualEnd? tokenizer.addedTokens <;> rfl

end EngineForm

/-! ## What is handed over -/

/-- The text is that of a document that lists the token. -/
def AddedToken.IsListedIn (token : AddedToken) (text : String) : Prop :=
  ∃ levels document tokens, Value.renderWithin levels document = .ok text ∧
    document.member "added_tokens" = .ok (.list tokens) ∧ token.toRecord ∈ tokens

theorem EngineForm.member_document {tokenizer : Tokenizer} {document : Value} {skipped : Nat}
    (made : EngineForm.document tokenizer.toRecord = .ok (document, skipped)) :
    document.member "added_tokens" =
      .ok (.list (tokenizer.addedTokens.map AddedToken.toRecord)) := by
  unfold EngineForm.document at made
  simp only [memberOr_vocab, memberOrNull_decoder, memberOr_addedTokens, memberOrNull_preTokenizer,
    memberOr_merges, ok_bind] at made
  obtain ⟨supported, _, made⟩ := bind_eq_ok.1 made
  -- whichever decoder is chosen, the added tokens are those of the record
  split_ifs at made
  · obtain ⟨_, _, made⟩ := bind_eq_ok.1 made
    cases made
    rfl
  · obtain ⟨_, _, made⟩ := bind_eq_ok.1 made
    obtain ⟨_, _, made⟩ := bind_eq_ok.1 made
    cases made
    rfl

namespace EngineSession

variable {τ ρ : Type} {E : TokenEngine τ ρ} {logLevel size : Int}
  {grammarText text document : String} {endToken : Option Int}

/-- What is handed over is what is offered. -/
theorem mem_events_iff [Stack] :
    .call (.loadTokenizer document size endToken) ∈ (init E logLevel grammarText text ()).events ↔
      offered text = .ok (document, size, endToken) := by
  have loads := loadsOffer_init E logLevel grammarText text
  constructor
  · exact loads.offer_eq
  · intro offer
    have loaded : size ∈ (init E logLevel grammarText text ()).loadedSizes := by
      rw [loads.sizes_eq, offer]
      exact List.mem_singleton_self size
    obtain ⟨event, member, same⟩ := List.mem_filterMap.1 loaded
    unfold Event.loadedSize? at same
    split at same
    case h_1 document' size' endToken' =>
      cases offer.symm.trans (loads.offer_eq member)
      exact member
    case h_2 => cases same

variable {tokenizer : Tokenizer}

/-- What is offered for a tokenizer fits its added tokens. -/
theorem fits_of_offered [Stack] (written : tokenizer.render = .ok text)
    (offer : offered text = .ok (document, size, endToken)) :
    size = tokenizer.vocabSize ∧
      endToken = (AddedToken.end? tokenizer.addedTokens).map AddedToken.id ∧
      ∀ token ∈ tokenizer.addedTokens, token.IsListedIn document := by
  obtain ⟨record, known, offer⟩ := bind_eq_ok.1 offer
  obtain ⟨decoder, preTokenizer, rfl⟩ := Tokenizer.exists_components_of_valueOf written known
  rw [EngineForm.vocabSize_toRecord, ok_bind, EngineForm.wholeSize, ok_bind] at offer
  split_ifs at offer
  obtain ⟨⟨content, skipped⟩, made, offer⟩ := bind_eq_ok.1 offer
  obtain ⟨documentText, rendered, offer⟩ := bind_eq_ok.1 offer
  rw [EngineForm.endToken_toRecord, ok_bind] at offer
  cases offer
  refine ⟨rfl, rfl, fun token member => ?_⟩
  exact ⟨_, content, _, rendered, EngineForm.member_document made, List.mem_map_of_mem member⟩

end EngineSession

namespace Tokenizer

/-- Some engine is handed the document, the size and the end of sequence when a session is made from
the record of the tokenizer, wherever that is. -/
def LoadedWith (tokenizer : Tokenizer) (document : String) (size : Int) (endToken : Option Int) :
    Prop :=
  ∃ (_ : Stack) (τ ρ : Type) (E : TokenEngine τ ρ) (logLevel : Int) (grammarText text : String),
    tokenizer.render = .ok text ∧ .call (.loadTokenizer document size endToken) ∈
      ((EngineSource.mk (some E) logLevel).backend.init grammarText text ()).events

variable {tokenizer : Tokenizer} {document : String} {size : Int} {endToken : Option Int}

theorem fits_of_loadedWith (loaded : tokenizer.LoadedWith document size endToken) :
    size = tokenizer.vocabSize ∧
      endToken = (AddedToken.end? tokenizer.addedTokens).map AddedToken.id ∧
      ∀ token ∈ tokenizer.addedTokens, token.IsListedIn document := by
  obtain ⟨stack, τ, ρ, E, logLevel, grammarText, text, written, member⟩ := loaded
  exact EngineSession.fits_of_offered written (EngineSession.mem_events_iff.1 member)

/-- A plain tokenizer that has a size is loaded where there is room for its document. -/
theorem exists_loadedWith [Stack] {depth : Nat} (plain : tokenizer.IsPlain depth)
    (parts : 4 ≤ depth) (room : Stack.HasRoom (depth + 1)) (sized : tokenizer.vocabSize ≠ 0) :
    ∃ document, tokenizer.LoadedWith document tokenizer.vocabSize
      ((AddedToken.end? tokenizer.addedTokens).map AddedToken.id) := by
  have two : 2 ≤ depth := by omega
  obtain ⟨text, written, _⟩ := (plain.toRecord two).exists_text
  obtain ⟨decoder, sent, given⟩ := exists_sentDocument plain two room
  obtain ⟨document, rendered, _⟩ :=
    (plain.engineDocument two (given.plain plain parts) tokenizer.usableMerges).exists_text
  have recorded := written _ (room .record)
  obtain ⟨endToken, offer⟩ := EngineSession.exists_offered_eq recorded sized
  rw [engineText, sent, ok_bind, rendered _ (room .document)] at offer
  obtain ⟨_, ends, _⟩ := EngineSession.fits_of_offered recorded offer
  rw [← ends]
  exact ⟨document, inferInstance, Unit, Scripted.Parser, Scripted.tokenEngine [] none, 0, "", text,
    recorded, EngineSession.mem_events_iff.2 offer⟩

/-- An engine is told of no end of sequence only if no added token is special. Otherwise it is told
of the special token that ends a sequence, which is listed in the document, and whose id is below
the size. If some special token has one of the usual texts, then nothing but those tokens, in their
order, decides about it. -/
theorem endToken_coherent (loaded : tokenizer.LoadedWith document size endToken) :
    (endToken = none ↔ ∀ token ∈ tokenizer.addedTokens, token.special = false) ∧
    (∃ chosen, AddedToken.EndsSequence tokenizer.addedTokens chosen ∧
      endToken = chosen.map AddedToken.id ∧
      ∀ token, chosen = some token → token ∈ tokenizer.addedTokens ∧ token.special = true ∧
        token.id < size ∧ token.IsListedIn document) ∧
    ((∃ token ∈ tokenizer.addedTokens, token.isUsualEnd = true) →
      ∀ {other : Tokenizer} {document' : String} {size' : Int} {endToken' : Option Int},
        other.LoadedWith document' size' endToken' →
        other.addedTokens.filter AddedToken.isUsualEnd =
          tokenizer.addedTokens.filter AddedToken.isUsualEnd →
        endToken' = endToken) := by
  obtain ⟨rfl, rfl, listed⟩ := fits_of_loadedWith loaded
  have ends : AddedToken.EndsSequence tokenizer.addedTokens _ := AddedToken.endsSequence_iff.2 rfl
  refine ⟨?absent, ⟨_, ends, rfl, ?chosen⟩, ?decided⟩
  case absent =>
    exact Option.map_eq_none_iff.trans (AddedToken.eq_none_iff_of_endsSequence ends)
  case chosen =>
    intro token same
    rw [same] at ends
    obtain ⟨member, isSpecial⟩ := AddedToken.special_of_endsSequence ends
    have among : token.id ∈ tokenizer.ids :=
      List.mem_append_right _ (List.mem_map_of_mem member)
    exact ⟨member, isSpecial, tokenizer.lt_vocabSize among, listed token member⟩
  case decided =>
    intro usual other document' size' endToken' loaded' same
    obtain ⟨rfl, rfl, _⟩ := fits_of_loadedWith loaded'
    rw [AddedToken.end?_eq_of_filter_eq same usual]

/-- A tokenizer with many tokens that might end a sequence. -/
def crowded : Tokenizer where
  vocabulary := .ofPairs [("a", 0)]
  addedTokens := [
    { id := 7, content := "<|endoftext|>", special := true },
    { id := 3, content := "</s>" },
    { id := 6, content := "<|endoftext|>", special := true },
    { id := 5, content := "<eos>", special := true },
    { id := 4, content := "<pad>", special := true }]

theorem isPlain_crowded : crowded.IsPlain 4 where
  ids := by decide
  decoder := nofun
  lists := nofun
  preTokenizer := nofun

theorem endToken_coherent_crowded :
    ∃ document, crowded.LoadedWith document 8 (some 6) ∧
      (∃ token, AddedToken.EndsSequence crowded.addedTokens (some token) ∧ token.id = 6 ∧
        token.special = true ∧ token.IsListedIn document) ∧
      ∀ {other : Tokenizer} {document' : String} {size' : Int} {endToken' : Option Int},
        other.LoadedWith document' size' endToken' →
        other.addedTokens.filter AddedToken.isUsualEnd =
          crowded.addedTokens.filter AddedToken.isUsualEnd → endToken' = some 6 := by
  obtain ⟨document, loaded⟩ : ∃ document, crowded.LoadedWith document 8 (some 6) :=
    @exists_loadedWith _ ⟨fun _ => 5⟩ _ isPlain_crowded (by decide) (fun _ => Nat.le_refl 5)
      (by decide)
  obtain ⟨_, ⟨chosen, ends, same, listed⟩, decided⟩ := endToken_coherent loaded
  obtain ⟨token, rfl, number⟩ := Option.map_eq_some_iff.1 same.symm
  obtain ⟨_, isSpecial, _, isListed⟩ := listed token rfl
  exact ⟨document, loaded, ⟨token, ends, number, isSpecial, isListed⟩, decided (by decide)⟩

end Tokenizer

end ConstrainedDecoding
