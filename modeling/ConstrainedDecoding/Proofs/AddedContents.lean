import ConstrainedDecoding.Proofs.DocumentFaults
import ConstrainedDecoding.Proofs.TokenIds

/-!
# Contents of added tokens

The added tokens of a description are the entries that it lists, one for one and in order: a
sequence, or else a mapping from ids in the order of the ids (`AddedToken.IsListing`). The content
of an added token is the text of the content that its entry carries. An entry that carries none is
not refused, however: the token then has the text of a null for its content, so that contents are
those of the entries only if every entry carries one (`Tokenizer.contents_carried_iff`).
-/

namespace ConstrainedDecoding

open List (Forall₂)

/-! ## Entries in the order of their keys -/

namespace AddedToken

variable {α : Type}

/-- The comparison that entries are sorted by once their keys are numbers. -/
def numberedBefore (a b : Int × α) : Bool :=
  a.1 ≤ b.1

theorem numberedBefore_trans (a b c : Int × α) (left : numberedBefore a b = true)
    (right : numberedBefore b c = true) : numberedBefore a c = true := by
  simp only [numberedBefore, decide_eq_true_eq] at left right ⊢
  omega

theorem numberedBefore_total (a b : Int × α) :
    (numberedBefore a b || numberedBefore b a) = true := by
  simp only [numberedBefore, Bool.or_eq_true, decide_eq_true_eq]
  omega

/-- Sorting keeps the pairs of one number in their order. -/
theorem filter_mergeSort_numberedBefore (pairs : List (Int × α)) (number : Int) :
    (pairs.mergeSort numberedBefore).filter (fun pair => pair.1 = number) =
      pairs.filter fun pair => pair.1 = number := by
  have alike : (pairs.filter fun pair => pair.1 = number).Pairwise
      fun a b => numberedBefore a b = true := by
    refine List.pairwise_of_forall_mem_list fun a memberA b memberB => ?_
    have left := of_decide_eq_true (List.mem_filter.1 memberA).2
    have right := of_decide_eq_true (List.mem_filter.1 memberB).2
    exact decide_eq_true (left.trans right.symm).le
  have among : (pairs.filter fun pair => pair.1 = number).Sublist
      (pairs.mergeSort numberedBefore) :=
    List.sublist_mergeSort numberedBefore_trans numberedBefore_total alike List.filter_sublist
  have kept := among.filter fun pair => decide (pair.1 = number)
  rw [List.filter_filter] at kept
  simp only [Bool.and_self] at kept
  have sizes := ((List.mergeSort_perm pairs numberedBefore).filter
    fun pair => decide (pair.1 = number)).length_eq
  exact (kept.eq_of_length sizes.symm).symm

/-- The key of an entry stands for the id. -/
def hasKey (id : Int) (entry : Value × Value) : Bool :=
  entry.1.toInteger.toOption = some id

/-- Entries are in the order of the ids that their keys stand for, and those of one id in the order
of the mapping. -/
structure IsOrdered (entries sorted : List (Value × Value)) : Prop where
  perm : sorted.Perm entries
  ascending : ∃ ids, Forall₂ (fun entry id => entry.1.StandsFor id) sorted ids ∧
    ids.Pairwise (· ≤ ·)
  stable : ∀ id, sorted.filter (hasKey id) = entries.filter (hasKey id)

theorem isOrdered_of_byId {entries sorted : List (Value × Value)}
    (known : byId entries = .ok sorted) : IsOrdered entries sorted := by
  have perm := perm_of_byId known
  obtain ⟨keyed, rfl, stand, rfl⟩ := exists_keyed_of_byId known
  have agree (id : Int) : ∀ pair ∈ keyed, (hasKey id ∘ Prod.snd) pair = decide (pair.1 = id) := by
    intro pair member
    refine decide_eq_decide.2 ?_
    rw [stand pair member, Except.toOption, Option.some.injEq]
  have sortedMem {pair : Int × Value × Value} (member : pair ∈ keyed.mergeSort numberedBefore) :
      pair ∈ keyed :=
    List.mem_mergeSort.1 member
  constructor
  case perm => exact perm
  case ascending =>
    refine ⟨(keyed.mergeSort numberedBefore).map Prod.fst, ?_, ?_⟩
    · rw [List.forall₂_map_left_iff, List.forall₂_map_right_iff]
      exact List.forall₂_same.2 fun pair member => stand pair (sortedMem member)
    · rw [List.pairwise_map]
      exact (List.pairwise_mergeSort numberedBefore_trans numberedBefore_total keyed).imp
        of_decide_eq_true
  case stable =>
    intro id
    show ((keyed.mergeSort numberedBefore).map Prod.snd).filter (hasKey id) = _
    rw [List.filter_map, List.filter_map, List.filter_congr (agree id),
      List.filter_congr fun pair member => agree id pair (sortedMem member),
      filter_mergeSort_numberedBefore]

/-! ## Listings -/

/-- The entries that are listed for added tokens, each with what stands in for an id that it lacks:
a sequence of them, else a mapping from ids, or nothing. -/
inductive IsListing (source : Value) : List (Value × Value) → Prop
  | sequence {given : Value} {items : List Value}
      (found : source.field? "added_tokens" = some given)
      (listed : given.items = .ok items) :
      IsListing source (items.map fun entry => (entry, .null))
  | mapping {entries sorted : List (Value × Value)} (absent : source.field? "added_tokens" = none)
      (found : (source.field "added_tokens_decoder").entries? = some entries)
      (ordered : IsOrdered entries sorted) : IsListing source (sorted.map Prod.swap)
  | nothing (absent : source.field? "added_tokens" = none)
      (unmapped : (source.field "added_tokens_decoder").entries? = none) : IsListing source []

theorem isListing_of_listed {source : Value} {entries : List (Value × Value)}
    (lists : listed source = .ok entries) : IsListing source entries := by
  unfold listed at lists
  cases found : source.field? "added_tokens" with
  | some given =>
      rw [found] at lists
      obtain ⟨items, listed, same⟩ := bind_eq_ok.1 lists
      cases same
      exact .sequence found listed
  | none =>
      rw [found] at lists
      dsimp only at lists
      cases keyed : (source.field "added_tokens_decoder").entries? with
      | none =>
          rw [keyed] at lists
          cases lists
          exact .nothing found keyed
      | some entries =>
          rw [keyed] at lists
          obtain ⟨sorted, ordered, same⟩ := bind_eq_ok.1 lists
          cases same
          exact .mapping found keyed (isOrdered_of_byId ordered)

/-! ## Contents -/

/-- The content that an entry carries. -/
def content? (entry : Value) : Option String :=
  (entry.field? "content").map Value.toText

/-- The content of an added token is that of its entry, or the text of a null. -/
theorem content_of_read [Stack] {entry id : Value} {token : AddedToken}
    (readable : read entry id = .ok token) : token.content = (content? entry).getD "None" := by
  obtain ⟨number, _, readable⟩ := bind_eq_ok.1 readable
  obtain ⟨content, shows, same⟩ := bind_eq_ok.1 readable
  cases same
  show content = _
  rw [← Value.toText_of_str shows, Value.field, content?]
  cases entry.field? "content" <;> rfl

end AddedToken

namespace Tokenizer

variable {source : Value} {tokenizer : Tokenizer}

theorem exists_listing [Stack]
    (described : extract source = .ok tokenizer ∨ parse source = .ok tokenizer) :
    ∃ entries, AddedToken.IsListing source entries ∧
      Forall₂ (fun entry token => token.content = (AddedToken.content? entry.1).getD "None")
        entries tokenizer.addedTokens := by
  obtain ⟨_, readable⟩ := described.elim exists_parts_of_extract exists_parts_of_parse
  rw [AddedToken.readAll_eq] at readable
  obtain ⟨entries, lists, reads⟩ := bind_eq_ok.1 readable
  exact ⟨entries, AddedToken.isListing_of_listed lists,
    (forall₂_of_mapM reads).imp fun _ _ => AddedToken.content_of_read⟩

/-- The contents of added tokens are those that their entries carry exactly if every entry carries
one. -/
theorem contents_eq_iff {entries : List (Value × Value)} {tokens : List AddedToken}
    (contents : Forall₂ (fun entry token => token.content =
      (AddedToken.content? entry.1).getD "None") entries tokens) :
    Forall₂ (fun entry token => AddedToken.content? entry.1 = some token.content) entries tokens ↔
      ∀ entry ∈ entries, (AddedToken.content? entry.1).isSome = true := by
  induction contents with
  | nil => simp
  | @cons entry token _ _ first _ ih =>
      rw [List.forall₂_cons, List.forall_mem_cons, ih, first]
      cases AddedToken.content? entry.1 <;> simp

/-- The added tokens of a tokenizer are the entries that its description lists, in order. Their
contents are those of the entries exactly if every entry carries one; an entry without a content
gives a token with the text of a null, as nothing is refused but an id that is no integer and a
content that cannot be shown. -/
theorem contents_carried_iff [Stack]
    (described : extract source = .ok tokenizer ∨ parse source = .ok tokenizer) :
    (∃ entries, AddedToken.IsListing source entries ∧
      Forall₂ (fun entry token => token.content = (AddedToken.content? entry.1).getD "None")
        entries tokenizer.addedTokens ∧
      (Forall₂ (fun entry token => AddedToken.content? entry.1 = some token.content)
          entries tokenizer.addedTokens ↔
        ∀ entry ∈ entries, (AddedToken.content? entry.1).isSome = true)) ∧
    ∀ other, (∃ tokens, AddedToken.readAll other = .ok tokens) ↔ AddedToken.AllReadable other := by
  obtain ⟨entries, listing, contents⟩ := exists_listing described
  exact ⟨⟨entries, listing, contents, contents_eq_iff contents⟩,
    fun other => (AddedToken.judged_readAll other).exists_ok_iff⟩

/-- A document with one token and a listing of added tokens under a name. -/
def listingDocument (name : String) (given : Value) : Value :=
  .dict [(.text "model", .dict [(.text "vocab", .dict [(.text "a", .int 0)])]), (.text name, given)]

/-- Two added tokens by their ids, one of them with a number for its content. -/
def twoById : Value :=
  listingDocument "added_tokens_decoder" (.dict [
    (.int 10, .dict [(.text "content", .text "</s>")]), (.int 9, .object [("content", .int 5)])])

theorem carried_twoById {entries : List (Value × Value)}
    (listing : AddedToken.IsListing twoById entries) :
    ∀ entry ∈ entries, (AddedToken.content? entry.1).isSome = true := by
  have absent : twoById.field? "added_tokens" = none := rfl
  cases listing with
  | sequence found listed => cases absent.symm.trans found
  | mapping _ found ordered =>
      cases found
      intro entry member
      obtain ⟨keyed, among, rfl⟩ := List.mem_map.1 member
      rcases List.mem_cons.1 (ordered.perm.mem_iff.1 among) with rfl | last
      · rfl
      · obtain rfl := List.mem_singleton.1 last
        rfl
  | nothing _ unmapped => cases unmapped

theorem readAll_twoById : @AddedToken.readAll ⟨fun _ => 3⟩ twoById =
    .ok [{ id := 9, content := "5" }, { id := 10, content := "</s>" }] := by
  have sorted (late early : Value × Value) :
      [(10, late), (9, early)].mergeSort AddedToken.numberedBefore = [(9, early), (10, late)] := by
    simp [List.mergeSort, List.MergeSort.Internal.splitInTwo, AddedToken.numberedBefore]
  show (Except.ok ((List.mergeSort [(10, _), (9, _)] AddedToken.numberedBefore).map Prod.snd) >>=
    List.mapM fun entry : Value × Value => @AddedToken.read ⟨fun _ => 3⟩ entry.2 entry.1) = _
  rw [sorted]
  rfl

theorem contents_carried_iff_twoById :
    ∃ tokenizer entries, @extract ⟨fun _ => 3⟩ twoById = .ok tokenizer ∧
      tokenizer.addedTokens = [{ id := 9, content := "5" }, { id := 10, content := "</s>" }] ∧
      AddedToken.IsListing twoById entries ∧
      Forall₂ (fun entry token => AddedToken.content? entry.1 = some token.content) entries
        tokenizer.addedTokens := by
  have extracted : @extract ⟨fun _ => 3⟩ twoById = .ok (ofParts twoById (.ofPairs [("a", 0)]) []
      [{ id := 9, content := "5" }, { id := 10, content := "</s>" }] "unknown") := by
    rw [extract_of_mapping ⟨fun _ => 3⟩ rfl rfl, readAll_twoById]
    rfl
  obtain ⟨⟨entries, listing, _, carried⟩, _⟩ :=
    @contents_carried_iff _ _ ⟨fun _ => 3⟩ (.inl extracted)
  exact ⟨_, entries, extracted, rfl, listing, carried.2 (carried_twoById listing)⟩

/-- An entry with an id and nothing else, and a text under an id, give tokens whose content stands
nowhere. -/
theorem contents_invented :
    ((@extract ⟨fun _ => 3⟩
        (listingDocument "added_tokens" (.list [.dict [(.text "id", .int 7)]]))).map
      addedTokens).toOption = some [{ id := 7, content := "None" }] ∧
    ((@parse ⟨fun _ => 3⟩
        (listingDocument "added_tokens" (.list [.dict [(.text "id", .int 7)]]))).map
      addedTokens).toOption = some [{ id := 7, content := "None" }] ∧
    ((@extract ⟨fun _ => 3⟩
        (listingDocument "added_tokens_decoder" (.dict [(.text "7", .text "</s>")]))).map
      addedTokens).toOption =
        some [{ id := 7, content := "None", leftStrip := true, rightStrip := true }] := by
  decide +kernel

end Tokenizer

end ConstrainedDecoding
