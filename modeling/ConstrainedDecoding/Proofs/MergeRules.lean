import Mathlib.Data.List.Basic
import ConstrainedDecoding.Proofs.SentRecord

/-!
# Merge rules on their way to an engine

A merge rule is written as its two parts with a space between them, and read as what stands before
and after the first space. The two agree on rules whose left part holds no space
(`Merge.resplit_of_spaceless`); any other rule is judged by parts that are not its own. So the rules
that an engine is given are those that the vocabulary covers exactly if that makes no difference for
any rule (`Tokenizer.merges_sent_iff`), as for the rules of a tokenizer that has them from texts.
-/

namespace ConstrainedDecoding

/-! ## Splitting at the first space -/

namespace Text

theorem splitAtSpace?_append {left : String} (spaceless : ' ' ∉ left.toList) (right : String) :
    splitAtSpace? (left ++ " " ++ right) = some (left, right) := by
  have clear : ∀ c ∈ left.toList, decide (c ≠ ' ') = true := by
    intro c member
    exact decide_eq_true fun same => spaceless (same ▸ member)
  have chars : (left ++ " " ++ right).toList = left.toList ++ ' ' :: right.toList := by simp
  unfold splitAtSpace?
  simp only [chars, List.dropWhile_append_of_pos clear, List.takeWhile_append_of_pos clear]
  simp

/-- What a text is split into is the text, with no space on the left. -/
theorem append_of_splitAtSpace? {text left right : String}
    (split : splitAtSpace? text = some (left, right)) :
    left ++ " " ++ right = text ∧ ' ' ∉ left.toList := by
  have whole := List.takeWhile_append_dropWhile (p := fun c => decide (c ≠ ' ')) (l := text.toList)
  have stops := List.head?_dropWhile_not (fun c => decide (c ≠ ' ')) text.toList
  have spaceless : ' ' ∉ text.toList.takeWhile fun c => decide (c ≠ ' ') := by
    intro member
    simpa using List.all_eq_true.1 List.all_takeWhile _ member
  unfold splitAtSpace? at split
  simp only at split
  cases after : text.toList.dropWhile fun c => decide (c ≠ ' ') with
  | nil =>
      rw [after] at split
      cases split
  | cons c rest =>
      rw [after] at split stops whole
      cases split
      obtain rfl : c = ' ' := by simpa using stops
      rw [String.toList_ofList]
      refine ⟨String.toList_inj.1 ?_, spaceless⟩
      simpa using whole

end Text

/-! ## Written forms of merge rules -/

namespace Merge

/-- A rule whose left part holds no space is read as itself. -/
theorem resplit_of_spaceless {merge : Merge} (spaceless : ' ' ∉ merge.1.toList) :
    merge.resplit = merge := by
  rw [resplit, joined, Text.splitAtSpace?_append spaceless]
  rfl

theorem exists_splitAtSpace?_joined (merge : Merge) :
    ∃ read, Text.splitAtSpace? merge.joined = some read := by
  cases split : Text.splitAtSpace? merge.joined with
  | some read => exact ⟨read, rfl⟩
  | none =>
      have spaced : ' ' ∈ merge.joined.toList := by simp [joined]
      unfold Text.splitAtSpace? at split
      simp only at split
      cases after : merge.joined.toList.dropWhile fun c => decide (c ≠ ' ') with
      | nil =>
          have whole := List.takeWhile_append_dropWhile (p := fun c => decide (c ≠ ' '))
            (l := merge.joined.toList)
          rw [after, List.append_nil] at whole
          rw [← whole] at spaced
          simpa using List.all_eq_true.1 List.all_takeWhile _ spaced
      | cons c rest =>
          rw [after] at split
          cases split

/-- The written form of a rule is the written form of what it is read as. -/
theorem joined_resplit (merge : Merge) : merge.resplit.joined = merge.joined := by
  obtain ⟨read, split⟩ := exists_splitAtSpace?_joined merge
  rw [resplit, split]
  exact (Text.append_of_splitAtSpace? split).1

theorem spaceless_resplit (merge : Merge) : ' ' ∉ merge.resplit.1.toList := by
  obtain ⟨read, split⟩ := exists_splitAtSpace?_joined merge
  rw [resplit, split]
  exact (Text.append_of_splitAtSpace? split).2

/-- What a rule is read as does not change any more. -/
theorem resplit_resplit (merge : Merge) : merge.resplit.resplit = merge.resplit :=
  resplit_of_spaceless (spaceless_resplit merge)

theorem read_joined [Stack] (merge : Merge) : read (.text merge.joined) = .ok merge.resplit := by
  obtain ⟨parts, split⟩ := exists_splitAtSpace?_joined merge
  rw [read, resplit, split]
  rfl

/-- The left part of a rule that is given as a text holds no space. -/
theorem spaceless_of_read [Stack] {rule : String} {merge : Merge}
    (known : read (.text rule) = .ok merge) : ' ' ∉ merge.1.toList := by
  cases split : Text.splitAtSpace? rule with
  | none =>
      rw [read, split] at known
      cases known
  | some parts =>
      rw [read, split] at known
      cases known
      exact (Text.append_of_splitAtSpace? split).2

end Merge

/-! ## The rules an engine is given -/

/-- Two choices among items give the same images, where the first depends on the images alone,
exactly if they are the same choice. -/
theorem map_filter_eq_iff {α β : Type} [DecidableEq β] {image : α → β} {first second : α → Bool}
    (images : ∀ a b, image a = image b → first a = first b) (items : List α) :
    (items.filter first).map image = (items.filter second).map image ↔
      ∀ item ∈ items, first item = second item := by
  constructor
  · intro same item member
    -- On both sides as many items have the image, so on both sides as many are left out.
    let alike : α → Bool := fun other => decide (image other = image item)
    have count_map : ∀ chosen : List α, (chosen.map image).count (image item) =
        chosen.countP alike := by
      intro chosen
      rw [List.count, List.countP_map]
      rfl
    have taken : (items.filter first).countP alike = (items.filter second).countP alike := by
      rw [← count_map, ← count_map, same]
    have left : (items.filter fun other => !first other).countP alike =
        (items.filter fun other => !second other).countP alike := by
      have whole := List.countP_eq_countP_filter_add items alike first
      have whole' := List.countP_eq_countP_filter_add items alike second
      omega
    have absent : ∀ test : α → Bool, (∀ other, image other = image item → test other = false) →
        (items.filter test).countP alike = 0 := by
      intro test unlike
      rw [List.countP_eq_zero]
      intro other among like
      rw [List.mem_filter, unlike other (of_decide_eq_true like)] at among
      cases among.2
    have fails : ∀ test : α → Bool, (items.filter test).countP alike = 0 → test item = false := by
      intro test none
      cases known : test item with
      | false => rfl
      | true =>
          have among := List.mem_filter.2 ⟨member, known⟩
          exact absurd (decide_eq_true rfl) (List.countP_eq_zero.1 none item among)
    cases chosen : first item with
    | false =>
        have none := absent first fun other like => (images other item like).trans chosen
        exact (fails second (taken ▸ none)).symm
    | true =>
        have none := absent (fun other => !first other) fun other like => by
          rw [images other item like, chosen]
          rfl
        have kept := fails (fun other => !second other) (left ▸ none)
        simpa using kept.symm
  · intro same
    rw [List.filter_congr same]

namespace Tokenizer

variable {tokenizer : Tokenizer}

/-- The merge rules that the vocabulary covers. -/
def coveredMerges (tokenizer : Tokenizer) : List Merge :=
  tokenizer.merges.filter tokenizer.vocabulary.covers

/-- Whatever the components are, an engine that is given a document is given the rules whose written
form the vocabulary covers. -/
theorem merges_of_sentDocument [Stack] {document : Value}
    (sent : tokenizer.sentDocument = .ok document) :
    (document.field "model").field "merges" =
      .list (tokenizer.usableMerges.map fun merge => .text merge.joined) := by
  obtain ⟨text, written, sent⟩ := bind_eq_ok.1 sent
  obtain ⟨record, known, sent⟩ := bind_eq_ok.1 sent
  obtain ⟨⟨document, skipped⟩, built, same⟩ := bind_eq_ok.1 sent
  cases same
  obtain ⟨decoder, preTokenizer, rfl⟩ := exists_components_of_valueOf written known
  have given := EngineForm.merges_of_document built
  exact given

theorem field_decoder_toRecord (tokenizer : Tokenizer) :
    tokenizer.toRecord.field "decoder" = Component.value tokenizer.decoder := by
  unfold toRecord
  cases tokenizer.decoder <;> cases tokenizer.preTokenizer <;> rfl

/-- A record that comes back makes a document, whatever its components are, once it can be told
whether engines support its decoder. -/
theorem exists_sentDocument_of_isSupported [Stack] {text : String} {record : Value}
    {supported : Bool} (written : tokenizer.render = .ok text)
    (known : EngineSession.valueOf (Stack.levels .sentText) text = .ok record)
    (tested : EngineForm.isSupported (record.field "decoder") = .ok supported) :
    ∃ document, tokenizer.sentDocument = .ok document := by
  obtain ⟨decoder, preTokenizer, rfl⟩ := exists_components_of_valueOf written known
  rw [field_decoder_toRecord] at tested
  cases built : EngineForm.document (toRecord { tokenizer with decoder, preTokenizer }) with
  | error fault => cases tested.symm.trans (EngineForm.isSupported_of_document _ built)
  | ok made =>
      refine ⟨made.1, ?_⟩
      rw [sentDocument, written, ok_bind, known, ok_bind, built]
      rfl

theorem usableMerges_eq_iff (tokenizer : Tokenizer) :
    Value.list (tokenizer.usableMerges.map fun merge => .text merge.joined) =
        .list (tokenizer.coveredMerges.map fun merge => .text merge.joined) ↔
      ∀ merge ∈ tokenizer.merges,
        tokenizer.vocabulary.covers merge.resplit = tokenizer.vocabulary.covers merge := by
  have written : ∀ merges : List Merge, (merges.map fun merge => Value.text merge.joined) =
      (merges.map Merge.joined).map Value.text := fun merges => by rw [List.map_map]; rfl
  have injective : Function.Injective Value.text := fun _ _ same => Value.text.inj same
  rw [Value.list.injEq, written, written, (List.map_injective_iff.2 injective).eq_iff]
  apply map_filter_eq_iff
  intro merge other same
  rw [Merge.resplit, Merge.resplit, same]

/-- The merge rules in the document of an engine are those that the vocabulary covers exactly if
reading the written form of a rule makes no difference to that. There is such a document wherever
the record comes back, unless the search through its decoder fails; and a plain tokenizer always has
one. -/
theorem merges_sent_iff [Stack] (tokenizer : Tokenizer) :
    (∀ document, tokenizer.sentDocument = .ok document →
      ((document.field "model").field "merges" =
          .list (tokenizer.coveredMerges.map fun merge => .text merge.joined) ↔
        ∀ merge ∈ tokenizer.merges,
          tokenizer.vocabulary.covers merge.resplit = tokenizer.vocabulary.covers merge)) ∧
    (∀ text record supported, tokenizer.render = .ok text →
      EngineSession.valueOf (Stack.levels .sentText) text = .ok record →
      EngineForm.isSupported (record.field "decoder") = .ok supported →
      ∃ document, tokenizer.sentDocument = .ok document) ∧
    ∀ depth, 2 ≤ depth → tokenizer.IsPlain depth → Stack.HasRoom (depth + 1) →
      ∃ document, tokenizer.sentDocument = .ok document := by
  refine ⟨?_, fun _ _ _ => exists_sentDocument_of_isSupported, ?_⟩
  · intro document sent
    rw [merges_of_sentDocument sent]
    exact usableMerges_eq_iff tokenizer
  · intro depth parts plain room
    obtain ⟨decoder, sent, _⟩ := exists_sentDocument plain parts room
    exact ⟨_, sent⟩

/-- Three tokens and a rule with a space in its left part. -/
def spaced (first second third : String) : Tokenizer where
  vocabulary := .ofPairs [(first, 0), (second, 1), (third, 2)]
  merges := [("a b", "c")]
  modelType := "bpe"

theorem isPlain_spaced (first second third : String) :
    (spaced first second third).IsPlain 2 where
  ids := by
    intro id member
    have short : hasFewDigits 0 = true ∧ hasFewDigits 1 = true ∧ hasFewDigits 2 = true := by decide
    have each : ∀ entry ∈ Keyed.ofList [(first, (0 : Int)), (second, 1), (third, 2)],
        hasFewDigits entry.2 = true :=
      Keyed.forall_ofList (hasFewDigits · = true) (by simpa using short)
    rw [ids, List.mem_append] at member
    obtain ⟨entry, among, rfl⟩ := List.mem_map.1 (member.resolve_right List.not_mem_nil)
    exact each entry among
  decoder := nofun
  lists := nofun
  preTokenizer := nofun

theorem merges_sent_iff_spaced :
    ∃ document, @sentDocument ⟨fun _ => 3⟩ (spaced "a b" "c" "a bc") = .ok document ∧
      ((document.field "model").field "merges" =
          .list ((spaced "a b" "c" "a bc").coveredMerges.map fun merge => .text merge.joined) ↔
        ∀ merge ∈ (spaced "a b" "c" "a bc").merges,
          (spaced "a b" "c" "a bc").vocabulary.covers merge.resplit =
            (spaced "a b" "c" "a bc").vocabulary.covers merge) := by
  obtain ⟨exact, _, exists_document⟩ := @merges_sent_iff ⟨fun _ => 3⟩ (spaced "a b" "c" "a bc")
  obtain ⟨document, sent⟩ :=
    exists_document 2 (by decide) (isPlain_spaced _ _ _) fun _ => Nat.le_refl 3
  exact ⟨document, sent, exact document sent⟩

/-- The rules in the document for three tokens and the rule, where there is room for it. -/
theorem exists_sentDocument_spaced (first second third : String) :
    ∃ document, @sentDocument ⟨fun _ => 3⟩ (spaced first second third) = .ok document ∧
      (document.field "model").field "merges" =
        .list ((spaced first second third).usableMerges.map fun merge => .text merge.joined) := by
  obtain ⟨decoder, sent, _⟩ := @exists_sentDocument (spaced first second third) 2 ⟨fun _ => 3⟩
    (isPlain_spaced _ _ _) (by decide) fun _ => Nat.le_refl 3
  exact ⟨_, sent, @merges_of_sentDocument (spaced first second third) ⟨fun _ => 3⟩ _ sent⟩

/-- A rule that is given as a pair is lost though the vocabulary covers it, and one that is not
covered is kept, because the written form is read as another rule. -/
theorem merges_sent_spaced :
    (@parse ⟨fun _ => 3⟩ (.dict [(.text "model", .dict [
        (.text "vocab", .dict [(.text "a b", .int 0), (.text "c", .int 1), (.text "a bc", .int 2)]),
        (.text "merges", .list [.list [.text "a b", .text "c"]])])]) =
        .ok (spaced "a b" "c" "a bc") ∧
      (∃ document, @sentDocument ⟨fun _ => 3⟩ (spaced "a b" "c" "a bc") = .ok document ∧
        (document.field "model").field "merges" = .list []) ∧
      (spaced "a b" "c" "a bc").coveredMerges.map Merge.joined = ["a b c"]) ∧
    (∃ document, @sentDocument ⟨fun _ => 3⟩ (spaced "a" "b c" "ab c") = .ok document ∧
      (document.field "model").field "merges" = .list [.text "a b c"]) ∧
    (spaced "a" "b c" "ab c").coveredMerges.map Merge.joined = [] := by
  have lost : (spaced "a b" "c" "a bc").usableMerges = [] := by decide +kernel
  have kept : (spaced "a" "b c" "ab c").usableMerges = [("a b", "c")] := by decide +kernel
  obtain ⟨first, sent, given⟩ := exists_sentDocument_spaced "a b" "c" "a bc"
  obtain ⟨second, sent', given'⟩ := exists_sentDocument_spaced "a" "b c" "ab c"
  rw [lost] at given
  rw [kept] at given'
  exact ⟨⟨rfl, ⟨first, sent, given⟩, by decide +kernel⟩, ⟨second, sent', given'⟩,
    by decide +kernel⟩

/-- The rules of a tokenizer that has them from texts are given as the vocabulary covers them. -/
theorem merges_sent_of_texts [Stack] {document : Value}
    (sent : tokenizer.sentDocument = .ok document) {rules : List String}
    (known : (rules.map Value.text).mapM Merge.read = .ok tokenizer.merges) :
    (document.field "model").field "merges" =
      .list (tokenizer.coveredMerges.map fun merge => .text merge.joined) := by
  rw [merges_of_sentDocument sent, usableMerges_eq_iff]
  intro merge among
  obtain ⟨rule, listed, read⟩ := exists_of_mem_mapM known merge among
  obtain ⟨text, _, rfl⟩ := List.mem_map.1 listed
  rw [Merge.resplit_of_spaceless (Merge.spaceless_of_read read)]

end Tokenizer

end ConstrainedDecoding
