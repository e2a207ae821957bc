import Mathlib.Data.List.Basic
import Mathlib.Data.List.TakeWhile
import ConstrainedDecoding.Hub
import ConstrainedDecoding.Proofs.DocumentReaders
import ConstrainedDecoding.Proofs.JsonText
import ConstrainedDecoding.Proofs.ScriptedNetworks

/-!
# What is reported of malformed documents

A document that cannot be read is reported under this library's own classes if it is no mapping, has
no vocabulary in its model, or has a merge rule that is no pair; whatever fails in a conversion of a
value is reported as that conversion reports it. `Tokenizer.IsReported` says of a document which of
the two comes first, in terms of what stands in it, and `Tokenizer.parse_reports_iff` that it does.
Loading from files and from hubs adds the reading of the text (`Tokenizer.ofFile_reports_iff`,
`Hub.load_reports_iff`).
-/

namespace ConstrainedDecoding

variable {α β : Type}

/-! ## Results that are judged -/

/-- The classes of faults in conversions of values to integers, sequences and texts. -/
def FaultKind.isConversion : FaultKind → Bool
  | mismatch | badValue | overflow | recursion => true
  | _ => false

/-- A result is what it should be: what is readable has one, what is malformed is reported as such,
and for anything else it is a conversion that fails. -/
def Judged : Except Fault α → (readable malformed : Prop) → Prop
  | .ok _, readable, malformed => readable ∧ ¬ malformed
  | .error fault, readable, malformed => ¬ readable ∧
      (fault.kind = .malformedDescriptor ∧ malformed ∨
        fault.kind.isConversion = true ∧ ¬ malformed)

namespace Judged

variable {result : Except Fault α} {readable malformed : Prop}

theorem exists_ok_iff (judged : Judged result readable malformed) :
    (∃ value, result = .ok value) ↔ readable := by
  cases result with
  | error fault => exact ⟨nofun, fun holds => absurd holds judged.1⟩
  | ok value => exact ⟨fun _ => judged.1, fun _ => ⟨value, rfl⟩⟩

theorem kind_of_error {fault : Fault} (judged : Judged result readable malformed)
    (failed : result = .error fault) :
    fault.kind = .malformedDescriptor ∧ malformed ∨
      fault.kind.isConversion = true ∧ ¬ malformed := by
  subst failed
  exact judged.2

theorem of_conversion
    (conversion : ∀ fault, result = .error fault → fault.kind.isConversion = true) :
    Judged result (∃ value, result = .ok value) False := by
  cases result with
  | error fault => exact ⟨nofun, .inr ⟨conversion fault rfl, nofun⟩⟩
  | ok value => exact ⟨⟨value, rfl⟩, nofun⟩

theorem congr {readable' malformed' : Prop} (judged : Judged result readable malformed)
    (readableIff : readable ↔ readable') (malformedIff : malformed ↔ malformed') :
    Judged result readable' malformed' :=
  propext readableIff ▸ propext malformedIff ▸ judged

theorem map (judged : Judged result readable malformed) (change : α → β) :
    Judged (result.map change) readable malformed := by
  cases result with
  | error fault => exact judged
  | ok value => exact judged

/-- What comes first is judged first. -/
theorem bind {next : α → Except Fault β} {readableNext malformedNext : α → Prop}
    (judged : Judged result readable malformed)
    (goesOn : ∀ value, Judged (next value) (readableNext value) (malformedNext value)) :
    Judged (result >>= next) (∃ value, result = .ok value ∧ readableNext value)
      (malformed ∨ ∃ value, result = .ok value ∧ malformedNext value) := by
  cases result with
  | error fault =>
      have unread : ¬ ∃ value, Except.error fault = .ok value ∧ malformedNext value := nofun
      exact ⟨nofun, by simpa only [unread, or_false] using judged.2⟩
  | ok value =>
      refine (goesOn value).congr ?_ ?_
      · exact ⟨fun holds => ⟨value, rfl, holds⟩, by rintro ⟨_, ⟨⟩, holds⟩; exact holds⟩
      · refine ⟨fun holds => .inr ⟨value, rfl, holds⟩, ?_⟩
        rintro (impossible | ⟨_, ⟨⟩, holds⟩)
        · exact absurd impossible judged.2
        · exact holds

/-- A sequence is malformed if the first item that cannot be read is. -/
theorem mapM {step : α → Except Fault β} {readable malformed : α → Prop}
    (each : ∀ item, Judged (step item) (readable item) (malformed item)) (items : List α) :
    Judged (items.mapM step) (∀ item ∈ items, readable item)
      (∃ before item after, items = before ++ item :: after ∧
        (∀ earlier ∈ before, readable earlier) ∧ malformed item) := by
  induction items with
  | nil =>
      refine ⟨nofun, ?_⟩
      rintro ⟨before, _, _, impossible, _⟩
      cases before <;> cases impossible
  | cons item rest ih =>
      rw [List.mapM_cons]
      refine ((each item).bind fun value => ih.map fun values => value :: values).congr ?_ ?_
      · rw [List.forall_mem_cons, ← (each item).exists_ok_iff, exists_and_right]
      · constructor
        · rintro (here | ⟨value, stepped, before, refused, after, rfl, earlier, there⟩)
          · exact ⟨[], item, rest, rfl, nofun, here⟩
          · have first := (each item).exists_ok_iff.1 ⟨value, stepped⟩
            exact ⟨item :: before, refused, after, rfl, List.forall_mem_cons.2 ⟨first, earlier⟩,
              there⟩
        · rintro ⟨before, refused, after, same, earlier, there⟩
          cases before with
          | nil =>
              cases same
              exact .inl there
          | cons _ before =>
              cases same
              obtain ⟨first, earlier⟩ := List.forall_mem_cons.1 earlier
              obtain ⟨value, stepped⟩ := (each item).exists_ok_iff.2 first
              exact .inr ⟨value, stepped, before, refused, after, rfl, earlier, there⟩

/-- Where nothing can be malformed, a sequence cannot either. -/
theorem mapM_of_conversion {step : α → Except Fault β} {readable : α → Prop}
    (each : ∀ item, Judged (step item) (readable item) False) (items : List α) :
    Judged (items.mapM step) (∀ item ∈ items, readable item) False :=
  (mapM each items).congr Iff.rfl (by simp)

theorem bind_of_conversion {next : α → Except Fault β} {readableNext malformedNext : α → Prop}
    (conversion : ∀ fault, result = .error fault → fault.kind.isConversion = true)
    (goesOn : ∀ value, Judged (next value) (readableNext value) (malformedNext value)) :
    Judged (result >>= next) (∃ value, result = .ok value ∧ readableNext value)
      (∃ value, result = .ok value ∧ malformedNext value) :=
  ((of_conversion conversion).bind goesOn).congr Iff.rfl (by rw [false_or])

end Judged

/-! ## Conversions -/

namespace Value

/-- The value stands for an integer. -/
def IsIntegral (value : Value) : Prop :=
  ∃ number, value.toInteger = .ok number

variable {value : Value} {fault : Fault}

theorem isConversion_of_toInteger (failed : value.toInteger = .error fault) :
    fault.kind.isConversion = true := by
  unfold toInteger at failed
  split at failed
  case h_1 | h_2 => cases failed
  case h_3 =>
    split_ifs at failed
    · cases failed
      rfl
    · cases failed
      rfl
  case h_4 | h_5 =>
    split at failed
    · cases failed
    · cases failed
      rfl
  case h_6 =>
    cases failed
    rfl

theorem isConversion_of_items (failed : value.items = .error fault) :
    fault.kind.isConversion = true := by
  unfold items at failed
  split at failed <;> cases failed
  rfl

theorem isConversion_of_pair (failed : value.pair = .error fault) :
    fault.kind.isConversion = true := by
  rcases bind_eq_error.1 failed with unlisted | ⟨items, _, failed⟩
  · exact isConversion_of_items unlisted
  · split at failed <;> cases failed
    rfl

theorem judged_toInteger (value : Value) : Judged value.toInteger value.IsIntegral False :=
  .of_conversion fun _ => isConversion_of_toInteger

/-- The value can be shown where so many levels are left. -/
def IsShown (levels : Nat) (value : Value) : Prop :=
  ∃ content, value.str levels = .ok content

theorem isConversion_of_shown {levels : Nat} {content : String}
    (failed : value.shown levels content = .error fault) : fault.kind.isConversion = true := by
  rcases unshown_of_shown failed with rfl | rfl <;> rfl

theorem isConversion_of_str {levels : Nat} (failed : value.str levels = .error fault) :
    fault.kind.isConversion = true := by
  rcases unshown_of_str failed with rfl | rfl <;> rfl

theorem judged_str (levels : Nat) (value : Value) :
    Judged (value.str levels) (value.IsShown levels) False :=
  .of_conversion fun _ => isConversion_of_str

end Value

theorem FaultKind.isGuidance_of_isConversion {kind : FaultKind}
    (conversion : kind.isConversion = true) : kind.isGuidance = false := by
  cases kind with
  | mismatch | badValue | overflow | recursion => rfl
  | _ => cases conversion

theorem reports_error_iff {fault : Fault} :
    (∀ other, (.error fault : Except Fault α) = .error other → other.kind.isGuidance = true) ↔
      fault.kind.isGuidance = true := by
  refine ⟨fun reports => reports fault rfl, ?_⟩
  rintro guidance _ ⟨⟩
  exact guidance

theorem Judged.reports_iff {result : Except Fault α} {readable malformed : Prop}
    (judged : Judged result readable malformed) :
    (∀ fault, result = .error fault → fault.kind.isGuidance = true) ↔ malformed ∨ readable := by
  cases result with
  | error fault =>
      rw [reports_error_iff]
      obtain ⟨unreadable, ⟨kind, isMalformed⟩ | ⟨conversion, notMalformed⟩⟩ := judged
      · rw [kind]
        exact ⟨fun _ => .inl isMalformed, fun _ => rfl⟩
      · rw [FaultKind.isGuidance_of_isConversion conversion]
        exact ⟨nofun, fun holds => absurd holds (by simp [unreadable, notMalformed])⟩
  | ok value => exact ⟨fun _ => .inr judged.1, nofun⟩

section

variable [Stack]

/-! ## Vocabularies -/

namespace Vocabulary

/-- A token that can be shown has an id that stands for an integer. -/
def IsEntry (token id : Value) : Prop :=
  id.IsIntegral ∧ token.IsShown (Stack.levels .token)

/-- Every token of a source of vocabulary can be shown and has an id that stands for an integer. -/
def IsReadable (source : Value) : Prop :=
  match source.entries? with
  | some entries => ∀ entry ∈ entries, IsEntry entry.1 entry.2
  | none => ∃ items, source.items = .ok items ∧
      ∀ item ∈ items, ∃ pair, item.pair = .ok pair ∧ IsEntry pair.1 pair.2

theorem judged_readEntry (token id : Value) :
    Judged (readEntry token id) (IsEntry token id) False := by
  have inTurn := id.judged_toInteger.bind fun number =>
    (token.judged_str (Stack.levels .token)).map fun content => (content, number)
  refine inTurn.congr ?_ (by simp)
  exact exists_and_right

theorem judged_read (source : Value) : Judged (read source) (IsReadable source) False := by
  have item (value : Value) : Judged (value.pair >>= fun pair => readEntry pair.1 pair.2)
      (∃ pair, value.pair = .ok pair ∧ IsEntry pair.1 pair.2) False :=
    (Judged.bind_of_conversion (fun _ => Value.isConversion_of_pair) fun pair =>
      judged_readEntry pair.1 pair.2).congr Iff.rfl (by simp)
  unfold read IsReadable
  cases source.entries? with
  | some entries =>
      exact (Judged.mapM_of_conversion (fun entry => judged_readEntry entry.1 entry.2) entries).map
        ofPairs
  | none =>
      exact (Judged.bind_of_conversion (fun _ => Value.isConversion_of_items) fun items =>
        (Judged.mapM_of_conversion item items).map ofPairs).congr Iff.rfl (by simp)

end Vocabulary

/-! ## Added tokens -/

namespace AddedToken

/-- The id that counts for an entry stands for an integer, its own or else another one, and the
content can be shown. -/
def IsReadable (entry id : Value) : Prop :=
  ((entry.field? "id").getD id).IsIntegral ∧ (entry.field "content").IsShown (Stack.levels .content)

/-- All added tokens of a description can be read, whichever way they are listed. -/
def AllReadable (source : Value) : Prop :=
  match source.field? "added_tokens" with
  | some given => ∃ items, given.items = .ok items ∧ ∀ entry ∈ items, IsReadable entry .null
  | none => ∀ entries, (source.field "added_tokens_decoder").entries? = some entries →
      ∀ entry ∈ entries, entry.1.IsIntegral ∧ IsReadable entry.2 entry.1

theorem judged_read (entry id : Value) : Judged (read entry id) (IsReadable entry id) False := by
  have inTurn := ((entry.field? "id").getD id).judged_toInteger.bind fun number =>
    ((entry.field "content").judged_str (Stack.levels .content)).map fun content =>
      ({ id := number, content
         singleWord := flag entry "single_word" false
         leftStrip := flag entry "lstrip" false
         rightStrip := flag entry "rstrip" false
         normalized := flag entry "normalized" true
         special := flag entry "special" false } : AddedToken)
  refine inTurn.congr ?_ (by simp)
  exact exists_and_right

omit [Stack] in
/-- Entries are sorted by the numbers that their keys stand for. -/
theorem exists_keyed_of_byId {entries sorted : List (Value × Value)}
    (known : byId entries = .ok sorted) :
    ∃ keyed : List (Int × Value × Value), keyed.map Prod.snd = entries ∧
      (∀ pair ∈ keyed, pair.2.1.toInteger = .ok pair.1) ∧
      sorted = (keyed.mergeSort fun a b => a.1 ≤ b.1).map Prod.snd := by
  obtain ⟨keyed, numbered, same⟩ := bind_eq_ok.1 known
  cases same
  have each : ∀ (entry : Value × Value) (pair : Int × Value × Value),
      (do return (← entry.1.toInteger, entry) : Except Fault _) = .ok pair →
        pair.2 = entry ∧ entry.1.toInteger = .ok pair.1 := by
    intro entry pair known
    obtain ⟨number, stands, same⟩ := bind_eq_ok.1 known
    cases same
    exact ⟨rfl, stands⟩
  refine ⟨keyed, ?_, ?_, rfl⟩
  · rw [map_of_mapM (fun entry pair known => (each entry pair known).1) numbered, List.map_id']
  · intro pair member
    obtain ⟨entry, _, known⟩ := exists_of_mem_mapM numbered pair member
    obtain ⟨rfl, stands⟩ := each entry pair known
    exact stands

omit [Stack] in
theorem perm_of_byId {entries sorted : List (Value × Value)}
    (known : byId entries = .ok sorted) : sorted.Perm entries := by
  obtain ⟨keyed, rfl, _, rfl⟩ := exists_keyed_of_byId known
  exact (List.mergeSort_perm keyed fun a b => a.1 ≤ b.1).map Prod.snd

omit [Stack] in
theorem judged_byId (entries : List (Value × Value)) :
    Judged (byId entries) (∀ entry ∈ entries, entry.1.IsIntegral) False := by
  have each (entry : Value × Value) :
      Judged (do return (← entry.1.toInteger, entry) : Except Fault _) entry.1.IsIntegral False :=
    entry.1.judged_toInteger.map fun number => (number, entry)
  exact (Judged.mapM_of_conversion each entries).map fun keyed =>
    (keyed.mergeSort fun a b => a.1 ≤ b.1).map Prod.snd

theorem judged_readAll (source : Value) :
    Judged (readAll source) (AllReadable source) False := by
  unfold readAll AllReadable
  cases source.field? "added_tokens" with
  | some given =>
      exact (Judged.bind_of_conversion (fun _ => Value.isConversion_of_items) fun items =>
        .mapM_of_conversion (fun entry => judged_read entry .null) items).congr Iff.rfl (by simp)
  | none =>
      cases (source.field "added_tokens_decoder").entries? with
      | none => exact ⟨nofun, nofun⟩
      | some entries =>
          have inOrder := (judged_byId entries).bind fun sorted =>
            Judged.mapM_of_conversion (fun entry => judged_read entry.2 entry.1) sorted
          refine inOrder.congr ⟨?_, ?_⟩ (by simp)
          · rintro ⟨sorted, known, readable⟩ _ ⟨⟩ entry member
            exact ⟨(judged_byId entries).exists_ok_iff.1 ⟨sorted, known⟩ entry member,
              readable entry ((perm_of_byId known).mem_iff.2 member)⟩
          · intro readable
            obtain ⟨sorted, known⟩ := (judged_byId entries).exists_ok_iff.2
              fun entry member => (readable entries rfl entry member).1
            exact ⟨sorted, known, fun entry member =>
              (readable entries rfl entry ((perm_of_byId known).mem_iff.1 member)).2⟩

end AddedToken

/-! ## Merge rules -/

omit [Stack] in
theorem Text.splitAtSpace?_eq_none_iff {text : String} :
    splitAtSpace? text = none ↔ ' ' ∉ text.toList := by
  have spaceless : text.toList.dropWhile (fun c => decide (c ≠ ' ')) = [] ↔ ' ' ∉ text.toList := by
    rw [List.dropWhile_eq_nil_iff]
    exact ⟨fun clear member => by simpa using clear _ member,
      fun clear c member => decide_eq_true fun same => clear (same ▸ member)⟩
  rw [← spaceless, splitAtSpace?]
  cases text.toList.dropWhile fun c => decide (c ≠ ' ') with
  | nil => exact ⟨fun _ => rfl, fun _ => rfl⟩
  | cons c rest => exact ⟨nofun, nofun⟩

namespace Merge

/-- The rule is a text with a space or has two items, which can be shown. -/
def IsPair : Value → Prop
  | .text given => ' ' ∈ given.toList
  | rule => ∃ left right, rule.items = .ok [left, right] ∧
      left.IsShown (Stack.levels .mergePart) ∧ right.IsShown (Stack.levels .mergePart)

/-- The rule has parts, but is no pair, and can be shown as such. -/
def IsMalformed : Value → Prop
  | .text given => ' ' ∉ given.toList
  | rule => ∃ items, rule.items = .ok items ∧ items.length ≠ 2 ∧
      ∃ shown, rule.repr (Stack.levels .mergeRule) = .ok shown

/-- A pair is read as its parts are shown, one after the other. -/
theorem judged_parts (left right : Value) :
    Judged (do
      let first ← left.str (Stack.levels .mergePart)
      let second ← right.str (Stack.levels .mergePart)
      .ok (first, second) : Except Fault Merge)
      (left.IsShown (Stack.levels .mergePart) ∧ right.IsShown (Stack.levels .mergePart)) False := by
  have inTurn := (left.judged_str (Stack.levels .mergePart)).bind fun first =>
    (right.judged_str (Stack.levels .mergePart)).map fun second => (first, second)
  exact inTurn.congr exists_and_right (by simp)

theorem judged_items (rule : Value) :
    Judged (do
      match ← rule.items with
      | [left, right] => do
        let first ← left.str (Stack.levels .mergePart)
        let second ← right.str (Stack.levels .mergePart)
        .ok (first, second)
      | _ => do .error (.mergeNotPair (← rule.repr (Stack.levels .mergeRule))) : Except Fault Merge)
      (∃ left right, rule.items = .ok [left, right] ∧
        left.IsShown (Stack.levels .mergePart) ∧ right.IsShown (Stack.levels .mergePart))
      (∃ items, rule.items = .ok items ∧ items.length ≠ 2 ∧
        ∃ shown, rule.repr (Stack.levels .mergeRule) = .ok shown) := by
  cases listed : rule.items with
  | error fault => exact ⟨nofun, .inr ⟨Value.isConversion_of_items listed, nofun⟩⟩
  | ok items =>
      rw [ok_bind]
      split
      · rename_i left right
        refine (judged_parts left right).congr ?_ ?_
        · refine ⟨fun shown => ⟨left, right, rfl, shown⟩, ?_⟩
          rintro ⟨_, _, ⟨⟩, shown⟩
          exact shown
        · refine ⟨False.elim, ?_⟩
          rintro ⟨_, ⟨⟩, differs, _⟩
          exact differs rfl
      · rename_i unpaired
        have unread : ¬ ∃ left right, Except.ok (ε := Fault) items = .ok [left, right] ∧
            left.IsShown (Stack.levels .mergePart) ∧ right.IsShown (Stack.levels .mergePart) := by
          rintro ⟨left, right, ⟨⟩, _⟩
          exact unpaired left right rfl
        have differs : items.length ≠ 2 := by
          intro two
          obtain ⟨left, right, same⟩ := List.length_eq_two.1 two
          exact unpaired left right same
        cases shown : rule.repr (Stack.levels .mergeRule) with
        | ok content => exact ⟨unread, .inl ⟨rfl, items, rfl, differs, content, rfl⟩⟩
        | error fault =>
            refine ⟨unread, .inr ⟨Value.isConversion_of_shown shown, ?_⟩⟩
            rintro ⟨_, _, _, _, ⟨⟩⟩

theorem judged_read (rule : Value) : Judged (read rule) (IsPair rule) (IsMalformed rule) := by
  cases rule with
  | text given =>
      rw [read]
      cases split : Text.splitAtSpace? given with
      | none =>
          have spaceless := Text.splitAtSpace?_eq_none_iff.1 split
          exact ⟨spaceless, .inl ⟨rfl, spaceless⟩⟩
      | some merge =>
          have spaced : ¬ ' ' ∉ given.toList := by
            intro spaceless
            cases (Text.splitAtSpace?_eq_none_iff.2 spaceless).symm.trans split
          exact ⟨not_not.1 spaced, spaced⟩
  | _ => exact judged_items _

/-- Rules that are there are listed, and all of them are pairs. -/
def ListsPairs (rules : Value) : Prop :=
  rules.truthy = true → ∃ items, rules.items = .ok items ∧ ∀ rule ∈ items, IsPair rule

/-- Rules are listed, and the first one that is no pair has parts. -/
def ListsMalformed (rules : Value) : Prop :=
  rules.truthy = true ∧ ∃ before rule after, rules.items = .ok (before ++ rule :: after) ∧
    (∀ earlier ∈ before, IsPair earlier) ∧ IsMalformed rule

theorem judged_readAll (rules : Value) :
    Judged (readAll rules) (ListsPairs rules) (ListsMalformed rules) := by
  unfold readAll ListsPairs ListsMalformed
  by_cases given : rules.truthy = true
  · rw [if_pos given]
    have conversion : ∀ fault, rules.items = .error fault → fault.kind.isConversion = true :=
      fun _ => Value.isConversion_of_items
    have inTurn := Judged.bind_of_conversion conversion (.mapM judged_read)
    refine inTurn.congr ⟨fun holds _ => holds, fun holds => holds given⟩ ⟨?_, ?_⟩
    · rintro ⟨items, listed, before, rule, after, rfl, earlier, malformed⟩
      exact ⟨given, before, rule, after, listed, earlier, malformed⟩
    · rintro ⟨_, before, rule, after, listed, earlier, malformed⟩
      exact ⟨_, listed, before, rule, after, rfl, earlier, malformed⟩
  · rw [if_neg given]
    exact ⟨fun holds => absurd holds given, fun malformed => given malformed.1⟩

end Merge

/-! ## Documents -/

namespace Tokenizer

/-- A model type that is declared can be shown. -/
def DeclaresShown (model : Value) : Prop :=
  (model.field "type").truthy = true → (model.field "type").IsShown (Stack.levels .modelType)

/-- What a document does not give as a tokenizer is reported as malformed: it is no mapping or has
no vocabulary, or a malformed merge rule comes before anything that fails to be converted. -/
def IsReported (document : Value) : Prop :=
  document.isMapping = true →
    ∀ vocabulary, (document.field "model").field? "vocab" = some vocabulary →
      Merge.ListsMalformed ((document.field "model").field "merges") ∨
        Merge.ListsPairs ((document.field "model").field "merges") ∧
          DeclaresShown (document.field "model") ∧
          Vocabulary.IsReadable vocabulary ∧ AddedToken.AllReadable document

variable {document vocabulary : Value}

theorem judged_declaredModelType (model : Value) (merges : List Merge) :
    Judged (declaredModelType model merges) (DeclaresShown model) False := by
  unfold declaredModelType DeclaresShown
  dsimp only
  by_cases declares : (model.field "type").truthy = true
  · rw [if_pos declares]
    refine (((model.field "type").judged_str (Stack.levels .modelType)).map
      Text.lowercase).congr ?_ Iff.rfl
    exact ⟨fun shown _ => shown, fun shown => shown declares⟩
  · rw [if_neg declares]
    exact ⟨fun declared => absurd declared declares, nofun⟩

theorem parse_of_unmapped (unmapped : ¬ document.isMapping = true) :
    parse document = .error (.documentNotObject document.typeName) := by
  rw [parse, if_neg unmapped]

theorem parse_of_absent (mapping : document.isMapping = true)
    (absent : (document.field "model").field? "vocab" = none) :
    parse document = .error .documentWithoutVocabulary := by
  rw [parse, if_pos mapping]
  simp only [absent]

/-- The parts of a document are read in turn, the merge rules first. -/
theorem judged_parse (mapping : document.isMapping = true)
    (present : (document.field "model").field? "vocab" = some vocabulary) :
    Judged (parse document)
      (Merge.ListsPairs ((document.field "model").field "merges") ∧
        DeclaresShown (document.field "model") ∧
        Vocabulary.IsReadable vocabulary ∧ AddedToken.AllReadable document)
      (Merge.ListsMalformed ((document.field "model").field "merges")) := by
  rw [parse_of_mapping _ mapping present]
  refine ((Merge.judged_readAll _).bind fun merges => (judged_declaredModelType _ merges).bind
    fun modelType => (Vocabulary.judged_read _).bind fun read =>
      (AddedToken.judged_readAll _).map _).congr ?_ ?_
  · simp only [exists_and_right, (Merge.judged_readAll _).exists_ok_iff,
      (judged_declaredModelType _ _).exists_ok_iff, (Vocabulary.judged_read _).exists_ok_iff]
  · simp

theorem kind_of_parse {fault : Fault} (failed : parse document = .error fault) :
    fault.kind = .malformedDescriptor ∨ fault.kind.isConversion = true := by
  by_cases mapping : document.isMapping = true
  swap
  · rw [parse_of_unmapped mapping] at failed
    cases failed
    exact .inl rfl
  cases present : (document.field "model").field? "vocab" with
  | none =>
      rw [parse_of_absent mapping present] at failed
      cases failed
      exact .inl rfl
  | some vocabulary =>
      exact ((judged_parse mapping present).kind_of_error failed).imp And.left And.left

/-- A document is parsed or reported as malformed exactly if nothing that fails to be converted is
in the way. -/
theorem parse_reports_iff (document : Value) :
    (∀ fault, parse document = .error fault → fault.kind.isGuidance = true) ↔
      IsReported document := by
  by_cases mapping : document.isMapping = true
  swap
  · rw [parse_of_unmapped mapping, reports_error_iff]
    exact ⟨fun _ mapping' => absurd mapping' mapping, fun _ => rfl⟩
  cases present : (document.field "model").field? "vocab" with
  | none =>
      rw [parse_of_absent mapping present, reports_error_iff]
      exact ⟨fun _ _ vocabulary known => (nomatch present.symm.trans known), fun _ => rfl⟩
  | some vocabulary =>
      rw [(judged_parse mapping present).reports_iff]
      constructor
      · intro holds _ vocabulary' known
        cases present.symm.trans known
        exact holds
      · exact fun reported => reported mapping vocabulary present

/-! ## Files and responses -/

/-- What is not JSON, or no tokenizer as JSON, is reported as malformed. -/
def IsReportedRead : Except Json.ReadError Json → Prop
  | .ok json => IsReported (.ofJson json)
  | .error error => error.isMalformed = true

omit [Stack] in
theorem readWithin_ne_undecodable {depth : Nat} {text : String} {error : Text.EncodingError} :
    Json.readWithin depth text ≠ .error (.undecodable error) := by
  intro read
  unfold Json.readWithin Json.readLocated at read
  split at read
  · cases read
  · split at read <;> cases read

/-- A file in the right encoding gives a tokenizer or is reported as malformed exactly if it is not
JSON beyond the limits and no document with something that fails to be converted in the way. -/
theorem ofFile_reports_iff {path : String} {bytes : List UInt8} {chars : List Char}
    (decoded : Text.decode .utf8 false bytes = .ok chars) :
    (∀ fault, ofFile path bytes = .error fault → fault.kind.isGuidance = true) ↔
      IsReportedRead (Json.readWithin (Stack.levels .fileText)
        (String.ofList (Text.unifyLineEnds chars))) := by
  unfold ofFile
  simp only [decoded]
  cases read : Json.readWithin (Stack.levels .fileText)
      (String.ofList (Text.unifyLineEnds chars)) with
  | ok json => exact parse_reports_iff (.ofJson json)
  | error error =>
      cases error with
      | undecodable error => exact absurd read readWithin_ne_undecodable
      | _ => exact reports_error_iff

end Tokenizer

namespace Hub

open Tokenizer (IsReportedRead)

/-- What comes of loading where a response has come in the end. -/
theorem load_of_response {environment : Environment} {network : Http.Network} {source : Source}
    {response : Http.Response}
    (answered : (network.get (source.client environment).base (source.client environment).headers
      source.path []).outcome = .ok response) :
    (load environment network source).1 =
      (source.client environment).read network source.path response >>=
        fun document => Tokenizer.parse (.ofJson document) := by
  simp only [load, Http.Client.getJson, answered]
  rfl

/-- A response with a success code gives a tokenizer or is reported as malformed under the same
condition. -/
theorem load_reports_iff {environment : Environment} {network : Http.Network} {source : Source}
    {response : Http.Response}
    (answered : (network.get (source.client environment).base (source.client environment).headers
      source.path []).outcome = .ok response)
    (success : Http.isSuccess response.status = true) :
    (∀ fault, (load environment network source).1 = .error fault → fault.kind.isGuidance = true) ↔
      IsReportedRead (Json.readBytesWithin (Stack.levels .responseText) response.body) := by
  rw [load_of_response answered, Http.Client.read, if_pos success]
  cases Json.readBytesWithin (Stack.levels .responseText) response.body with
  | ok json => exact Tokenizer.parse_reports_iff (.ofJson json)
  | error error =>
      cases error with
      | _ => exact reports_error_iff

end Hub

/-! ## Reports altogether -/

namespace Tokenizer

/-- Whatever a document is loaded from, it gives a tokenizer or is reported as malformed exactly if
nothing that fails to be converted is in the way; and nothing else than a conversion fails in a
document otherwise. -/
theorem loading_reports_iff (document : Value) :
    (∀ fault, parse document = .error fault →
      fault.kind = .malformedDescriptor ∨ fault.kind.isConversion = true) ∧
    ((∀ fault, parse document = .error fault → fault.kind.isGuidance = true) ↔
      IsReported document) ∧
    (∀ path bytes chars, Text.decode .utf8 false bytes = .ok chars →
      ((∀ fault, ofFile path bytes = .error fault → fault.kind.isGuidance = true) ↔
        IsReportedRead (Json.readWithin (Stack.levels .fileText)
          (String.ofList (Text.unifyLineEnds chars))))) ∧
    (∀ (environment : Environment) (network : Http.Network) (source : Hub.Source)
      (response : Http.Response),
      (network.get (source.client environment).base (source.client environment).headers
        source.path []).outcome = .ok response →
      Http.isSuccess response.status = true →
      ((∀ fault, (Hub.load environment network source).1 = .error fault →
          fault.kind.isGuidance = true) ↔
        IsReportedRead (Json.readBytesWithin (Stack.levels .responseText) response.body))) := by
  refine ⟨fun _ => kind_of_parse, parse_reports_iff document, ?files, ?responses⟩
  case files => exact fun _ _ _ decoded => ofFile_reports_iff decoded
  case responses => exact fun _ _ _ _ answered => Hub.load_reports_iff answered

end Tokenizer

end

/-! ## A document that is not reported -/

namespace Tokenizer

/-- A document with a vocabulary and nothing else. -/
def withVocabulary (vocabulary : Json) : Json :=
  .object [("model", .object [("vocab", vocabulary)])]

/-- A document in which the id of a token is no numeral, and the bytes of its text. -/
def misnumbered : Json :=
  withVocabulary (.object [("a", .text "x")])

def misnumberedBytes : List UInt8 :=
  misnumbered.write.map fun c => c.toNat.toUInt8

theorem decode_misnumbered : Text.decode .utf8 false misnumberedBytes = .ok misnumbered.write := by
  decide +kernel

/-- The document has three levels. -/
theorem readWithin_misnumbered :
    Json.readWithin 3 (String.ofList (Text.unifyLineEnds misnumbered.write)) = .ok misnumbered := by
  have unbroken : Text.unifyLineEnds misnumbered.write = misnumbered.write := by decide +kernel
  rw [unbroken]
  exact Json.readWithin_render rfl rfl

theorem readBytesWithin_misnumbered :
    Json.readBytesWithin 3 misnumberedBytes = .ok misnumbered := by
  have decoded : Text.decodeDetected misnumberedBytes = .ok misnumbered.write := by
    decide +kernel
  rw [Json.readBytesWithin, decoded]
  exact Json.readLocated_write rfl rfl

/-- A hub that answers with that document, and a model that it is asked for. -/
def misnumberedHub : Http.Network :=
  .scripted [.ok ⟨200, [], misnumberedBytes⟩]

def misnumberedSource : Hub.Source :=
  { model := "gpt2" }

theorem outcome_misnumbered :
    (misnumberedHub.get (misnumberedSource.client {}).base (misnumberedSource.client {}).headers
      misnumberedSource.path []).outcome = .ok ⟨200, [], misnumberedBytes⟩ := by
  have requests : (Http.firstRequest (misnumberedSource.client {}).base
      (misnumberedSource.client {}).headers misnumberedSource.path).toOption.any
        (·.url.namesScheme) = true := by decide +kernel
  obtain ⟨request, requested, named⟩ := exists_of_any requests
  unfold misnumberedHub
  exact Http.outcome_scripted_plain requested named

theorem loading_reports_iff_misnumbered :
    ¬ (∀ fault, @parse ⟨fun _ => 3⟩ (.ofJson misnumbered) = .error fault →
      fault.kind.isGuidance = true) ∧
    ¬ (∀ fault, @ofFile ⟨fun _ => 3⟩ "tokenizer.json" misnumberedBytes = .error fault →
      fault.kind.isGuidance = true) ∧
    ¬ ∀ fault, (@Hub.load ⟨fun _ => 3⟩ {} misnumberedHub misnumberedSource).1 = .error fault →
      fault.kind.isGuidance = true := by
  obtain ⟨_, reported, files, responses⟩ :=
    @loading_reports_iff ⟨fun _ => 3⟩ (.ofJson misnumbered)
  have fails : ¬ ∀ fault, @parse ⟨fun _ => 3⟩ (.ofJson misnumbered) = .error fault →
      fault.kind.isGuidance = true := fun reports => absurd (reports _ rfl) (by decide +kernel)
  have unreported : ¬ @IsReported ⟨fun _ => 3⟩ (.ofJson misnumbered) := mt reported.2 fails
  refine ⟨fails, ?_, ?_⟩
  · rw [files _ _ _ decode_misnumbered]
    show ¬ @IsReportedRead ⟨fun _ => 3⟩ (Json.readWithin 3 _)
    rw [readWithin_misnumbered]
    exact unreported
  · rw [responses {} misnumberedHub misnumberedSource _ outcome_misnumbered rfl]
    show ¬ @IsReportedRead ⟨fun _ => 3⟩ (Json.readBytesWithin 3 misnumberedBytes)
    rw [readBytesWithin_misnumbered]
    exact unreported

/-- An id that is no numeral, one that is infinite, and a vocabulary that lists nothing are reported
by the conversions that fail. -/
theorem loading_unreported :
    faultKind? (@parse ⟨fun _ => 3⟩ (.ofJson misnumbered)) = some .badValue ∧
    faultKind? (@parse ⟨fun _ => 3⟩
      (.ofJson (withVocabulary (.object [("a", .float (.infinite false))])))) = some .overflow ∧
    faultKind? (@parse ⟨fun _ => 3⟩ (.ofJson (withVocabulary (.int 5)))) = some .mismatch ∧
    faultKind? (@ofFile ⟨fun _ => 3⟩ "tokenizer.json" misnumberedBytes) = some .badValue := by
  decide +kernel

end Tokenizer

end ConstrainedDecoding
