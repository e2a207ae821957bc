import Mathlib.Data.List.Basic
import ConstrainedDecoding.Proofs.StartRule

/-!
# When the entry line captures the old start rule

The substitute for a rule `start` is looked for among the names that the grammar uses, and the line
put in front uses one name more: the requested symbol. Where the requested symbol is itself the
first substitute that the grammar leaves free (`IsFirstFree`), the old start rule gets just that
name, and the entry line resolves to it (`Captured`). That is the only way in which the requested
symbol comes to stand anywhere in the grammar where it did not stand before
(`occurrences_yieldStart_of_not_captured`), and then it stands exactly where `start` did
(`occurrences_yieldStart_of_captured`).
-/

namespace ConstrainedDecoding.Lark

/-- Where a text uses a name: the places of the name among the identifiers of the text. -/
def occurrences (name text : List Char) : List Nat := (identifiers text).idxsOf name

theorem occurrences_eq_nil {name text : List Char} :
    occurrences name text = [] ↔ name ∉ identifiers text := by
  unfold occurrences List.idxsOf
  rw [List.findIdxs_eq_nil_iff]
  constructor
  · intro differ member
    simpa using differ name member
  · intro absent used member
    exact beq_eq_false_iff_ne.mpr fun same => absent (same ▸ member)

/-! ## The substitute that is chosen -/

/-- The first of the substitutes that is not among the names taken. -/
def IsFirstFree (taken : List (List Char)) (name : List Char) : Prop :=
  ∃ n, name = substitute n ∧ substitute n ∉ taken ∧ ∀ m < n, substitute m ∈ taken

theorem isFirstFree_freeSubstitute (taken : List (List Char)) :
    IsFirstFree taken (freeSubstitute taken) := by
  obtain ⟨free, inRange, unused⟩ := exists_substitute_notMem taken
  unfold freeSubstitute
  rw [List.find?_map]
  cases search : (List.range (taken.length + 1)).find?
      ((fun name => !taken.contains name) ∘ substitute) with
  | none =>
      have all := List.find?_eq_none.mp search free (List.mem_range.mpr inRange)
      simp [unused] at all
  | some n =>
      obtain ⟨unusedHere, _, usedBefore⟩ := List.find?_range_eq_some.mp search
      refine ⟨n, rfl, by simpa using unusedHere, fun m before => ?_⟩
      simpa using usedBefore m before

theorem IsFirstFree.unique {taken : List (List Char)} {name other : List Char}
    (first : IsFirstFree taken name) (also : IsFirstFree taken other) : name = other := by
  obtain ⟨m, rfl, freeM, takenBeforeM⟩ := first
  obtain ⟨n, rfl, freeN, takenBeforeN⟩ := also
  rcases Nat.lt_trichotomy m n with before | rfl | after
  · exact absurd (takenBeforeN m before) freeM
  · rfl
  · exact absurd (takenBeforeM n after) freeN

theorem freeSubstitute_eq_iff {taken : List (List Char)} {name : List Char} :
    freeSubstitute taken = name ↔ IsFirstFree taken name := by
  constructor
  · rintro rfl
    exact isFirstFree_freeSubstitute taken
  · exact (isFirstFree_freeSubstitute taken).unique

/-! ## Where the requested symbol stands afterwards -/

/-- The grammar has a rule `start` to rename, and the requested symbol is the name that it gets. -/
structure Captured (text symbol : List Char) : Prop where
  renames : startName ∈ identifiers text
  takes : IsFirstFree (identifiers text) symbol

variable {text symbol : List Char}

theorem Captured.notMem (captured : Captured text symbol) : symbol ∉ identifiers text := by
  obtain ⟨n, rfl, unused, _⟩ := captured.takes
  exact unused

/-- The places of a name in a body are those of the names that become it. -/
theorem occurrences_yieldStart (name text : List Char) :
    occurrences name (yieldStart text) =
      (identifiers text).findIdxs fun used =>
        (if used = startName then freeSubstitute (identifiers text) else used) == name := by
  unfold occurrences List.idxsOf
  rw [(startRenamed_yieldStart text).identifiers_eq, List.findIdxs_map,
    identifiers_eq_names text]
  rfl

theorem findIdxs_congr {p q : List Char → Bool} {names : List (List Char)}
    (agree : ∀ name ∈ names, p name = q name) : names.findIdxs p = names.findIdxs q := by
  rw [List.findIdxs_eq_filterMap_zipIdx, List.findIdxs_eq_filterMap_zipIdx]
  refine List.filterMap_congr fun entry member => ?_
  rw [agree entry.1 (List.fst_mem_of_mem_zipIdx member)]

theorem occurrences_yieldStart_of_not_captured (other : symbol ≠ startName)
    (free : ¬ Captured text symbol) :
    occurrences symbol (yieldStart text) = occurrences symbol text := by
  rw [occurrences_yieldStart]
  refine findIdxs_congr fun used member => ?_
  by_cases renamed : used = startName
  · subst renamed
    have another : freeSubstitute (identifiers text) ≠ symbol :=
      fun taken => free ⟨member, freeSubstitute_eq_iff.mp taken⟩
    rw [if_pos rfl, beq_eq_false_iff_ne.mpr another, beq_eq_false_iff_ne.mpr other.symm]
  · rw [if_neg renamed]

theorem occurrences_yieldStart_of_captured (captured : Captured text symbol) :
    occurrences symbol (yieldStart text) = occurrences startName text := by
  rw [occurrences_yieldStart, freeSubstitute_eq_iff.mpr captured.takes]
  refine findIdxs_congr fun used member => ?_
  by_cases renamed : used = startName
  · simp [renamed]
  · have kept : used ≠ symbol := fun same => captured.notMem (same ▸ member)
    simp [renamed, kept]

/-- The requested symbol stands in the body behind the entry line at just the places where it stood
in the grammar, unless it is captured: then it stood nowhere, and now stands wherever the grammar
had its rule `start`, to which the entry line thus resolves. -/
theorem selectStart_keeps_symbol_iff (text start : String) (other : start ≠ "start") :
    ∃ body : List Char,
      selectStart text start = "start: " ++ start ++ "\n" ++ String.ofList body ∧
        (occurrences start.toList body = occurrences start.toList text.toList ↔
          ¬ Captured text.toList start.toList) ∧
        (Captured text.toList start.toList →
          occurrences start.toList text.toList = [] ∧
            occurrences start.toList body = occurrences startName text.toList ∧
            occurrences startName text.toList ≠ []) := by
  have capture (captured : Captured text.toList start.toList) :
      occurrences start.toList text.toList = [] ∧
        occurrences start.toList (yieldStart text.toList) = occurrences startName text.toList ∧
        occurrences startName text.toList ≠ [] :=
    ⟨occurrences_eq_nil.mpr captured.notMem, occurrences_yieldStart_of_captured captured,
      fun none => occurrences_eq_nil.mp none captured.renames⟩
  have different : start.toList ≠ startName :=
    fun same => other (String.toList_inj.mp (same.trans (by decide)))
  refine ⟨yieldStart text.toList, if_neg other, ⟨?_, ?_⟩, capture⟩
  · intro same captured
    obtain ⟨before, now, some⟩ := capture captured
    exact some (now.symm.trans (same.trans before))
  · exact occurrences_yieldStart_of_not_captured different

/-- The symbol requested is the second substitute, and the grammar uses the first. -/
theorem selectStart_keeps_symbol_iff_of_start_rule1 :
    "start_rule1" ≠ "start" ∧
      ∃ body : List Char,
        selectStart "start: start_rule" "start_rule1" =
            "start: " ++ "start_rule1" ++ "\n" ++ String.ofList body ∧
          (occurrences "start_rule1".toList body =
              occurrences "start_rule1".toList "start: start_rule".toList ↔
            ¬ Captured "start: start_rule".toList "start_rule1".toList) ∧
          (Captured "start: start_rule".toList "start_rule1".toList →
            occurrences "start_rule1".toList "start: start_rule".toList = [] ∧
              occurrences "start_rule1".toList body =
                occurrences startName "start: start_rule".toList ∧
              occurrences startName "start: start_rule".toList ≠ []) :=
  ⟨by decide, selectStart_keeps_symbol_iff _ _ (by decide)⟩

/-- A grammar without a rule `start_rule` gets one, its own start rule, when it is asked for one. -/
theorem selectStart_captures_start :
    ¬ ∀ (text start : String) (body : List Char), start ≠ "start" →
      IsIdentifier start.toList →
        selectStart text start = "start: " ++ start ++ "\n" ++ String.ofList body →
          occurrences start.toList body = occurrences start.toList text.toList := by
  intro hygienic
  have kept := hygienic "start: \"a\"" "start_rule" "start_rule: \"a\"".toList
    (by decide) (isIdentifier_substitute 0) (by decide +kernel)
  exact absurd kept (by decide +kernel)

example :
    selectStart "start: start_rule" "start_rule1" =
      "start: start_rule1\nstart_rule1: start_rule" := by
  decide +kernel

end ConstrainedDecoding.Lark
