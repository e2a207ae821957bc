import ConstrainedDecoding.Masking.Rank
import Mathlib.Data.List.Nodup
import Mathlib.Data.List.Sort
import Mathlib.Tactic.Push

/-!
# The order of preference

Ranking goes by score, and by id among equal scores. `Precedes` is that order on the ids of a score
vector; `rankOrder` lists all ids by it (`pairwise_rankOrder`, `mem_rankOrder`). An id that precedes
all others is the only one (`IsFirst.unique`) and is ranked first (`topRanked_one`).

Among floating-point scores negative infinity is ranked last, and nothing else is ranked with it.
-/

namespace ConstrainedDecoding

variable {α : Type} [Score α]

/-- One id is preferred to another: its score is higher, or it is the lower one of two ids with
equally ranked scores. -/
def Precedes (scores : List α) (id other : Nat) : Prop :=
  ∃ score otherScore, scores[id]? = some score ∧ scores[other]? = some otherScore ∧
    (Score.rankKey otherScore < Score.rankKey score ∨
      Score.rankKey score = Score.rankKey otherScore ∧ id < other)

theorem Precedes.asymm {scores : List α} {id other : Nat} (precedes : Precedes scores id other) :
    ¬ Precedes scores other id := by
  rintro ⟨otherScore', score', otherAt', scoreAt', order'⟩
  obtain ⟨score, otherScore, scoreAt, otherAt, order⟩ := precedes
  cases scoreAt.symm.trans scoreAt'
  cases otherAt.symm.trans otherAt'
  omega

/-- The comparison that ranking sorts by. -/
def ranksBefore (a b : α × Nat) : Bool :=
  Score.rankKey b.1 ≤ Score.rankKey a.1

theorem rankOrder_eq (scores : List α) :
    rankOrder scores = (scores.zipIdx.mergeSort ranksBefore).map Prod.snd := rfl

theorem ranksBefore_trans (a b c : α × Nat) (left : ranksBefore a b = true)
    (right : ranksBefore b c = true) : ranksBefore a c = true := by
  simp only [ranksBefore, decide_eq_true_eq] at left right ⊢
  omega

theorem ranksBefore_total (a b : α × Nat) : (ranksBefore a b || ranksBefore b a) = true := by
  simp only [ranksBefore, Bool.or_eq_true, decide_eq_true_eq]
  omega

/-- Sorting is stable, so that equally ranked scores stay in the order of their ids. -/
theorem pairwise_mergeSort_zipIdx (scores : List α) :
    (scores.zipIdx.mergeSort ranksBefore).Pairwise
      fun a b => ranksBefore a b = true ∧ (ranksBefore b a = true → a.2 ≤ b.2) := by
  rw [← List.mergeSort_zipIdx, List.pairwise_map]
  refine (List.pairwise_mergeSort (List.zipIdxLE_trans ranksBefore_trans)
    (List.zipIdxLE_total ranksBefore_total) _).imp_of_mem ?_
  -- stability is stated with positions in the sorted list's origin, which the ids are already
  rintro ⟨⟨x, i⟩, i'⟩ ⟨⟨y, j⟩, j'⟩ memberI memberJ ordered
  have indexI : i' = i := by
    rw [List.mem_mergeSort, List.mk_mem_zipIdx_iff_getElem?, List.getElem?_zipIdx] at memberI
    grind
  have indexJ : j' = j := by
    rw [List.mem_mergeSort, List.mk_mem_zipIdx_iff_getElem?, List.getElem?_zipIdx] at memberJ
    grind
  subst indexI indexJ
  unfold List.zipIdxLE at ordered
  grind

theorem mem_rankOrder {scores : List α} {id : Nat} :
    id ∈ rankOrder scores ↔ id < scores.length := by
  rw [rankOrder_eq, List.mem_map]
  constructor
  · rintro ⟨⟨score, id⟩, member, rfl⟩
    rw [List.mem_mergeSort, List.mk_mem_zipIdx_iff_getElem?] at member
    exact (List.getElem?_eq_some_iff.1 member).1
  · intro inside
    refine ⟨(scores[id], id), ?_, rfl⟩
    rw [List.mem_mergeSort, List.mk_mem_zipIdx_iff_getElem?]
    exact List.getElem?_eq_getElem inside

theorem nodup_rankOrder (scores : List α) : (rankOrder scores).Nodup := by
  rw [rankOrder_eq, ((List.mergeSort_perm _ _).map Prod.snd).nodup_iff, List.zipIdx_map_snd]
  exact List.nodup_range'

theorem length_rankOrder (scores : List α) : (rankOrder scores).length = scores.length := by
  simp [rankOrder]

theorem length_topRanked (scores : List α) (depth : Nat) :
    (topRanked scores depth).length = min depth scores.length := by
  rw [topRanked, List.length_take, length_rankOrder]

theorem nodup_topRanked (scores : List α) (depth : Nat) : (topRanked scores depth).Nodup :=
  (nodup_rankOrder scores).sublist (List.take_sublist depth _)

theorem pairwise_rankOrder (scores : List α) :
    (rankOrder scores).Pairwise (Precedes scores) := by
  have distinct := nodup_rankOrder scores
  rw [rankOrder_eq] at distinct ⊢
  rw [List.Nodup, List.pairwise_map] at distinct
  rw [List.pairwise_map]
  apply ((pairwise_mergeSort_zipIdx scores).and distinct).imp_of_mem
  rintro ⟨x, i⟩ ⟨y, j⟩ memberI memberJ ⟨⟨before, stable⟩, different⟩
  rw [List.mem_mergeSort, List.mk_mem_zipIdx_iff_getElem?] at memberI memberJ
  refine ⟨x, y, memberI, memberJ, ?_⟩
  simp only [ranksBefore, decide_eq_true_eq] at before stable different
  omega

/-- The first id with a property that ranking comes upon precedes all others that have it. -/
theorem precedes_of_find? {scores : List α} {depth id other : Nat} {permits : Nat → Bool}
    (found : (topRanked scores depth).find? permits = some id) (inside : other < scores.length)
    (permitted : permits other = true) (different : other ≠ id) : Precedes scores id other := by
  obtain ⟨_, before, after, split, refused⟩ := List.find?_eq_some_iff_append.1 found
  have whole : rankOrder scores = before ++ id :: (after ++ (rankOrder scores).drop depth) := by
    conv_lhs => rw [← List.take_append_drop depth (rankOrder scores), ← topRanked, split]
    simp
  have member : other ∈ before ++ id :: (after ++ (rankOrder scores).drop depth) :=
    whole ▸ mem_rankOrder.2 inside
  have ordered := pairwise_rankOrder scores
  rw [whole, List.pairwise_append, List.pairwise_cons] at ordered
  rcases List.mem_append.1 member with earlier | later
  · simpa [permitted] using refused other earlier
  · exact ordered.2.1.1 other ((List.mem_cons.1 later).resolve_left different)

/-! ## The id ranked first -/

/-- An id that precedes all others. -/
structure IsFirst (scores : List α) (id : Nat) : Prop where
  inside : id < scores.length
  precedes {other : Nat} : other < scores.length → other ≠ id → Precedes scores id other

theorem IsFirst.unique {scores : List α} {id id' : Nat} (isFirst : IsFirst scores id)
    (isFirst' : IsFirst scores id') : id = id' := by
  by_contra different
  exact (isFirst.precedes isFirst'.inside (Ne.symm different)).asymm
    (isFirst'.precedes isFirst.inside different)

theorem isFirst_of_rankOrder {scores : List α} {id : Nat} {rest : List Nat}
    (ranked : rankOrder scores = id :: rest) : IsFirst scores id := by
  have ordered := pairwise_rankOrder scores
  rw [ranked, List.pairwise_cons] at ordered
  constructor
  · exact mem_rankOrder.1 (ranked ▸ List.mem_cons_self)
  · intro other inside different
    have member : other ∈ id :: rest := ranked ▸ mem_rankOrder.2 inside
    exact ordered.1 other ((List.mem_cons.1 member).resolve_left different)

theorem topRanked_one {scores : List α} {id : Nat} (isFirst : IsFirst scores id) :
    topRanked scores 1 = [id] := by
  cases ranked : rankOrder scores with
  | nil =>
      have member := mem_rankOrder.2 isFirst.inside
      rw [ranked] at member
      cases member
  | cons top rest =>
      rw [topRanked, ranked, (isFirst_of_rankOrder ranked).unique isFirst]
      rfl

theorem exists_topRanked_one {scores : List α} (scores_ne_nil : scores ≠ []) :
    ∃ id, topRanked scores 1 = [id] := by
  cases ranked : rankOrder scores with
  | nil =>
      have member := mem_rankOrder.2 (List.length_pos_iff.2 scores_ne_nil)
      rw [ranked] at member
      cases member
  | cons id rest =>
      rw [topRanked, ranked]
      exact ⟨id, rfl⟩

/-! ## Negative infinity is ranked last -/

namespace Binary

variable {w : Width}

/-- A number is its sign and its magnitude. -/
theorem eq_of_parts {x y : Binary w} (sign : x.negative = y.negative)
    (size : x.magnitude = y.magnitude) : x = y := by
  obtain ⟨x⟩ := x
  obtain ⟨y⟩ := y
  have boundX := x.isLt
  have boundY := y.isLt
  unfold negative at sign
  unfold magnitude at size
  rw [decide_eq_decide] at sign
  refine congrArg _ (BitVec.eq_of_toNat_eq ?_)
  cases w with
  | half | brain | single | double =>
      simp only [Width.size, Nat.pow_eq] at *
      omega

theorem negative_negInfinity : (negInfinity : Binary w).negative = true := by
  cases w <;> decide

theorem magnitude_negInfinity : (negInfinity : Binary w).magnitude = w.infinity := by
  cases w <;> decide

theorem rankKey_negInfinity : (negInfinity : Binary w).rankKey = -(w.infinity : Int) := by
  simp [rankKey, isNaN, negative_negInfinity, magnitude_negInfinity]

/-- Everything else is ranked before negative infinity. -/
theorem rankKey_negInfinity_lt {x : Binary w} (other : x ≠ negInfinity) :
    (negInfinity : Binary w).rankKey < x.rankKey := by
  have positive : 0 < w.infinity := by cases w <;> decide
  rw [rankKey_negInfinity]
  unfold rankKey isNaN
  by_cases number : w.infinity < x.magnitude
  · rw [if_pos (decide_eq_true number)]
    omega
  · rw [if_neg (by simpa using number)]
    cases sign : x.negative with
    | false =>
        rw [if_neg Bool.false_ne_true]
        omega
    | true =>
        have finite : x.magnitude ≠ w.infinity := fun infinite =>
          other (eq_of_parts (sign.trans negative_negInfinity.symm)
            (infinite.trans magnitude_negInfinity.symm))
        rw [if_pos rfl]
        omega

end Binary

end ConstrainedDecoding
