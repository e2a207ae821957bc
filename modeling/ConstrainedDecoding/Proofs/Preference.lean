import ConstrainedDecoding.Proofs.PackedMask
import ConstrainedDecoding.Proofs.ScoreOrder
import Mathlib.Algebra.Order.Field.Rat
import Mathlib.Order.WithBot
import Mathlib.Tactic.Positivity
import Mathlib.Tactic.Ring

/-!
# The most preferred ids

`Binary.value` is the number that a floating-point number stands for, infinities included, and
`Binary.Outranks` the order of such numbers in which whatever is not a number comes first. The key
that ranking sorts by puts floating-point numbers in exactly that order (`Binary.rankKey_lt_iff`).
Hence ranking goes by a total order of the ids that can be stated without the key (`Preferred`), and
lists the first ids of it (`rank_vector_isTop`).
-/

namespace ConstrainedDecoding

namespace Binary

variable {w : Width} {x y : Binary w}

/-! ## What binary numbers stand for -/

/-- The number that a finite number stands for. -/
def quotient (x : Binary w) : ℚ :=
  (if x.negative then -1 else 1) * (x.ratio.1 / x.ratio.2)

/-- The number that a number stands for, with infinities below and above all others. -/
def value (x : Binary w) : WithBot (WithTop ℚ) :=
  if x.isInfinite then if x.negative then ⊥ else ((⊤ : WithTop ℚ) : WithBot (WithTop ℚ))
  else ((x.quotient : WithTop ℚ) : WithBot (WithTop ℚ))

/-- One number is ranked above another one: it is greater, or it alone is not a number. -/
def Outranks (x y : Binary w) : Prop :=
  y.isNaN = false ∧ (x.isNaN = true ∨ y.value < x.value)

/-- A magnitude as a multiple of the least positive number. -/
def units (w : Width) (magnitude : Nat) : Nat :=
  if magnitude < 2 ^ w.fraction then magnitude
  else (2 ^ w.fraction + magnitude % 2 ^ w.fraction) * 2 ^ (magnitude / 2 ^ w.fraction - 1)

theorem ratio_eq (x : Binary w) : x.ratio = (units w x.magnitude, 2 ^ w.scale) := by
  unfold ratio significand units
  simp only [Nat.pow_eq]
  split_ifs
  · simp
  · rfl

/-- From one magnitude to the next the number grows, also where the exponent does. -/
theorem units_lt_succ (w : Width) (magnitude : Nat) :
    units w magnitude < units w (magnitude + 1) := by
  unfold units
  generalize w.fraction = bits
  have positive : 0 < 2 ^ bits := Nat.two_pow_pos bits
  have parts : magnitude % 2 ^ bits + 2 ^ bits * (magnitude / 2 ^ bits) = magnitude :=
    Nat.mod_add_div ..
  by_cases small : magnitude + 1 < 2 ^ bits
  · rw [if_pos (by omega), if_pos small]
    exact Nat.lt_succ_self _
  rw [if_neg small]
  by_cases carries : magnitude % 2 ^ bits + 1 < 2 ^ bits
  · -- the fraction grows and the exponent stays
    obtain ⟨exponent, fraction⟩ : (magnitude + 1) / 2 ^ bits = magnitude / 2 ^ bits ∧
        (magnitude + 1) % 2 ^ bits = magnitude % 2 ^ bits + 1 :=
      (Nat.div_mod_unique positive).2 ⟨by omega, carries⟩
    have normal : ¬ magnitude < 2 ^ bits := by
      intro below
      rw [Nat.mod_eq_of_lt below] at carries
      exact small carries
    rw [if_neg normal, exponent, fraction]
    exact Nat.mul_lt_mul_of_pos_right (by omega) (Nat.two_pow_pos _)
  · have full : magnitude % 2 ^ bits + 1 = 2 ^ bits :=
      Nat.le_antisymm (Nat.mod_lt _ positive) (Nat.not_lt.1 carries)
    obtain ⟨exponent, fraction⟩ : (magnitude + 1) / 2 ^ bits = magnitude / 2 ^ bits + 1 ∧
        (magnitude + 1) % 2 ^ bits = 0 :=
      (Nat.div_mod_unique positive).2 ⟨by rw [Nat.mul_add]; omega, positive⟩
    rw [exponent, fraction, Nat.add_zero, Nat.add_sub_cancel]
    by_cases subnormal : magnitude < 2 ^ bits
    · rw [if_pos subnormal]
      exact subnormal.trans_le (Nat.le_mul_of_pos_right _ (Nat.two_pow_pos _))
    · rw [if_neg subnormal]
      obtain ⟨before, known⟩ : ∃ before, magnitude / 2 ^ bits = before + 1 :=
        Nat.exists_eq_succ_of_ne_zero
          (Nat.div_pos (Nat.not_lt.1 subnormal) positive).ne'
      rw [known, Nat.add_sub_cancel]
      calc (2 ^ bits + magnitude % 2 ^ bits) * 2 ^ before
          < (2 ^ bits * 2) * 2 ^ before :=
            Nat.mul_lt_mul_of_pos_right (by omega) (Nat.two_pow_pos _)
        _ = 2 ^ bits * 2 ^ (before + 1) := by rw [Nat.pow_succ', Nat.mul_assoc]

theorem strictMono_units (w : Width) : StrictMono (units w) :=
  strictMono_nat_of_lt_succ (units_lt_succ w)

theorem units_zero (w : Width) : units w 0 = 0 :=
  if_pos (Nat.two_pow_pos _)

/-- A finite number with its sign, as a multiple of the least positive number. -/
def signedUnits (x : Binary w) : Int :=
  if x.negative then -(units w x.magnitude : Int) else units w x.magnitude

theorem quotient_eq (x : Binary w) : x.quotient = x.signedUnits / 2 ^ w.scale := by
  unfold quotient signedUnits
  rw [ratio_eq]
  split_ifs
  · push_cast
    ring
  · push_cast
    ring

theorem quotient_lt_iff : y.quotient < x.quotient ↔ y.signedUnits < x.signedUnits := by
  have positive : (0 : ℚ) < 2 ^ w.scale := by positivity
  rw [quotient_eq, quotient_eq, div_lt_div_iff_of_pos_right positive, Int.cast_lt]

/-! ## The order of the numbers -/

theorem rankKey_of_isNaN (number : x.isNaN = true) : x.rankKey = w.infinity + 1 := by
  rw [rankKey, if_pos number]

theorem rankKey_of_not_isNaN (number : x.isNaN = false) :
    x.rankKey = if x.negative then -(x.magnitude : Int) else x.magnitude := by
  rw [rankKey, number]
  rfl

theorem rankKey_le_of_not_isNaN (number : x.isNaN = false) : x.rankKey ≤ w.infinity := by
  rw [rankKey_of_not_isNaN number]
  simp only [isNaN, decide_eq_false_iff_not] at number
  split_ifs <;> omega

/-- Numbers have the order of their magnitudes, in which both zeros are one. -/
theorem signedUnits_lt_iff (left : x.isNaN = false) (right : y.isNaN = false) :
    y.signedUnits < x.signedUnits ↔ y.rankKey < x.rankKey := by
  have order := (strictMono_units w).lt_iff_lt (a := y.magnitude) (b := x.magnitude)
  have reverse := (strictMono_units w).lt_iff_lt (a := x.magnitude) (b := y.magnitude)
  have zeroLeft := (strictMono_units w).lt_iff_lt (a := 0) (b := x.magnitude)
  have zeroRight := (strictMono_units w).lt_iff_lt (a := 0) (b := y.magnitude)
  rw [units_zero] at zeroLeft zeroRight
  rw [rankKey_of_not_isNaN left, rankKey_of_not_isNaN right]
  unfold signedUnits
  split_ifs <;> omega

/-- Infinities are at the ends of the order, and all other numbers are finite. -/
theorem value_cases (number : x.isNaN = false) :
    x.rankKey = -(w.infinity : Int) ∧ x.value = ⊥ ∨
    x.rankKey = w.infinity ∧ x.value = ((⊤ : WithTop ℚ) : WithBot (WithTop ℚ)) ∨
    -(w.infinity : Int) < x.rankKey ∧ x.rankKey < w.infinity ∧
      x.value = ((x.quotient : WithTop ℚ) : WithBot (WithTop ℚ)) := by
  rw [rankKey_of_not_isNaN number]
  unfold value
  simp only [isNaN, decide_eq_false_iff_not] at number
  by_cases infinite : x.magnitude = w.infinity
  · have isInfinite : x.isInfinite = true := decide_eq_true infinite
    rw [if_pos isInfinite, infinite]
    cases x.negative with
    | true => exact .inl ⟨rfl, rfl⟩
    | false => exact .inr (.inl ⟨rfl, rfl⟩)
  · have isFinite : ¬ x.isInfinite = true := by simpa [isInfinite] using infinite
    rw [if_neg isFinite]
    refine .inr (.inr ⟨?_, ?_, rfl⟩)
    · split_ifs <;> omega
    · split_ifs <;> omega

theorem value_lt_iff (left : x.isNaN = false) (right : y.isNaN = false) :
    y.value < x.value ↔ y.rankKey < x.rankKey := by
  have positive : (0 : Int) < w.infinity := by cases w <;> decide
  have finite := quotient_lt_iff.trans (signedUnits_lt_iff left right)
  obtain ⟨keyX, valueX⟩ | ⟨keyX, valueX⟩ | ⟨lowX, highX, valueX⟩ := value_cases left
  · obtain ⟨keyY, -⟩ | ⟨keyY, -⟩ | ⟨lowY, -, -⟩ := value_cases right
    all_goals
      rw [valueX, keyX]
      exact iff_of_false not_lt_bot (by omega)
  · obtain ⟨keyY, valueY⟩ | ⟨keyY, valueY⟩ | ⟨-, highY, valueY⟩ := value_cases right
    · rw [valueX, valueY, keyX, keyY]
      exact iff_of_true (WithBot.bot_lt_coe _) (by omega)
    · rw [valueX, valueY, keyX, keyY]
      exact iff_of_false (lt_irrefl _) (lt_irrefl _)
    · rw [valueX, valueY, keyX]
      exact iff_of_true (WithBot.coe_lt_coe.2 (WithTop.coe_lt_top _)) highY
  · obtain ⟨keyY, valueY⟩ | ⟨keyY, valueY⟩ | ⟨-, -, valueY⟩ := value_cases right
    · rw [valueX, valueY, keyY]
      exact iff_of_true (WithBot.bot_lt_coe _) lowX
    · rw [valueX, valueY, keyY, WithBot.coe_lt_coe]
      exact iff_of_false not_top_lt (by omega)
    · rw [valueX, valueY, WithBot.coe_lt_coe, WithTop.coe_lt_coe]
      exact finite

/-- The key that ranking sorts by puts numbers in the order of what they stand for. -/
theorem rankKey_lt_iff : y.rankKey < x.rankKey ↔ x.Outranks y := by
  unfold Outranks
  cases right : y.isNaN with
  | true =>
      have most : x.rankKey ≤ w.infinity + 1 := by
        cases left : x.isNaN with
        | true => exact (rankKey_of_isNaN left).le
        | false => exact (rankKey_le_of_not_isNaN left).trans (by omega)
      rw [rankKey_of_isNaN right]
      exact iff_of_false (by omega) nofun
  | false =>
      have below := rankKey_le_of_not_isNaN right
      cases left : x.isNaN with
      | true =>
          rw [rankKey_of_isNaN left]
          exact iff_of_true (by omega) ⟨rfl, .inl rfl⟩
      | false => simp [value_lt_iff left right]

end Binary

/-! ## The order of the ids -/

variable {w : Width}

/-- One id is preferred to another one of a score vector: its score is ranked above the other one,
or neither is above the other and it is the lower id. -/
def Preferred (scores : List (Binary w)) (id other : Nat) : Prop :=
  ∃ score otherScore, scores[id]? = some score ∧ scores[other]? = some otherScore ∧
    (score.Outranks otherScore ∨ ¬ otherScore.Outranks score ∧ id < other)

theorem preferred_iff_precedes {scores : List (Binary w)} {id other : Nat} :
    Preferred scores id other ↔ Precedes scores id other := by
  refine exists₂_congr fun score otherScore => and_congr_right' (and_congr_right' ?_)
  rw [← Binary.rankKey_lt_iff, ← Binary.rankKey_lt_iff]
  show _ ↔ otherScore.rankKey < score.rankKey ∨ score.rankKey = otherScore.rankKey ∧ id < other
  omega

theorem Precedes.trans {α : Type} [Score α] {scores : List α} {id other third : Nat}
    (left : Precedes scores id other) (right : Precedes scores other third) :
    Precedes scores id third := by
  obtain ⟨score, otherScore, scoreAt, otherAt, order⟩ := left
  obtain ⟨otherScore', thirdScore, otherAt', thirdAt, order'⟩ := right
  cases otherAt.symm.trans otherAt'
  exact ⟨score, thirdScore, scoreAt, thirdAt, by omega⟩

theorem Precedes.connex {α : Type} [Score α] {scores : List α} {id other : Nat}
    (inside : id < scores.length) (otherInside : other < scores.length) (different : id ≠ other) :
    Precedes scores id other ∨ Precedes scores other id := by
  have scoreAt := List.getElem?_eq_getElem inside
  have otherAt := List.getElem?_eq_getElem otherInside
  by_cases first : Score.rankKey scores[other] < Score.rankKey scores[id] ∨
      Score.rankKey scores[id] = Score.rankKey scores[other] ∧ id < other
  · exact .inl ⟨_, _, scoreAt, otherAt, first⟩
  · exact .inr ⟨_, _, otherAt, scoreAt, by omega⟩

/-- The ids of a score vector are in a total order. -/
theorem isStrictTotalOrder_preferred (scores : List (Binary w)) :
    IsStrictTotalOrder (Fin scores.length) fun id other => Preferred scores id other where
  irrefl id itself := by
    have precedes := preferred_iff_precedes.1 itself
    exact precedes.asymm precedes
  trans id other third left right :=
    preferred_iff_precedes.2
      ((preferred_iff_precedes.1 left).trans (preferred_iff_precedes.1 right))
  trichotomous id other notBefore notAfter := by
    rw [preferred_iff_precedes] at notBefore notAfter
    by_contra different
    exact (Precedes.connex id.isLt other.isLt (Fin.val_ne_of_ne different)).elim notBefore notAfter

/-! ## The first ids -/

/-- The ids are the first ones in the order of preference, so many as are asked for and there
are. -/
structure IsTop (scores : List (Binary w)) (count : Nat) (ids : List Nat) : Prop where
  length_eq : ids.length = min count scores.length
  nodup : ids.Nodup
  inside : ∀ id ∈ ids, id < scores.length
  sorted : ids.Pairwise (Preferred scores)
  best : ∀ id ∈ ids, ∀ other < scores.length, other ∉ ids → Preferred scores id other

theorem isTop_topRanked (scores : List (Binary w)) (count : Nat) :
    IsTop scores count (topRanked scores count) := by
  have ordered : (rankOrder scores).Pairwise (Preferred scores) :=
    (pairwise_rankOrder scores).imp preferred_iff_precedes.2
  have whole : topRanked scores count ++ (rankOrder scores).drop count = rankOrder scores :=
    List.take_append_drop count _
  constructor
  case length_eq => exact length_topRanked scores count
  case nodup => exact nodup_topRanked scores count
  case inside => exact fun id member => mem_rankOrder.1 (List.mem_of_mem_take member)
  case sorted => exact ordered.sublist (List.take_sublist count _)
  case best =>
    intro id member other inside leftOut
    have listed := mem_rankOrder.2 inside
    rw [← whole] at listed
    rw [← whole, List.pairwise_append] at ordered
    exact ordered.2.2 id member other ((List.mem_append.1 listed).resolve_left leftOut)

theorem topRanked_prefix (scores : List (Binary w)) {count more : Nat} (fewer : count ≤ more) :
    topRanked scores count <+: topRanked scores more :=
  List.take_prefix_take_left fewer

namespace Tensor

/-- A vector that the elements suffice for is filled with the first of them. -/
theorem ofElements_eq_vector {α : Type} {length : Nat} {elements : List α}
    (enough : length ≤ elements.length) (otherwise : α) :
    ofElements [length] otherwise elements = vector (elements.take length) := by
  have size : volume [length] = length := Nat.mul_one length
  have first : (elements ++ List.replicate length otherwise).take length =
      elements.take length := List.take_append_of_le_length enough
  have taken : (elements.take length).length = length := List.length_take_of_le enough
  unfold ofElements vector
  simp only [size, first, taken]

theorem flatMap_runs_rankOrder (scores : List (Binary w)) :
    (runs scores.length scores (volume [scores.length] / scores.length)).flatMap rankOrder =
      rankOrder scores := by
  cases scores with
  | nil => simp [runs, volume, rankOrder]
  | cons score rest =>
      have one : volume [(score :: rest).length] / (score :: rest).length = 1 := by
        simp [volume]
      rw [one]
      simp [runs]

/-- Ranking a vector gives the vector of its first ids. -/
theorem rank_vector (scores : List (Binary w)) (count : Nat) :
    (vector scores).rank count = .ok (vector (topRanked scores count)) := by
  have kept : (Bitmask.takeSigned count (List.range scores.length)).length =
      min count (rankOrder scores).length := by
    rw [Bitmask.takeSigned_natCast, List.length_take, List.length_range, length_rankOrder]
  have ranked : (vector scores).rank count = .ok (ofElements
      [(Bitmask.takeSigned count (List.range scores.length)).length] 0
      ((runs scores.length scores (volume [scores.length] / scores.length)).flatMap
        rankOrder)) := rfl
  rw [ranked, flatMap_runs_rankOrder, kept, ofElements_eq_vector (Nat.min_le_right _ _),
    ← List.take_eq_take_min, topRanked]

end Tensor

/-- Ranking a vector of floating-point scores gives the first ids in a total order: by value, what
is not a number before everything, both zeros alike, and by id among equal values. What is left out
comes after what is given, and asking for more ids adds some at the end. -/
theorem rank_vector_isTop (scores : List (Binary w)) (count : Nat) :
    IsStrictTotalOrder (Fin scores.length) (fun id other => Preferred scores id other) ∧
    (Tensor.vector scores).rank count = .ok (.vector (topRanked scores count)) ∧
    IsTop scores count (topRanked scores count) ∧
    ∀ more, count ≤ more → topRanked scores count <+: topRanked scores more :=
  ⟨isStrictTotalOrder_preferred scores, Tensor.rank_vector scores count,
    isTop_topRanked scores count, fun _ => topRanked_prefix scores⟩

end ConstrainedDecoding
