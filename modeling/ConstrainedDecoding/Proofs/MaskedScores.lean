import ConstrainedDecoding.Masking.Mask
import ConstrainedDecoding.Proofs.ScoreOrder
import ConstrainedDecoding.Proofs.TokenAutomata

/-!
# Masked scores

Both ways of masking a score vector keep the scores of some ids and forbid the others:
`Tensor.keep`. `TokenAutomata.masked` says which: only the best-ranked id that the automaton permits
if it is among the ids that are looked at one by one, else every id that it permits.

However many ids are looked at one by one, masking offers permitted ids only
(`TokenAutomata.permits_of_offers`), and the id ranked first afterwards is the same
(`TokenAutomata.topRanked_masked`). The second holds although the masked scores differ: if the best
permitted id has a finite score, then it precedes what else is permitted and whatever is forbidden,
and if its own score is negative infinity, then so is every permitted one and nothing is left by
either way.
-/

namespace ConstrainedDecoding

variable {w : Width}

/-- The scores of the ids that are kept, with all others forbidden. -/
def Tensor.keep (scores : Tensor (Binary w)) (keeps : Nat → Bool) : Tensor (Binary w) :=
  scores.mapPosition fun position score => if keeps position then score else .negInfinity

namespace Tensor

variable {scores : Tensor (Binary w)} {keeps : Nat → Bool} {id : Nat}

theorem getElem?_keep : (scores.keep keeps).elements[id]? =
    scores.elements[id]?.map fun score => if keeps id then score else .negInfinity := by
  simp [keep, mapPosition]

theorem getElem?_keep_of_keeps (kept : keeps id = true) :
    (scores.keep keeps).elements[id]? = scores.elements[id]? := by
  simp [getElem?_keep, kept]

theorem getElem?_keep_of_forbids (inside : id < scores.elements.length)
    (forbids : keeps id = false) :
    (scores.keep keeps).elements[id]? = some .negInfinity := by
  simp [getElem?_keep, forbids, inside]

theorem length_elements_keep :
    (scores.keep keeps).elements.length = scores.elements.length := by
  simp [keep, mapPosition]

/-- Where a score is negative infinity, it does not matter whether it is kept. -/
theorem elements_keep_eq {keeps' : Nat → Bool}
    (agree : ∀ id score, scores.elements[id]? = some score → score ≠ .negInfinity →
      keeps id = keeps' id) :
    (scores.keep keeps).elements = (scores.keep keeps').elements := by
  refine List.ext_getElem? fun id => ?_
  rw [getElem?_keep, getElem?_keep]
  cases at_id : scores.elements[id]? with
  | none => rfl
  | some score =>
      by_cases forbidden : score = .negInfinity
      · simp [forbidden]
      · rw [agree id score at_id forbidden]

/-- Keeping a single id after others makes no difference if it is one of them. -/
theorem keep_keep (kept : keeps id = true) :
    (scores.keep keeps).keep (fun position => position == id) =
      scores.keep fun position => position == id := by
  have same : ((scores.keep keeps).keep fun position => position == id).elements =
      (scores.keep fun position => position == id).elements := by
    refine List.ext_getElem? fun position => ?_
    rw [getElem?_keep, getElem?_keep, getElem?_keep]
    by_cases there : position = id
    · subst there
      simp [kept]
    · cases scores.elements[position]? <;> simp [there]
  unfold keep mapPosition at same ⊢
  congr 1

/-! ## The two ways of masking -/

variable {length : Nat}

theorem length_elements_of_shape {α : Type} {tensor : Tensor α}
    (vector : tensor.shape = [length]) : tensor.elements.length = length := by
  rw [tensor.length_elements, vector]
  simp [volume]

theorem maskAllExcept_vector (vector : scores.shape = [length]) (inside : id < length) :
    scores.maskAllExcept id = .ok (scores.keep fun position => position == id) := by
  unfold maskAllExcept
  rw [vector]
  have nonnegative : ¬ ((id : Int) < 0) := by omega
  have below : (0 : Int) ≤ id ∧ (id : Int) < length := by omega
  simp only [forbidden, Score.forbidden?, if_neg nonnegative, if_pos below]
  simp [keep, volume, Bind.bind, Except.bind]

theorem applyMask_vector (vector : scores.shape = [length]) (mask : List Bool) :
    scores.applyMask mask = .ok (scores.keep fun position => (mask[position]?).getD false) := by
  have size := length_elements_of_shape vector
  have same : (scores.mapPosition fun position score =>
      if mask.toArray.getD (position % length) false then score else .negInfinity) =
      scores.keep fun position => (mask[position]?).getD false := by
    unfold keep mapPosition
    congr 1
    refine List.ext_getElem? fun position => ?_
    rw [List.getElem?_mapIdx, List.getElem?_mapIdx]
    cases at_position : scores.elements[position]? with
    | none => rfl
    | some score =>
        have below : position < length := size ▸ (List.getElem?_eq_some_iff.1 at_position).1
        simp [Nat.mod_eq_of_lt below]
  unfold applyMask
  rw [vector]
  exact congrArg Except.ok same

end Tensor

/-! ## What an automaton makes of scores -/

namespace TokenAutomata

variable {δ : Type} (A : TokenAutomata δ) (state : δ) (depth : Nat) (scores : Tensor (Binary w))

/-- The best-ranked id that is permitted, if it is among so many that are looked at. -/
def pick : Option Nat :=
  (topRanked scores.elements depth).find? fun id => A.permits state id

/-- Whether the score of an id is kept. -/
def keeps : Nat → Bool :=
  match A.pick state depth scores with
  | some id => fun position => position == id
  | none => fun position => A.permits state position

/-- The scores masked as a state demands. -/
def masked : Tensor (Binary w) :=
  scores.keep (A.keeps state depth scores)

variable {A state depth scores}

theorem permits_of_pick {id : Nat} (picked : A.pick state depth scores = some id) :
    A.permits state id = true := by
  have permitted := List.find?_some picked
  exact permitted

theorem lt_of_pick {id : Nat} (picked : A.pick state depth scores = some id) :
    id < scores.elements.length :=
  mem_rankOrder.1 (List.mem_of_mem_take (List.mem_of_find?_eq_some picked))

theorem exists_score_of_pick {id : Nat} (picked : A.pick state depth scores = some id) :
    ∃ score, scores.elements[id]? = some score :=
  ⟨_, List.getElem?_eq_getElem (lt_of_pick picked)⟩

theorem permits_of_keeps {position : Nat} (kept : A.keeps state depth scores position = true) :
    A.permits state position = true := by
  unfold keeps at kept
  cases picked : A.pick state depth scores with
  | some id =>
      rw [picked] at kept
      rw [eq_of_beq kept]
      exact permits_of_pick picked
  | none =>
      rw [picked] at kept
      exact kept

theorem keeps_of_pick {id : Nat} (picked : A.pick state depth scores = some id) :
    A.keeps state depth scores id = true := by
  unfold keeps
  rw [picked]
  exact beq_self_eq_true id

end TokenAutomata

/-- A position of a tensor that may be sampled: its score is not negative infinity. -/
def Tensor.Offers (scores : Tensor (Binary w)) (token : Int) : Prop :=
  ∃ (position : Nat) (score : Binary w), token = position ∧
    scores.elements[position]? = some score ∧ score ≠ .negInfinity

theorem Tensor.keeps_of_offers {scores : Tensor (Binary w)} {keeps : Nat → Bool} {token : Int}
    (offers : (scores.keep keeps).Offers token) :
    ∃ position : Nat, token = position ∧ keeps position = true := by
  obtain ⟨position, score, rfl, at_position, finite⟩ := offers
  refine ⟨position, rfl, ?_⟩
  by_contra forbids
  rw [Tensor.getElem?_keep, Option.map_eq_some_iff] at at_position
  obtain ⟨given, _, rfl⟩ := at_position
  exact finite (if_neg forbids)

namespace TokenAutomata

variable {δ : Type} {A : TokenAutomata δ} {state : δ} {scores : Tensor (Binary w)}

/-- Whatever is offered after masking is permitted. -/
theorem permits_of_offers {depth : Nat} {token : Int}
    (offers : (A.masked state depth scores).Offers token) : A.permits state token = true := by
  obtain ⟨position, rfl, kept⟩ := Tensor.keeps_of_offers offers
  exact permits_of_keeps kept

/-- The picked id precedes the other permitted ones, and its score is kept by the full mask. -/
theorem isFirst_of_pick {depth id : Nat} {score : Binary w} {keeps : Nat → Bool}
    (picked : A.pick state depth scores = some id) (at_id : scores.elements[id]? = some score)
    (finite : score ≠ .negInfinity) (kept : keeps id = true)
    (only : ∀ position, keeps position = true → A.permits state position = true) :
    IsFirst (scores.keep keeps).elements id := by
  constructor
  · rw [Tensor.length_elements_keep]
    exact lt_of_pick picked
  · intro other inside different
    rw [Tensor.length_elements_keep] at inside
    rw [← Tensor.getElem?_keep_of_keeps kept] at at_id
    cases keepsOther : keeps other with
    | true =>
        obtain ⟨score', otherScore, at_id', at_other, order⟩ :=
          precedes_of_find? picked inside (only other keepsOther) different
        rw [← Tensor.getElem?_keep_of_keeps kept] at at_id'
        rw [← Tensor.getElem?_keep_of_keeps keepsOther] at at_other
        exact ⟨score', otherScore, at_id', at_other, order⟩
    | false =>
        exact ⟨score, .negInfinity, at_id, Tensor.getElem?_keep_of_forbids inside keepsOther,
          .inl (Binary.rankKey_negInfinity_lt finite)⟩

/-- If even the picked id has negative infinity for a score, so has every permitted one. -/
theorem eq_negInfinity_of_pick {depth id other : Nat} {score : Binary w}
    (picked : A.pick state depth scores = some id)
    (at_id : scores.elements[id]? = some .negInfinity)
    (at_other : scores.elements[other]? = some score)
    (permitted : A.permits state other = true) : score = .negInfinity := by
  by_contra finite
  have inside : other < scores.elements.length := (List.getElem?_eq_some_iff.1 at_other).1
  have different : other ≠ id := by
    rintro rfl
    exact finite (Option.some.inj (at_other.symm.trans at_id))
  obtain ⟨idScore, otherScore, at_id', at_other', order⟩ :=
    precedes_of_find? picked inside permitted different
  cases at_id.symm.trans at_id'
  cases at_other.symm.trans at_other'
  have below := Binary.rankKey_negInfinity_lt finite
  simp only [Score.rankKey] at order
  omega

/-- Masking leaves something to sample if anything permitted had a finite score. -/
theorem exists_offers {depth position : Nat} {score : Binary w}
    (permitted : A.permits state position = true)
    (at_position : scores.elements[position]? = some score) (finite : score ≠ .negInfinity) :
    ∃ token, (A.masked state depth scores).Offers token := by
  unfold masked
  cases picked : A.pick state depth scores with
  | none =>
      have kept : A.keeps state depth scores position = true := by
        unfold keeps
        rw [picked]
        exact permitted
      exact ⟨position, position, score, rfl, (Tensor.getElem?_keep_of_keeps kept).trans at_position,
        finite⟩
  | some id =>
      obtain ⟨first, at_id⟩ := exists_score_of_pick picked
      have kept := keeps_of_pick picked
      refine ⟨id, id, first, rfl, (Tensor.getElem?_keep_of_keeps kept).trans at_id, ?_⟩
      intro forbidden
      rw [forbidden] at at_id
      exact finite (eq_negInfinity_of_pick picked at_id at_position permitted)

/-- How many ids are looked at one by one does not matter for the id that is ranked first after
masking. -/
theorem topRanked_masked (depth : Nat) :
    topRanked (A.masked state depth scores).elements 1 =
      topRanked (scores.keep fun position => A.permits state position).elements 1 := by
  unfold masked
  cases picked : A.pick state depth scores with
  | none =>
      unfold keeps
      rw [picked]
  | some id =>
      obtain ⟨score, at_id⟩ := exists_score_of_pick picked
      by_cases finite : score = .negInfinity
      -- where the picked id has negative infinity, neither mask leaves anything else
      · rw [finite] at at_id
        refine congrArg (topRanked · 1) (Tensor.elements_keep_eq ?_)
        intro other score at_other differs
        have forbidden : A.permits state other ≠ true := fun permitted =>
          differs (eq_negInfinity_of_pick picked at_id at_other permitted)
        rw [Bool.eq_false_of_not_eq_true forbidden]
        exact Bool.eq_false_of_not_eq_true fun kept => forbidden (permits_of_keeps kept)
      · rw [topRanked_one (isFirst_of_pick picked at_id finite (keeps_of_pick picked)
            fun _ kept => permits_of_keeps kept),
          topRanked_one (isFirst_of_pick picked at_id finite (permits_of_pick picked)
            fun _ kept => kept)]

end TokenAutomata

end ConstrainedDecoding
