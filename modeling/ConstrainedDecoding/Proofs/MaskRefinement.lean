import ConstrainedDecoding.Proofs.GrammarConformity

/-!
# Ranked tokens first, the full mask otherwise

Masking resolves a score vector in one of two ways. Both come to the full mask: what is forced when
a well-ranked token is allowed is the full mask cut down to that token, and it is found without the
mask being asked for (`Processor.process_refines_mask`).

Only the answers of the session count, and only at the state that it is at: `Session.Coherent` says
that its mask agrees with what it says of single tokens. Such a session answers like an automaton
that stays at its one state (`Session.Coherent.answers`), so that what is known of sessions that
follow automata carries over.
-/

namespace ConstrainedDecoding

/-! ## Sessions whose answers agree -/

section

variable {σ δ : Type}

/-- Within these states, a session's mask has an entry for each token, which is what the session
says of that token alone, and asking does not lead out of the states. -/
structure Session.Coherent (S : Session σ) (within : σ → Prop) (size : Int)
    (allows : (token : Int) → Bool) : Prop where
  vocabSize {session} : within session → S.vocabSize session = size
  isAllowed {session} {token : Int} : within session → 0 ≤ token → token < size →
    (S.isAllowed token).Gives session (.ok (allows token)) within
  mask {session} : within session → ∃ mask : List Bool, S.mask.Gives session (.ok mask) within ∧
    (mask.length : Int) = size ∧
    ∀ token : Nat, token < mask.length → mask[token]? = some (allows token)

/-- A session that follows an automaton is coherent at each state of it. -/
theorem Session.Answers.coherent {S : Session σ} {A : TokenAutomata δ}
    {stands : σ → (first : String) → δ → Prop} (answers : S.Answers A stands) (first : String)
    (state : δ) (nonnegative : 0 ≤ A.size) :
    S.Coherent (stands · first state) A.size (A.allows state) where
  vocabSize standing := answers.vocabSize standing
  isAllowed standing := answers.isAllowed standing
  mask standing := by
    have length := A.length_maskAt state
    refine ⟨A.maskAt state, answers.mask standing, by omega, fun token inside => ?_⟩
    exact A.getElem?_maskAt_of_lt state (by omega)

/-- The automaton that stays where it is and allows the same tokens all the time. -/
def TokenAutomata.constant (size : Int) (allows : (token : Int) → Bool) : TokenAutomata Unit where
  size := size
  start _ := .ok ()
  allows _ := allows
  next _ _ := ()
  accepts _ := true

/-- A session whose parse does not move. -/
def Session.held (S : Session σ) : Session σ :=
  { S with
    advance := fun _ => pure ()
    isComplete := pure true }

theorem Session.Coherent.answers {S : Session σ} {within : σ → Prop} {size : Int}
    {allows : Int → Bool} (coherent : S.Coherent within size allows) :
    S.held.Answers (.constant size allows) fun session _ _ => within session where
  vocabSize inside := coherent.vocabSize inside
  isAllowed inside := coherent.isAllowed inside
  mask inside := by
    obtain ⟨mask, gives, length, entries⟩ := coherent.mask inside
    have same : mask = (TokenAutomata.constant size allows).maskAt () := by
      refine List.ext_getElem? fun token => ?_
      have sizes : ((TokenAutomata.constant size allows).maskAt ()).length = mask.length := by
        rw [TokenAutomata.length_maskAt]
        show size.toNat = mask.length
        omega
      by_cases below : token < mask.length
      · rw [entries token below, TokenAutomata.getElem?_maskAt_of_lt ()
          (show (token : Int) < size by omega)]
        rfl
      · rw [List.getElem?_eq_none (by omega), List.getElem?_eq_none (by omega)]
    exact same ▸ gives
  advance _ inside := (Action.gives_pure () _).of_eq inside
  isComplete inside := (Action.gives_pure true _).of_eq inside

end

/-! ## The best-ranked id -/

/-- What is found first in the front part of a list is found first in the whole, or not in the front
part. -/
theorem find?_take (ids : List Nat) (depth : Nat) (may : Nat → Bool) :
    (ids.take depth).find? may = (ids.find? may).filter fun id => id ∈ ids.take depth := by
  have whole : ids.find? may = ((ids.take depth).find? may).or ((ids.drop depth).find? may) := by
    rw [← List.find?_append, List.take_append_drop]
  cases near : (ids.take depth).find? may with
  | some id =>
      rw [whole, near, Option.some_or, Option.filter_some,
        if_pos (decide_eq_true (List.mem_of_find?_eq_some near))]
  | none =>
      cases best : ids.find? may with
      | none => rfl
      | some id =>
          have far : id ∉ ids.take depth := fun member =>
            List.find?_eq_none.1 near id member (List.find?_some best)
          rw [Option.filter_some, if_neg (by simpa using far)]

/-- Of the ids looked at one by one, the one picked is the best-ranked of all, if it is among them.
-/
theorem TokenAutomata.pick_eq_filter {δ : Type} {A : TokenAutomata δ} {state : δ} {w : Width}
    {scores : Tensor (Binary w)} (depth : Nat) :
    A.pick state depth scores =
      ((topRanked scores.elements scores.elements.length).find? fun id : Nat =>
        A.permits state id).filter fun id => id ∈ topRanked scores.elements depth := by
  unfold pick topRanked
  rw [find?_take, List.take_of_length_le (length_rankOrder _).le]

/-! ## Processors -/

/-- Whether a matcher that is asked says that a token is allowed. -/
def Matcher.allowsNow {σ : Type} (S : Session σ) (matcher : Matcher σ) (token : Nat) : Bool :=
  (Matcher.isAllowed S token matcher).result.toOption == some true

namespace Processor

variable {σ δ α : Type} {S : Session σ}

/-- Putting tokens to the matcher takes no more of a session than its answers about single tokens.
-/
theorem firstAllowed_congr {S' : Session σ} (sizes : S'.vocabSize = S.vocabSize)
    (answers : S'.isAllowed = S.isAllowed) (tokens : List Nat) (rank : Nat) :
    firstAllowed S' tokens rank = firstAllowed S tokens rank := by
  have same (token : Int) : Matcher.isAllowed S' token = Matcher.isAllowed S token := by
    unfold Matcher.isAllowed
    rw [sizes, answers]
  induction tokens generalizing rank with
  | nil => rfl
  | cons token rest ih =>
      unfold firstAllowed
      rw [same, ih]

variable [Score α]

theorem process_congr {S' : Session σ} (sizes : S'.vocabSize = S.vocabSize)
    (answers : S'.isAllowed = S.isAllowed) (masks : S'.mask = S.mask) (scores : Tensor α) :
    process S' scores = process S scores := by
  have sameMiss : miss S' scores = miss S scores := by
    unfold miss Matcher.mask
    rw [masks]
  unfold process
  simp only [firstAllowed_congr sizes answers, sameMiss]

/-- The mask is not asked for when a well-ranked token is allowed. -/
theorem process_eq_of_pick {A : TokenAutomata δ} {stands : σ → (first : String) → δ → Prop}
    {first : String} {live : LiveMatcher σ} {settings : Settings} {state : δ} {history : List Int}
    {processor : Processor σ} {w : Width} {scores : Tensor (Binary w)}
    (answers : S.Answers A stands) {token : Nat}
    (picked : A.pick state settings.depth scores = some token)
    (standing : At stands first live settings state history processor)
    (unasked : Action σ (List Bool)) :
    process { S with mask := unasked } scores processor = process S scores processor := by
  unfold process
  split
  · rfl
  · refine (gives_count _ standing).bind_congr fun counted countedAt =>
      (Action.gives_get counted).bind_congr ?_
    rintro counted rfl
    refine (gives_trace _ counted).bind_congr ?_
    rintro counted rfl
    have same : firstAllowed { S with mask := unasked } (topRanked scores.elements settings.depth) =
        firstAllowed S (topRanked scores.elements settings.depth) :=
      funext fun rank => firstAllowed_congr (by rfl) (by rfl) _ rank
    rw [countedAt.settings, same]
    refine (gives_firstAllowed answers _ 0 countedAt).bind_congr fun left _ => ?_
    unfold TokenAutomata.pick at picked
    rw [picked]
    rfl

/-- Masking leaves what may be sampled of an id that may come next and has a score, and nothing
else. -/
theorem exists_offers_masked {A : TokenAutomata δ} {state : δ} {depth : Nat} {w : Width}
    {scores : Tensor (Binary w)} :
    (∃ token, (A.masked state depth scores).Offers token) ↔
      ∃ (id : Nat) (score : Binary w), A.permits state id = true ∧
        scores.elements[id]? = some score ∧ score ≠ .negInfinity := by
  constructor
  · rintro ⟨token, offers⟩
    have permitted := TokenAutomata.permits_of_offers offers
    obtain ⟨id, score, rfl, at_id, finite⟩ := offers
    rw [TokenAutomata.masked, Tensor.getElem?_keep, Option.map_eq_some_iff] at at_id
    obtain ⟨given, at_id, masked⟩ := at_id
    have kept : given = score := by
      by_contra changed
      split at masked
      · exact changed masked
      · exact finite masked.symm
    exact ⟨id, score, permitted, kept ▸ at_id, finite⟩
  · rintro ⟨id, score, permitted, at_id, finite⟩
    exact TokenAutomata.exists_offers permitted at_id finite

theorem matcher_of_at {within : σ → Prop} {live : LiveMatcher σ} {processor left : Processor σ}
    (leftAt : At (fun session _ _ => within session) "" live processor.settings ()
      processor.history left) :
    ∃ session, within session ∧
      left = { processor with
        matcher := some { live with session }
        statistics := left.statistics } := by
  obtain ⟨⟨_, owns, session, rfl, inside⟩, settings, history⟩ := leftAt
  refine ⟨session, inside, ?_⟩
  obtain ⟨matcher, _, _, statistics⟩ := left
  cases owns
  cases settings
  cases history
  rfl

/-- The best-ranked of all ids of a vector that the matcher allows. -/
def bestAllowed (S : Session σ) (matcher : Matcher σ) (scores : List α) : Option Nat :=
  (topRanked scores scores.length).find? (Matcher.allowsNow S matcher)

variable {within : σ → Prop} {size : Int} {allows : (token : Int) → Bool}
  {processor : Processor σ} {live : LiveMatcher σ} {w : Width} {scores : Tensor (Binary w)}

/-- A matcher over a coherent session allows what the mask of the session allows. -/
theorem allowsNow_eq (coherent : S.Coherent within size allows)
    (owns : processor.matcher = some live) (inside : within live.session) :
    Matcher.allowsNow S processor.matcher =
      fun id : Nat => (TokenAutomata.constant size allows).permits () id := by
  have standing : Matcher.At (fun session _ _ => within session) "" live () processor.matcher :=
    ⟨live, owns, live.session, rfl, inside⟩
  funext id
  have asked := (Matcher.gives_isAllowed coherent.answers id standing).result_eq
  show ((Matcher.isAllowed S.held id processor.matcher).result.toOption == some true) = _
  rw [asked]
  cases (TokenAutomata.constant size allows).permits () id with
  | true => rfl
  | false => rfl

theorem pick_eq_of_bestAllowed (coherent : S.Coherent within size allows)
    (owns : processor.matcher = some live) (inside : within live.session) (depth : Nat) :
    (TokenAutomata.constant size allows).pick () depth scores =
      (bestAllowed S processor.matcher scores.elements).filter fun id =>
        id ∈ topRanked scores.elements depth := by
  rw [TokenAutomata.pick_eq_filter, bestAllowed, allowsNow_eq coherent owns inside]

/-- A processor masks a vector as the full mask does, or cuts the full mask down to the best-ranked
token that is allowed. It does the latter if that token is among the tokens put to the matcher one
by one; then the result is a new tensor, and the session is not asked for its mask. Otherwise the
full mask is applied to the given tensor. Either way something is left to sample if the scores have
something for an allowed token, and the session stays as it is. -/
theorem process_refines_mask {length : Nat} (coherent : S.Coherent within size allows)
    (owns : processor.matcher = some live) (inside : within live.session)
    (vector : scores.shape = [length]) :
    ∃ mask full masked,
      (Matcher.mask S processor.matcher).result = .ok mask ∧ scores.applyMask mask = .ok full ∧
      (process S scores).Gives processor (.ok masked) (fun left => ∃ session, within session ∧
        left = { processor with
          matcher := some { live with session }
          statistics := left.statistics }) ∧
      (∀ token, bestAllowed S processor.matcher scores.elements = some token →
        token ∈ topRanked scores.elements processor.settings.depth →
          (∃ forced, full.maskAllExcept token = .ok forced ∧ masked = .beside scores forced) ∧
          ∀ unasked : Action σ (List Bool),
            process { S with mask := unasked } scores processor = process S scores processor) ∧
      ((∀ token, bestAllowed S processor.matcher scores.elements = some token →
          token ∉ topRanked scores.elements processor.settings.depth) →
        masked = .inPlace full) ∧
      ((∃ token, masked.result.Offers token) ↔
        ∃ (id : Nat) (score : Binary w), Matcher.allowsNow S processor.matcher id = true ∧
          scores.elements[id]? = some score ∧ score ≠ .negInfinity) := by
  have answers := coherent.answers
  have standing : At (fun session _ _ => within session) "" live processor.settings ()
      processor.history processor := ⟨⟨live, owns, live.session, rfl, inside⟩, rfl, rfl⟩
  have masks := (Matcher.gives_mask answers standing.matcher).result_eq
  have full : scores.applyMask ((TokenAutomata.constant size allows).maskAt ()) =
      .ok (scores.keep fun id => (TokenAutomata.constant size allows).permits () id) := by
    rw [Tensor.applyMask_vector vector]
    simp only [TokenAutomata.getElem?_maskAt]
  have gives := gives_process_settled answers vector standing
  have same : process S.held scores = process S scores :=
    process_congr (by rfl) (by rfl) (by rfl) scores
  rw [same] at gives
  have picks : (TokenAutomata.constant size allows).pick () processor.settings.depth scores = _ :=
    pick_eq_of_bestAllowed coherent owns inside processor.settings.depth
  refine ⟨_, _, _, masks, full, gives.mono fun left leftAt => matcher_of_at leftAt, ?_, ?_, ?_⟩
  · intro token best near
    rw [best, Option.filter_some, if_pos (decide_eq_true near)] at picks
    have permitted := TokenAutomata.permits_of_pick picks
    refine ⟨⟨_, Tensor.maskAllExcept_vector vector ?_, ?_⟩, fun unasked => ?_⟩
    · exact Tensor.length_elements_of_shape vector ▸ TokenAutomata.lt_of_pick picks
    · unfold settled
      rw [picks, Tensor.keep_keep permitted]
    · have heldSame : process { S.held with mask := unasked } scores =
          process { S with mask := unasked } scores :=
        process_congr (by rfl) (by rfl) (by rfl) scores
      rw [← heldSame, ← same]
      exact process_eq_of_pick answers picks standing unasked
  · intro far
    have passed : (bestAllowed S processor.matcher scores.elements).filter (fun id =>
        id ∈ topRanked scores.elements processor.settings.depth) = none :=
      Option.filter_eq_none_iff.2 fun token best => by simpa using far token best
    unfold settled
    rw [picks, passed]
  · rw [result_settled, allowsNow_eq coherent owns inside]
    exact exists_offers_masked

open Scripted

/-- A processor at the start of a small script, under which only the token 1 comes next. -/
def onlyOneAtStart (settings : Settings) : Processor Parse where
  matcher := some
    { session := { rules := onlyOne, first := "b", rule := ruleFor onlyOne "b", size := 2 }
      first := .regex (.text "b") }
  settings := settings

theorem bestAllowed_twoScores (settings : Settings) :
    bestAllowed Parse.operations (onlyOneAtStart settings).matcher twoScores.elements = some 1 := by
  rw [bestAllowed, topRanked, rankOrder_twoScores]
  show List.find? (Matcher.allowsNow Parse.operations (onlyOneAtStart {}).matcher) [0, 1] = some 1
  decide +kernel

/-- Of two scores the second one is allowed: it is forced when two tokens are put to the matcher one
by one, and left by the full mask when only one is. -/
theorem process_refines_mask_onlyOne :
    ∃ mask, (Matcher.mask Parse.operations (onlyOneAtStart {}).matcher).result = .ok mask ∧
      ∃ full, twoScores.applyMask mask = .ok full ∧
        (∃ forced, full.maskAllExcept 1 = .ok forced ∧
          (process Parse.operations twoScores (onlyOneAtStart { depth := 2 })).result =
            .ok (.beside twoScores forced)) ∧
        (process Parse.operations twoScores (onlyOneAtStart { depth := 1 })).result =
          .ok (.inPlace full) := by
  have answers : Parse.operations.Answers (Parse.automata onlyOne 2) (Parse.Stands onlyOne 2) :=
    (Parse.follows isFull_onlyOne).toAnswers
  have coherent := answers.coherent "b" (ruleFor onlyOne "b", 0) (by decide)
  have owned (settings : Settings) : (onlyOneAtStart settings).matcher = some
    { session := { rules := onlyOne, first := "b", rule := ruleFor onlyOne "b", size := 2 }
      first := .regex (.text "b") } := rfl
  have inside : Parse.Stands onlyOne 2
      { rules := onlyOne, first := "b", rule := ruleFor onlyOne "b", size := 2 } "b"
      (ruleFor onlyOne "b", 0) :=
    ⟨rfl, rfl, rfl, rfl, maskLength_ruleFor isFull_onlyOne "b"⟩
  obtain ⟨mask, full, masked, masks, applied, gives, near, _⟩ :=
    process_refines_mask coherent (owned { depth := 2 }) inside shape_twoScores
  obtain ⟨mask', full', masked', masks', applied', gives', _, far, _⟩ :=
    process_refines_mask coherent (owned { depth := 1 }) inside shape_twoScores
  cases masks.symm.trans masks'
  cases applied.symm.trans applied'
  obtain ⟨⟨forced, cut, rfl⟩, _⟩ := near 1 (bestAllowed_twoScores _) (by
    rw [topRanked, rankOrder_twoScores]
    decide)
  have apart : ∀ token, bestAllowed Parse.operations (onlyOneAtStart { depth := 1 }).matcher
      twoScores.elements = some token → token ∉ topRanked twoScores.elements 1 := by
    intro token found
    cases (bestAllowed_twoScores _).symm.trans found
    rw [topRanked, rankOrder_twoScores]
    decide
  exact ⟨mask, masks, full, applied, ⟨forced, cut, gives.result_eq⟩,
    far apart ▸ gives'.result_eq⟩

end Processor

end ConstrainedDecoding
