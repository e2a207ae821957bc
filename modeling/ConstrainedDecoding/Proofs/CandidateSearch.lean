import ConstrainedDecoding.Proofs.RecordedSession
import Mathlib.Algebra.GroupWithZero.Nat

/-!
# Ledgers of candidate searches

When a score vector is taken on, the session is asked about the ids that are ranked first, one after
the other, until it does not refuse one, and for the full mask if it refuses all of them. An entry
of a ledger has those ids and what the session is asked. `Search` describes the asking, and
`Search.settles` says that what comes of it can be read off the entry.
-/

namespace ConstrainedDecoding

variable {σ : Type}

/-! ## Entries of a ledger -/

namespace Query

/-- The token that is asked about, if it is one. -/
def id? : Query → Option Int
  | token id _ _ => some id
  | mask => none

def isMask : Query → Bool
  | token _ _ _ => false
  | mask => true

/-- A query about a token is put only to a session that has the token, and is answered by it. -/
def IsPut (S : Session σ) : Query → Prop
  | token id size answer => 0 ≤ id ∧ id < size ∧ ∃ session, S.vocabSize session = size ∧
      (S.isAllowed id session).result.toOption = answer
  | mask => True

/-- Whether a candidate is asked about with such an answer. -/
def answers (answer : Option Bool) (candidate : Nat) : Query → Bool
  | token id _ given => id = candidate && given = answer
  | mask => false

end Query

/-- A score vector that was taken on: how many scores it has, which of the ids that are ranked first
are looked at, and what the session is asked meanwhile. -/
structure Entry where
  width : Nat
  candidates : List Nat
  queries : List Query

/-- The place of the first candidate to which queries have such an answer. -/
def rankOf (candidates : List Nat) (queries : List Query) (answer : Option Bool) : Option Nat :=
  candidates.findIdx? fun candidate => queries.any (Query.answers answer candidate)

namespace Entry

/-- How many scores there are, and which ids are looked at. -/
def ranking (entry : Entry) : Nat × List Nat :=
  (entry.width, entry.candidates)

/-- The place of the first candidate that the session allows. -/
def rank? (entry : Entry) : Option Nat :=
  rankOf entry.candidates entry.queries (some true)

/-- The place of the first candidate about which the session fails to answer. -/
def faultRank? (entry : Entry) : Option Nat :=
  rankOf entry.candidates entry.queries none

/-- A candidate is allowed. -/
def isHit (entry : Entry) : Bool :=
  entry.rank?.isSome

/-- No candidate is allowed, and the session fails to answer about one. -/
def isUnanswered (entry : Entry) : Bool :=
  !entry.isHit && entry.faultRank?.isSome

/-- The session refuses all candidates. -/
def isMiss (entry : Entry) : Bool :=
  !entry.isHit && !entry.isUnanswered

/-- How many candidates are looked at: up to the first that the session does not refuse. -/
def checks (entry : Entry) : Nat :=
  match entry.rank?.or entry.faultRank? with
  | some rank => rank + 1
  | none => entry.candidates.length

/-- The full masks that the session is asked for. -/
def masks (entry : Entry) : Nat :=
  entry.queries.countP Query.isMask

/-- The tokens that the session is asked about. -/
def ids (entry : Entry) : List Int :=
  entry.queries.filterMap Query.id?

/-- The session is asked about few tokens, no token twice, as `Query.IsPut` says, and for the full
mask once if it refuses all candidates and else never. -/
structure IsSound (S : Session σ) (depth : Nat) (entry : Entry) : Prop where
  length_candidates : entry.candidates.length = min depth entry.width
  length_ids : entry.ids.length ≤ min depth entry.width
  distinct : entry.ids.Nodup
  put : ∀ query ∈ entry.queries, query.IsPut S
  masks_eq : entry.masks = if entry.isMiss then 1 else 0

/-- The statistics with an entry counted. -/
def count (statistics : Statistics) (entry : Entry) : Statistics :=
  { steps := statistics.steps + 1
    hits := statistics.hits + if entry.isHit then 1 else 0
    misses := statistics.misses + if entry.isMiss then 1 else 0
    candidateChecks := statistics.candidateChecks + entry.checks
    fullMasks := statistics.fullMasks + entry.masks }

variable {entry : Entry} {place : Nat} (statistics : Statistics)

theorem count_of_hit (rank : entry.rank? = some place) (masks_eq : entry.masks = 0) :
    entry.count statistics = { statistics with
      steps := statistics.steps + 1
      hits := statistics.hits + 1
      candidateChecks := statistics.candidateChecks + (place + 1) } := by
  simp [count, isMiss, isHit, checks, rank, masks_eq]

theorem count_of_fault (rank : entry.rank? = none) (faultRank : entry.faultRank? = some place)
    (masks_eq : entry.masks = 0) :
    entry.count statistics = { statistics with
      steps := statistics.steps + 1
      candidateChecks := statistics.candidateChecks + (place + 1) } := by
  simp [count, isMiss, isHit, isUnanswered, checks, rank, faultRank, masks_eq]

theorem count_of_miss (rank : entry.rank? = none) (faultRank : entry.faultRank? = none)
    (masks_eq : entry.masks = 1) :
    entry.count statistics = { statistics with
      steps := statistics.steps + 1
      misses := statistics.misses + 1
      candidateChecks := statistics.candidateChecks + entry.candidates.length
      fullMasks := statistics.fullMasks + 1 } := by
  simp [count, isMiss, isHit, isUnanswered, checks, rank, faultRank, masks_eq]

theorem isMiss_of_hit (rank : entry.rank? = some place) : entry.isMiss = false := by
  simp [isMiss, isHit, rank]

theorem isMiss_of_fault (rank : entry.rank? = none) (faultRank : entry.faultRank? = some place) :
    entry.isMiss = false := by
  simp [isMiss, isHit, isUnanswered, rank, faultRank]

theorem isMiss_of_none (rank : entry.rank? = none) (faultRank : entry.faultRank? = none) :
    entry.isMiss = true := by
  simp [isMiss, isHit, isUnanswered, rank, faultRank]

end Entry

/-! ## Putting candidates to a session -/

/-- What the session is asked about a token, and what comes of it: nothing if it does not have the
token, which is refused then. -/
inductive Asks (S : Session σ) (token : Nat) : Except Fault Bool → List Query → Prop
  | outside : Asks S token (.ok false) []
  | inside {session : σ} {result : Except Fault Bool} : (token : Int) < S.vocabSize session →
    (S.isAllowed token session).result = result →
    Asks S token result [.token token (S.vocabSize session) result.toOption]

/-- What the session is asked about candidates in turn, how many are looked at, and what comes of it
at last. -/
inductive Search (S : Session σ) : (candidates : List Nat) → (rank : Nat) →
    Except Fault (Option (Nat × Nat)) → List Query → (checks : Nat) → Prop
  | ended {rank} : Search S [] rank (.ok none) [] 0
  | allowed {token rest rank asked} : Asks S token (.ok true) asked →
    Search S (token :: rest) rank (.ok (some (token, rank))) asked 1
  | refused {token rest rank result asked more checks} : Asks S token (.ok false) asked →
    Search S rest (rank + 1) result more checks →
    Search S (token :: rest) rank result (asked ++ more) (checks + 1)
  | failed {token rest rank fault asked} : Asks S token (.error fault) asked →
    Search S (token :: rest) rank (.error fault) asked 1

namespace Asks

variable {S : Session σ} {token : Nat} {result : Except Fault Bool} {asked : List Query}

theorem ids_sublist (asks : Asks S token result asked) :
    (asked.filterMap Query.id?).Sublist [(token : Int)] := by
  cases asks with
  | outside => exact List.nil_sublist _
  | inside => exact List.Sublist.refl _

theorem masks_eq (asks : Asks S token result asked) : asked.countP Query.isMask = 0 := by
  cases asks with
  | outside => rfl
  | inside => rfl

theorem put (asks : Asks S token result asked) : ∀ query ∈ asked, query.IsPut S := by
  cases asks with
  | outside => exact fun query member => absurd member List.not_mem_nil
  | @inside session _ below answered =>
      intro query member
      rw [List.mem_singleton.1 member]
      exact ⟨Int.natCast_nonneg token, below, session, rfl, congrArg Except.toOption answered⟩

/-- Only a refusal comes without a question. -/
theorem ne_nil (asks : Asks S token result asked) (other : result ≠ .ok false) : asked ≠ [] := by
  cases asks with
  | outside => exact absurd rfl other
  | inside => exact List.cons_ne_nil _ _

/-- The only answer is the one about the token. -/
theorem any_answers (asks : Asks S token result asked) (answer : Option Bool) (candidate : Nat) :
    asked.any (Query.answers answer candidate) =
      (!asked.isEmpty && token = candidate && result.toOption = answer) := by
  cases asks with
  | outside => rfl
  | inside =>
      have same : ((token : Int) = candidate) = (token = candidate) := by
        rw [Int.natCast_inj]
      simp [Query.answers, same]

end Asks

theorem any_answers_of_notMem {queries : List Query} {candidate : Nat}
    (unasked : (candidate : Int) ∉ queries.filterMap Query.id?) (answer : Option Bool) :
    queries.any (Query.answers answer candidate) = false := by
  rw [List.any_eq_false]
  intro query member answered
  cases query with
  | mask => cases answered
  | token id size given =>
      simp only [Query.answers, Bool.and_eq_true, decide_eq_true_eq] at answered
      exact unasked (List.mem_filterMap.2 ⟨_, member, congrArg some answered.1⟩)

/-- Candidates that are not asked about do not count. -/
theorem rankOf_append {candidates : List Nat} {asked : List Query}
    (unasked : ∀ candidate ∈ candidates, (candidate : Int) ∉ asked.filterMap Query.id?)
    (more : List Query) (answer : Option Bool) :
    rankOf candidates (asked ++ more) answer = rankOf candidates more answer := by
  unfold rankOf
  induction candidates with
  | nil => rfl
  | cons candidate rest ih =>
      obtain ⟨first, others⟩ := List.forall_mem_cons.1 unasked
      rw [List.findIdx?_cons, List.findIdx?_cons, ih others, List.any_append,
        any_answers_of_notMem first, Bool.false_or]

namespace Search

variable {S : Session σ} {candidates : List Nat} {rank checks : Nat}
  {result : Except Fault (Option (Nat × Nat))} {asked : List Query}

/-- Candidates are asked about in turn, each of them once at most. -/
theorem ids_sublist (search : Search S candidates rank result asked checks) :
    (asked.filterMap Query.id?).Sublist (candidates.map fun token : Nat => (token : Int)) := by
  induction search with
  | ended => exact List.Sublist.refl _
  | allowed asks => exact asks.ids_sublist.trans (by simp)
  | refused asks _ ih =>
      rw [List.filterMap_append]
      exact asks.ids_sublist.append ih
  | failed asks => exact asks.ids_sublist.trans (by simp)

theorem masks_eq (search : Search S candidates rank result asked checks) :
    asked.countP Query.isMask = 0 := by
  induction search with
  | ended => rfl
  | allowed asks => exact asks.masks_eq
  | refused asks _ ih => rw [List.countP_append, asks.masks_eq, ih]
  | failed asks => exact asks.masks_eq

theorem put (search : Search S candidates rank result asked checks) :
    ∀ query ∈ asked, query.IsPut S := by
  induction search with
  | ended => exact fun query member => absurd member List.not_mem_nil
  | allowed asks => exact asks.put
  | refused asks _ ih =>
      intro query member
      rcases List.mem_append.1 member with first | later
      · exact asks.put query first
      · exact ih query later
  | failed asks => exact asks.put

/-- A refused candidate does not count, and neither do the others before they are asked about. -/
theorem rankOf_refused {token : Nat} {rest : List Nat} {more : List Query}
    (distinct : (token :: rest).Nodup) (asks : Asks S token (.ok false) asked)
    (goesOn : Search S rest (rank + 1) result more checks) (answer : Option Bool)
    (other : answer ≠ some false) :
    rankOf (token :: rest) (asked ++ more) answer = (rankOf rest more answer).map (· + 1) := by
  obtain ⟨fresh, _⟩ := List.nodup_cons.1 distinct
  have unaskedLater : (token : Int) ∉ more.filterMap Query.id? := by
    intro member
    obtain ⟨later, among, same⟩ := List.mem_map.1 (goesOn.ids_sublist.subset member)
    exact fresh (Int.natCast_inj.1 same ▸ among)
  have unaskedEarlier : ∀ candidate ∈ rest, (candidate : Int) ∉ asked.filterMap Query.id? := by
    intro candidate among member
    have same := List.mem_singleton.1 (asks.ids_sublist.subset member)
    exact fresh (Int.natCast_inj.1 same ▸ among)
  have refused : asked.any (Query.answers answer token) = false := by
    rw [asks.any_answers]
    simp [Except.toOption, Ne.symm other]
  have rests := rankOf_append unaskedEarlier more answer
  unfold rankOf at rests ⊢
  rw [List.findIdx?_cons, List.any_append, refused, any_answers_of_notMem unaskedLater, rests]
  rfl

/-- What comes of a search is what the answers say: the first candidate that is allowed, the first
about which there is no answer, or nothing after all of them. -/
def Settles (candidates : List Nat) (rank : Nat) (asked : List Query) (checks : Nat) :
    Except Fault (Option (Nat × Nat)) → Prop
  | .ok none => rankOf candidates asked (some true) = none ∧
      rankOf candidates asked none = none ∧ checks = candidates.length
  | .ok (some placed) => ∃ place, placed.2 = rank + place ∧
      rankOf candidates asked (some true) = some place ∧ rankOf candidates asked none = none ∧
      checks = place + 1
  | .error _ => ∃ place, rankOf candidates asked (some true) = none ∧
      rankOf candidates asked none = some place ∧ checks = place + 1

theorem Settles.later {token : Nat} {rest : List Nat} {more : List Query}
    (distinct : (token :: rest).Nodup) (asks : Asks S token (.ok false) asked)
    (goesOn : Search S rest (rank + 1) result more checks)
    (settles : Settles rest (rank + 1) more checks result) :
    Settles (token :: rest) rank (asked ++ more) (checks + 1) result := by
  have allowed := rankOf_refused distinct asks goesOn (some true) (by simp)
  have failed := rankOf_refused distinct asks goesOn none (by simp)
  cases result with
  | error fault =>
      obtain ⟨place, none_allowed, failsAt, checks_eq⟩ := settles
      exact ⟨place + 1, by rw [allowed, none_allowed]; rfl, by rw [failed, failsAt]; rfl,
        congrArg (· + 1) checks_eq⟩
  | ok found =>
      cases found with
      | none =>
          obtain ⟨none_allowed, none_failed, checks_eq⟩ := settles
          exact ⟨by rw [allowed, none_allowed]; rfl, by rw [failed, none_failed]; rfl,
            congrArg (· + 1) checks_eq⟩
      | some placed =>
          obtain ⟨place, rank_eq, allowedAt, none_failed, checks_eq⟩ := settles
          exact ⟨place + 1, by omega, by rw [allowed, allowedAt]; rfl,
            by rw [failed, none_failed]; rfl, congrArg (· + 1) checks_eq⟩

theorem rankOf_asked {token : Nat} {rest : List Nat} {answered : Except Fault Bool}
    (asks : Asks S token answered asked) {answer : Option Bool} (askedAtAll : asked ≠ [])
    (same : answered.toOption = answer) : rankOf (token :: rest) asked answer = some 0 := by
  have found : asked.any (Query.answers answer token) = true := by
    rw [asks.any_answers]
    simp [askedAtAll, same]
  unfold rankOf
  rw [List.findIdx?_cons, found]
  rfl

theorem rankOf_not_asked {token : Nat} {rest : List Nat} {answered : Except Fault Bool}
    (asks : Asks S token answered asked) {answer : Option Bool}
    (other : answered.toOption ≠ answer) : rankOf (token :: rest) asked answer = none := by
  unfold rankOf
  rw [List.findIdx?_eq_none_iff]
  intro candidate member
  rw [asks.any_answers]
  simp [other]

/-- Whatever a session answers, a search comes to what the answers say. -/
theorem settles (distinct : candidates.Nodup)
    (search : Search S candidates rank result asked checks) :
    Settles candidates rank asked checks result := by
  induction search with
  | ended => exact ⟨rfl, rfl, rfl⟩
  | allowed asks =>
      have askedAtAll : _ ≠ [] := asks.ne_nil (by simp)
      exact ⟨0, rfl, rankOf_asked asks askedAtAll rfl, rankOf_not_asked asks nofun, rfl⟩
  | refused asks goesOn ih =>
      exact (ih (List.nodup_cons.1 distinct).2).later distinct asks goesOn
  | failed asks =>
      have askedAtAll : _ ≠ [] := asks.ne_nil (by simp)
      exact ⟨0, rankOf_not_asked asks nofun, rankOf_asked asks askedAtAll rfl, rfl⟩

end Search

/-- The record of a search and of so many full masks after it. -/
def searchEntry (width : Nat) (candidates : List Nat) (asked : List Query) (masks : Nat) : Entry :=
  ⟨width, candidates, asked ++ List.replicate masks .mask⟩

section

variable {S : Session σ} {candidates : List Nat} {depth width checks masks : Nat}
  {result : Except Fault (Option (Nat × Nat))} {asked : List Query}

theorem rankOf_searchEntry (answer : Option Bool) :
    rankOf candidates (searchEntry width candidates asked masks).queries answer =
      rankOf candidates asked answer := by
  have unanswered (candidate : Nat) :
      (List.replicate masks Query.mask).any (Query.answers answer candidate) = false := by
    rw [List.any_eq_false]
    intro query member
    rw [List.eq_of_mem_replicate member]
    exact Bool.false_ne_true
  unfold rankOf searchEntry
  simp only [List.any_append, unanswered, Bool.or_false]

/-- A search asks soundly if the full mask follows exactly where it finds nothing. -/
theorem isSound_searchEntry (length_eq : candidates.length = min depth width)
    (distinct : candidates.Nodup) (search : Search S candidates 0 result asked checks)
    (masks_eq : masks = if (searchEntry width candidates asked masks).isMiss then 1 else 0) :
    (searchEntry width candidates asked masks).IsSound S depth := by
  have onlyTokens : (List.replicate masks Query.mask).filterMap Query.id? = [] := by
    simp [Query.id?]
  have ids_eq : (searchEntry width candidates asked masks).ids = asked.filterMap Query.id? := by
    rw [Entry.ids, searchEntry, List.filterMap_append, onlyTokens, List.append_nil]
  have counted : (searchEntry width candidates asked masks).masks = masks := by
    have all : (List.replicate masks Query.mask).countP Query.isMask = masks := by
      simp [List.countP_replicate, Query.isMask]
    rw [Entry.masks, searchEntry, List.countP_append, search.masks_eq, all, Nat.zero_add]
  have sublist := search.ids_sublist
  refine ⟨length_eq, ?few, ?once, ?put, counted.trans masks_eq⟩
  case few =>
    have few := sublist.length_le
    rw [List.length_map, length_eq] at few
    exact ids_eq ▸ few
  case once =>
    have once : (candidates.map fun token : Nat => (token : Int)).Nodup :=
      List.Pairwise.map _ (fun _ _ other same => other (Int.natCast_inj.1 same)) distinct
    exact ids_eq ▸ once.sublist sublist
  case put =>
    intro query member
    rcases List.mem_append.1 member with asks | masked
    · exact search.put query asks
    · rw [List.eq_of_mem_replicate masked]
      exact trivial

end

/-! ## Ledgers -/

/-- Asked about a token that it has, the session always gives an answer. -/
def Session.AnswersTokens (S : Session σ) : Prop :=
  ∀ token session, 0 ≤ token → token < S.vocabSize session →
    (S.isAllowed token session).result.isOk = true

/-- An entry is left unanswered only by a session that fails. -/
theorem Entry.IsSound.isUnanswered_eq_false {S : Session σ} {depth : Nat} {entry : Entry}
    (sound : entry.IsSound S depth) (answersTokens : S.AnswersTokens) :
    entry.isUnanswered = false := by
  have answered : ∀ query ∈ entry.queries, ∀ candidate, query.answers none candidate = false := by
    intro query member candidate
    have put := sound.put query member
    cases query with
    | mask => rfl
    | token id size answer =>
        obtain ⟨nonneg, below, session, rfl, same⟩ := put
        obtain ⟨allowed, known⟩ := exists_of_isOk (answersTokens id session nonneg below)
        rw [known] at same
        cases same
        simp [Query.answers, Except.toOption]
  have nowhere : entry.faultRank? = none := by
    unfold Entry.faultRank? rankOf
    rw [List.findIdx?_eq_none_iff]
    intro candidate _
    rw [List.any_eq_false]
    intro query member
    rw [answered query member candidate]
    exact Bool.false_ne_true
  rw [Entry.isUnanswered, nowhere]
  exact Bool.and_false _

namespace Statistics

/-- The statistics are what one counts in a ledger. -/
structure Accounts (statistics : Statistics) (ledger : List Entry) : Prop where
  steps_eq : statistics.steps = ledger.length
  hits_eq : statistics.hits = ledger.countP Entry.isHit
  misses_eq : statistics.misses = ledger.countP Entry.isMiss
  candidateChecks_eq : statistics.candidateChecks = (ledger.map Entry.checks).sum
  fullMasks_eq : statistics.fullMasks = (ledger.map Entry.masks).sum

variable {statistics : Statistics} {ledger : List Entry}

theorem accounts_nil : ({} : Statistics).Accounts [] :=
  ⟨rfl, rfl, rfl, rfl, rfl⟩

/-- A further entry is counted once. -/
theorem Accounts.count (accounts : statistics.Accounts ledger) (entry : Entry) :
    (entry.count statistics).Accounts (ledger ++ [entry]) where
  steps_eq := by simp [Entry.count, accounts.steps_eq]
  hits_eq := by simp [Entry.count, accounts.hits_eq, List.countP_singleton]
  misses_eq := by simp [Entry.count, accounts.misses_eq, List.countP_singleton]
  candidateChecks_eq := by simp [Entry.count, accounts.candidateChecks_eq]
  fullMasks_eq := by simp [Entry.count, accounts.fullMasks_eq]

theorem Accounts.foldl (accounts : statistics.Accounts ledger) (entries : List Entry) :
    (entries.foldl Entry.count statistics).Accounts (ledger ++ entries) := by
  induction entries generalizing statistics ledger with
  | nil =>
      rw [List.append_nil]
      exact accounts
  | cons entry rest ih =>
      have counted := ih (accounts.count entry)
      rw [List.append_assoc] at counted
      exact counted

/-- Each step is a hit or a miss, or comes to nothing because the session fails. -/
theorem Accounts.steps_eq_sum (accounts : statistics.Accounts ledger) :
    statistics.steps =
      statistics.hits + statistics.misses + ledger.countP Entry.isUnanswered := by
  rw [accounts.steps_eq, accounts.hits_eq, accounts.misses_eq]
  clear accounts
  induction ledger with
  | nil => rfl
  | cons entry rest ih =>
      rw [List.length_cons, List.countP_cons, List.countP_cons, List.countP_cons, ih]
      cases hit : entry.isHit
      · cases missed : entry.faultRank?.isSome
        · simp [Entry.isMiss, Entry.isUnanswered, hit, missed]
          omega
        · simp [Entry.isMiss, Entry.isUnanswered, hit, missed]
          omega
      · simp [Entry.isMiss, Entry.isUnanswered, hit]
        omega

theorem Accounts.steps_eq_hits_add_misses {S : Session σ} {depth : Nat}
    (accounts : statistics.Accounts ledger) (sound : ∀ entry ∈ ledger, entry.IsSound S depth)
    (answersTokens : S.AnswersTokens) :
    statistics.steps = statistics.hits + statistics.misses := by
  have none_unanswered : ledger.countP Entry.isUnanswered = 0 := by
    rw [List.countP_eq_zero]
    intro entry member
    rw [(sound entry member).isUnanswered_eq_false answersTokens]
    exact Bool.false_ne_true
  rw [accounts.steps_eq_sum, none_unanswered, Nat.add_zero]

theorem Accounts.fullMasks_eq_misses {S : Session σ} {depth : Nat}
    (accounts : statistics.Accounts ledger) (sound : ∀ entry ∈ ledger, entry.IsSound S depth) :
    statistics.fullMasks = statistics.misses := by
  rw [accounts.fullMasks_eq, accounts.misses_eq]
  clear accounts
  induction ledger with
  | nil => rfl
  | cons entry rest ih =>
      obtain ⟨first, others⟩ := List.forall_mem_cons.1 sound
      rw [List.map_cons, List.sum_cons, List.countP_cons, ih others, first.masks_eq, Nat.add_comm]

/-- The full masks that are counted are those in the record. -/
theorem Accounts.fullMasks_eq_countP (accounts : statistics.Accounts ledger) :
    statistics.fullMasks = (ledger.flatMap Entry.queries).countP Query.isMask := by
  rw [accounts.fullMasks_eq, List.countP_flatMap]
  rfl

end Statistics

end ConstrainedDecoding
