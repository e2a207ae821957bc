import ConstrainedDecoding.Proofs.CandidateSearch
import ConstrainedDecoding.Proofs.GrammarConformity
import ConstrainedDecoding.Proofs.ProcessorStates

/-!
# Statistics and the record of a session

A processor counts its work while it does it, and a recorded session writes down what it is asked.
`Processor.audit` keeps the ledger of a run: one entry for each score vector that is taken on, with
what the session is asked meanwhile. After any operations the statistics are what one counts in the
ledger, and the ledger has the whole record (`Processor.accounts_of_performAll`).
-/

namespace ConstrainedDecoding

variable {σ τ α β : Type}

/-! ## What a processor over a recorded session is at -/

namespace Matcher

open ConstrainedDecoding.Action

variable {S : Session σ}

/-- The record of the session, if there is one. -/
def record? (matcher : Matcher (Recorded σ)) : Option (List Query) :=
  matcher.map fun live => live.session.queries

/-- What is seen of a live matcher: the record of its session. -/
def liveRecord (live : LiveMatcher (Recorded σ)) : List Query :=
  live.session.queries

theorem keeps_whenLive {action : Action (LiveMatcher (Recorded σ)) α}
    (keeps : action.Keeps liveRecord) : (whenLive action).Keeps record? := by
  intro matcher
  cases matcher with
  | none => rfl
  | some live => exact congrArg some (keeps live)

theorem keeps_onSession (action : Action σ α) :
    (onSession (Recorded.noting action fun _ _ => [])).Keeps liveRecord :=
  fun live => Recorded.keeps_noting_nil action live.session

theorem keeps_advance (token : Int) : (advance S.recorded token).Keeps record? :=
  keeps_whenLive (keeps_onSession _)

theorem keeps_isComplete : (isComplete S.recorded).Keeps record? :=
  keeps_whenLive (keeps_onSession _)

theorem keeps_handOver [Stack] (grammar : Grammar) :
    (ofExcept grammar.render >>= fun text => onSession (S.recorded.reset text)).Keeps liveRecord :=
  (keeps_ofExcept _).bind fun _ => keeps_onSession _

theorem keeps_restartCurrent [Stack] : (restartCurrent S.recorded).Keeps liveRecord := by
  refine keeps_get fun live => ?_
  cases live.replacement with
  | none => exact keeps_onSession _
  | some grammar => exact keeps_handOver grammar

theorem keeps_turnDown [Stack] (fault : Fault) : (turnDown S.recorded fault).Keeps liveRecord := by
  unfold turnDown
  by_cases rejects : fault.kind.isRejection = true
  · rw [if_pos rejects]
    exact keeps_restartCurrent.bind fun _ => keeps_fail _
  · rw [if_neg rejects]
    exact keeps_fail fault

theorem keeps_switchTo [Stack] (grammar : Grammar) (replacement : Option Grammar) :
    (switchTo S.recorded grammar replacement).Keeps liveRecord :=
  ((keeps_handOver grammar).recover keeps_turnDown).bind fun _ => keeps_modify fun _ => rfl

/-- Going back to a grammar asks nothing, be it accepted or turned down. -/
theorem keeps_reset [Stack] (target : Option ResetTarget) :
    (reset S.recorded target).Keeps record? := by
  refine keeps_whenLive (keeps_get fun live => ?_)
  cases target with
  | none =>
      dsimp only
      cases live.replacement with
      | none => exact keeps_onSession _
      | some _ => exact keeps_switchTo live.first none
  | some target => exact keeps_switchTo _ _

end Matcher

namespace Processor

open ConstrainedDecoding.Action

variable {S : Session σ} {settings : Settings} {statistics : Statistics}
  {queries : List Query} {processor : Processor (Recorded σ)}

/-- The processor has a session with such a record, and such settings and statistics. -/
structure Standing (settings : Settings) (statistics : Statistics) (queries : List Query)
    (processor : Processor (Recorded σ)) : Prop where
  record_eq : processor.matcher.record? = some queries
  settings_eq : processor.settings = settings
  statistics_eq : processor.statistics = statistics

/-- What comes after an action starts at the very state that it leaves. -/
theorem Gives.thenFrom {first : Action τ α} {next : α → Action τ β} {state : τ} {value : α}
    {result : Except Fault β} {between post : τ → Prop}
    (starts : first.Gives state (.ok value) between)
    (goesOn : (next value).Gives (first state).state result post) :
    (first >>= next).Gives state result post := by
  have pinned : first.Gives state (.ok value) (· = (first state).state) :=
    ⟨starts.result_eq, rfl⟩
  exact pinned.step goesOn

namespace Standing

theorem counted (change : Statistics → Statistics)
    (standing : Standing settings statistics queries processor) :
    Standing settings (change statistics) queries
      { processor with statistics := change processor.statistics } :=
  ⟨standing.record_eq, standing.settings_eq, congrArg change standing.statistics_eq⟩

/-- What is done with the matcher shows in the record and nowhere else. -/
theorem gives_onMatcher {action : Action (Matcher (Recorded σ)) α} {result : Except Fault α}
    {asked : List Query}
    (gives : action.Gives processor.matcher result (Matcher.record? · = some (queries ++ asked)))
    (standing : Standing settings statistics queries processor) :
    (onMatcher action).Gives processor result
      (Standing settings statistics (queries ++ asked)) := by
  apply (Gives.onPart gives).mono
  rintro _ ⟨matcher, record_eq, rfl⟩
  exact ⟨record_eq, standing.settings_eq, standing.statistics_eq⟩

/-- What is done with the session shows in its record. -/
theorem gives_noting (action : Action σ α) (note : σ → Except Fault α → List Query)
    (live : LiveMatcher (Recorded σ)) :
    (Matcher.onSession (Recorded.noting action note)).Gives live
      (action live.session.session).result fun left =>
        left.session.queries = live.session.queries ++
          note live.session.session (action live.session.session).result :=
  ⟨rfl, rfl⟩

theorem gives_whenLive {action : Action (LiveMatcher (Recorded σ)) α} {result : Except Fault α}
    {live : LiveMatcher (Recorded σ)} {asked : List Query}
    (gives : action.Gives live result fun left =>
      left.session.queries = live.session.queries ++ asked) :
    (Matcher.whenLive action).Gives (some live) result
      (Matcher.record? · = some (live.session.queries ++ asked)) := by
  apply (Matcher.gives_whenLive gives).mono
  rintro _ ⟨left, rfl, record_eq⟩
  exact congrArg some record_eq

theorem gives_isAllowed (token : Nat)
    (standing : Standing settings statistics queries processor) :
    ∃ result asked, Asks S token result asked ∧
      (onMatcher (Matcher.isAllowed S.recorded token)).Gives processor result
        (Standing settings statistics (queries ++ asked)) := by
  obtain ⟨live, matcher_eq, rfl⟩ := Option.map_eq_some_iff.1 standing.record_eq
  by_cases outside : (token : Int) < 0 ∨ S.recorded.vocabSize live.session ≤ token
  · refine ⟨.ok false, [], .outside, standing.gives_onMatcher ?_⟩
    rw [matcher_eq]
    refine gives_whenLive (Gives.of_get ?_)
    rw [if_pos outside]
    exact (gives_pure false live).of_eq (List.append_nil _).symm
  · have below : (token : Int) < S.vocabSize live.session.session := by
      have inside : ¬ S.vocabSize live.session.session ≤ token := fun above => outside (.inr above)
      omega
    refine ⟨_, _, .inside below rfl,
      standing.gives_onMatcher ?_⟩
    rw [matcher_eq]
    refine gives_whenLive (Gives.of_get ?_)
    rw [if_neg outside]
    exact gives_noting _ _ live

theorem gives_mask (standing : Standing settings statistics queries processor) :
    ∃ result, (onMatcher (Matcher.mask S.recorded)).Gives processor result
      (Standing settings statistics (queries ++ [.mask])) := by
  obtain ⟨live, matcher_eq, rfl⟩ := Option.map_eq_some_iff.1 standing.record_eq
  refine ⟨(S.mask live.session.session).result, standing.gives_onMatcher ?_⟩
  rw [matcher_eq]
  exact gives_whenLive (gives_noting _ _ live)

/-- Candidates are put to the session until it does not refuse one. -/
theorem gives_firstAllowed (candidates : List Nat) (rank : Nat)
    (standing : Standing settings statistics queries processor) :
    ∃ result asked checks, Search S candidates rank result asked checks ∧
      (firstAllowed S.recorded candidates rank).Gives processor result
        (Standing settings
          { statistics with candidateChecks := statistics.candidateChecks + checks }
          (queries ++ asked)) := by
  induction candidates generalizing rank statistics queries processor with
  | nil =>
      refine ⟨.ok none, [], 0, .ended, (gives_pure none processor).of_eq ?_⟩
      rw [List.append_nil]
      exact standing
  | cons token rest ih =>
      have counted := standing.counted fun statistics =>
        { statistics with candidateChecks := statistics.candidateChecks + 1 }
      have counts := gives_modify (fun processor : Processor (Recorded σ) =>
        { processor with statistics := { processor.statistics with
          candidateChecks := processor.statistics.candidateChecks + 1 } }) processor
      obtain ⟨result, asked, asks, answers⟩ := counted.gives_isAllowed (S := S) token
      have askedAt := answers.post_state
      cases result with
      | error fault => exact ⟨.error fault, asked, 1, .failed asks, counts.step answers.bind_error⟩
      | ok allowed =>
          cases allowed with
          | true =>
              refine ⟨_, asked, 1, .allowed asks, counts.step (answers.bind ?_)⟩
              exact fun left leftAt => (gives_pure _ left).of_eq leftAt
          | false =>
              obtain ⟨result, more, checks, goesOn, gives⟩ := ih (rank + 1) askedAt
              refine ⟨result, asked ++ more, checks + 1, .refused asks goesOn,
                counts.step (Gives.thenFrom answers ?_)⟩
              have added : statistics.candidateChecks + 1 + checks =
                  statistics.candidateChecks + (checks + 1) := by omega
              rw [← List.append_assoc, ← added]
              exact gives

end Standing

/-! ## Masking -/

variable {w : Width} {scores : Tensor (Binary w)}

/-- How many scores there are, and which ids are ranked first. -/
def ranking (depth : Nat) (scores : Tensor (Binary w)) : Nat × List Nat :=
  (scores.elements.length, topRanked scores.elements depth)

/-- Whether scores of such a shape are one vector, as it is or as a batch of one. -/
def isSingle : (shape : List Nat) → Bool
  | [_] | [1, _] => true
  | _ => false

theorem isSingle_iff {shape : List Nat} :
    isSingle shape = true ↔ (∃ length, shape = [length]) ∨ ∃ length, shape = [1, length] := by
  unfold isSingle
  split
  · simp
  · simp
  · rename_i noVector noRow
    simp only [Bool.false_eq_true, false_iff, not_or, not_exists]
    exact ⟨noVector, noRow⟩

/-- What a generation loop passes as a batch of one, or as a vector, is masked as a vector of the
same scores. -/
theorem exists_row_of_single {α : Type} [Score α] {ids : PromptIds} {scores : Tensor α}
    (checked : ids.check = .ok ()) (single : isSingle scores.shape = true) :
    ∃ row : Tensor α, row.dimensions = 1 ∧ row.elements = scores.elements ∧
      ∀ {processor : Processor σ} {result : Except Fault (Masked α)} {post : Processor σ → Prop},
        (process S row).Gives processor result post →
          ∃ result, (call S ids scores).Gives processor result post := by
  have checks (processor : Processor σ) := gives_ofExcept_of_eq checked processor
  unfold call
  split
  case h_1 length shape_eq =>
    refine ⟨scores.unwrap [length] shape_eq, rfl, rfl, fun {processor result post} gives => ?_⟩
    cases result with
    | error fault => exact ⟨.error fault, (checks processor).step gives.bind_error⟩
    | ok masked =>
        refine ⟨.ok ⟨masked.result.wrap, masked.input.wrap, false⟩,
          (checks processor).step (gives.bind ?_)⟩
        exact fun left leftAt => (gives_pure _ left).of_eq leftAt
  case h_2 batch length other shape_eq =>
    rcases isSingle_iff.1 single with ⟨_, vector⟩ | ⟨_, row⟩
    · cases shape_eq.symm.trans vector
    · cases shape_eq.symm.trans row
      exact absurd rfl other
  case h_3 noRow noBatch =>
    rcases isSingle_iff.1 single with ⟨length, vector⟩ | ⟨length, row⟩
    · exact ⟨scores, congrArg List.length vector, rfl,
        fun gives => ⟨_, (checks _).step gives⟩⟩
    · exact absurd row (noRow length)

/-- An action takes on ranked scores: whatever comes of it, it makes an entry for them, which is
what it counts and records. -/
def TakesOn (S : Session σ) (settings : Settings) (statistics : Statistics) (queries : List Query)
    (ranked : Nat × List Nat) (action : Action (Processor (Recorded σ)) α)
    (processor : Processor (Recorded σ)) : Prop :=
  ∃ (result : Except Fault α) (entry : Entry), entry.ranking = ranked ∧
    entry.IsSound S settings.depth ∧ action.Gives processor result
      (Standing settings (entry.count statistics) (queries ++ entry.queries))

namespace Standing

/-- Whatever comes of the scores, forcing a token counts as a hit. -/
theorem exists_gives_hit (scores : Tensor (Binary w)) (token rank : Nat)
    (standing : Standing settings statistics queries processor) :
    ∃ result, (hit scores token rank).Gives processor result
      (Standing settings { statistics with hits := statistics.hits + 1 } queries) := by
  have counted := standing.counted fun statistics => { statistics with hits := statistics.hits + 1 }
  have counts := gives_modify (fun processor : Processor (Recorded σ) =>
    { processor with statistics := { processor.statistics with
      hits := processor.statistics.hits + 1 } }) processor
  exact ⟨_, counts.step ((gives_trace _ _).step ((gives_ofExcept_map _ _ _).of_eq counted))⟩

theorem exists_gives_miss (scores : Tensor (Binary w))
    (standing : Standing settings statistics queries processor) :
    ∃ result, (miss S.recorded scores).Gives processor result
      (Standing settings
        { statistics with
          misses := statistics.misses + 1, fullMasks := statistics.fullMasks + 1 }
        (queries ++ [.mask])) := by
  have counted := standing.counted fun statistics =>
    { statistics with misses := statistics.misses + 1, fullMasks := statistics.fullMasks + 1 }
  have counts := gives_modify (fun processor : Processor (Recorded σ) =>
    { processor with statistics := { processor.statistics with
      misses := processor.statistics.misses + 1
      fullMasks := processor.statistics.fullMasks + 1 } }) processor
  obtain ⟨answer, masks⟩ := counted.gives_mask (S := S)
  have masked := masks.post_state
  cases answer with
  | error fault => exact ⟨.error fault, counts.step ((gives_trace _ _).step masks.bind_error)⟩
  | ok mask =>
      exact ⟨_, counts.step ((gives_trace _ _).step
        (Gives.thenFrom masks ((gives_ofExcept_map _ _ _).of_eq masked)))⟩

/-- A search and what follows it make an entry. -/
theorem takesOn_settle (scores : Tensor (Binary w)) {candidates : List Nat} {width : Nat}
    (length_eq : candidates.length = min settings.depth width) (distinct : candidates.Nodup)
    (standing : Standing settings { statistics with steps := statistics.steps + 1 } queries
      processor) :
    TakesOn S settings statistics queries (width, candidates)
      (firstAllowed S.recorded candidates 0 >>= settle S.recorded scores) processor := by
  obtain ⟨found, asked, checks, search, searches⟩ :=
    standing.gives_firstAllowed (S := S) candidates 0
  have searched := searches.post_state
  have settles := search.settles distinct
  cases found with
  | error fault =>
      obtain ⟨place, none_allowed, failsAt, rfl⟩ := settles
      have rank : (searchEntry width candidates asked 0).rank? = none :=
        (rankOf_searchEntry _).trans none_allowed
      have faultRank : (searchEntry width candidates asked 0).faultRank? = some place :=
        (rankOf_searchEntry _).trans failsAt
      have masks_eq : 0 = if (searchEntry width candidates asked 0).isMiss then 1 else 0 := by
        rw [Entry.isMiss_of_fault rank faultRank, if_neg Bool.false_ne_true]
      have sound := isSound_searchEntry length_eq distinct search masks_eq
      refine ⟨.error fault, searchEntry width candidates asked 0, rfl, sound,
        Gives.bind_error ?_⟩
      rw [Entry.count_of_fault statistics rank faultRank (sound.masks_eq.trans masks_eq.symm),
        searchEntry, List.replicate_zero, List.append_nil]
      exact searches
  | ok found =>
      cases found with
      | some placed =>
          obtain ⟨place, _, allowedAt, _, rfl⟩ := settles
          have rank : (searchEntry width candidates asked 0).rank? = some place :=
            (rankOf_searchEntry _).trans allowedAt
          have masks_eq : 0 = if (searchEntry width candidates asked 0).isMiss then 1 else 0 := by
            rw [Entry.isMiss_of_hit rank, if_neg Bool.false_ne_true]
          have sound := isSound_searchEntry length_eq distinct search masks_eq
          obtain ⟨result, hits⟩ := searched.exists_gives_hit scores placed.1 placed.2
          refine ⟨result, searchEntry width candidates asked 0, rfl, sound,
            Gives.thenFrom searches ?_⟩
          rw [Entry.count_of_hit statistics rank (sound.masks_eq.trans masks_eq.symm),
            searchEntry, List.replicate_zero, List.append_nil]
          exact hits
      | none =>
          obtain ⟨none_allowed, none_failed, rfl⟩ := settles
          have rank : (searchEntry width candidates asked 1).rank? = none :=
            (rankOf_searchEntry _).trans none_allowed
          have faultRank : (searchEntry width candidates asked 1).faultRank? = none :=
            (rankOf_searchEntry _).trans none_failed
          have masks_eq : 1 = if (searchEntry width candidates asked 1).isMiss then 1 else 0 := by
            rw [Entry.isMiss_of_none rank faultRank, if_pos rfl]
          have sound := isSound_searchEntry length_eq distinct search masks_eq
          obtain ⟨result, misses⟩ := searched.exists_gives_miss (S := S) scores
          refine ⟨result, searchEntry width candidates asked 1, rfl, sound,
            Gives.thenFrom searches ?_⟩
          rw [Entry.count_of_miss statistics rank faultRank (sound.masks_eq.trans masks_eq.symm),
            searchEntry, List.replicate_one, ← List.append_assoc]
          exact misses

theorem takesOn_process (vector : scores.dimensions = 1)
    (standing : Standing settings statistics queries processor) :
    TakesOn S settings statistics queries (ranking settings.depth scores)
      (process S.recorded scores) processor := by
  have begun := standing.counted fun statistics => { statistics with steps := statistics.steps + 1 }
  have begins := gives_modify (fun processor : Processor (Recorded σ) =>
    { processor with statistics := { processor.statistics with
      steps := processor.statistics.steps + 1 } }) processor
  obtain ⟨result, entry, ranking_eq, sound, settles⟩ :=
    begun.takesOn_settle (S := S) scores (length_topRanked scores.elements settings.depth)
      (nodup_topRanked scores.elements settings.depth)
  refine ⟨result, entry, ranking_eq, sound, ?_⟩
  unfold process
  rw [if_neg (not_not_intro vector)]
  refine begins.step (Gives.of_get ((gives_trace _ _).step ?_))
  obtain rfl := standing.settings_eq
  exact settles

theorem takesOn_call {ids : PromptIds} (checked : ids.check = .ok ())
    (single : isSingle scores.shape = true)
    (standing : Standing settings statistics queries processor) :
    TakesOn S settings statistics queries (ranking settings.depth scores)
      (call S.recorded ids scores) processor := by
  obtain ⟨row, vector, same, passes⟩ := exists_row_of_single (S := S.recorded) checked single
  obtain ⟨_, entry, ranking_eq, sound, gives⟩ := standing.takesOn_process (S := S) vector
  obtain ⟨result, gives⟩ := passes gives
  rw [ranking, same] at ranking_eq
  exact ⟨result, entry, ranking_eq, sound, gives⟩

end Standing

/-! ## Operations -/

/-- What is seen of a processor but for its history. -/
def seen (processor : Processor (Recorded σ)) : Option (List Query) × Settings × Statistics :=
  (processor.matcher.record?, processor.settings, processor.statistics)

theorem keeps_onMatcher {action : Action (Matcher (Recorded σ)) α}
    (keeps : action.Keeps Matcher.record?) : (onMatcher action).Keeps seen :=
  fun processor => Prod.ext (keeps processor.matcher) rfl

theorem keeps_trace (message : String) :
    (trace message : Action (Processor (Recorded σ)) Unit).Keeps seen :=
  fun processor => congrArg seen (gives_trace message processor).post_state

theorem keeps_onToken (token : Int) : (onToken S.recorded token).Keeps seen := by
  have noted : (modify fun processor : Processor (Recorded σ) =>
      { processor with history := processor.history ++ [token] }).Keeps seen :=
    keeps_modify fun _ => rfl
  refine noted.bind fun _ => ?_
  refine (keeps_onMatcher (Matcher.keeps_advance token)).bind fun _ => ?_
  exact keeps_get fun _ => keeps_trace _

theorem keeps_canStop : (canStop S.recorded).Keeps seen :=
  keeps_onMatcher Matcher.keeps_isComplete

theorem keeps_reset [Stack] : (reset S.recorded).Keeps seen := by
  have cleared : (modify fun processor : Processor (Recorded σ) =>
      { processor with history := [] }).Keeps seen :=
    keeps_modify fun _ => rfl
  exact cleared.bind fun _ => keeps_onMatcher (Matcher.keeps_reset none)

/-- A call that is refused leaves the processor as it is. -/
theorem gives_call_refused {α : Type} [Score α] {ids : PromptIds} {scores : Tensor α}
    (processor : Processor σ)
    (refused : (ids.check.isOk && isSingle scores.shape) = false) :
    ∃ fault, (call S ids scores).Gives processor (.error fault) (· = processor) := by
  cases checked : ids.check with
  | error fault => exact ⟨fault, (gives_ofExcept_of_eq checked processor).bind_error⟩
  | ok passed =>
      have checks := gives_ofExcept_of_eq checked processor
      have several : isSingle scores.shape = false := by
        rw [checked] at refused
        exact refused
      unfold call
      split
      case h_1 length shape_eq =>
        rw [shape_eq] at several
        cases several
      case h_2 batch length other shape_eq =>
        exact ⟨_, checks.step (gives_fail _ processor)⟩
      case h_3 noRow noBatch =>
        have notVector : scores.dimensions ≠ 1 := by
          intro vector
          obtain ⟨length, shape_eq⟩ := List.length_eq_one_iff.1 vector
          rw [shape_eq] at several
          cases several
        exact ⟨_, checks.step (gives_process_notVector notVector)⟩

/-- The scores that an operation takes on; nothing if it is refused or no matter of scores. -/
def ranking? (depth : Nat) : Operation → Option (Nat × List Nat)
  | .process scores => if scores.dimensions = 1 then some (ranking depth scores) else none
  | .call ids scores =>
    if ids.check.isOk && isSingle scores.shape then some (ranking depth scores) else none
  | .onToken _ | .canStop | .reset => none

namespace Standing

theorem of_keeps {action : Action (Processor (Recorded σ)) α} (keeps : action.Keeps seen)
    (standing : Standing settings statistics queries processor) :
    Standing settings statistics queries (action processor).state := by
  have same := keeps processor
  simp only [seen, Prod.mk.injEq] at same
  obtain ⟨record_eq, settings_eq, statistics_eq⟩ := same
  exact ⟨record_eq.trans standing.record_eq, settings_eq.trans standing.settings_eq,
    statistics_eq.trans standing.statistics_eq⟩

/-- An operation that takes on no scores is neither counted nor recorded. -/
theorem perform_of_none [Stack] {operation : Operation}
    (refused : ranking? settings.depth operation = none)
    (standing : Standing settings statistics queries processor) :
    Standing settings statistics queries (perform S.recorded operation processor) := by
  cases operation with
  | process scores =>
      have notVector : scores.dimensions ≠ 1 := by
        intro vector
        rw [ranking?, if_pos vector] at refused
        cases refused
      exact ((gives_process_notVector notVector).of_eq standing).post_state
  | call ids scores =>
      have refusal : (ids.check.isOk && isSingle scores.shape) = false := by
        rw [Bool.eq_false_iff]
        intro passed
        rw [ranking?, if_pos passed] at refused
        cases refused
      obtain ⟨fault, gives⟩ := gives_call_refused (S := S.recorded) processor refusal
      exact (gives.of_eq standing).post_state
  | onToken token => exact standing.of_keeps (keeps_onToken token)
  | canStop => exact standing.of_keeps keeps_canStop
  | reset => exact standing.of_keeps keeps_reset

/-- An operation that takes on scores is counted and recorded as an entry. -/
theorem perform_of_some [Stack] {operation : Operation} {ranked : Nat × List Nat}
    (taken : ranking? settings.depth operation = some ranked)
    (standing : Standing settings statistics queries processor) :
    ∃ entry : Entry, entry.ranking = ranked ∧ entry.IsSound S settings.depth ∧
      Standing settings (entry.count statistics) (queries ++ entry.queries)
        (perform S.recorded operation processor) := by
  cases operation with
  | process scores =>
      simp only [ranking?, Option.ite_none_right_eq_some, Option.some.injEq] at taken
      obtain ⟨vector, rfl⟩ := taken
      obtain ⟨_, entry, ranking_eq, sound, gives⟩ := standing.takesOn_process (S := S) vector
      exact ⟨entry, ranking_eq, sound, gives.post_state⟩
  | call ids scores =>
      simp only [ranking?, Bool.and_eq_true, Option.ite_none_right_eq_some,
        Option.some.injEq] at taken
      obtain ⟨⟨passes, single⟩, rfl⟩ := taken
      obtain ⟨passed, checked⟩ := exists_of_isOk passes
      obtain ⟨_, entry, ranking_eq, sound, gives⟩ :=
        standing.takesOn_call (S := S) checked single
      exact ⟨entry, ranking_eq, sound, gives.post_state⟩
  | onToken token => cases taken
  | canStop => cases taken
  | reset => cases taken

end Standing

/-! ## Runs -/

/-- What the session has been asked. -/
def asked (processor : Processor (Recorded σ)) : List Query :=
  processor.matcher.record?.getD []

/-- The ledger of operations in turn: an entry for each that takes on scores, with what the session
is asked meanwhile. -/
def audit [Stack] (S : Session σ) : List Operation → Processor (Recorded σ) → List Entry
  | [], _ => []
  | operation :: rest, processor =>
    let left := perform S.recorded operation processor
    match ranking? processor.settings.depth operation with
    | some (width, candidates) =>
      ⟨width, candidates, left.asked.drop processor.asked.length⟩ :: audit S rest left
    | none => audit S rest left

/-- A new processor whose session keeps a record from now on. -/
def onRecord (live : LiveMatcher σ) (settings : Settings) : Processor (Recorded σ) :=
  { matcher := some
      { session := ⟨live.session, []⟩, first := live.first, replacement := live.replacement }
    settings }

theorem Standing.asked_eq (standing : Standing settings statistics queries processor) :
    processor.asked = queries := by
  rw [asked, standing.record_eq]
  rfl

/-- What operations in turn do to the statistics and to the record is in their ledger. -/
theorem Standing.performAll [Stack] (operations : List Operation)
    (standing : Standing settings statistics queries processor) :
    Standing settings ((audit S operations processor).foldl Entry.count statistics)
        (queries ++ (audit S operations processor).flatMap Entry.queries)
        (performAll S.recorded operations processor) ∧
      (audit S operations processor).map Entry.ranking =
        operations.filterMap (ranking? settings.depth) ∧
      ∀ entry ∈ audit S operations processor, entry.IsSound S settings.depth := by
  induction operations generalizing statistics queries processor with
  | nil =>
      refine ⟨?_, rfl, fun entry member => absurd member List.not_mem_nil⟩
      rw [audit, List.flatMap_nil, List.append_nil]
      exact standing
  | cons operation rest ih =>
      have depth_eq : ranking? processor.settings.depth operation =
          ranking? settings.depth operation := by rw [standing.settings_eq]
      cases taken : ranking? settings.depth operation with
      | none =>
          have left := standing.perform_of_none (S := S) taken
          have audited : audit S (operation :: rest) processor =
              audit S rest (perform S.recorded operation processor) := by
            rw [audit, depth_eq, taken]
          rw [audited, List.filterMap_cons_none taken]
          exact ih left
      | some ranked =>
          obtain ⟨entry, ranking_eq, sound, left⟩ := standing.perform_of_some (S := S) taken
          have audited : audit S (operation :: rest) processor =
              entry :: audit S rest (perform S.recorded operation processor) := by
            rw [audit, depth_eq, taken]
            dsimp only
            rw [left.asked_eq, standing.asked_eq, List.drop_left, ← ranking_eq]
            rfl
          obtain ⟨stands, rankings, sounds⟩ := ih left
          rw [audited, List.filterMap_cons_some taken, List.map_cons, rankings, ranking_eq,
            List.flatMap_cons, ← List.append_assoc]
          exact ⟨stands, rfl, List.forall_mem_cons.2 ⟨sound, sounds⟩⟩

/-- After any operations on a new processor, the statistics are what one counts in the ledger of the
run: an entry for each score vector that was taken on, in which the session is asked soundly. Each
of them is a hit or a miss, unless the session failed where it was asked about a token. The ledger
has all that the session is asked, and starting again changes no count. -/
theorem accounts_of_performAll [Stack] (S : Session σ) (live : LiveMatcher σ) (settings : Settings)
    (operations : List Operation) :
    let left := performAll S operations { matcher := some live, settings }
    let recorded := performAll S.recorded operations (onRecord live settings)
    let ledger := audit S operations (onRecord live settings)
    recorded.forget = left ∧ recorded.asked = ledger.flatMap Entry.queries ∧
      ledger.map Entry.ranking = operations.filterMap (ranking? settings.depth) ∧
      (∀ entry ∈ ledger, entry.IsSound S settings.depth) ∧
      left.statistics.Accounts ledger ∧
      left.statistics.steps = (operations.filterMap (ranking? settings.depth)).length ∧
      left.statistics.steps = left.statistics.hits + left.statistics.misses +
        ledger.countP Entry.isUnanswered ∧
      (S.AnswersTokens →
        left.statistics.steps = left.statistics.hits + left.statistics.misses) ∧
      left.statistics.misses = left.statistics.fullMasks ∧
      left.statistics.fullMasks = recorded.asked.countP Query.isMask ∧
      (perform S .reset left).statistics = left.statistics := by
  intro left recorded ledger
  have new : Standing settings {} [] (onRecord live settings) := ⟨rfl, rfl, rfl⟩
  have forgotten : recorded.forget = left := forget_performAll operations (onRecord live settings)
  obtain ⟨standing, rankings, sounds⟩ := new.performAll (S := S) operations
  have accounts := Statistics.accounts_nil.foldl ledger
  rw [List.nil_append, ← standing.statistics_eq] at accounts
  have same : recorded.statistics = left.statistics := congrArg Processor.statistics forgotten
  have whole : recorded.asked = ledger.flatMap Entry.queries := standing.asked_eq
  rw [same] at accounts
  refine ⟨forgotten, whole, rankings, sounds, accounts, ?steps, accounts.steps_eq_sum, ?answered,
    ?misses, ?masks, ?reset⟩
  case steps => rw [accounts.steps_eq, ← rankings, List.length_map]
  case answered => exact accounts.steps_eq_hits_add_misses sounds
  case misses => exact (accounts.fullMasks_eq_misses sounds).symm
  case masks => rw [whole, accounts.fullMasks_eq_countP]
  case reset =>
    have refused : ranking? settings.depth .reset = none := rfl
    have restarted := standing.perform_of_none (S := S) refused
    have forgets := forget_perform (S := S) .reset recorded
    rw [forgotten] at forgets
    rw [← forgets, ← same]
    exact restarted.statistics_eq.trans standing.statistics_eq.symm

section

open ConstrainedDecoding.Scripted

/-- A parse at the start of a script that only has one token to offer. -/
def atOnlyOne : LiveMatcher Parse where
  session := { rules := onlyOne, first := "b", rule := ruleFor onlyOne "b", size := 2 }
  first := .regex (.text "b")

/-- A vector, a batch of one after starting again, and a matrix, which is refused. -/
def usedTwice : List Operation :=
  [.process twoScores, .onToken 1, .canStop, .reset,
    .call (.sequence (.list [])) twoScores.wrap, .process twoScores.wrap]

open scoped Scripted.Room in
theorem accounts_of_performAll_onlyOne :
    Parse.operations.AnswersTokens ∧
      let left := performAll Parse.operations usedTwice { matcher := some atOnlyOne }
      left.statistics.steps = 2 ∧ left.statistics.hits + left.statistics.misses = 2 := by
  have answers : Parse.operations.AnswersTokens := fun _ _ _ _ => rfl
  obtain ⟨-, -, -, -, -, steps_eq, -, resolved, -⟩ :=
    accounts_of_performAll Parse.operations atOnlyOne {} usedTwice
  have two : (usedTwice.filterMap (ranking? 5)).length = 2 := rfl
  exact ⟨answers, steps_eq.trans two, (resolved answers).symm.trans (steps_eq.trans two)⟩

/-- A session with two tokens that fails where it is asked about one. -/
def unanswering : Session Unit where
  vocabSize _ := 2
  isAllowed _ := Action.fail (.reported .runtime "no answer")
  mask := return [true, true]
  advance _ := return ()
  isComplete := return false
  reset _ := return ()

/-- The backend that makes such sessions. -/
def unansweringBackend : Backend Unit where
  start := return ()
  init _ _ := return ()

/-- What a matcher over such a session starts from. -/
def atUnanswering : LiveMatcher Unit where
  session := ()
  first := .regex (.text "b")

open scoped Scripted.Room in
/-- A step in which the session fails is neither a hit nor a miss. -/
theorem steps_unanswered :
    (create unanswering unansweringBackend (.regex (.text "b")) twoTokens {} ()).result =
        .ok { matcher := some atUnanswering } ∧
      ([.process twoScores].filterMap (ranking? 5)).length = 1 ∧
      let left := performAll unanswering [.process twoScores] { matcher := some atUnanswering }
      left.statistics = { steps := 1, candidateChecks := 1 } ∧
      left.statistics.steps ≠ left.statistics.hits + left.statistics.misses := by
  have ranked : topRanked twoScores.elements 5 = [0, 1] := by
    rw [topRanked, rankOrder_twoScores]
    rfl
  have vector : twoScores.dimensions = 1 := rfl
  have fails : (process unanswering twoScores).Gives { matcher := some atUnanswering }
      (.error (.reported .runtime "no answer"))
      fun left => left.statistics = { steps := 1, candidateChecks := 1 } := by
    unfold process
    rw [if_neg (not_not_intro vector)]
    refine Gives.step (gives_modify _ _) (Gives.of_get ((gives_trace _ _).step ?_))
    show (firstAllowed unanswering (topRanked twoScores.elements 5) 0 >>= _).Gives _ _ _
    rw [ranked]
    exact ⟨rfl, rfl⟩
  refine ⟨rfl, rfl, ?_⟩
  intro left
  have statistics_eq : left.statistics = { steps := 1, candidateChecks := 1 } := fails.post_state
  rw [statistics_eq]
  decide

end

end Processor

end ConstrainedDecoding
