import ConstrainedDecoding.Proofs.Outcome
import ConstrainedDecoding.Session.Basic

/-!
# Sessions that follow automata

What an engine makes of grammars is opaque to this library, but the answers it gives are those of
automata over token ids: a grammar text is turned down or starts an automaton, every token leads to
another state, and a state says which tokens may come next and whether the parse may end there.
`Session.Answers` says that a session answers as automata do, `Session.Follows` that it starts again
as they do, and `Backend.Opens` that a backend makes such sessions. Nothing is said about what a
session looks like inside: `stands session first state` is any relation between a session, the text
of the grammar that it was made for, and the state it is at.
-/

namespace ConstrainedDecoding

/-- Automata over token ids, one for each grammar text that is not turned down. -/
structure TokenAutomata (δ : Type) where
  /-- The number of tokens. -/
  size : Int
  /-- The state in which the parse of a grammar text starts, or how the text is turned down. -/
  start : (text : String) → Except Fault δ
  allows : δ → (token : Int) → Bool
  /-- The state after a token, be it allowed or not. -/
  next : δ → (token : Int) → δ
  accepts : δ → Bool

namespace TokenAutomata

variable {δ : Type} (A : TokenAutomata δ)

/-- The state after several tokens. -/
def after (state : δ) (tokens : List Int) : δ :=
  tokens.foldl A.next state

/-- For each token whether it may come next. -/
def maskAt (state : δ) : List Bool :=
  (List.range A.size.toNat).map fun token : Nat => A.allows state token

/-- Whether a token is in the vocabulary and may come next. -/
def permits (state : δ) (token : Int) : Bool :=
  0 ≤ token && token < A.size && A.allows state token

/-- Tokens that lead from one state to another, each of them permitted where it is taken. -/
inductive Path : δ → List Int → δ → Prop
  | nil (state : δ) : Path state [] state
  | snoc {origin state : δ} {tokens : List Int} {token : Int} :
    Path origin tokens state → A.permits state token = true →
    Path origin (tokens ++ [token]) (A.next state token)

variable {A}

/-- The full mask agrees with what is asked of single tokens. -/
theorem length_maskAt (state : δ) : (A.maskAt state).length = A.size.toNat := by
  rw [maskAt, List.length_map, List.length_range]

theorem getElem?_maskAt_of_lt (state : δ) {token : Nat} (inside : token < A.size) :
    (A.maskAt state)[token]? = some (A.allows state token) := by
  have below : token < A.size.toNat := by omega
  rw [maskAt, List.getElem?_map, List.getElem?_range below]
  rfl

theorem getElem?_maskAt (state : δ) (token : Nat) :
    ((A.maskAt state)[token]?).getD false = A.permits state token := by
  unfold maskAt permits
  by_cases inside : token < A.size.toNat
  · have below : (token : Int) < A.size := by omega
    simp [inside, below]
  · have beyond : ¬ (token : Int) < A.size := by omega
    simp [inside, beyond]

end TokenAutomata

/-! ## Sessions and backends -/

section

variable {σ δ : Type}

/-- A session answers as automata do. Answers about single tokens are only asked for inside the
vocabulary. -/
structure Session.Answers (S : Session σ) (A : TokenAutomata δ)
    (stands : σ → (first : String) → δ → Prop) : Prop where
  vocabSize {session first state} : stands session first state → S.vocabSize session = A.size
  isAllowed {session first state} {token : Int} : stands session first state →
    0 ≤ token → token < A.size →
    (S.isAllowed token).Gives session (.ok (A.allows state token)) (stands · first state)
  mask {session first state} : stands session first state →
    S.mask.Gives session (.ok (A.maskAt state)) (stands · first state)
  advance {session first state} (token : Int) : stands session first state →
    (S.advance token).Gives session (.ok ()) (stands · first (A.next state token))
  isComplete {session first state} : stands session first state →
    S.isComplete.Gives session (.ok (A.accepts state)) (stands · first state)

/-- A session can be set back to the start of any automaton. It is left open at which state a text
that is turned down leaves it. -/
structure Session.Follows (S : Session σ) (A : TokenAutomata δ)
    (stands : σ → (first : String) → δ → Prop) : Prop extends S.Answers A stands where
  /-- The empty text stands for the first grammar. -/
  reset_ok {session first state text origin} : stands session first state →
    A.start (if text = "" then first else text) = .ok origin →
    (S.reset text).Gives session (.ok ()) (stands · first origin)
  reset_error {session first state text fault} : stands session first state →
    A.start (if text = "" then first else text) = .error fault →
    (S.reset text).Gives session (.error fault) fun left => ∃ other, stands left first other

/-- For the text of a tokenizer record, a backend makes a session at the start of each grammar that
is not turned down, and none for the others. -/
structure Backend.Opens (B : Backend σ) (A : TokenAutomata δ)
    (stands : σ → (first : String) → δ → Prop) (tokenizer : String) : Prop where
  init_ok {text origin} : A.start text = .ok origin →
    ∃ session, (B.init text tokenizer ()).result = .ok session ∧ stands session text origin
  init_error {text fault} : A.start text = .error fault →
    ∃ refusal, (B.init text tokenizer ()).result = .error refusal

theorem Backend.Opens.stands_of_init {B : Backend σ} {A : TokenAutomata δ}
    {stands : σ → (first : String) → δ → Prop} {tokenizer text : String} {session : σ}
    (opens : B.Opens A stands tokenizer)
    (made : (B.init text tokenizer ()).result = .ok session) :
    ∃ origin, A.start text = .ok origin ∧ stands session text origin := by
  cases started : A.start text with
  | ok origin =>
      obtain ⟨other, madeOther, standsOther⟩ := opens.init_ok started
      cases made.symm.trans madeOther
      exact ⟨origin, rfl, standsOther⟩
  | error fault =>
      obtain ⟨refusal, refused⟩ := opens.init_error started
      cases made.symm.trans refused

end

end ConstrainedDecoding
