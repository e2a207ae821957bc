import ConstrainedDecoding.Proofs.EngineAutomata
import ConstrainedDecoding.Proofs.ScriptedAutomata

/-!
# Questions to a session over a token engine

A session over a token engine can be asked for one token or for all of them. However it has come
about, and whatever was asked of it, advanced or reset before, the two ways agree, and both answer
for the grammar in force after the tokens advanced since the last attempt at a reset
(`EngineSession.queries_agree`). One packed mask serves all the parsers that a session goes through;
nothing of what it held before is ever seen. What a backend makes is such a session
(`EngineSession.openedOn_of_created`).
-/

namespace ConstrainedDecoding

open ConstrainedDecoding.Action

namespace EngineSession

variable {τ ρ δ : Type} (E : TokenEngine τ ρ) (tokenizer : τ) (logLevel size : Int)

/-- The session over a new parser for a compiled grammar, if that may be used. -/
def openedOn (grammar : String) : Except Fault (EngineSession τ ρ) := do
  checked E (E.openParser tokenizer grammar logLevel)
  let buffer ← E.allocate size
  return atStart E tokenizer logLevel size buffer grammar

/-- A session that an engine's backend makes has been opened on what its grammar compiles to. -/
theorem openedOn_of_created [Stack] {grammarText tokenizerText : String}
    {session : EngineSession τ ρ}
    (made : created E logLevel grammarText tokenizerText = .ok session) :
    ∃ tokenizer size grammar, E.Loads tokenizer size ∧ compiledText E grammarText = .ok grammar ∧
      openedOn E tokenizer logLevel size grammar = .ok session := by
  obtain ⟨⟨tokenizer, size⟩, loads, made⟩ := bind_eq_ok.1 made
  obtain ⟨grammar, usable_text, made⟩ := bind_eq_ok.1 made
  obtain ⟨compiled, known, sound⟩ := bind_eq_ok.1 usable_text
  obtain ⟨_, sound, same⟩ := bind_eq_ok.1 sound
  cases same
  refine ⟨tokenizer, size, grammar, loads_of_loaded loads, known, ?_⟩
  rw [openedOn, sound, ok_bind]
  exact made

/-- The compiled grammar that is in force for a session opened on `first`, after a text was the last
one that a reset accepted or after none was. -/
inductive InForce [Stack] (first : String) : (accepted : Option String) → (grammar : String) → Prop
  | first : InForce first none first
  | accepted {text grammar : String} : usable E tokenizer logLevel text = .ok grammar →
      InForce first (some text) grammar

/-- The sessions that operations lead to from a new one. `accepted` is the text of the last reset
that went well, unless the session is on its first grammar, and `tokens` are those advanced since
the last attempt at a reset. Attempts may fail if the grammar is turned down. -/
inductive Run [Stack] (made : EngineSession τ ρ) :
    EngineSession τ ρ → (accepted : Option String) → (tokens : List Int) → Prop
  | start : Run made made none []
  | isAllowed {session accepted tokens} (token : Int) : Run made session accepted tokens →
      Run made ((operations E).isAllowed token session).state accepted tokens
  | mask {session accepted tokens} : Run made session accepted tokens →
      Run made ((operations E).mask session).state accepted tokens
  | advance {session accepted tokens} (token : Int) : Run made session accepted tokens →
      Run made ((operations E).advance token session).state accepted (tokens ++ [token])
  | isComplete {session accepted tokens} : Run made session accepted tokens →
      Run made ((operations E).isComplete session).state accepted tokens
  | resetToFirst {session accepted tokens} : Run made session accepted tokens →
      Run made ((operations E).reset "" session).state none []
  | reset {session accepted tokens text} : Run made session accepted tokens → text ≠ "" →
      ((operations E).reset text session).result = .ok () →
      Run made ((operations E).reset text session).state (some text) []
  | rejected {session accepted tokens text fault} : Run made session accepted tokens →
      ((operations E).reset text session).result = .error fault →
      fault.kind.isRejection = true →
      Run made ((operations E).reset text session).state accepted []

variable {E tokenizer logLevel size} {G : EngineAutomata τ δ}
  {reads : ρ → τ → (grammar : String) → δ → Prop} {grammar : String}
  {made session : EngineSession τ ρ} {accepted : Option String} {tokens : List Int}

theorem reset_of_ne [Stack] {text : String} (named : text ≠ "") :
    (operations E).reset text = resetTo E text :=
  if_neg (by simpa using named)

/-- A new session keeps the compiled grammar it was opened on, at its start. -/
theorem keeps_of_openedOn (engine : E.Follows G reads) (loads : E.Loads tokenizer size)
    (opens : openedOn E tokenizer logLevel size grammar = .ok made) :
    Keeps E reads tokenizer size logLevel made grammar none (G.origin tokenizer grammar) := by
  obtain ⟨_, sound, opens⟩ := bind_eq_ok.1 opens
  obtain ⟨buffer, allocates, same⟩ := bind_eq_ok.1 opens
  cases same
  obtain ⟨enough, tight⟩ := engine.allocated allocates
  exact {
    tokenizer_eq := rfl, logLevel_eq := rfl, size_eq := rfl, first_eq := rfl
    replacement_eq := rfl, loads, enough, tight, sound
    reads := engine.opened logLevel (defect?_of_checked sound) }

section

variable {first text : String} {replacement : Option String} {state : δ}

/-- A reset to a text other than the empty one goes well only if that can be used. -/
theorem Keeps.reset_ok [Stack] (engine : E.Follows G reads) (named : text ≠ "")
    (keeps : Keeps E reads tokenizer size logLevel session first replacement state)
    (went : ((operations E).reset text session).result = .ok ()) :
    ∃ grammar, usable E tokenizer logLevel text = .ok grammar ∧
      Keeps E reads tokenizer size logLevel ((operations E).reset text session).state first
        (some grammar) (G.origin tokenizer grammar) := by
  rw [reset_of_ne named] at went ⊢
  cases usable_text : usable E tokenizer logLevel text with
  | error fault =>
      rw [(keeps.gives_resetTo_error engine usable_text).result_eq] at went
      cases went
  | ok grammar => exact ⟨grammar, rfl, (keeps.gives_resetTo engine usable_text).post_state⟩

/-- A reset that is rejected leaves the grammar in force at its start. -/
theorem Keeps.reset_error [Stack] (engine : E.Follows G reads) {fault : Fault}
    (keeps : Keeps E reads tokenizer size logLevel session first replacement state)
    (failed : ((operations E).reset text session).result = .error fault)
    (rejection : fault.kind.isRejection = true) :
    Keeps E reads tokenizer size logLevel ((operations E).reset text session).state first
      replacement (G.origin tokenizer (replacement.getD first)) := by
  by_cases empty : text = ""
  · subst empty
    cases (keeps.gives_resetToFirst engine).result_eq.symm.trans failed
  rw [reset_of_ne empty] at failed ⊢
  cases usable_text : usable E tokenizer logLevel text with
  | ok grammar =>
      rw [(keeps.gives_resetTo engine usable_text).result_eq] at failed
      cases failed
  | error fault' =>
      have refused := keeps.gives_resetTo_error engine usable_text
      cases refused.result_eq.symm.trans failed
      have left := refused.post_state
      rwa [if_pos rejection] at left

end

/-- Whatever is done with a session, its parser reads the grammar in force and is where the tokens
advanced since the last attempt at a reset lead. -/
theorem keeps_of_run [Stack] (engine : E.Follows G reads) (loads : E.Loads tokenizer size)
    (opens : openedOn E tokenizer logLevel size grammar = .ok made)
    (run : Run E made session accepted tokens) :
    ∃ replacement, InForce E tokenizer logLevel grammar accepted (replacement.getD grammar) ∧
      Keeps E reads tokenizer size logLevel session grammar replacement
        (tokens.foldl G.next (G.origin tokenizer (replacement.getD grammar))) := by
  induction run with
  | start => exact ⟨none, .first, keeps_of_openedOn engine loads opens⟩
  | @isAllowed session accepted tokens token _ ih =>
      obtain ⟨replacement, inForce, keeps⟩ := ih
      have asked := gives_ask (.validate · token) (E.takes · token) session
      have untouched : (ask _ _ session).state = session := asked.post_state
      exact ⟨replacement, inForce, untouched ▸ keeps⟩
  | mask _ ih =>
      obtain ⟨replacement, inForce, keeps⟩ := ih
      exact ⟨replacement, inForce, (keeps.gives_mask engine).post_state⟩
  | advance token _ ih =>
      obtain ⟨replacement, inForce, keeps⟩ := ih
      refine ⟨replacement, inForce, ?_⟩
      rw [List.foldl_append]
      exact (keeps.gives_advance engine token).post_state
  | @isComplete session accepted tokens _ ih =>
      obtain ⟨replacement, inForce, keeps⟩ := ih
      have asked := gives_ask .accepting E.isAccepting session
      have untouched : (ask _ _ session).state = session := asked.post_state
      exact ⟨replacement, inForce, untouched ▸ keeps⟩
  | resetToFirst _ ih =>
      obtain ⟨replacement, inForce, keeps⟩ := ih
      exact ⟨none, .first, (keeps.gives_resetToFirst engine).post_state⟩
  | reset _ named went ih =>
      obtain ⟨replacement, inForce, keeps⟩ := ih
      obtain ⟨grammar', usable_text, keeps'⟩ := keeps.reset_ok engine named went
      exact ⟨some grammar', .accepted usable_text, keeps'⟩
  | rejected _ failed rejection ih =>
      obtain ⟨replacement, inForce, keeps⟩ := ih
      exact ⟨replacement, inForce, keeps.reset_error engine failed rejection⟩

/-- In every state that a session reaches, the mask of all tokens has an entry for each of them,
which is the answer for that token alone, and both are the answers of the automaton for the grammar
in force after the tokens advanced since the last attempt at a reset. -/
theorem queries_agree [Stack] (engine : E.Follows G reads) (loads : E.Loads tokenizer size)
    (opens : openedOn E tokenizer logLevel size grammar = .ok made)
    (run : Run E made session accepted tokens) :
    ∃ inForce mask, InForce E tokenizer logLevel grammar accepted inForce ∧
      ((operations E).mask session).result = .ok mask ∧ mask.length = size.toNat ∧
      ∀ token : Nat, token < size →
        mask[token]? =
          some (G.allows (tokens.foldl G.next (G.origin tokenizer inForce)) token) ∧
        ((operations E).isAllowed token session).result =
          .ok (G.allows (tokens.foldl G.next (G.origin tokenizer inForce)) token) := by
  obtain ⟨replacement, inForce, keeps⟩ := keeps_of_run engine loads opens run
  refine ⟨_, _, inForce, (keeps.gives_mask engine).result_eq, ?_, ?_⟩
  · rw [TokenAutomata.length_maskAt]
    rfl
  · intro token inside
    constructor
    · rw [TokenAutomata.getElem?_maskAt_of_lt _ inside]
      rfl
    · exact (keeps.gives_isAllowed engine (by omega) inside).result_eq

/-! ## A session over the scripted engine -/

section

open ConstrainedDecoding.Scripted

/-- The text of the wire form of a regular expression without characters that are escaped. -/
def regexText (pattern : String) : String :=
  "\x7b\"grammars\": [\x7b\"rx\": \"" ++ pattern ++ "\"\x7d]\x7d"

open scoped Scripted.Room

/-- A session after its mask was asked for, a token advanced, a grammar turned down, another
accepted, and a token advanced again. -/
def usedAgain (made : EngineSession Unit Parser) : EngineSession Unit Parser :=
  let S := operations (tokenEngine onlyOne none)
  let midway := (S.advance 1 (S.mask made).state).state
  let refused := (S.reset (regexText "never") midway).state
  (S.advance 1 (S.reset (regexText "a") refused).state).state

theorem exists_usedAgain :
    ∃ made, openedOn (tokenEngine onlyOne none) () 0 2 "regex:b" = .ok made ∧
      Run (tokenEngine onlyOne none) made (usedAgain made) (some (regexText "a")) [1] := by
  let E := tokenEngine onlyOne none
  let made := atStart E () 0 2 [0] "regex:b"
  let midway := ((operations E).advance 1 ((operations E).mask made).state).state
  have failed : ((operations E).reset (regexText "never") midway).result =
      .error (.reported .badValue "scripted rejection") := by decide +kernel
  have refused : Run E made _ none [] := (Run.start.mask.advance 1).rejected failed rfl
  have accepted : Run E made _ (some (regexText "a")) [] :=
    refused.reset (by decide) (by decide +kernel)
  exact ⟨made, rfl, accepted.advance 1⟩

theorem queries_agree_usedAgain :
    ∃ made, openedOn (tokenEngine onlyOne none) () 0 2 "regex:b" = .ok made ∧
      ∃ inForce mask,
        InForce (tokenEngine onlyOne none) () 0 "regex:b" (some (regexText "a")) inForce ∧
        ((operations (tokenEngine onlyOne none)).mask (usedAgain made)).result = .ok mask ∧
        mask.length = (2 : Int).toNat ∧
        ∀ token : Nat, (token : Int) < 2 →
          mask[token]? = some ((Parser.automata onlyOne).allows
            ([1].foldl (Parser.automata onlyOne).next
              ((Parser.automata onlyOne).origin () inForce)) token) ∧
          ((operations (tokenEngine onlyOne none)).isAllowed token (usedAgain made)).result =
            .ok ((Parser.automata onlyOne).allows
              ([1].foldl (Parser.automata onlyOne).next
                ((Parser.automata onlyOne).origin () inForce)) token) := by
  obtain ⟨made, opens, run⟩ := exists_usedAgain
  exact ⟨made, opens, queries_agree (Parser.follows none) ⟨"", none, rfl⟩ opens run⟩

end

end EngineSession

end ConstrainedDecoding
