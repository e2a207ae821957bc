import ConstrainedDecoding.Grammar.Lark
import Mathlib.Data.List.Basic

/-!
# Tokens of a Lark text

`scan` splits a text into tokens which put together give the text back (`join_scan`). The tokens
that it finds are exactly those that it finds again in the text they make up: `Lexed tokens` says
that each token is the front one of its own characters followed by those of the tokens after it, and
`scan_join` reads such tokens back.

Of what follows a token only the first character has a say in where the token ends
(`front_of_head`). So a token list stays `Lexed` when names are exchanged for others that begin
alike.
-/

namespace ConstrainedDecoding.Lark

/-! ## What a token takes up -/

/-- Runs of characters end where the next one does not belong to them, whatever comes later. -/
theorem takeWhile_append_of_head {p : Char → Bool} {taken after after' : List Char}
    (run : (taken ++ after).takeWhile p = taken) (heads : after'.head? = after.head?) :
    (taken ++ after').takeWhile p = taken := by
  induction taken with
  | nil =>
      cases after with
      | nil =>
          have empty : after' = [] := List.head?_eq_none_iff.mp heads
          rw [empty]
          rfl
      | cons c rest =>
          obtain ⟨rest', rfl⟩ : ∃ rest', after' = c :: rest' :=
            List.head?_eq_some_iff.mp heads
          by_cases belongs : p c = true
          · simp [belongs] at run
          · simp [belongs]
  | cons c taken ih =>
      by_cases belongs : p c = true
      · simp only [List.cons_append, List.takeWhile_cons, belongs, if_true, List.cons.injEq,
          true_and] at run ⊢
        exact ih run
      · simp [belongs] at run

/-- A run that ends where it does is not continued by the next character. -/
theorem head_not_of_takeWhile_append {p : Char → Bool} {taken after : List Char}
    (run : (taken ++ after).takeWhile p = taken) : ∀ c ∈ after.head?, p c = false := by
  induction taken with
  | nil =>
      intro c member
      obtain ⟨rest, rfl⟩ := List.head?_eq_some_iff.mp member
      by_cases belongs : p c = true
      · simp [belongs] at run
      · exact Bool.eq_false_iff.mpr belongs
  | cons d taken ih =>
      by_cases belongs : p d = true
      · simp only [List.cons_append, List.takeWhile_cons, belongs, if_true, List.cons.injEq,
          true_and] at run
        exact ih run
      · simp [belongs] at run

theorem takeWhile_append_of_all {p : Char → Bool} {taken after : List Char}
    (all : ∀ c ∈ taken, p c = true) (stop : ∀ c ∈ after.head?, p c = false) :
    (taken ++ after).takeWhile p = taken := by
  rw [List.takeWhile_append_of_pos all]
  cases after with
  | nil => simp
  | cons c rest => simp [stop c rfl]

/-- A backslash takes the next character with it. -/
theorem literalRest_escape (delimiter c : Char) (rest : List Char) :
    literalRest delimiter ('\\' :: c :: rest) = '\\' :: c :: literalRest delimiter rest := rfl

theorem literalRest_cons {delimiter c : Char} (plain : c ≠ '\\') (rest : List Char) :
    literalRest delimiter (c :: rest) =
      if c = delimiter then [c] else c :: literalRest delimiter rest := by
  rw [literalRest.eq_3]
  intro _ _ escaped
  exact absurd escaped plain

theorem literalRest_backslash (delimiter : Char) : literalRest delimiter ['\\'] = ['\\'] := by
  simp [literalRest]

/-- Only where nothing follows does a literal take up nothing. -/
theorem eq_nil_of_literalRest {delimiter : Char} {text : List Char}
    (nothing : literalRest delimiter text = []) : text = [] := by
  cases text with
  | nil => rfl
  | cons c rest =>
      by_cases escape : c = '\\'
      · subst escape
        cases rest with
        | nil => rw [literalRest_backslash] at nothing; cases nothing
        | cons d rest => cases nothing
      · rw [literalRest_cons escape] at nothing
        split at nothing <;> cases nothing

theorem literalRest_split (delimiter : Char) (text : List Char) :
    ∃ left, text = literalRest delimiter text ++ left := by
  fun_induction literalRest delimiter text with
  | case1 => exact ⟨[], rfl⟩
  | case2 c rest ih =>
      obtain ⟨left, split⟩ := ih
      exact ⟨left, by rw [List.cons_append, List.cons_append, ← split]⟩
  | case3 rest _ => exact ⟨rest, rfl⟩
  | case4 c rest _ _ ih =>
      obtain ⟨left, split⟩ := ih
      exact ⟨left, by rw [List.cons_append, ← split]⟩

/-- A literal ends at its closing delimiter or with the text, so that what follows it has no say in
where it ends, as long as there still is something or still is nothing. -/
theorem literalRest_append_of_head {delimiter : Char} {after after' : List Char}
    (heads : after'.head? = after.head?) (taken : List Char)
    (literal : literalRest delimiter (taken ++ after) = taken) :
    literalRest delimiter (taken ++ after') = taken := by
  have ends : after = [] → after' = [] := by
    rintro rfl
    exact List.head?_eq_none_iff.mp heads
  -- two characters at a time, as a backslash takes the next one with it
  match taken with
  | [] =>
      rw [ends (eq_nil_of_literalRest literal)]
      rfl
  | [c] =>
      by_cases escape : c = '\\'
      · subst escape
        cases after with
        | nil => rw [ends rfl]; exact literal
        | cons d rest => cases literal
      · simp only [List.cons_append, List.nil_append, literalRest_cons escape] at literal ⊢
        split at literal
        · rw [if_pos ‹_›]
        · rw [if_neg ‹_›, ends (eq_nil_of_literalRest (List.cons.inj literal).2)]
          rfl
  | c :: d :: taken =>
      by_cases escape : c = '\\'
      · subst escape
        simp only [List.cons_append, literalRest_escape, List.cons.injEq, true_and] at literal ⊢
        exact literalRest_append_of_head heads taken literal
      · simp only [List.cons_append, literalRest_cons escape] at literal ⊢
        split at literal
        · cases literal
        · rw [if_neg ‹_›]
          exact congrArg (c :: ·)
            (literalRest_append_of_head heads (d :: taken) (List.cons.inj literal).2)

/-- The front token takes up its first character and some of the characters after it. -/
theorem chars_front (c : Char) (rest : List Char) :
    ∃ taken left, (front c rest).chars = c :: taken ∧ rest = taken ++ left := by
  unfold front
  split
  · exact ⟨_, _, rfl, (List.takeWhile_append_dropWhile).symm⟩
  · split
    · obtain ⟨left, split⟩ := literalRest_split c rest
      exact ⟨_, left, rfl, split⟩
    · split
      · exact ⟨_, _, rfl, (List.takeWhile_append_dropWhile).symm⟩
      · exact ⟨[], rest, rfl, rfl⟩

/-- The scanner takes the front token and goes on with what it leaves. -/
theorem scan_cons {c : Char} {taken left : List Char}
    (chars : (front c (taken ++ left)).chars = c :: taken) :
    scan (c :: (taken ++ left)) = front c (taken ++ left) :: scan left := by
  rw [scan, chars]
  simp

/-! ## Reading tokens back -/

/-- Tokens that the scanner finds again in the text they make up. -/
inductive Lexed : List Token → Prop
  | nil : Lexed []
  | cons {c : Char} {taken : List Char} {token : Token} {rest : List Token} :
    token.chars = c :: taken → front c (taken ++ join rest) = token → Lexed rest →
    Lexed (token :: rest)

theorem join_cons (token : Token) (rest : List Token) :
    join (token :: rest) = token.chars ++ join rest := rfl

theorem join_scan (text : List Char) : join (scan text) = text := by
  match text with
  | [] => rw [scan]; rfl
  | c :: rest =>
      obtain ⟨taken, left, chars, rfl⟩ := chars_front c rest
      have : left.length < (c :: (taken ++ left)).length := by
        rw [List.length_cons, List.length_append]
        omega
      rw [scan_cons chars, join_cons, chars, join_scan left, List.cons_append]
termination_by text.length

theorem lexed_scan (text : List Char) : Lexed (scan text) := by
  match text with
  | [] => rw [scan]; exact .nil
  | c :: rest =>
      obtain ⟨taken, left, chars, rfl⟩ := chars_front c rest
      have : left.length < (c :: (taken ++ left)).length := by
        rw [List.length_cons, List.length_append]
        omega
      rw [scan_cons chars]
      exact .cons chars (by rw [join_scan]) (lexed_scan left)
termination_by text.length

theorem scan_join {tokens : List Token} (lexed : Lexed tokens) : scan (join tokens) = tokens := by
  induction lexed with
  | nil => rw [join, List.flatMap_nil, scan]
  | @cons c taken token rest chars found _ ih =>
      rw [join_cons, chars, List.cons_append, scan_cons (by rw [found, chars]), found, ih]

/-- Where the front token ends depends on what follows it through the first character only. -/
theorem front_of_head {c : Char} {taken after after' : List Char} {token : Token}
    (chars : token.chars = c :: taken) (found : front c (taken ++ after) = token)
    (heads : after'.head? = after.head?) : front c (taken ++ after') = token := by
  have sameHead : (taken ++ after').head? = (taken ++ after).head? := by
    rw [List.head?_append, List.head?_append, heads]
  -- the second character decides between a comment and a literal, whence `sameHead`
  unfold front at found ⊢
  rw [sameHead]
  split at found
  · subst found
    rw [if_pos ‹_›, takeWhile_append_of_head (List.cons.inj chars).2 heads]
    exact congrArg Token.comment chars.symm
  · rw [if_neg ‹_›]
    split at found
    · subst found
      rw [if_pos ‹_›, literalRest_append_of_head heads taken (List.cons.inj chars).2]
      exact congrArg Token.literal chars.symm
    · rw [if_neg ‹_›]
      split at found
      · subst found
        rw [if_pos ‹_›, takeWhile_append_of_head (List.cons.inj chars).2 heads]
        exact congrArg Token.identifier chars.symm
      · rw [if_neg ‹_›]
        exact found

/-- Characters that may not start an identifier end one. -/
theorem front_identifier {c : Char} {taken after : List Char} (starts : startsIdentifier c = true)
    (continues : ∀ d ∈ taken, continuesIdentifier d = true)
    (ends : ∀ d ∈ after.head?, continuesIdentifier d = false) :
    front c (taken ++ after) = .identifier (c :: taken) := by
  have notSlash : c ≠ '/' := by
    rintro rfl
    exact absurd starts (by decide)
  have notQuote : c ≠ '"' := by
    rintro rfl
    exact absurd starts (by decide)
  unfold front
  rw [if_neg (fun slashes => notSlash slashes.1),
    if_neg (fun delimiter => delimiter.elim notQuote notSlash), if_pos starts,
    takeWhile_append_of_all continues ends]

/-- What follows an identifier does not continue it. -/
theorem head_of_front_identifier {c : Char} {taken after name : List Char}
    (chars : name = c :: taken) (found : front c (taken ++ after) = .identifier name) :
    ∀ d ∈ after.head?, continuesIdentifier d = false := by
  unfold front at found
  split at found
  · cases found
  · split at found
    · cases found
    · split at found
      · have run := Token.identifier.inj found
        rw [chars] at run
        exact head_not_of_takeWhile_append (List.cons.inj run).2
      · cases found

/-! ## Where identifiers stand -/

/-- The characters of a text from one offset up to another. -/
def slice (text : List Char) (span : Nat × Nat) : List Char :=
  (text.take span.2).drop span.1

/-- The spans of the identifiers among tokens that come at an offset. -/
def spansFrom : (offset : Nat) → List Token → List (Nat × Nat)
  | _, [] => []
  | offset, .identifier name :: rest =>
    (offset, offset + name.length) :: spansFrom (offset + name.length) rest
  | offset, token :: rest => spansFrom (offset + token.chars.length) rest

/-- The spans of the identifiers of a text: the offset of the first character of each, and the
offset after its last one. -/
def identifierSpans (text : List Char) : List (Nat × Nat) :=
  spansFrom 0 (scan text)

/-- The identifiers of a text, in order. -/
def identifiers (text : List Char) : List (List Char) :=
  (identifierSpans text).map (slice text)

/-- The texts from an offset on that come before, between and after spans. -/
def between (text : List Char) : (offset : Nat) → (spans : List (Nat × Nat)) → List (List Char)
  | offset, [] => [text.drop offset]
  | offset, span :: rest => slice text (offset, span.1) :: between text span.2 rest

/-- The texts before, between and after the identifiers among tokens; `pending` comes before all of
them. -/
def gaps : (pending : List Char) → List Token → List (List Char)
  | pending, [] => [pending]
  | pending, .identifier _ :: rest => pending :: gaps [] rest
  | pending, token :: rest => gaps (pending ++ token.chars) rest

theorem slice_middle (before middle after : List Char) :
    slice (before ++ (middle ++ after)) (before.length, before.length + middle.length) =
      middle := by
  simp [slice, List.take_append]

/-- The spans of identifiers hold their names. -/
theorem map_slice_spansFrom (before : List Char) (tokens : List Token) :
    (spansFrom before.length tokens).map (slice (before ++ join tokens)) = names tokens := by
  induction tokens generalizing before with
  | nil => rfl
  | cons token rest ih =>
      have further := ih (before ++ token.chars)
      rw [List.length_append, List.append_assoc] at further
      cases token with
      | identifier name =>
          exact congrArg₂ List.cons (slice_middle before name (join rest)) further
      | comment chars => exact further
      | literal chars => exact further
      | other c => exact further

theorem identifiers_eq_names (text : List Char) : identifiers text = names (scan text) := by
  have held := map_slice_spansFrom [] (scan text)
  rwa [List.nil_append, join_scan] at held

/-- Outside the spans of identifiers stands what the other tokens make up. -/
theorem between_spansFrom (before pending : List Char) (tokens : List Token) :
    between (before ++ (pending ++ join tokens)) before.length
      (spansFrom (before.length + pending.length) tokens) = gaps pending tokens := by
  induction tokens generalizing before pending with
  | nil => simp [spansFrom, between, gaps, join]
  | cons token rest ih =>
      have joined := ih before (pending ++ token.chars)
      rw [List.length_append, List.append_assoc, ← Nat.add_assoc] at joined
      cases token with
      | identifier name =>
          have further := ih (before ++ (pending ++ name)) []
          simp only [List.length_append, List.append_assoc, List.length_nil, Nat.add_zero,
            List.nil_append] at further
          apply congrArg₂ List.cons (slice_middle before pending _)
          simpa only [join_cons, Token.chars, ← Nat.add_assoc] using further
      | comment chars => exact joined
      | literal chars => exact joined
      | other c => exact joined

theorem between_identifierSpans (text : List Char) :
    between text 0 (identifierSpans text) = gaps [] (scan text) := by
  have outside := between_spansFrom [] [] (scan text)
  rwa [List.nil_append, List.nil_append, join_scan] at outside

end ConstrainedDecoding.Lark
