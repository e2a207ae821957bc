import ConstrainedDecoding.Proofs.LarkTokens
import Mathlib.Data.List.Basic

/-!
# The lexical grammar of Lark texts

`Tokenized text tokens` states the lexical grammar without a scanner: a text is a comment, a
literal, an identifier or any other character, followed by a text that is tokenized in turn. What a
literal holds is told character by character (`IsBody`), and an identifier goes on for as long as it
can. Every text has exactly one tokenization, the one that the scanner finds
(`tokenized_iff_eq_scan`), and the spans of identifiers are those of the identifiers in it
(`identifierSpans_exact`).
-/

namespace ConstrainedDecoding.Lark

/-! ## The grammar -/

/-- A character that opens a literal and closes it again. -/
def IsDelimiter (c : Char) : Prop :=
  c = '"' ∨ c = '/'

/-- What may stand between the delimiters of a literal: any character but the delimiter, and a
backslash together with any character after it. -/
inductive IsBody (delimiter : Char) : List Char → Prop
  | nil : IsBody delimiter []
  | escaped (c : Char) {rest : List Char} : IsBody delimiter rest →
    IsBody delimiter ('\\' :: c :: rest)
  | plain {c : Char} {rest : List Char} : c ≠ '\\' → c ≠ delimiter → IsBody delimiter rest →
    IsBody delimiter (c :: rest)

/-- What may follow the opening delimiter of a literal that is never closed. The text may end in a
backslash that has no character to take. -/
def IsOpenBody (delimiter : Char) (chars : List Char) : Prop :=
  IsBody delimiter chars ∨ ∃ body, IsBody delimiter body ∧ chars = body ++ ['\\']

/-- The tokens that a text consists of, from left to right. -/
inductive Tokenized : List Char → List Token → Prop
  | nil : Tokenized [] []
  /-- A comment ends before the next line break, or with the text. -/
  | comment {body after : List Char} {tokens : List Token} (line : '\n' ∉ body)
    (ends : ∀ c ∈ after.head?, c = '\n') (rest : Tokenized after tokens) :
    Tokenized ('/' :: '/' :: (body ++ after)) (.comment ('/' :: '/' :: body) :: tokens)
  /-- A literal ends with the first delimiter that is not escaped. Two slashes open a comment
  instead. -/
  | closed {delimiter : Char} {body after : List Char} {tokens : List Token}
    (opens : IsDelimiter delimiter) (uncommented : delimiter = '/' → body ≠ [])
    (inside : IsBody delimiter body) (rest : Tokenized after tokens) :
    Tokenized (delimiter :: (body ++ delimiter :: after))
      (.literal (delimiter :: (body ++ [delimiter])) :: tokens)
  /-- Without such a delimiter it ends with the text. -/
  | unclosed {delimiter : Char} {body : List Char} (opens : IsDelimiter delimiter)
    (inside : IsOpenBody delimiter body) :
    Tokenized (delimiter :: body) [.literal (delimiter :: body)]
  /-- An identifier ends before the next character that cannot continue it. -/
  | identifier {c : Char} {name after : List Char} {tokens : List Token}
    (starts : startsIdentifier c = true) (continues : ∀ d ∈ name, continuesIdentifier d = true)
    (ends : ∀ d ∈ after.head?, continuesIdentifier d = false) (rest : Tokenized after tokens) :
    Tokenized (c :: (name ++ after)) (.identifier (c :: name) :: tokens)
  | other {c : Char} {after : List Char} {tokens : List Token} (bare : ¬ IsDelimiter c)
    (nameless : startsIdentifier c = false) (rest : Tokenized after tokens) :
    Tokenized (c :: after) (.other c :: tokens)

/-! ## Literals -/

section Literals

variable {delimiter : Char} {body : List Char}

theorem IsDelimiter.ne_backslash (opens : IsDelimiter delimiter) : delimiter ≠ '\\' := by
  rcases opens with rfl | rfl <;> decide

theorem IsBody.head_ne (inside : IsBody delimiter body) (opens : IsDelimiter delimiter) :
    body.head? ≠ some delimiter := by
  cases inside with
  | nil => nofun
  | escaped c _ => exact fun same => opens.ne_backslash (Option.some.inj same).symm
  | plain _ other _ => exact fun same => other (Option.some.inj same)

theorem IsOpenBody.head_ne (inside : IsOpenBody delimiter body) (opens : IsDelimiter delimiter) :
    body.head? ≠ some delimiter := by
  rcases inside with whole | ⟨front, inside, rfl⟩
  · exact whole.head_ne opens
  · cases front with
    | nil => exact fun same => opens.ne_backslash (Option.some.inj same).symm
    | cons c front => exact inside.head_ne opens

theorem literalRest_append (inside : IsBody delimiter body) (after : List Char) :
    literalRest delimiter (body ++ after) = body ++ literalRest delimiter after := by
  induction inside with
  | nil => rfl
  | escaped c _ ih =>
      rw [List.cons_append, List.cons_append, literalRest_escape, ih]
      rfl
  | plain unescaped other _ ih =>
      rw [List.cons_append, literalRest_cons unescaped, if_neg other, ih]
      rfl

theorem literalRest_closed (opens : IsDelimiter delimiter) (inside : IsBody delimiter body)
    (after : List Char) :
    literalRest delimiter (body ++ delimiter :: after) = body ++ [delimiter] := by
  rw [literalRest_append inside, literalRest_cons opens.ne_backslash, if_pos rfl]

theorem literalRest_unclosed (inside : IsOpenBody delimiter body) :
    literalRest delimiter body = body := by
  rcases inside with whole | ⟨front, inside, rfl⟩
  · have taken := literalRest_append whole []
    rwa [List.append_nil, literalRest, List.append_nil] at taken
  · rw [literalRest_append inside, literalRest_backslash]

/-- What follows an opening delimiter closes the literal somewhere, or never does. -/
theorem closed_or_unclosed (delimiter : Char) (text : List Char) :
    (∃ body after, IsBody delimiter body ∧ text = body ++ delimiter :: after) ∨
      IsOpenBody delimiter text := by
  match text with
  | [] => exact .inr (.inl .nil)
  | c :: rest =>
      by_cases closes : c = delimiter
      · exact .inl ⟨[], rest, .nil, by rw [closes, List.nil_append]⟩
      by_cases escape : c = '\\'
      · subst escape
        -- a backslash takes the next character with it, if there is one
        cases rest with
        | nil => exact .inr (.inr ⟨[], .nil, rfl⟩)
        | cons d rest =>
            rcases closed_or_unclosed delimiter rest with
              ⟨body, after, inside, rfl⟩ | inside | ⟨body, inside, rfl⟩
            · exact .inl ⟨'\\' :: d :: body, after, inside.escaped d, rfl⟩
            · exact .inr (.inl (inside.escaped d))
            · exact .inr (.inr ⟨'\\' :: d :: body, inside.escaped d, rfl⟩)
      · rcases closed_or_unclosed delimiter rest with
          ⟨body, after, inside, rfl⟩ | inside | ⟨body, inside, rfl⟩
        · exact .inl ⟨c :: body, after, .plain escape closes inside, rfl⟩
        · exact .inr (.inl (.plain escape closes inside))
        · exact .inr (.inr ⟨c :: body, .plain escape closes inside, rfl⟩)

end Literals

/-! ## Every text has a tokenization -/

/-- The characters at the front that go on with a run, up to the first one that does not. -/
theorem exists_run (continues : Char → Bool) (text : List Char) :
    ∃ run after, text = run ++ after ∧ (∀ c ∈ run, continues c = true) ∧
      ∀ c ∈ after.head?, continues c = false :=
  ⟨text.takeWhile continues, text.dropWhile continues, List.takeWhile_append_dropWhile.symm,
    fun c member => List.all_eq_true.1 List.all_takeWhile c member,
    head_not_of_takeWhile_append (by rw [List.takeWhile_append_dropWhile])⟩

theorem exists_tokenized (text : List Char) : ∃ tokens, Tokenized text tokens := by
  match text with
  | [] => exact ⟨[], .nil⟩
  | c :: rest =>
      by_cases opens : IsDelimiter c
      · by_cases comments : c = '/' ∧ rest.head? = some '/'
        · obtain ⟨rfl, second⟩ := comments
          obtain ⟨rest, rfl⟩ := List.head?_eq_some_iff.1 second
          obtain ⟨body, after, rfl, line, ends⟩ := exists_run (· ≠ '\n') rest
          obtain ⟨tokens, tokenized⟩ := exists_tokenized after
          refine ⟨_, .comment (fun member => ?_) (fun d among => ?_) tokenized⟩
          · exact of_decide_eq_true (line _ member) rfl
          · exact not_not.1 (of_decide_eq_false (ends d among))
        · rcases closed_or_unclosed c rest with ⟨body, after, inside, rfl⟩ | inside
          · obtain ⟨tokens, tokenized⟩ := exists_tokenized after
            refine ⟨_, .closed opens ?_ inside tokenized⟩
            rintro rfl rfl
            exact comments ⟨rfl, rfl⟩
          · exact ⟨_, .unclosed opens inside⟩
      by_cases starts : startsIdentifier c = true
      · obtain ⟨name, after, rfl, continues, ends⟩ := exists_run continuesIdentifier rest
        obtain ⟨tokens, tokenized⟩ := exists_tokenized after
        exact ⟨_, .identifier starts continues ends tokenized⟩
      · obtain ⟨tokens, tokenized⟩ := exists_tokenized rest
        exact ⟨_, .other opens (Bool.eq_false_iff.2 starts) tokenized⟩
termination_by text.length

/-! ## The scanner finds it -/

theorem front_comment {body after : List Char} (line : '\n' ∉ body)
    (ends : ∀ c ∈ after.head?, c = '\n') :
    front '/' ('/' :: (body ++ after)) = .comment ('/' :: '/' :: body) := by
  have run : ('/' :: body ++ after).takeWhile (· ≠ '\n') = '/' :: body := by
    refine takeWhile_append_of_all ?_ fun c among => decide_eq_false (not_not.2 (ends c among))
    rintro c (- | ⟨_, member⟩)
    · decide
    · exact decide_eq_true fun same => line (same ▸ member)
  rw [front, if_pos ⟨rfl, rfl⟩]
  exact congrArg (fun chars => Token.comment ('/' :: chars)) run

theorem front_literal {delimiter : Char} {rest : List Char} (opens : IsDelimiter delimiter)
    (uncommented : delimiter = '/' → rest.head? ≠ some '/') :
    front delimiter rest = .literal (delimiter :: literalRest delimiter rest) := by
  rw [front, if_neg fun both => uncommented both.1 both.2]
  exact if_pos opens

theorem front_other {c : Char} {rest : List Char} (bare : ¬ IsDelimiter c)
    (nameless : startsIdentifier c = false) : front c rest = .other c := by
  rw [front, if_neg fun both => bare (.inr both.1), nameless, if_neg Bool.false_ne_true]
  exact if_neg bare

theorem scan_eq_of_tokenized {text : List Char} {tokens : List Token}
    (tokenized : Tokenized text tokens) : scan text = tokens := by
  induction tokenized with
  | nil => rw [scan]
  | @comment body after tokens line ends _ ih =>
      have found := front_comment line ends
      rw [← List.cons_append] at found ⊢
      rw [scan_cons (by rw [found]; rfl), found, ih]
  | @closed delimiter body after tokens opens uncommented inside _ ih =>
      have uncommented' : delimiter = '/' → (body ++ delimiter :: after).head? ≠ some '/' := by
        rintro rfl
        rw [List.head?_append_of_ne_nil _ (uncommented rfl)]
        exact inside.head_ne opens
      have found := front_literal opens uncommented'
      rw [literalRest_closed opens inside] at found
      rw [List.append_cons body delimiter after] at found ⊢
      rw [scan_cons (by rw [found]; rfl), found, ih]
  | @unclosed delimiter body opens inside =>
      have found := front_literal opens fun slash => slash ▸ inside.head_ne opens
      rw [literalRest_unclosed inside, ← List.append_nil body] at found
      rw [← List.append_nil body, scan_cons (by rw [found, List.append_nil]; rfl), found, scan]
  | identifier starts continues ends _ ih =>
      have found := front_identifier starts continues ends
      rw [scan_cons (by rw [found]; rfl), found, ih]
  | @other c after tokens bare nameless _ ih =>
      have found : front c after = .other c := front_other bare nameless
      rw [← List.nil_append after] at found ⊢
      rw [scan_cons (by rw [found]; rfl), found, ih]

/-- The grammar gives a text one tokenization, and the scanner finds it. -/
theorem tokenized_iff_eq_scan {text : List Char} {tokens : List Token} :
    Tokenized text tokens ↔ tokens = scan text := by
  constructor
  · exact fun tokenized => (scan_eq_of_tokenized tokenized).symm
  · rintro rfl
    obtain ⟨tokens, tokenized⟩ := exists_tokenized text
    rwa [scan_eq_of_tokenized tokenized]

/-! ## Where tokens stand -/

/-- A token is among tokens at an offset, behind the characters of the tokens before it. -/
def StandsAt (tokens : List Token) (token : Token) (offset : Nat) : Prop :=
  ∃ before after, tokens = before ++ token :: after ∧ offset = (join before).length

section Places

variable {token other : Token} {tokens : List Token} {offset offset' : Nat}

theorem standsAt_cons {first : Token} :
    StandsAt (first :: tokens) token offset ↔
      (token = first ∧ offset = 0) ∨
        ∃ behind, StandsAt tokens token behind ∧ offset = first.chars.length + behind := by
  constructor
  · rintro ⟨before, after, same, rfl⟩
    cases before with
    | nil =>
        cases same
        exact .inl ⟨rfl, rfl⟩
    | cons _ before =>
        cases same
        exact .inr ⟨_, ⟨before, after, rfl, rfl⟩, by rw [join_cons, List.length_append]⟩
  · rintro (⟨rfl, rfl⟩ | ⟨_, ⟨before, after, rfl, rfl⟩, rfl⟩)
    · exact ⟨[], tokens, rfl, rfl⟩
    · exact ⟨first :: before, after, rfl, by rw [join_cons, List.length_append]⟩

theorem StandsAt.mem (stands : StandsAt tokens token offset) : token ∈ tokens := by
  obtain ⟨before, after, rfl, _⟩ := stands
  exact List.mem_append_right before List.mem_cons_self

/-- A token ends before the text that the tokens make up does. -/
theorem StandsAt.end_le (stands : StandsAt tokens token offset) :
    offset + token.chars.length ≤ (join tokens).length := by
  obtain ⟨before, after, rfl, rfl⟩ := stands
  rw [join, join, List.flatMap_append, List.flatMap_cons, List.length_append, List.length_append]
  omega

/-- Tokens that stand at two places do not overlap. -/
theorem StandsAt.apart (stands : StandsAt tokens token offset)
    (also : StandsAt tokens other offset') :
    (token = other ∧ offset = offset') ∨ offset + token.chars.length ≤ offset' ∨
      offset' + other.chars.length ≤ offset := by
  induction tokens generalizing offset offset' with
  | nil => cases stands.mem
  | cons first rest ih =>
      rcases standsAt_cons.1 stands with ⟨rfl, rfl⟩ | ⟨behind, standsBehind, rfl⟩
      · rcases standsAt_cons.1 also with ⟨rfl, rfl⟩ | ⟨behind', _, rfl⟩
        · exact .inl ⟨rfl, rfl⟩
        · omega
      · rcases standsAt_cons.1 also with ⟨rfl, rfl⟩ | ⟨behind', alsoBehind, rfl⟩
        · omega
        · rcases ih standsBehind alsoBehind with ⟨rfl, rfl⟩ | before | after
          · exact .inl ⟨rfl, rfl⟩
          · omega
          · omega

theorem mem_spansFrom_cons {span : Nat × Nat} {first : Token} :
    span ∈ spansFrom offset (first :: tokens) ↔
      (∃ name, first = .identifier name ∧ span = (offset, offset + name.length)) ∨
        span ∈ spansFrom (offset + first.chars.length) tokens := by
  cases first with
  | identifier name => simp [spansFrom, Token.chars]
  | comment chars | literal chars | other c => simp [spansFrom]

/-- The spans that come at an offset are those of the identifiers. -/
theorem mem_spansFrom {span : Nat × Nat} :
    span ∈ spansFrom offset tokens ↔ ∃ name behind,
      StandsAt tokens (.identifier name) behind ∧ span.1 = offset + behind ∧
        span.2 = span.1 + name.length := by
  induction tokens generalizing offset with
  | nil =>
      constructor
      · nofun
      · rintro ⟨name, behind, stands, _⟩
        cases stands.mem
  | cons first rest ih =>
      rw [mem_spansFrom_cons, ih]
      constructor
      · rintro (⟨name, rfl, rfl⟩ | ⟨name, behind, stands, begins, ends⟩)
        · exact ⟨name, 0, standsAt_cons.2 (.inl ⟨rfl, rfl⟩), rfl, rfl⟩
        · exact ⟨name, _, standsAt_cons.2 (.inr ⟨behind, stands, rfl⟩),
            begins.trans (Nat.add_assoc ..), ends⟩
      · rintro ⟨name, behind, stands, begins, ends⟩
        rcases standsAt_cons.1 stands with ⟨rfl, rfl⟩ | ⟨behind, standsBehind, rfl⟩
        · exact .inl ⟨name, rfl, Prod.ext begins (ends.trans (by rw [begins, Nat.add_zero]))⟩
        · exact .inr ⟨name, behind, standsBehind, begins.trans (Nat.add_assoc ..).symm, ends⟩

theorem pairwise_spansFrom (offset : Nat) (tokens : List Token) :
    (spansFrom offset tokens).Pairwise fun span later => span.2 ≤ later.1 := by
  induction tokens generalizing offset with
  | nil => exact .nil
  | cons first rest ih =>
      cases first with
      | identifier name =>
          refine List.pairwise_cons.2 ⟨fun later member => ?_, ih _⟩
          obtain ⟨_, behind, _, begins, _⟩ := mem_spansFrom.1 member
          omega
      | comment chars | literal chars | other c => exact ih _

end Places

/-! ## Spans of identifiers -/

theorem Lexed.chars_ne_nil {tokens : List Token} (lexed : Lexed tokens) :
    ∀ token ∈ tokens, token.chars ≠ [] := by
  induction lexed with
  | nil => nofun
  | cons chars _ _ ih =>
      refine List.forall_mem_cons.2 ⟨?_, ih⟩
      rw [chars]
      exact List.cons_ne_nil _ _

/-- The spans of the identifiers of a text are, in order and without overlaps, the places of the
identifiers in the one tokenization that the lexical grammar gives the text. Every span takes up a
part of the text, and no other token, be it a literal or a comment, takes up any of that part. -/
theorem identifierSpans_exact (text : String) :
    ∃ tokens, Tokenized text.toList tokens ∧
      (∀ others, Tokenized text.toList others → others = tokens) ∧
      (∀ start stop, (start, stop) ∈ identifierSpans text.toList ↔
        ∃ name, StandsAt tokens (.identifier name) start ∧ stop = start + name.length) ∧
      (identifierSpans text.toList).Pairwise (fun span later => span.2 ≤ later.1) ∧
      (∀ span ∈ identifierSpans text.toList, span.1 < span.2 ∧ span.2 ≤ text.length) ∧
      ∀ span ∈ identifierSpans text.toList, ∀ token offset, StandsAt tokens token offset →
        token.name? = none → offset + token.chars.length ≤ span.1 ∨ span.2 ≤ offset := by
  have spans (span : Nat × Nat) : span ∈ identifierSpans text.toList ↔
      ∃ name, StandsAt (scan text.toList) (.identifier name) span.1 ∧
        span.2 = span.1 + name.length := by
    rw [identifierSpans, mem_spansFrom]
    simp only [Nat.zero_add]
    constructor
    · rintro ⟨name, _, stands, rfl, ends⟩
      exact ⟨name, stands, ends⟩
    · exact fun ⟨name, stands, ends⟩ => ⟨name, _, stands, rfl, ends⟩
  refine ⟨scan text.toList, tokenized_iff_eq_scan.2 rfl, fun _ => tokenized_iff_eq_scan.1,
    fun start stop => spans (start, stop), pairwise_spansFrom 0 _, ?_, ?_⟩
  · intro span member
    obtain ⟨name, stands, ends⟩ := (spans span).1 member
    have taken := List.length_pos_iff.2 ((lexed_scan text.toList).chars_ne_nil _ stands.mem)
    have within := stands.end_le
    rw [join_scan, String.length_toList] at within
    exact ⟨ends ▸ Nat.lt_add_of_pos_right taken, ends ▸ within⟩
  · intro span member token offset also nameless
    obtain ⟨name, stands, ends⟩ := (spans span).1 member
    rcases also.apart stands with ⟨rfl, _⟩ | before | after
    · cases nameless
    · exact .inl before
    · exact .inr (ends ▸ after)

/-- A quote in a regular expression, an escaped delimiter, slashes in a literal and in a comment,
and a literal that the text ends in. -/
example : identifierSpans "a/\"\\/b/c1 \"//\"// d\n2e\"f\\".toList =
    [(0, 1), (7, 9), (20, 21)] := by
  decide +kernel

end ConstrainedDecoding.Lark
