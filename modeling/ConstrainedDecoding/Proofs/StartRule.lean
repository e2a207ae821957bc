import ConstrainedDecoding.Proofs.LarkTokens
import Mathlib.Data.List.Nodup
import Mathlib.Data.List.Perm.Subperm
import Std.Data.String.ToNat

/-!
# Making room for another start rule

A grammar that is entered elsewhere than at its rule `start` gets a line in front that names the
rule entered, and its own rule `start` takes a name that the grammar does not use. `StartRenamed`
says that a body differs from a text in nothing else, as the scanner sees both: scanning the body
again finds the tokens of the text with the one name exchanged (`scan_yieldStart`). The exchange is
harmless to the scanner since the new name is an identifier that begins like the old one.
-/

namespace ConstrainedDecoding.Lark

/-! ## Exchanging names -/

/-- A name that the scanner takes for one identifier. -/
def IsIdentifier : List Char → Prop
  | [] => False
  | c :: rest => startsIdentifier c = true ∧ ∀ d ∈ rest, continuesIdentifier d = true

variable {old new : List Char}

theorem head_chars_rename (begins : new.head? = old.head?) (token : Token) :
    (token.rename old new).chars.head? = token.chars.head? := by
  cases token with
  | identifier name =>
      simp only [Token.rename, Token.chars]
      split
      · rw [begins, ‹name = old›]
      · rfl
  | comment chars => rfl
  | literal chars => rfl
  | other c => rfl

theorem head_join_rename (begins : new.head? = old.head?) (tokens : List Token) :
    (join (tokens.map (Token.rename old new))).head? = (join tokens).head? := by
  induction tokens with
  | nil => rfl
  | cons token rest ih =>
      rw [List.map_cons, join_cons, join_cons, List.head?_append, List.head?_append, ih,
        head_chars_rename begins]

theorem rename_of_ne {token : Token} (keeps : token ≠ .identifier old) :
    token.rename old new = token := by
  cases token with
  | identifier name =>
      have different : name ≠ old := fun same => keeps (congrArg Token.identifier same)
      rw [Token.rename, if_neg different]
  | comment chars => rfl
  | literal chars => rfl
  | other c => rfl

/-- The scanner finds the tokens again when a name is exchanged for one that begins alike. -/
theorem Lexed.rename (identifier : IsIdentifier new) (begins : new.head? = old.head?)
    {tokens : List Token} (lexed : Lexed tokens) : Lexed (tokens.map (Token.rename old new)) := by
  induction lexed with
  | nil => exact .nil
  | @cons c taken token rest chars found _ ih =>
      have heads := head_join_rename begins rest
      by_cases exchanged : token = .identifier old
      · subst exchanged
        have ends := head_of_front_identifier chars found
        rw [← heads] at ends
        cases new with
        | nil => exact identifier.elim
        | cons d name =>
            have renamed : (Token.identifier old).rename old (d :: name) =
                .identifier (d :: name) := by
              rw [Token.rename, if_pos rfl]
            rw [List.map_cons, renamed]
            exact .cons rfl (front_identifier identifier.1 identifier.2 ends) ih
      · rw [List.map_cons, rename_of_ne exchanged]
        exact .cons chars (front_of_head chars found heads) ih

theorem names_map_rename (tokens : List Token) :
    names (tokens.map (Token.rename old new)) =
      (names tokens).map fun name => if name = old then new else name := by
  induction tokens with
  | nil => rfl
  | cons token rest ih =>
      cases token with
      | identifier name => exact congrArg (_ :: ·) ih
      | comment chars => exact ih
      | literal chars => exact ih
      | other c => exact ih

theorem gaps_map_rename (pending : List Char) (tokens : List Token) :
    gaps pending (tokens.map (Token.rename old new)) = gaps pending tokens := by
  induction tokens generalizing pending with
  | nil => rfl
  | cons token rest ih =>
      cases token with
      | identifier name => exact congrArg (pending :: ·) (ih [])
      | comment chars => exact ih _
      | literal chars => exact ih _
      | other c => exact ih _

theorem mem_names {name : List Char} {tokens : List Token} :
    name ∈ names tokens ↔ .identifier name ∈ tokens := by
  induction tokens with
  | nil => simp [names]
  | cons token rest ih => cases token <;> simp_all [names, Token.name?]

/-- Exchanging a name that does not occur changes nothing. -/
theorem map_rename_of_notMem {tokens : List Token} (absent : old ∉ names tokens) :
    tokens.map (Token.rename old new) = tokens := by
  refine (List.map_congr_left fun token member => rename_of_ne ?_).trans tokens.map_id
  rintro rfl
  exact absent (mem_names.mpr member)

/-- Exchanging a name that was not in use back again undoes the exchange. -/
theorem map_rename_rename {tokens : List Token} (unused : new ∉ names tokens) :
    (tokens.map (Token.rename old new)).map (Token.rename new old) = tokens := by
  rw [List.map_map]
  refine (List.map_congr_left fun token member => ?_).trans tokens.map_id
  cases token with
  | identifier name =>
      have different : name ≠ new := by
        rintro rfl
        exact unused (mem_names.mpr member)
      by_cases same : name = old <;> simp [Token.rename, same, different]
  | comment chars => rfl
  | literal chars => rfl
  | other c => rfl

/-! ## A name that is not in use -/

/-- What all substitutes begin with. -/
def stem : List Char := ['s', 't', 'a', 'r', 't', '_', 'r', 'u', 'l', 'e']

/-- What tells substitutes apart: the first one has no number. -/
def numeral : Nat → List Char
  | 0 => []
  | n + 1 => (n + 1).repr.toList

theorem toList_stem : "start_rule".toList = stem := by
  rw [show "start_rule" = String.ofList stem from rfl, String.toList_ofList]

theorem substitute_eq (n : Nat) : substitute n = stem ++ numeral n := by
  unfold substitute
  cases n with
  | zero => exact toList_stem
  | succ n =>
      dsimp only
      rw [String.toList_append, Nat.toString_eq_repr]
      exact congrArg (· ++ numeral (n + 1)) toList_stem

theorem numeral_injective : Function.Injective numeral := by
  intro m n same
  match m, n with
  | 0, 0 => rfl
  | 0, n + 1 => exact absurd same.symm (by simp [numeral])
  | m + 1, 0 => exact absurd same (by simp [numeral])
  | m + 1, n + 1 => exact Nat.repr_injective (String.toList_inj.mp same)

theorem substitute_injective : Function.Injective substitute := by
  intro m n same
  rw [substitute_eq, substitute_eq] at same
  exact numeral_injective (List.append_cancel_left same)

theorem head_substitute (n : Nat) : (substitute n).head? = startName.head? := by
  rw [substitute_eq]
  rfl

theorem continuesIdentifier_of_isDigit {c : Char} (digit : c.isDigit = true) :
    continuesIdentifier c = true := by
  have inRange : ('0' ≤ c && c ≤ '9') = true := digit
  rw [continuesIdentifier, inRange, Bool.or_true]

theorem isIdentifier_substitute (n : Nat) : IsIdentifier (substitute n) := by
  rw [substitute_eq]
  refine ⟨by decide, fun c member => ?_⟩
  rcases List.mem_append.mp member with letter | digit
  · have letters : stem.all continuesIdentifier = true := by decide
    exact List.all_eq_true.1 letters c (List.mem_of_mem_tail letter)
  · cases n with
    | zero => cases digit
    | succ n =>
        rw [numeral, Nat.toList_repr] at digit
        exact continuesIdentifier_of_isDigit
          (Nat.isDigit_of_mem_toDigits (by decide) (by decide) digit)

/-- Among one more names than are taken, one is free. -/
theorem exists_substitute_notMem (taken : List (List Char)) :
    ∃ n < taken.length + 1, substitute n ∉ taken := by
  by_contra all
  push Not at all
  have distinct : ((List.range (taken.length + 1)).map substitute).Nodup :=
    List.Nodup.map substitute_injective List.nodup_range
  have contained : (List.range (taken.length + 1)).map substitute ⊆ taken := by
    intro name member
    obtain ⟨n, inRange, rfl⟩ := List.mem_map.mp member
    exact all n (List.mem_range.mp inRange)
  have few := (distinct.subperm contained).length_le
  rw [List.length_map, List.length_range] at few
  omega

/-- The search for a free name finds one. -/
theorem freeSubstitute_spec (taken : List (List Char)) :
    ∃ n, freeSubstitute taken = substitute n ∧ substitute n ∉ taken := by
  obtain ⟨free, inRange, unused⟩ := exists_substitute_notMem taken
  unfold freeSubstitute
  cases search : ((List.range (taken.length + 1)).map substitute).find?
      fun name => !taken.contains name with
  | none =>
      have all := List.find?_eq_none.mp search _
        (List.mem_map_of_mem (f := substitute) (List.mem_range.mpr inRange))
      simp [unused] at all
  | some name =>
      obtain ⟨n, _, rfl⟩ := List.mem_map.mp (List.mem_of_find?_eq_some search)
      exact ⟨n, rfl, by simpa using List.find?_some search⟩

/-! ## The body of the grammar -/

theorem yieldStart_eq (text : List Char) :
    yieldStart text =
      join ((scan text).map (Token.rename startName (freeSubstitute (names (scan text))))) := by
  unfold yieldStart
  by_cases used : startName ∈ names (scan text)
  · exact if_pos (List.contains_iff_mem.mpr used)
  · rw [map_rename_of_notMem used, join_scan]
    exact if_neg fun contained => used (List.contains_iff_mem.mp contained)

/-- Scanning a body again finds the tokens of the text it was made of, with the one name
exchanged. -/
theorem scan_yieldStart (text : List Char) :
    scan (yieldStart text) =
      (scan text).map (Token.rename startName (freeSubstitute (names (scan text)))) := by
  obtain ⟨n, found, _⟩ := freeSubstitute_spec (names (scan text))
  rw [yieldStart_eq, found]
  exact scan_join ((lexed_scan text).rename (isIdentifier_substitute n) (head_substitute n))

/-- A body differs from a text only in that another name stands wherever the text has the
identifier `start`. -/
structure StartRenamed (text body name : List Char) : Prop where
  /-- The new name is not one that the text has already. -/
  fresh : name ∉ identifiers text
  /-- The identifiers are those of the text with the one name exchanged. -/
  identifiers_eq :
    identifiers body = (identifiers text).map fun used => if used = startName then name else used
  /-- What stands before, between and after them is the same. -/
  between_eq : between body 0 (identifierSpans body) = between text 0 (identifierSpans text)
  absent : startName ∉ identifiers body
  /-- Exchanging the name back gives the text. -/
  restored : join ((scan body).map (Token.rename name startName)) = text
  unchanged : startName ∉ identifiers text → body = text

theorem startRenamed_yieldStart (text : List Char) :
    StartRenamed text (yieldStart text) (freeSubstitute (names (scan text))) := by
  obtain ⟨n, found, unused⟩ := freeSubstitute_spec (names (scan text))
  have scanned := scan_yieldStart text
  rw [← found] at unused
  constructor
  case fresh => rwa [identifiers_eq_names]
  case identifiers_eq =>
    rw [identifiers_eq_names, identifiers_eq_names, scanned, names_map_rename]
  case between_eq =>
    rw [between_identifierSpans, between_identifierSpans, scanned, gaps_map_rename]
  case absent =>
    rw [identifiers_eq_names, scanned, names_map_rename]
    intro member
    obtain ⟨name, used, renamed⟩ := List.mem_map.mp member
    split at renamed
    · exact unused (renamed ▸ ‹name = startName› ▸ used)
    · exact absurd renamed ‹_›
  case restored => rw [scanned, map_rename_rename unused, join_scan]
  case unchanged =>
    intro absent
    rw [identifiers_eq_names] at absent
    rw [yieldStart_eq, map_rename_of_notMem absent, join_scan]

/-- Choosing another start rule puts its line in front of the grammar and renames the rule `start`
there, and does nothing else: a scanner finds the same text before, between and after the same
identifiers, but for the one new name. -/
theorem selectStart_renames_start (text start : String) (other : start ≠ "start") :
    ∃ body name : List Char,
      selectStart text start = "start: " ++ start ++ "\n" ++ String.ofList body ∧
        StartRenamed text.toList body name :=
  ⟨yieldStart text.toList, freeSubstitute (names (scan text.toList)), if_neg other,
    startRenamed_yieldStart text.toList⟩

/-- The rule `start` gives way although its first substitute is in use and a literal and a comment
hold its name. -/
theorem selectStart_renames_start_of_pair :
    "pair" ≠ "start" ∧
      ∃ body name : List Char,
        selectStart "start: x // start\nstart_rule: \"start\"\npair: start x" "pair" =
            "start: " ++ "pair" ++ "\n" ++ String.ofList body ∧
          StartRenamed "start: x // start\nstart_rule: \"start\"\npair: start x".toList
            body name :=
  ⟨by decide, selectStart_renames_start _ _ (by decide)⟩

example :
    selectStart "start: x // start\nstart_rule: \"start\"\npair: start x" "pair" =
      "start: pair\nstart_rule1: x // start\nstart_rule: \"start\"\npair: start_rule1 x" := by
  decide +kernel

end ConstrainedDecoding.Lark
