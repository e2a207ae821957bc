import ConstrainedDecoding.Proofs.Outcome
import ConstrainedDecoding.Url.Host

/-!
# Hosts in normal form

What is kept of a host is an address in brackets or a name of characters that may stand in a host.
Such a host reads back as itself, but for the case of letters (`Host.again_of_isSettled`).
-/

namespace ConstrainedDecoding

/-! ## Characters of hosts -/

/-- What holds for each code of ASCII holds for its characters. -/
theorem Punycode.forall_isAscii (holds : Char → Prop)
    (table : ∀ code < 0x80, holds (Char.ofNat code)) {c : Char} (ascii : isAscii c = true) :
    holds c := by
  have known := table c.toNat (of_decide_eq_true ascii)
  rw [Char.ofNat_toNat] at known
  exact known

namespace Percent

variable {c : Char} {chars : List Char}

/-- Letters and digits by their codes. -/
theorem isAlphanum_iff : c.isAlphanum = true ↔
    (65 ≤ c.toNat ∧ c.toNat ≤ 90 ∨ 97 ≤ c.toNat ∧ c.toNat ≤ 122) ∨
      48 ≤ c.toNat ∧ c.toNat ≤ 57 := by
  have upper : c.isUpper = true ↔ 65 ≤ c.toNat ∧ c.toNat ≤ 90 := decide_eq_true_iff
  have lower : c.isLower = true ↔ 97 ≤ c.toNat ∧ c.toNat ≤ 122 :=
    Bool.and_eq_true_iff.trans (and_congr decide_eq_true_iff decide_eq_true_iff)
  have digit : c.isDigit = true ↔ 48 ≤ c.toNat ∧ c.toNat ≤ 57 :=
    Bool.and_eq_true_iff.trans (and_congr decide_eq_true_iff decide_eq_true_iff)
  rw [Char.isAlphanum, Bool.or_eq_true_iff, digit, ← upper, ← lower]
  exact or_congr Bool.or_eq_true_iff Iff.rfl

theorem inHost_of_isAlphanum (alphanum : c.isAlphanum = true) : inHost c = true := by
  rw [inHost, alphanum, Bool.true_or]

theorem isAscii_of_inHost (inside : inHost c = true) : Punycode.isAscii c = true := by
  rcases Bool.or_eq_true_iff.1 inside with alphanum | sign
  · have codes := isAlphanum_iff.1 alphanum
    exact decide_eq_true (by omega)
  · have signs : ∀ c ∈ "-._~!$&'()*+,;=\"\x60\x7b\x7d%|\\".toList, Punycode.isAscii c = true :=
      List.all_eq_true.1 (by decide)
    exact signs c (List.contains_iff_mem.1 sign)

theorem inHost_hexDigit {value : Nat} (small : value < 16) :
    inHost (Text.hexDigit value).toUpper = true := by
  have all : ∀ value < 16, inHost (Text.hexDigit value).toUpper = true := by decide
  exact all value small

theorem inHost_of_hexValue? (digit : (Text.hexValue? c).isSome = true) : inHost c = true := by
  refine inHost_of_isAlphanum (isAlphanum_iff.2 ?_)
  unfold Text.hexValue? at digit
  split at digit
  · next bounds => exact .inr bounds
  split at digit
  · next bounds => exact .inl (.inr ⟨bounds.1, Nat.le_trans bounds.2 (by decide)⟩)
  split at digit
  · next bounds => exact .inl (.inl ⟨bounds.1, Nat.le_trans bounds.2 (by decide)⟩)
  · cases digit

theorem mem_hexDigits {width value : Nat} {c : Char} (member : c ∈ Text.hexDigits width value) :
    ∃ digit < 16, c = Text.hexDigit digit := by
  induction width generalizing value with
  | zero => cases member
  | succ width ih =>
      rcases List.mem_append.1 member with earlier | last
      · exact ih earlier
      · exact ⟨value % 16, by omega, List.mem_singleton.1 last⟩

theorem inHost_escape (byte : UInt8) : ∀ c ∈ escape byte, inHost c = true := by
  intro c member
  rcases List.mem_cons.1 member with rfl | digit
  · decide
  · obtain ⟨lower, among, rfl⟩ := List.mem_map.1 digit
    obtain ⟨value, small, rfl⟩ := mem_hexDigits among
    exact inHost_hexDigit small

theorem inHost_encodeChar (c : Char) : ∀ d ∈ encodeChar inHost c, inHost d = true := by
  intro d member
  unfold encodeChar at member
  by_cases inside : inHost c = true
  · rw [if_pos inside] at member
    rw [List.mem_singleton.1 member]
    exact inside
  · rw [if_neg inside] at member
    obtain ⟨byte, _, among⟩ := List.mem_flatMap.1 member
    exact inHost_escape byte d among

/-- What is encoded for a host may stand in a host. -/
theorem inHost_encodeChars (chars : List Char) :
    ∀ c ∈ encodeChars inHost chars, inHost c = true := by
  induction chars using encodeChars.induct with
  | case1 => exact fun c member => absurd member List.not_mem_nil
  | case2 high low rest pair ih =>
      obtain ⟨highDigit, lowDigit⟩ := Bool.and_eq_true_iff.1 pair
      rw [encodeChars, if_pos pair]
      intro c member
      rcases List.mem_cons.1 member with rfl | member
      · decide
      rcases List.mem_cons.1 member with rfl | member
      · exact inHost_of_hexValue? highDigit
      rcases List.mem_cons.1 member with rfl | member
      · exact inHost_of_hexValue? lowDigit
      · exact ih c member
  | case3 high low rest noPair ih =>
      rw [encodeChars, if_neg noPair]
      intro c member
      rcases List.mem_append.1 member with first | later
      · exact inHost_encodeChar '%' c first
      · exact ih c later
  | case4 c rest noEscape ih =>
      rw [encodeChars]
      · intro d member
        rcases List.mem_append.1 member with first | later
        · exact inHost_encodeChar c d first
        · exact ih d later
      · exact noEscape

/-- What may stand in a host already is not encoded again. -/
theorem encodeChars_of_inHost (inside : ∀ c ∈ chars, inHost c = true) :
    encodeChars inHost chars = chars := by
  induction chars using encodeChars.induct with
  | case1 => rfl
  | case2 high low rest pair ih =>
      rw [encodeChars, if_pos pair, ih]
      intro c member
      exact inside c (by simp [member])
  | case3 high low rest noPair ih =>
      rw [encodeChars, if_neg noPair, encodeChar, if_pos (inside '%' List.mem_cons_self), ih]
      · rfl
      · exact fun c member => inside c (List.mem_cons_of_mem _ member)
  | case4 c rest noEscape ih =>
      rw [encodeChars, encodeChar, if_pos (inside c List.mem_cons_self), ih]
      · rfl
      · exact fun c member => inside c (List.mem_cons_of_mem _ member)
      · exact noEscape

end Percent

/-! ## Lower case -/

namespace Text

/-- Of the capital letters of ASCII the lower forms are the usual ones. -/
theorem findSome?_lower_of_isAscii {c : Char} (ascii : Punycode.isAscii c = true) :
    ((capitalRuns.findSome? (·.lower? c.toNat)).map Char.ofNat).getD c = c.toLower := by
  have small : c.toNat < 0x80 := of_decide_eq_true ascii
  have beyond : ∀ run ∈ capitalRuns.tail, 0x80 ≤ run.first := by decide +kernel
  have split : capitalRuns = ⟨0x41, 0x5a, 1, 32⟩ :: capitalRuns.tail := rfl
  have nowhere : capitalRuns.tail.findSome? (·.lower? c.toNat) = none := by
    rw [List.findSome?_eq_none_iff]
    intro run member
    have above := beyond run member
    rw [CaseRun.lower?, if_neg]
    omega
  have known : ((CaseRun.lower? ⟨0x41, 0x5a, 1, 32⟩ c.toNat).map Char.ofNat).getD c =
      c.toLower :=
    Punycode.forall_isAscii
      (fun c => ((CaseRun.lower? ⟨0x41, 0x5a, 1, 32⟩ c.toNat).map Char.ofNat).getD c = c.toLower)
      (by decide) ascii
  rw [split, List.findSome?_cons, nowhere]
  cases found : CaseRun.lower? ⟨0x41, 0x5a, 1, 32⟩ c.toNat with
  | none =>
      rw [found] at known
      exact known
  | some code =>
      rw [found] at known
      exact known

theorem lowerFrom_of_isAscii {content : List Char}
    (ascii : content.all Punycode.isAscii = true) (before : List Char) :
    lowerFrom before content = content.map Char.toLower := by
  induction content generalizing before with
  | nil => rfl
  | cons c rest ih =>
      obtain ⟨first, others⟩ := Bool.and_eq_true_iff.1 ascii
      have noSigma : c ≠ 'Σ' := by
        rintro rfl
        exact absurd first (by decide)
      have noDottedI : c ≠ 'İ' := by
        rintro rfl
        exact absurd first (by decide)
      rw [lowerFrom, lowerChar, if_neg noSigma, if_neg noDottedI,
        findSome?_lower_of_isAscii first, ih others]
      rfl

theorem CodeSet.has_eq_false {set : CodeSet} {c : Char} (ascii : Punycode.isAscii c = true)
    (beyond : ∀ range ∈ set, 0x80 ≤ range.1) : set.has c = false := by
  have small : c.toNat < 0x80 := of_decide_eq_true ascii
  rw [has, List.any_eq_false]
  intro range member
  have above := beyond range member
  simp
  omega

end Text

/-! ## Labels -/

namespace Label

variable {c : Char}

theorem inHost_of_isPlain (ascii : Punycode.isAscii c = true) (plain : isPlain c = true) :
    Percent.inHost c = true := by
  have beyond : ∀ range ∈ plainRanges.drop 3, 0x80 ≤ range.1 := by decide +kernel
  have wideBeyond : ∀ range ∈ widePlainRanges, 0x80 ≤ range.1 := by decide +kernel
  have split : plainRanges = [(0x2d, 0x2d), (0x30, 0x39), (0x61, 0x7a)] ++ plainRanges.drop 3 :=
    rfl
  have none_beyond := Text.CodeSet.has_eq_false ascii beyond
  have none_wide := Text.CodeSet.has_eq_false ascii wideBeyond
  rw [isPlain, none_wide, Bool.or_false, split, Text.CodeSet.has, List.any_append] at plain
  rw [Text.CodeSet.has] at none_beyond
  rw [none_beyond, Bool.or_false] at plain
  exact Punycode.forall_isAscii
    (fun c => Text.CodeSet.has [(0x2d, 0x2d), (0x30, 0x39), (0x61, 0x7a)] c = true →
      Percent.inHost c = true) (by decide) ascii plain

theorem ne_of_isAscii (ascii : Punycode.isAscii c = true) {sign : Char}
    (wide : Punycode.isAscii sign = false) : c ≠ sign := by
  rintro rfl
  rw [wide] at ascii
  cases ascii

theorem signFits?_of_isAscii (ascii : Punycode.isAscii c = true) (before after : List Char) :
    signFits? c before after = none := by
  have small : c.toNat < 0x80 := of_decide_eq_true ascii
  have noArabic : ¬ ('\u0660' ≤ c ∧ c ≤ '\u0669') := by
    simp only [Char.le_def, UInt32.le_iff_toNat_le]
    simp
    omega
  have noPersian : ¬ ('\u06f0' ≤ c ∧ c ≤ '\u06f9') := by
    simp only [Char.le_def, UInt32.le_iff_toNat_le]
    simp
    omega
  unfold signFits?
  simp only [ne_of_isAscii ascii (show Punycode.isAscii '\u00b7' = false from rfl),
    ne_of_isAscii ascii (show Punycode.isAscii '\u0375' = false from rfl),
    ne_of_isAscii ascii (show Punycode.isAscii '\u05f3' = false from rfl),
    ne_of_isAscii ascii (show Punycode.isAscii '\u05f4' = false from rfl),
    ne_of_isAscii ascii (show Punycode.isAscii '\u30fb' = false from rfl),
    noArabic, noPersian, if_false, or_false]

/-- Of the ASCII characters a label holds only plain ones. -/
theorem inHost_of_checkChar {before after : List Char} (ascii : Punycode.isAscii c = true)
    (passed : checkChar c before after = .ok ()) : Percent.inHost c = true := by
  have noJoiner : isJoiner c = false := by
    simp [isJoiner, ne_of_isAscii ascii (show Punycode.isAscii '\u200c' = false from rfl),
      ne_of_isAscii ascii (show Punycode.isAscii '\u200d' = false from rfl)]
  cases plain : isPlain c with
  | true => exact inHost_of_isPlain ascii plain
  | false =>
      rw [checkChar, plain, noJoiner, signFits?_of_isAscii ascii] at passed
      cases passed

theorem inHost_of_checkChars {before label : List Char}
    (passed : checkChars before label = .ok ()) :
    ∀ c ∈ label, Punycode.isAscii c = true → Percent.inHost c = true := by
  induction label generalizing before with
  | nil => exact fun c member => absurd member List.not_mem_nil
  | cons c rest ih =>
      rw [checkChars] at passed
      obtain ⟨⟨⟩, checked, others⟩ := bind_eq_ok.1 passed
      intro d member ascii
      rcases List.mem_cons.1 member with rfl | later
      · exact inHost_of_checkChar ascii checked
      · exact ih others d later ascii

theorem inHost_of_check {label : List Char} (passed : check label = .ok ()) :
    ∀ c ∈ label, Punycode.isAscii c = true → Percent.inHost c = true := by
  unfold check at passed
  extract_lets goesOn at passed
  split at passed
  · cases passed
  · obtain ⟨⟨⟩, checked, _⟩ := bind_eq_ok.1 passed
    exact inHost_of_checkChars checked

end Label

/-! ## Encoded labels -/

namespace Punycode

theorem inHost_digit {value : Nat} (small : value < 36) : Percent.inHost (digit value) = true := by
  have all : ∀ value < 36, Percent.inHost (digit value) = true := by decide
  exact all value small

theorem threshold_le (bias place : Nat) : threshold bias place ≤ 26 := by
  unfold threshold
  omega

theorem inHost_numeral (bias fuel place distance : Nat) :
    ∀ c ∈ numeral bias fuel place distance, Percent.inHost c = true := by
  induction fuel generalizing place distance with
  | zero => exact fun c member => absurd member List.not_mem_nil
  | succ fuel ih =>
      have least := threshold_le bias place
      intro c member
      unfold numeral at member
      dsimp only at member
      by_cases last : distance < threshold bias place
      · rw [if_pos last] at member
        rw [List.mem_singleton.1 member]
        exact inHost_digit (by omega)
      · rw [if_neg last] at member
        rcases List.mem_cons.1 member with rfl | later
        · have remainder : (distance - threshold bias place) % (36 - threshold bias place) <
              36 - threshold bias place := Nat.mod_lt _ (by omega)
          exact inHost_digit (by omega)
        · exact ih _ _ c later

theorem inHost_pass {code : Nat} {progress : Progress}
    (written : ∀ c ∈ progress.written, Percent.inHost c = true) (c : Char) :
    ∀ d ∈ (pass code progress c).written, Percent.inHost d = true := by
  unfold pass
  split
  · exact written
  · split
    · intro d member
      rcases List.mem_append.1 member with earlier | now
      · exact written d earlier
      · exact inHost_numeral _ _ _ _ d now
    · exact written

theorem inHost_foldl_pass {code : Nat} {progress : Progress} (label : List Char)
    (written : ∀ c ∈ progress.written, Percent.inHost c = true) :
    ∀ d ∈ (label.foldl (pass code) progress).written, Percent.inHost d = true := by
  induction label generalizing progress with
  | nil => exact written
  | cons c rest ih => exact ih (inHost_pass written c)

theorem inHost_place {label : List Char} {next : Nat} {progress : Progress} (codes : List Nat)
    (written : ∀ c ∈ progress.written, Percent.inHost c = true) :
    ∀ d ∈ place label next progress codes, Percent.inHost d = true := by
  induction codes generalizing next progress with
  | nil => exact written
  | cons code rest ih =>
      rw [place]
      apply ih
      apply inHost_foldl_pass
      exact written

theorem inHost_encode {label : List Char}
    (plain : ∀ c ∈ label, isAscii c = true → Percent.inHost c = true) :
    ∀ c ∈ encode label, Percent.inHost c = true := by
  intro c member
  rcases List.mem_append.1 member with front | numerals
  · split at front
    · cases front
    · rcases List.mem_append.1 front with kept | hyphen
      · obtain ⟨among, ascii⟩ := List.mem_filter.1 kept
        exact plain c among ascii
      · rw [List.mem_singleton.1 hyphen]
        decide
  · exact inHost_place _ (fun d none => absurd none List.not_mem_nil) c numerals

/-! ## Decoding keeps what is plain -/

theorem mem_putAll {label : List Char} {code position bias : Nat} {first : Bool} {fuel : Nat}
    {chars : List Char} {c : Char} (member : c ∈ label) :
    c ∈ (putAll label code position bias first fuel chars).1 := by
  induction fuel generalizing label code position bias first chars with
  | zero =>
      cases chars with
      | nil => exact member
      | cons _ _ => exact member
  | succ fuel ih =>
      cases chars with
      | nil => exact member
      | cons d rest =>
          rw [putAll]
          split
          · exact member
          · rename_i distance left _
            apply ih
            rw [List.mem_append, List.mem_cons]
            rw [← List.take_append_drop
              ((position + distance) % (label.length + 1)) label, List.mem_append] at member
            rcases member with front | back
            · exact .inl front
            · exact .inr (.inr back)
          · exact List.cons_ne_nil d rest

theorem inHost_of_digitValue? {c : Char} {value : Nat} (known : digitValue? c = some value) :
    Percent.inHost c = true := by
  refine Percent.inHost_of_isAlphanum (Percent.isAlphanum_iff.2 ?_)
  unfold digitValue? at known
  split at known
  · next bounds => exact .inl (.inr bounds)
  split at known
  · next bounds => exact .inr bounds
  · cases known

/-- What is read of a distance are digits. -/
theorem inHost_of_readDistance {bias place weight distance reached : Nat} {chars left : List Char}
    (known : readDistance bias place weight distance chars = some (reached, left)) :
    ∀ c ∈ chars, Percent.inHost c = true ∨ c ∈ left := by
  induction chars generalizing place weight distance with
  | nil => exact fun c member => absurd member List.not_mem_nil
  | cons d rest ih =>
      rw [readDistance] at known
      obtain ⟨value, digit, known⟩ := Option.bind_eq_some_iff.1 known
      intro c member
      rcases List.mem_cons.1 member with rfl | later
      · exact .inl (inHost_of_digitValue? digit)
      · dsimp only at known
        split at known
        · cases known
          exact .inr later
        · exact ih known c later

theorem inHost_of_putAll {label : List Char} {code position bias : Nat} {first : Bool} {fuel : Nat}
    {chars : List Char} (whole : (putAll label code position bias first fuel chars).2 = true) :
    ∀ c ∈ chars, Percent.inHost c = true := by
  induction fuel generalizing label code position bias first chars with
  | zero =>
      cases chars with
      | nil => exact fun c member => absurd member List.not_mem_nil
      | cons _ _ => cases whole
  | succ fuel ih =>
      cases chars with
      | nil => exact fun c member => absurd member List.not_mem_nil
      | cons d rest =>
          rw [putAll] at whole
          · split at whole
            · cases whole
            · rename_i distance left known
              obtain ⟨others, _⟩ := Bool.and_eq_true_iff.1 whole
              intro c member
              rcases inHost_of_readDistance known c member with digit | later
              · exact digit
              · exact ih others c later
          · exact List.cons_ne_nil d rest

theorem mem_takeWhile_or_tail (mark : Char) {c : Char} {chars : List Char} (member : c ∈ chars) :
    c ∈ chars.takeWhile (· ≠ mark) ∨ c = mark ∨ c ∈ (chars.dropWhile (· ≠ mark)).tail := by
  rw [← List.takeWhile_append_dropWhile (p := (· ≠ mark)) (l := chars), List.mem_append] at member
  rcases member with front | back
  · exact .inl front
  · cases cut : chars.dropWhile (· ≠ mark) with
    | nil =>
        rw [cut] at back
        cases back
    | cons d rest =>
        have stopped := List.head?_dropWhile_not (· ≠ mark) chars
        rw [cut] at back stopped
        have same : d = mark := by simpa using stopped
        rcases List.mem_cons.1 back with rfl | later
        · exact .inr (.inl same)
        · exact .inr (.inr later)

/-- An encoded form has no strange characters if the label that it stands for has none. -/
theorem inHost_of_decode? {encoded label : List Char} (known : decode? encoded = some label)
    (ascii : ∀ c ∈ encoded, isAscii c = true)
    (plain : ∀ c ∈ label, isAscii c = true → Percent.inHost c = true) :
    ∀ c ∈ encoded, Percent.inHost c = true := by
  unfold decode? split at known
  dsimp only at known
  split at known
  case isTrue whole =>
    cases known
    intro c member
    have reversed : c ∈ encoded.reverse := List.mem_reverse.2 member
    rcases mem_takeWhile_or_tail '-' reversed with digit | rfl | kept
    · exact inHost_of_putAll whole c (List.mem_reverse.2 digit)
    · decide
    · exact plain c (mem_putAll (List.mem_reverse.2 kept)) (ascii c member)
  case isFalse => cases known

end Punycode

/-! ## Names -/

namespace DomainName

open Percent

theorem inHost_of_readLabel {label read : List Char} (known : readLabel label = .ok read)
    (ascii : ∀ c ∈ label, Punycode.isAscii c = true) : ∀ c ∈ label, inHost c = true := by
  unfold readLabel at known
  split at known
  case isTrue marked =>
    obtain ⟨_, decoded⟩ := checked_eq_ok.1 known
    split at decoded
    case h_1 => cases decoded
    case h_2 plain decodes =>
      obtain ⟨⟨⟩, checked, ⟨⟩⟩ := bind_eq_ok.1 decoded
      have encodedAscii : ∀ c ∈ label.drop mark.length, Punycode.isAscii c = true :=
        fun c member => ascii c (List.mem_of_mem_drop member)
      have encodedInside := Punycode.inHost_of_decode? decodes encodedAscii
        (Label.inHost_of_check checked)
      obtain ⟨encoded, rfl⟩ := List.isPrefixOf_iff_prefix.1 marked.1
      rw [List.drop_left] at encodedInside
      intro c member
      rcases List.mem_append.1 member with inMark | later
      · have markInside : ∀ c ∈ mark, inHost c = true := List.all_eq_true.1 rfl
        exact markInside c inMark
      · exact encodedInside c later
  case isFalse =>
    obtain ⟨⟨⟩, checked, -⟩ := bind_eq_ok.1 known
    exact fun c member => Label.inHost_of_check checked c member (ascii c member)

theorem inHost_of_writeLabel {label written : List Char} (known : writeLabel label = .ok written) :
    ∀ c ∈ written, inHost c = true := by
  unfold writeLabel at known
  obtain ⟨read, reads, known⟩ := bind_eq_ok.1 known
  obtain ⟨_, ⟨⟩⟩ := checked_eq_ok.1 known
  split
  case isTrue ascii => exact inHost_of_readLabel reads (List.all_eq_true.1 ascii)
  case isFalse wide =>
    have checked : Label.check label = .ok () := by
      unfold readLabel at reads
      rw [if_neg (fun both => wide both.2)] at reads
      obtain ⟨⟨⟩, checked, -⟩ := bind_eq_ok.1 reads
      exact checked
    intro c member
    rcases List.mem_append.1 member with inMark | later
    · have markInside : ∀ c ∈ mark, inHost c = true := List.all_eq_true.1 rfl
      exact markInside c inMark
    · exact Punycode.inHost_encode (Label.inHost_of_check checked) c later

theorem mem_of_mem_intersperse {divider part : List Char} {parts : List (List Char)}
    (member : part ∈ List.intersperse divider parts) : part = divider ∨ part ∈ parts := by
  induction parts with
  | nil => cases member
  | cons first rest ih =>
      cases rest with
      | nil => exact .inr member
      | cons second others =>
          rw [List.intersperse_cons_cons] at member
          rcases List.mem_cons.1 member with rfl | member
          · exact .inr List.mem_cons_self
          rcases List.mem_cons.1 member with rfl | member
          · exact .inl rfl
          rcases ih member with same | later
          · exact .inl same
          · exact .inr (List.mem_cons_of_mem _ later)

/-- The written form of a name has only characters that may stand in a host. -/
theorem inHost_of_write {name written : List Char} (known : write name = .ok written) :
    ∀ c ∈ written, inHost c = true := by
  unfold write at known
  obtain ⟨mapped, maps, known⟩ := bind_eq_ok.1 known
  obtain ⟨_, ⟨⟩⟩ := checked_eq_ok.1 known
  unfold mapLabels at maps
  obtain ⟨_, passed⟩ := checked_eq_ok.1 maps
  dsimp only at passed
  obtain ⟨labels, written, ⟨⟩⟩ := bind_eq_ok.1 (checked_eq_ok.1 passed).2
  intro c member
  obtain ⟨part, among, inside⟩ := List.mem_flatten.1 member
  have dotInside : ∀ c ∈ ['.'], inHost c = true := List.all_eq_true.1 rfl
  rcases mem_of_mem_intersperse among with rfl | among
  · exact dotInside c inside
  rcases List.mem_append.1 among with label | trailing
  · obtain ⟨_, _, writes⟩ := exists_of_mem_mapM written part label
    exact inHost_of_writeLabel writes c inside
  · split at trailing
    · rw [List.mem_singleton.1 trailing] at inside
      cases inside
    · cases trailing

end DomainName

/-! ## Hosts -/

namespace Host

open Percent

theorem mem_of_splitOnP (divides : Char → Bool) {chars : List Char} {c : Char}
    (member : c ∈ chars) : divides c = true ∨ ∃ part ∈ chars.splitOnP divides, c ∈ part := by
  induction chars with
  | nil => cases member
  | cons d rest ih =>
      rw [List.splitOnP_cons_eq_if_modifyHead]
      by_cases divider : divides d = true
      · rw [if_pos divider]
        rcases List.mem_cons.1 member with rfl | later
        · exact .inl divider
        · rcases ih later with found | ⟨part, among, inside⟩
          · exact .inl found
          · exact .inr ⟨part, List.mem_cons_of_mem _ among, inside⟩
      · rw [if_neg divider]
        cases parts : rest.splitOnP divides with
        | nil => exact absurd parts (List.splitOnP_ne_nil divides rest)
        | cons first others =>
            rw [parts] at ih
            rcases List.mem_cons.1 member with rfl | later
            · exact .inr ⟨_, List.mem_cons_self, List.mem_cons_self⟩
            · rcases ih later with found | ⟨part, among, inside⟩
              · exact .inl found
              rcases List.mem_cons.1 among with rfl | among
              · exact .inr ⟨_, List.mem_cons_self, List.mem_cons_of_mem _ inside⟩
              · exact .inr ⟨part, List.mem_cons_of_mem _ among, inside⟩

/-- What reads as four groups is written in digits and dots. -/
theorem digit_or_dot_of_isFourGroups {host : List Char} (groups : isFourGroups host = true) :
    ∀ c ∈ host, c = '.' ∨ c.isDigit = true := by
  intro c member
  obtain ⟨_, digits⟩ := Bool.and_eq_true_iff.1 groups
  rcases mem_of_splitOnP (· = '.') member with dot | ⟨part, among, inside⟩
  · exact .inl (of_decide_eq_true dot)
  · obtain ⟨_, allDigits⟩ := Bool.and_eq_true_iff.1 (List.all_eq_true.1 digits part among)
    exact .inr (List.all_eq_true.1 allDigits c inside)

/-- A host as it is kept: of characters that may stand in one, or an address in brackets. -/
def IsSettled (host : List Char) : Prop :=
  (∀ c ∈ host, inHost c = true) ∨ (isIPv6 host = true ∧ '@' ∉ host)

theorem isSettled_of_normalize {text host : String} (known : normalize text = .ok host)
    (noAt : '@' ∉ text.toList) : IsSettled host.toList := by
  unfold normalize at known
  dsimp only at known
  split at known
  case isTrue => 
    cases known
    exact .inl fun c member => absurd member List.not_mem_nil
  split at known
  case isTrue groups =>
    split at known
    · cases known
      refine .inl fun c member => ?_
      rcases digit_or_dot_of_isFourGroups groups c member with rfl | digit
      · decide
      · rw [inHost, Char.isAlphanum, digit, Bool.or_true, Bool.true_or]
    · cases known
  split at known
  case isTrue brackets =>
    split at known
    · rename_i address
      cases known
      refine .inr ⟨by simpa using address, fun member => ?_⟩
      rw [String.toList_ofList] at member
      exact noAt (List.mem_of_mem_drop (List.dropLast_subset _ member))
    · cases known
  split at known
  · obtain rfl := Except.ok.inj known
    refine .inl fun c member => ?_
    rw [encode, String.toList_ofList] at member
    exact inHost_encodeChars _ c member
  · split at known
    · rename_i written writes
      cases known
      rw [String.toList_ofList]
      exact .inl (DomainName.inHost_of_write writes)
    · cases known

/-! ## Reading a host again -/

theorem splitAtGap_of_noColon {text : List Char} (noColon : ':' ∉ text) :
    splitAtGap text = (text, none) := by
  induction text with
  | nil => rfl
  | cons c rest ih =>
      obtain ⟨first, others⟩ := not_or.1 (fun both => noColon (List.mem_cons.2 both))
      have noGap : ∀ back, c = ':' → rest = ':' :: back → False :=
        fun _ colon _ => first colon.symm
      rw [splitAtGap, ih others]
      exact noGap

/-- An address of the other kind has colons. -/
theorem colon_of_isIPv6 {text : List Char} (address : isIPv6 text = true) : ':' ∈ text := by
  by_cases colon : ':' ∈ text
  · exact colon
  have noneInFront : ':' ∉ text.takeWhile (· ≠ '%') :=
    fun member => colon ((List.takeWhile_sublist _).subset member)
  have oneGroup : (text.takeWhile (· ≠ '%')).splitOnP (· = ':') = [text.takeWhile (· ≠ '%')] := by
    apply List.splitOnP_eq_singleton
    intro c member
    exact decide_eq_false fun same => noneInFront (same ▸ member)
  have few : groupCount? true (text.takeWhile (· ≠ '%')) ≠ some 8 := by
    rw [groupCount?, oneGroup]
    simp only [List.dropLast_singleton, List.getLast?_singleton, List.length_nil, List.all_nil]
    split
    · simp
    · split
      · simp
      · split
        · simp
        · split
          · simp
          · simp
  obtain ⟨whole, _⟩ := Bool.and_eq_true_iff.1 address
  rw [isAddress, splitAtGap_of_noColon noneInFront] at whole
  exact absurd (of_decide_eq_true whole) few

/-- The same text but for the case of letters. -/
def IsSame (left right : String) : Prop :=
  left.toList.map Char.toLower = right.toList.map Char.toLower

theorem isFourGroups_bracket (rest : List Char) : isFourGroups ('[' :: rest) = false := by
  rw [Bool.eq_false_iff]
  intro groups
  rcases digit_or_dot_of_isFourGroups groups '[' List.mem_cons_self with dot | digit
  · cases dot
  · cases digit

theorem toLower_toLower (c : Char) : c.toLower.toLower = c.toLower := by
  unfold Char.toLower
  split
  case isTrue capital =>
    split
    case isTrue again =>
      simp [UInt32.le_iff_toNat_le] at capital again
      omega
    case isFalse => rfl
  case isFalse => rfl

theorem isSame_lowercase {host : String} (ascii : host.toList.all Punycode.isAscii = true) :
    IsSame (Text.lowercase host) host := by
  rw [IsSame, Text.lowercase, String.toList_ofList, Text.lowerFrom_of_isAscii ascii, List.map_map]
  apply List.map_congr_left
  exact fun c _ => toLower_toLower c

theorem inHost_toLower {c : Char} (inside : inHost c = true) : inHost c.toLower = true := by
  exact Punycode.forall_isAscii (fun c => inHost c = true → inHost c.toLower = true)
    (by decide +kernel) (isAscii_of_inHost inside) inside

/-- A name that is kept reads back as itself but for the case of letters. -/
theorem isSame_of_normalize_name {host again : String}
    (inside : ∀ c ∈ host.toList, inHost c = true) (known : normalize host = .ok again) :
    IsSame again host := by
  have ascii : host.toList.all Punycode.isAscii = true :=
    List.all_eq_true.2 fun c member => isAscii_of_inHost (inside c member)
  have lowered : encode inHost (Text.lowercase host) = Text.lowercase host := by
    rw [encode, encodeChars_of_inHost, String.ofList_toList]
    intro c member
    rw [Text.lowercase, String.toList_ofList, Text.lowerFrom_of_isAscii ascii] at member
    obtain ⟨d, among, rfl⟩ := List.mem_map.1 member
    exact inHost_toLower (inside d among)
  unfold normalize at known
  simp only [ascii, if_true] at known
  split at known
  case isTrue empty =>
    cases known
    rw [String.isEmpty_iff.1 empty]
    rfl
  split at known
  case isTrue groups =>
    split at known
    · cases known
      rfl
    · cases known
  split at known
  case isTrue brackets =>
    have bracket : inHost '[' = true := inside '[' (List.mem_of_head? brackets.1)
    exact absurd bracket (by decide)
  obtain rfl := Except.ok.inj known
  rw [lowered]
  exact isSame_lowercase ascii

/-- An address in brackets reads back as itself. -/
theorem normalize_brackets {inner : String} (address : isIPv6 inner.toList = true) :
    normalize ("[" ++ inner ++ "]") = .ok inner := by
  have content : ("[" ++ inner ++ "]").toList = '[' :: (inner.toList ++ [']']) := by
    simp [String.toList_append]
  have nonempty : ("[" ++ inner ++ "]").isEmpty = false := by
    rw [Bool.eq_false_iff]
    intro empty
    rw [String.isEmpty_iff.1 empty] at content
    cases content
  have inBrackets : (('[' :: (inner.toList ++ [']'])).drop 1).dropLast = inner.toList := by simp
  have brackets : ('[' :: (inner.toList ++ [']'])).head? = some '[' ∧
      ('[' :: (inner.toList ++ [']'])).getLast? = some ']' := by
    constructor
    · rfl
    · rw [← List.cons_append]
      exact List.getLast?_concat
  unfold normalize
  dsimp only
  rw [nonempty, content, isFourGroups_bracket, if_neg Bool.false_ne_true, if_neg Bool.false_ne_true,
    if_pos brackets, inBrackets, if_pos address, String.ofList_toList]

end Host

end ConstrainedDecoding
