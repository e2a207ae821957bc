import Mathlib.Data.List.Basic
import ConstrainedDecoding.Json.Reader
import ConstrainedDecoding.Json.Writer
import ConstrainedDecoding.Proofs.Outcome

/-!
# Texts of numbers

A number is written in digits, signs, a point and the letter of an exponent, unless it is one of the
three words for what is infinite or no number (`Json.floatText_cases`), and nothing else is used up
when a number is read (`Json.exists_used_of_readNumber`). That is all there is to be known here
about floating-point numbers: which number a text stands for is a matter of rounding.
-/

namespace ConstrainedDecoding

namespace Json

/-- The characters in which numbers are written. -/
def isNumeral (c : Char) : Bool :=
  isDigit c || c = '.' || c = 'e' || c = 'E' || c = '+' || c = '-'

theorem isNumeral_of_isDigit {c : Char} (digit : isDigit c = true) : isNumeral c = true := by
  simp [isNumeral, digit]

theorem isNumeral_of_all {text : String} (all : text.toList.all isNumeral = true) :
    ∀ c ∈ text.toList, isNumeral c = true :=
  List.all_eq_true.1 all

theorem isDigit_of_mem_toDigits {n : Nat} {c : Char} (member : c ∈ Nat.toDigits 10 n) :
    isDigit c = true := by
  have digit := Nat.isDigit_of_mem_toDigits (by decide) (by decide) member
  simpa [Char.isDigit, isDigit, Char.le_def] using digit

/-! ## What is written -/

theorem isDigit_of_mem_toString {n : Nat} {c : Char} (member : c ∈ (toString n).toList) :
    isDigit c = true := by
  have same : (toString n).toList = Nat.toDigits 10 n := Nat.toList_repr
  rw [same] at member
  exact isDigit_of_mem_toDigits member

/-- Nothing but numerals is written around decimal digits. -/
theorem isNumeral_decimalNotation {digits : List Char}
    (decimal : ∀ c ∈ digits, isDigit c = true) (leading : Int) :
    ∀ c ∈ (decimalNotation digits leading).toList, isNumeral c = true := by
  have numeral : ∀ c ∈ digits, isNumeral c = true := fun c member =>
    isNumeral_of_isDigit (decimal c member)
  have zeros (count : Nat) : ∀ c ∈ List.replicate count '0', isNumeral c = true := by
    intro c member
    rw [List.eq_of_mem_replicate member]
    rfl
  unfold decimalNotation
  by_cases whole : 0 ≤ leading ∧ leading < 16
  · have padded : ∀ c ∈ digits ++ List.replicate (leading.toNat + 1 - digits.length) '0',
        isNumeral c = true := List.forall_mem_append.2 ⟨numeral, zeros _⟩
    rw [if_pos whole, String.toList_ofList]
    refine List.forall_mem_append.2 ⟨fun c member => padded c (List.mem_of_mem_take member),
      List.forall_mem_cons.2 ⟨rfl, ?_⟩⟩
    split_ifs
    · exact zeros 1
    · exact fun c member => padded c (List.mem_of_mem_drop member)
  rw [if_neg whole]
  by_cases fraction : -4 ≤ leading ∧ leading < 0
  · rw [if_pos fraction, String.toList_ofList]
    exact List.forall_mem_cons.2 ⟨rfl, List.forall_mem_cons.2 ⟨rfl,
      List.forall_mem_append.2 ⟨zeros _, numeral⟩⟩⟩
  rw [if_neg fraction]
  have exponent : ∀ c ∈ (toString leading.natAbs).toList, isNumeral c = true :=
    fun c member => isNumeral_of_isDigit (isDigit_of_mem_toString member)
  simp only [String.toList_append, String.toList_ofList]
  refine List.forall_mem_append.2 ⟨List.forall_mem_append.2 ⟨List.forall_mem_append.2
    ⟨?body, ?letter⟩, ?sign⟩, ?exponent⟩
  case body =>
    match digits, numeral with
    | [], _ => exact nofun
    | [d], numeral => exact numeral
    | d :: next :: rest, numeral =>
        obtain ⟨first, rest⟩ := List.forall_mem_cons.1 numeral
        exact List.forall_mem_cons.2 ⟨first, List.forall_mem_cons.2 ⟨rfl, rest⟩⟩
  case letter => exact isNumeral_of_all rfl
  case sign =>
    split_ifs
    · exact isNumeral_of_all rfl
    · exact isNumeral_of_all rfl
  case exponent =>
    split_ifs
    · rw [String.toList_append]
      exact List.forall_mem_append.2 ⟨isNumeral_of_all rfl, exponent⟩
    · exact exponent

theorem decimalNotation_ne_nil (digits : List Char) (leading : Int) :
    (decimalNotation digits leading).toList ≠ [] := by
  unfold decimalNotation
  split_ifs <;> simp

theorem isNumeral_finiteText (value : Binary .double) :
    (∀ c ∈ value.finiteText.toList, isNumeral c = true) ∧ value.finiteText.toList ≠ [] := by
  unfold Binary.finiteText
  generalize value.shortest = found
  obtain ⟨digits, power⟩ := found
  split_ifs
  · exact ⟨isNumeral_of_all rfl, by decide⟩
  · refine ⟨isNumeral_decimalNotation (fun c member => ?_) _, decimalNotation_ne_nil _ _⟩
    have among := (List.dropWhile_sublist _).mem (List.mem_reverse.1 member)
    exact isDigit_of_mem_toString (List.mem_reverse.1 among)

/-- A floating-point number is one of three words, or written in numerals. -/
theorem floatText_cases (value : Binary .double) :
    floatText value = "NaN" ∨ floatText value = "Infinity" ∨ floatText value = "-Infinity" ∨
      (∀ c ∈ (floatText value).toList, isNumeral c = true) ∧ (floatText value).toList ≠ [] := by
  obtain ⟨numeral, nonempty⟩ := isNumeral_finiteText value
  unfold floatText Binary.text
  by_cases nan : value.isNaN = true
  · exact .inl (if_pos nan)
  rw [if_neg nan]
  by_cases infinite : value.isInfinite = true
  · simp only [if_pos infinite]
    split_ifs
    · exact .inr (.inr (.inl rfl))
    · exact .inr (.inl rfl)
  · simp only [if_neg infinite]
    refine .inr (.inr (.inr ?_))
    split_ifs
    · rw [String.toList_append]
      exact ⟨List.forall_mem_append.2 ⟨isNumeral_of_all rfl, numeral⟩, by simp⟩
    · exact ⟨numeral, nonempty⟩

/-! ## What is read -/

/-- A number, be it an integer or not. -/
def IsNumber (json : Json) : Prop :=
  (∃ value, json = .int value) ∨ ∃ value, json = .float value

/-- Characters that were used up where others are left, all of them numerals. -/
def Uses (chars left : List Char) : Prop :=
  ∃ used, chars = used ++ left ∧ ∀ c ∈ used, isNumeral c = true

theorem Uses.refl (chars : List Char) : Uses chars chars :=
  ⟨[], rfl, nofun⟩

theorem Uses.trans {chars middle left : List Char} (first : Uses chars middle)
    (second : Uses middle left) : Uses chars left := by
  obtain ⟨used, rfl, numeral⟩ := first
  obtain ⟨more, rfl, others⟩ := second
  exact ⟨used ++ more, (List.append_assoc ..).symm, List.forall_mem_append.2 ⟨numeral, others⟩⟩

theorem Uses.cons {c : Char} {chars left : List Char} (numeral : isNumeral c = true)
    (uses : Uses chars left) : Uses (c :: chars) left :=
  Uses.trans ⟨[c], rfl, List.forall_mem_singleton.2 numeral⟩ uses

theorem uses_digits (chars : List Char) : Uses chars (chars.dropWhile isDigit) :=
  ⟨chars.takeWhile isDigit, List.takeWhile_append_dropWhile.symm, fun c member =>
    isNumeral_of_isDigit (List.all_eq_true.1 List.all_takeWhile c member)⟩

theorem uses_wholePart (chars : List Char) : Uses chars (wholePart chars).2 := by
  unfold wholePart
  split
  · exact (Uses.refl _).cons rfl
  · exact uses_digits _

theorem uses_fractionPart (chars : List Char) : Uses chars (fractionPart chars).2 := by
  unfold fractionPart
  split
  · split_ifs
    · exact Uses.refl _
    · exact (uses_digits _).cons rfl
  · exact Uses.refl _

theorem uses_exponentSign (chars : List Char) : Uses chars (exponentSign chars).2 := by
  unfold exponentSign
  split
  · exact (Uses.refl _).cons rfl
  · exact (Uses.refl _).cons rfl
  · exact Uses.refl _

theorem uses_exponentPart (chars : List Char) : Uses chars (exponentPart chars).2 := by
  unfold exponentPart
  split
  · exact Uses.refl _
  · rename_i c rest
    by_cases letter : c = 'e' ∨ c = 'E'
    · have numeral : isNumeral c = true := by
        rcases letter with rfl | rfl <;> rfl
      rw [if_pos letter]
      simp only
      split
      · exact Uses.refl _
      · exact ((uses_exponentSign rest).trans (uses_digits _)).cons numeral
    · rw [if_neg letter]
      exact Uses.refl _

/-- Reading a number uses up nothing but numerals. -/
theorem uses_readNumber {chars left : List Char} {json : Json}
    (read : readNumber chars = .ok (json, left)) : Uses chars left ∧ json.IsNumber := by
  unfold readNumber at read
  split at read
  rename_i negative body signed
  have sign : Uses chars body := by
    split at signed
    · cases signed
      exact (Uses.refl _).cons rfl
    · cases signed
      exact Uses.refl _
  have uses : Uses chars
      (exponentPart (fractionPart (wholePart body).2).2).2 :=
    sign.trans ((uses_wholePart _).trans ((uses_fractionPart _).trans (uses_exponentPart _)))
  simp only at read
  split_ifs at read
  · cases read
    exact ⟨uses, .inl ⟨_, rfl⟩⟩
  · cases read
    exact ⟨uses, .inl ⟨_, rfl⟩⟩
  · cases read
    exact ⟨uses, .inr ⟨_, rfl⟩⟩

end Json

end ConstrainedDecoding
