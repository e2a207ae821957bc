import Mathlib.Tactic.IntervalCases
import ConstrainedDecoding.Proofs.JsonLimits
import ConstrainedDecoding.Proofs.NumberText

/-!
# Reading back what was written

The text of a value is read as that value exactly when the value is within the limits of reading
(`Json.toOption_readWithin_render`), provided it holds no floating-point number and no object names
a member twice. Quotes, backslashes and control characters come back from their escapes, integers
from their digits, and members in their order. The proof runs along the value: each part is read up
to its end, where a comma or a closing bracket stands, or nothing at all.
-/

namespace ConstrainedDecoding

/-! ## Hexadecimal digits -/

namespace Text

theorem hexValue?_hexDigit {value : Nat} (small : value < 16) :
    hexValue? (hexDigit value) = some value := by
  interval_cases value <;> rfl

theorem hexNumber?_hexDigits (width value : Nat) :
    hexNumber? (hexDigits width value) = some (value % 16 ^ width) := by
  induction width generalizing value with
  | zero => simp [hexDigits, hexNumber?, Nat.mod_one]
  | succ width ih =>
      have digit : hexValue? (hexDigit (value % 16)) = some (value % 16) :=
        hexValue?_hexDigit (Nat.mod_lt _ (by decide))
      have split : value / 16 % 16 ^ width * 16 + value % 16 = value % 16 ^ (width + 1) := by
        rw [Nat.pow_succ', Nat.mod_mul]
        omega
      unfold hexNumber? at ih ⊢
      rw [hexDigits, List.foldlM_append, ih]
      simp [digit, split]

end Text

namespace Json

/-! ## Values that survive -/

/-- Whether a value survives being written: no floating-point number occurs, and no object names a
member twice. -/
def isPlain (json : Json) : Bool :=
  json.isFloatFree && json.hasDistinctNames

theorem isPlain_array (items : List Json) : (array items).isPlain = items.all isPlain := by
  rw [Bool.eq_iff_iff]
  simp only [isPlain, isFloatFree_array, hasDistinctNames_array, List.all_eq_true,
    Bool.and_eq_true]
  exact forall₂_and.symm

theorem isPlain_object (members : List (String × Json)) : (object members).isPlain =
    (decide (Keyed.keys members).Nodup && members.all fun member => member.2.isPlain) := by
  rw [Bool.eq_iff_iff]
  simp only [isPlain, isFloatFree_object, hasDistinctNames_object, List.all_eq_true,
    Bool.and_eq_true, decide_eq_true_eq]
  rw [and_left_comm]
  exact and_congr_right fun _ => forall₂_and.symm

/-- Nothing follows, or something that can only follow a value that is complete. -/
def Closes : List Char → Prop
  | [] => True
  | c :: _ => c = ',' ∨ c = ']' ∨ c = '}'

/-! ## Integers -/

theorem digitsValue_toDigits (n : Nat) : digitsValue (Nat.toDigits 10 n) = n := by
  have value : Nat.ofDigitChars 10 (Nat.toDigits 10 n) 0 = n := Nat.ofDigitChars_ten_toDigits
  rw [Nat.ofDigitChars_eq_foldl] at value
  unfold digitsValue ofDigits
  rw [List.foldl_map]
  simpa [Nat.mul_comm] using value

/-- A positive number does not start with a zero. -/
theorem head_toDigits {n : Nat} (positive : 0 < n) :
    ∃ c tail, Nat.toDigits 10 n = c :: tail ∧ c ≠ '0' := by
  induction n using Nat.strong_induction_on with
  | _ n ih =>
    rw [Nat.toDigits_eq_if (by decide)]
    split_ifs with small
    · refine ⟨n.digitChar, [], rfl, ?_⟩
      interval_cases n <;> decide
    · obtain ⟨c, tail, digits, nonzero⟩ := ih (n / 10) (by omega) (by omega)
      exact ⟨c, tail ++ [(n % 10).digitChar], by rw [digits, List.cons_append], nonzero⟩

theorem takeWhile_digits {digits rest : List Char} (decimal : ∀ c ∈ digits, isDigit c = true)
    (closes : Closes rest) :
    (digits ++ rest).takeWhile isDigit = digits ∧ (digits ++ rest).dropWhile isDigit = rest := by
  have stop : rest.takeWhile isDigit = [] ∧ rest.dropWhile isDigit = rest := by
    cases rest with
    | nil => exact ⟨rfl, rfl⟩
    | cons c rest => rcases closes with rfl | rfl | rfl <;> exact ⟨rfl, rfl⟩
  rw [List.takeWhile_append_of_pos decimal, List.dropWhile_append_of_pos decimal, stop.1, stop.2,
    List.append_nil]
  exact ⟨rfl, rfl⟩

theorem wholePart_toDigits (n : Nat) {rest : List Char} (closes : Closes rest) :
    wholePart (Nat.toDigits 10 n ++ rest) = (Nat.toDigits 10 n, rest) := by
  rcases Nat.eq_zero_or_pos n with rfl | positive
  · rfl
  · obtain ⟨c, tail, digits, nonzero⟩ := head_toDigits positive
    have whole := takeWhile_digits (fun c => isDigit_of_mem_toDigits (n := n) (c := c)) closes
    rw [digits] at whole ⊢
    rw [List.cons_append] at whole ⊢
    rw [wholePart, whole.1, whole.2]
    rintro rest ⟨⟩
    exact nonzero rfl

theorem fractionPart_of_closes {rest : List Char} (closes : Closes rest) :
    fractionPart rest = ([], rest) := by
  cases rest with
  | nil => rfl
  | cons c rest => rcases closes with rfl | rfl | rfl <;> rfl

theorem exponentPart_of_closes {rest : List Char} (closes : Closes rest) :
    exponentPart rest = (none, rest) := by
  cases rest with
  | nil => rfl
  | cons c rest => rcases closes with rfl | rfl | rfl <;> rfl

theorem toDigits_ne_minus {n : Nat} {rest tail : List Char} :
    Nat.toDigits 10 n ++ rest ≠ '-' :: tail := by
  cases digits : Nat.toDigits 10 n with
  | nil => exact absurd digits Nat.toDigits_ne_nil
  | cons c others =>
      have digit : isDigit c = true :=
        isDigit_of_mem_toDigits (n := n) (by rw [digits]; exact List.mem_cons_self)
      rintro ⟨⟩
      cases digit

theorem readNumber_toDigits (negative : Bool) (n : Nat) {rest : List Char}
    (closes : Closes rest) :
    readNumber
        (if negative then '-' :: (Nat.toDigits 10 n ++ rest) else Nat.toDigits 10 n ++ rest) =
      if (Nat.toDigits 10 n).length ≤ maxIntegerDigits then
        .ok (.int (if negative then -n else n), rest)
      else .error (.tooManyDigits (Nat.toDigits 10 n).length) := by
  have whole := wholePart_toDigits n closes
  have unsigned : ∀ tail, Nat.toDigits 10 n ++ rest ≠ '-' :: tail := fun _ => toDigits_ne_minus
  have nonempty : (Nat.toDigits 10 n).isEmpty = false := by simp [Nat.toDigits_ne_nil]
  have long : maxIntegerDigits < (Nat.toDigits 10 n).length ↔
      ¬ (Nat.toDigits 10 n).length ≤ maxIntegerDigits := Nat.not_le.symm
  generalize Nat.toDigits 10 n ++ rest = chars at whole unsigned ⊢
  unfold readNumber
  split
  rename_i found body signed
  have parts : found = negative ∧ body = chars := by
    cases negative with
    | true =>
        cases signed
        exact ⟨rfl, rfl⟩
    | false =>
        split at signed
        · rename_i minus
          exact absurd minus (unsigned _)
        · cases signed
          exact ⟨rfl, rfl⟩
  obtain ⟨rfl, rfl⟩ := parts
  simp only [whole, nonempty, fractionPart_of_closes closes, exponentPart_of_closes closes,
    digitsValue_toDigits, long, ite_not, Bool.false_eq_true, if_false, List.isEmpty_nil,
    Option.isNone_none, Bool.and_self, if_true]

theorem toList_toString (value : Int) : (toString value).toList =
    if decide (value < 0) then '-' :: Nat.toDigits 10 value.natAbs
    else Nat.toDigits 10 value.natAbs := by
  show value.repr.toList = _
  rw [Int.repr_eq_if]
  by_cases negative : value < 0
  · have abs : (-value).toNat = value.natAbs := by omega
    rw [if_neg (by omega), String.toList_append, Nat.toList_repr, abs]
    simp [negative]
  · have abs : value.toNat = value.natAbs := by omega
    rw [if_pos (by omega), Nat.toList_repr, abs]
    simp [negative]

/-- An integer is read up to the end of its digits, unless there are too many of them. -/
theorem readNumber_toString (value : Int) {rest : List Char} (closes : Closes rest) :
    readNumber ((toString value).toList ++ rest) =
      if hasFewDigits value then .ok (.int value, rest)
      else .error (.tooManyDigits (Nat.toDigits 10 value.natAbs).length) := by
  have signed : (if decide (value < 0) then -(value.natAbs : Int) else value.natAbs) = value := by
    by_cases negative : value < 0
    · simp only [negative, decide_true, if_true]
      omega
    · simp only [negative, decide_false, Bool.false_eq_true, if_false]
      omega
  have read := readNumber_toDigits (decide (value < 0)) value.natAbs closes
  rw [signed] at read
  simp only [hasFewDigits, decide_eq_true_eq]
  rw [toList_toString, ← read]
  split_ifs <;> rfl

/-! ## Texts -/

theorem readText_simple (opening : List Char) {escape plain : Char} (rest : List Char)
    (known : simpleEscape? escape = some plain) :
    readText opening ('\\' :: escape :: rest) =
      (readText opening rest).map fun (tail, left) => (plain :: tail, left) := by
  have notUnit : escape ≠ 'u' := by
    rintro rfl
    cases known
  rw [readText]
  · rw [known]
  · simpa using notUnit

theorem readText_unit (opening : List Char) (unit : Nat) (next : Char) (rest : List Char)
    (control : unit < 0x20) :
    readText opening ('\\' :: 'u' :: (Text.hexDigits 4 unit ++ next :: rest)) =
      (readText opening (next :: rest)).map fun (tail, left) =>
        (Char.ofNat unit :: tail, left) := by
  have number := Text.hexNumber?_hexDigits 4 unit
  have whole : unit % 16 ^ 4 = unit := Nat.mod_eq_of_lt (by omega)
  rw [whole] at number
  simp only [Text.hexDigits, List.nil_append, List.cons_append] at number ⊢
  rw [readText]
  have high : Text.isHighHalf unit = false := by simp [Text.isHighHalf]; omega
  have low : Text.isLowHalf unit = false := by simp [Text.isLowHalf]; omega
  simp [unit?, number, high, low, Text.charOf]

theorem readText_plain (opening : List Char) {c : Char} (rest : List Char)
    (quote : c ≠ '"') (backslash : c ≠ '\\') (printable : 0x1f < c.toNat) :
    readText opening (c :: rest) =
      (readText opening rest).map fun (tail, left) => (c :: tail, left) := by
  rw [readText]
  · rw [if_neg (by omega)]
  all_goals simp [quote, backslash]

/-- Whatever a character is written as is read as that character. -/
theorem readText_escapeChar (opening : List Char) (c next : Char) (rest : List Char) :
    readText opening (escapeChar c ++ next :: rest) =
      (readText opening (next :: rest)).map fun (tail, left) => (c :: tail, left) := by
  unfold escapeChar
  split_ifs with quote backslash newline ret tab back feed control
  · subst quote
    exact readText_simple opening _ rfl
  · subst backslash
    exact readText_simple opening _ rfl
  · exact newline ▸ readText_simple opening _ rfl
  · exact ret ▸ readText_simple opening _ rfl
  · exact tab ▸ readText_simple opening _ rfl
  · exact back ▸ readText_simple opening _ rfl
  · exact feed ▸ readText_simple opening _ rfl
  · have unit := readText_unit opening c.toNat next rest control
    rwa [Char.ofNat_toNat] at unit
  · exact readText_plain opening _ quote backslash (by omega)

theorem readText_write (opening content rest : List Char) :
    readText opening (content.flatMap escapeChar ++ '"' :: rest) = .ok (content, rest) := by
  induction content with
  | nil => rfl
  | cons c content ih =>
      rw [List.flatMap_cons, List.append_assoc]
      cases more : content.flatMap escapeChar ++ '"' :: rest with
      | nil => simp at more
      | cons next tail =>
          rw [readText_escapeChar, ← more, ih]
          rfl

/-! ## How values start -/

theorem isBlank_of_isNumeral {c : Char} (numeral : isNumeral c = true) : isBlank c = false := by
  by_contra blank
  simp only [isBlank, Bool.not_eq_false, Bool.or_eq_true, decide_eq_true_eq] at blank
  rcases blank with ((rfl | rfl) | rfl) | rfl <;> cases numeral

/-- The text of an integer starts with a digit, or with a minus sign and a digit. -/
theorem exists_toString_eq (value : Int) : ∃ c tail, isDigit c = true ∧
    ((toString value).toList = c :: tail ∨ (toString value).toList = '-' :: c :: tail) := by
  cases digits : Nat.toDigits 10 value.natAbs with
  | nil => exact absurd digits Nat.toDigits_ne_nil
  | cons c tail =>
      have digit : isDigit c = true :=
        isDigit_of_mem_toDigits (n := value.natAbs) (by rw [digits]; exact List.mem_cons_self)
      refine ⟨c, tail, digit, ?_⟩
      rw [toList_toString, digits]
      split_ifs
      · exact .inr rfl
      · exact .inl rfl

/-- What a value starts with is no blank, no closing bracket and no byte order mark. -/
theorem exists_write_eq_cons (json : Json) :
    ∃ c tail, json.write = c :: tail ∧ isBlank c = false ∧ c ≠ ']' ∧ c ≠ '\ufeff' := by
  have numeral {c : Char} (numeral : isNumeral c = true) :
      isBlank c = false ∧ c ≠ ']' ∧ c ≠ '\ufeff' := by
    refine ⟨isBlank_of_isNumeral numeral, ?_, ?_⟩
    all_goals
      rintro rfl
      cases numeral
  cases json with
  | null => exact ⟨_, _, rfl, rfl, by decide⟩
  | bool value => cases value <;> exact ⟨_, _, rfl, rfl, by decide⟩
  | text value => exact ⟨_, _, rfl, rfl, by decide⟩
  | array items => exact ⟨_, _, rfl, rfl, by decide⟩
  | object members => exact ⟨_, _, rfl, rfl, by decide⟩
  | int value =>
      obtain ⟨c, tail, digit, start | start⟩ := exists_toString_eq value
      · exact ⟨c, tail, start, numeral (isNumeral_of_isDigit digit)⟩
      · exact ⟨'-', c :: tail, start, rfl, by decide⟩
  | float value =>
      rw [write]
      rcases floatText_cases value with word | word | word | ⟨numerals, nonempty⟩
      · rw [word]
        exact ⟨_, _, rfl, rfl, by decide⟩
      · rw [word]
        exact ⟨_, _, rfl, rfl, by decide⟩
      · rw [word]
        exact ⟨_, _, rfl, rfl, by decide⟩
      · obtain ⟨c, tail, start⟩ := List.exists_cons_of_ne_nil nonempty
        exact ⟨c, tail, start, numeral (numerals c (start ▸ List.mem_cons_self))⟩

/-- No value but a number starts with a digit. -/
theorem readValue_digit (fuel depth : Nat) {c : Char} (tail : List Char)
    (digit : isDigit c = true) :
    readValue (fuel + 1) depth (c :: tail) = readNumber (c :: tail) := by
  rw [readValue]
  all_goals
    intros
    rename_i same
    cases same
    cases digit

theorem readValue_minus (fuel depth : Nat) {c : Char} (tail : List Char)
    (digit : isDigit c = true) :
    readValue (fuel + 1) depth ('-' :: c :: tail) = readNumber ('-' :: c :: tail) := by
  rw [readValue]
  all_goals
    intros
    rename_i same
    cases same <;> cases digit

theorem readValue_toString (fuel depth : Nat) (value : Int) (rest : List Char) :
    readValue (fuel + 1) depth ((toString value).toList ++ rest) =
      readNumber ((toString value).toList ++ rest) := by
  obtain ⟨c, tail, digit, start | start⟩ := exists_toString_eq value
  · rw [start, List.cons_append, readValue_digit _ _ _ digit]
  · rw [start, List.cons_append, List.cons_append, readValue_minus _ _ _ digit]

theorem skipBlanks_cons {c : Char} (solid : isBlank c = false) (rest : List Char) :
    skipBlanks (c :: rest) = c :: rest := by
  rw [skipBlanks, List.dropWhile_cons_of_neg (by rw [solid]; decide)]

theorem length_write_pos (json : Json) : 0 < json.write.length := by
  obtain ⟨c, tail, start, _⟩ := exists_write_eq_cons json
  rw [start, List.length_cons]
  exact Nat.succ_pos _

theorem writeItems_cons (item next : Json) (items : List Json) :
    writeItems (item :: next :: items) =
      write item ++ ',' :: ' ' :: writeItems (next :: items) := by
  rw [writeItems]
  rintro ⟨⟩

theorem exists_writeItems_eq_cons (item : Json) (items : List Json) :
    ∃ c tail, writeItems (item :: items) = c :: tail ∧ isBlank c = false ∧ c ≠ ']' := by
  obtain ⟨c, tail, start, solid, opens, _⟩ := exists_write_eq_cons item
  cases items with
  | nil => exact ⟨c, tail, start, solid, opens⟩
  | cons next items =>
      exact ⟨c, tail ++ ',' :: ' ' :: writeItems (next :: items),
        by rw [writeItems_cons, start, List.cons_append], solid, opens⟩

theorem readValue_array (fuel depth : Nat) {c : Char} (tail : List Char)
    (solid : isBlank c = false) (opens : c ≠ ']') :
    readValue (fuel + 1) (depth + 1) ('[' :: c :: tail) =
      (readItems fuel depth (c :: tail)).map fun (items, left) => (.array items, left) := by
  rw [readValue, skipBlanks_cons solid]
  split
  · rename_i same
    cases same
    exact absurd rfl opens
  · rfl

theorem writeMembers_cons (name : String) (value : Json) (next : String × Json)
    (members : List (String × Json)) :
    writeMembers ((name, value) :: next :: members) =
      writeText name ++ ':' :: ' ' ::
        (write value ++ ',' :: ' ' :: writeMembers (next :: members)) := by
  rw [writeMembers]
  rintro ⟨⟩

theorem exists_writeMembers_eq_cons (member : String × Json) (members : List (String × Json)) :
    ∃ tail, writeMembers (member :: members) = '"' :: tail := by
  cases members with
  | nil => exact ⟨_, rfl⟩
  | cons next members =>
      exact ⟨_, by rw [writeMembers_cons, writeText, List.cons_append]⟩

theorem readValue_object (fuel depth : Nat) (tail : List Char) :
    readValue (fuel + 1) (depth + 1) ('{' :: '"' :: tail) =
      (readMembers fuel depth ('"' :: tail)).map fun (members, left) =>
        (.object (Keyed.ofList members), left) := by
  rw [readValue]
  rfl

theorem skipBlanks_comma (rest : List Char) : skipBlanks (',' :: rest) = ',' :: rest :=
  skipBlanks_cons rfl rest

theorem skipBlanks_space {c : Char} (solid : isBlank c = false) (rest : List Char) :
    skipBlanks (' ' :: c :: rest) = c :: rest :=
  skipBlanks_cons solid rest

/-- A member is read by its name and then its value. -/
theorem readMembers_member (fuel depth : Nat) (name : String) {c : Char} (tail : List Char)
    (solid : isBlank c = false) :
    readMembers (fuel + 1) depth (writeText name ++ ':' :: ' ' :: c :: tail) =
      (do
        let (value, afterValue) ← readValue fuel depth (c :: tail)
        match skipBlanks afterValue with
        | '}' :: left => .ok ([(name, value)], left)
        | ',' :: more => (readMembers fuel depth (skipBlanks more)).map fun (members, left) =>
            ((name, value) :: members, left)
        | other => .error (.fault .expectingComma other.length)) := by
  obtain ⟨chars, rfl⟩ : ∃ chars, String.ofList chars = name := ⟨name.toList, String.ofList_toList⟩
  rw [writeText, String.toList_ofList, List.cons_append, List.append_assoc,
    List.singleton_append, readMembers, readText_write, ok_bind]
  have start := skipBlanks_space solid tail
  exact congrArg (fun inner => Except.bind (readValue fuel depth inner) _) start

mutual

/-- The text of a value is read up to its end, unless the value is beyond the limits. -/
theorem toOption_readValue : ∀ (json : Json) (fuel depth : Nat) (rest : List Char),
    json.isPlain = true → 2 * json.write.length ≤ fuel → Closes rest →
    (readValue fuel depth (json.write ++ rest)).toOption =
      if json.fits depth then some (json, rest) else none
  | json, 0, _, _, _, enough, _ => by
      have nonempty := length_write_pos json
      omega
  | .null, fuel + 1, depth, rest, _, _, _ | .bool true, fuel + 1, depth, rest, _, _, _
  | .bool false, fuel + 1, depth, rest, _, _, _ => by
      rw [if_pos (by rfl)]
      rfl
  | .float _, _, _, _, plain, _, _ => by cases plain
  | .int value, fuel + 1, depth, rest, _, _, closes => by
      rw [write, readValue_toString, readNumber_toString value closes, fits_int]
      split_ifs
      · rfl
      · rfl
  | .text value, fuel + 1, depth, rest, _, _, _ => by
      rw [if_pos (by rfl), write, writeText, List.cons_append, List.append_assoc, readValue,
        List.singleton_append, readText_write]
      simp [Except.map, Except.toOption]
  | .array [], fuel + 1, 0, rest, _, _, _ | .object [], fuel + 1, 0, rest, _, _, _ => rfl
  | .array (item :: items), fuel + 1, 0, rest, _, _, _ => by
      rw [fits_array_zero]
      rfl
  | .object (member :: members), fuel + 1, 0, rest, _, _, _ => by
      rw [fits_object_zero]
      rfl
  | .array [], fuel + 1, depth + 1, rest, _, _, _ => by
      rw [fits_array]
      rfl
  | .object [], fuel + 1, depth + 1, rest, _, _, _ => by
      rw [fits_object]
      rfl
  | .array (item :: items), fuel + 1, depth + 1, rest, plain, enough, _ => by
      rw [isPlain_array] at plain
      simp only [write, List.length_cons, List.length_append, List.length_nil] at enough
      have inner := toOption_readItems item items fuel depth rest plain (by omega)
      obtain ⟨c, tail, start, solid, opens⟩ := exists_writeItems_eq_cons item items
      rw [start, List.cons_append] at inner
      rw [write, start, fits_array, List.cons_append, List.append_assoc, List.singleton_append,
        List.cons_append, readValue_array _ _ _ solid opens, toOption_map, inner]
      split_ifs <;> rfl
  | .object (member :: members), fuel + 1, depth + 1, rest, plain, enough, _ => by
      rw [isPlain_object, Bool.and_eq_true, decide_eq_true_eq] at plain
      simp only [write, List.length_cons, List.length_append, List.length_nil] at enough
      have inner := toOption_readMembers member members fuel depth rest plain.2 (by omega)
      obtain ⟨tail, start⟩ := exists_writeMembers_eq_cons member members
      rw [start, List.cons_append] at inner
      rw [write, start, fits_object, List.cons_append, List.append_assoc, List.singleton_append,
        List.cons_append, readValue_object, toOption_map, inner]
      split_ifs
      · have same : Keyed.ofList (member :: members) = member :: members :=
          Keyed.ofList_of_nodup plain.1
        simp only [Option.map_some, same]
      · rfl

theorem toOption_readItems : ∀ (item : Json) (items : List Json) (fuel depth : Nat)
    (rest : List Char), (item :: items).all isPlain = true →
    2 * (writeItems (item :: items)).length + 1 ≤ fuel →
    (readItems fuel depth (writeItems (item :: items) ++ ']' :: rest)).toOption =
      if (item :: items).all (fits depth) then some (item :: items, rest) else none
  | item, [], fuel + 1, depth, rest, plain, enough => by
      rw [List.all_cons, Bool.and_eq_true] at plain
      rw [writeItems] at enough
      have first := toOption_readValue item fuel depth (']' :: rest) plain.1 (by omega)
        (.inr (.inl rfl))
      rw [writeItems, readItems, toOption_bind, first, List.all_cons, List.all_nil, Bool.and_true]
      split_ifs <;> rfl
  | item, next :: items, fuel + 1, depth, rest, plain, enough => by
      rw [List.all_cons, Bool.and_eq_true] at plain
      rw [writeItems_cons, List.length_append, List.length_cons, List.length_cons] at enough
      have first := toOption_readValue item fuel depth
        (',' :: ' ' :: (writeItems (next :: items) ++ ']' :: rest)) plain.1 (by omega) (.inl rfl)
      have others := toOption_readItems next items fuel depth rest plain.2 (by omega)
      obtain ⟨c, tail, start, solid, _⟩ := exists_writeItems_eq_cons next items
      rw [start, List.cons_append] at first others
      rw [writeItems_cons, start, readItems, List.append_assoc, List.cons_append, List.cons_append,
        List.cons_append, toOption_bind, first, List.all_cons]
      cases item.fits depth with
      | false => rfl
      | true =>
          simp only [if_true, Option.bind_some, skipBlanks_comma, skipBlanks_space solid,
            toOption_map, others, Bool.true_and]
          split_ifs <;> rfl

theorem toOption_readMembers : ∀ (member : String × Json) (members : List (String × Json))
    (fuel depth : Nat) (rest : List Char),
    ((member :: members).all fun member => member.2.isPlain) = true →
    2 * (writeMembers (member :: members)).length + 1 ≤ fuel →
    (readMembers fuel depth (writeMembers (member :: members) ++ '}' :: rest)).toOption =
      if (member :: members).all fun member => member.2.fits depth
      then some (member :: members, rest) else none
  | (name, value), [], fuel + 1, depth, rest, plain, enough => by
      rw [List.all_cons, Bool.and_eq_true] at plain
      rw [writeMembers, List.length_append, List.length_cons, List.length_cons] at enough
      have first := toOption_readValue value fuel depth ('}' :: rest) plain.1 (by omega)
        (.inr (.inr rfl))
      obtain ⟨c, tail, start, solid, _⟩ := exists_write_eq_cons value
      rw [start, List.cons_append] at first
      rw [writeMembers, List.append_assoc, List.cons_append, List.cons_append, start,
        List.cons_append, readMembers_member _ _ _ _ solid, toOption_bind, first, List.all_cons,
        List.all_nil, Bool.and_true]
      split_ifs <;> rfl
  | (name, value), next :: members, fuel + 1, depth, rest, plain, enough => by
      rw [List.all_cons, Bool.and_eq_true] at plain
      rw [writeMembers_cons, List.length_append, List.length_cons, List.length_cons,
        List.length_append, List.length_cons, List.length_cons] at enough
      have first := toOption_readValue value fuel depth
        (',' :: ' ' :: (writeMembers (next :: members) ++ '}' :: rest)) plain.1 (by omega)
        (.inl rfl)
      have others := toOption_readMembers next members fuel depth rest plain.2 (by omega)
      obtain ⟨c, tail, start, solid, _⟩ := exists_write_eq_cons value
      obtain ⟨more, quote⟩ := exists_writeMembers_eq_cons next members
      rw [start, quote, List.cons_append, List.cons_append] at first
      rw [quote, List.cons_append] at others
      rw [writeMembers_cons, start, quote]
      simp only [List.append_assoc, List.cons_append]
      rw [readMembers_member _ _ _ _ solid, toOption_bind, first, List.all_cons]
      cases value.fits depth with
      | false => rfl
      | true =>
          have space : ∀ rest, skipBlanks (' ' :: '"' :: rest) = '"' :: rest := skipBlanks_space rfl
          simp only [if_true, Option.bind_some, skipBlanks_comma, space, toOption_map, others,
            Bool.true_and]
          split_ifs <;> rfl

end

/-! ## Whole texts -/

theorem toOption_readChars {json : Json} (depth : Nat) (plain : json.isPlain = true) :
    (readChars depth json.write).toOption = if json.fits depth then some json else none := by
  obtain ⟨c, tail, start, solid, _⟩ := exists_write_eq_cons json
  have inner := toOption_readValue json (2 * json.write.length + 2) depth [] plain
    (Nat.le_add_right _ 2) trivial
  have unblanked : skipBlanks json.write = json.write := by
    rw [start]
    exact skipBlanks_cons solid tail
  rw [List.append_nil] at inner
  rw [readChars, unblanked, toOption_bind, inner]
  split_ifs <;> rfl

/-- No text of a value starts with a byte order mark. -/
theorem readWithin_render_eq_readLocated (depth : Nat) (json : Json) :
    readWithin depth json.render = readLocated depth json.write := by
  obtain ⟨c, tail, start, _, _, unmarked⟩ := exists_write_eq_cons json
  rw [readWithin, render, String.toList_ofList, start]
  split
  · rename_i same
    cases same
    exact absurd rfl unmarked
  · rfl

/-- The text of a value is read as that value if the value is within the limits of reading, and is
not read at all otherwise. -/
theorem toOption_readWithin_render {json : Json} (depth : Nat) (plain : json.isPlain = true) :
    (readWithin depth json.render).toOption = if json.fits depth then some json else none := by
  rw [readWithin_render_eq_readLocated, readLocated, ← toOption_readChars depth plain]
  cases readChars depth json.write with
  | ok value => rfl
  | error halt => cases halt <;> rfl

theorem readWithin_render {json : Json} {depth : Nat} (plain : json.isPlain = true)
    (within : json.fits depth = true) : readWithin depth json.render = .ok json :=
  eq_ok_of_toOption (by rw [toOption_readWithin_render depth plain, if_pos within])

theorem readLocated_write {json : Json} {depth : Nat} (plain : json.isPlain = true)
    (within : json.fits depth = true) : readLocated depth json.write = .ok json := by
  rw [← readWithin_render_eq_readLocated, readWithin_render plain within]

theorem exists_error_of_readWithin_render {json : Json} {depth : Nat} (plain : json.isPlain = true)
    (beyond : json.fits depth = false) : ∃ error, readWithin depth json.render = .error error :=
  exists_error_of_toOption (by
    rw [toOption_readWithin_render depth plain, if_neg (by rw [beyond]; decide)])

/-! ## Integers on either side of the limit -/

theorem natAbs_pow_ten (width : Nat) : (10 ^ width : Int).natAbs = 10 ^ width := by
  have ten : (10 : Int).natAbs = 10 := rfl
  rw [Int.natAbs_pow, ten]

theorem fits_int_of_long {value : Int} (long : 10 ^ maxIntegerDigits ≤ value.natAbs)
    (depth : Nat) : (int value).fits depth = false := by
  rw [fits_int, ← Bool.not_eq_true, hasFewDigits_iff]
  exact Nat.not_lt.2 long

end Json

end ConstrainedDecoding
