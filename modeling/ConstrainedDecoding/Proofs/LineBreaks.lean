import ConstrainedDecoding.Proofs.JsonReading

/-!
# Line breaks in JSON

Breaks stand between the tokens of a text or make it malformed, so what is read of characters is
read of any that differ from them in nothing but runs of breaks (`Json.Carries`). Here this is shown
of texts (`Json.carries_readText`) and numbers (`Json.carries_readNumber`); how lines end makes such
a difference (`Json.respaced_unifyLineEnds`).
-/

namespace ConstrainedDecoding.Json

/-! ## Runs of breaks -/

/-- The blanks that cannot stand in a text literal as they are. -/
def isBreak (c : Char) : Bool :=
  c = '\t' || c = '\n' || c = '\r'

theorem eq_of_isBreak {c : Char} (broken : isBreak c = true) : c = '\t' ∨ c = '\n' ∨ c = '\r' := by
  simpa [isBreak, or_assoc] using broken

/-- What holds of no break holds of none but other characters. -/
theorem isBreak_eq_false {c : Char}
    (other : ¬ (c = '\t' ∨ c = '\n' ∨ c = '\r')) : isBreak c = false :=
  Bool.eq_false_iff.2 (mt eq_of_isBreak other)

theorem isBreak_of_hexValue? {c : Char} {value : Nat} (known : Text.hexValue? c = some value) :
    isBreak c = false := by
  refine isBreak_eq_false ?_
  rintro (rfl | rfl | rfl) <;> cases known

theorem isBreak_of_hexNumber? {digits : List Char} {number : Nat}
    (known : Text.hexNumber? digits = some number) : ∀ c ∈ digits, isBreak c = false := by
  unfold Text.hexNumber? at known
  generalize 0 = start at known
  induction digits generalizing start with
  | nil => exact fun c member => absurd member List.not_mem_nil
  | cons digit digits ih =>
      rw [List.foldlM_cons] at known
      obtain ⟨value, valued, known⟩ := Option.bind_eq_some_iff.1 known
      obtain ⟨_, hex, _⟩ := Option.map_eq_some_iff.1 valued
      exact List.forall_mem_cons.2 ⟨isBreak_of_hexValue? hex, ih value known⟩

/-- Characters that differ from others in nothing but which runs of breaks stand between them. -/
inductive Respaced : List Char → List Char → Prop
  | nil : Respaced [] []
  | kept (c : Char) {rest rest' : List Char} :
    Respaced rest rest' → Respaced (c :: rest) (c :: rest')
  | breaks {c c' : Char} (run run' : List Char) {rest rest' : List Char} :
    (∀ x ∈ c :: run, isBreak x = true) → (∀ x ∈ c' :: run', isBreak x = true) →
    Respaced rest rest' → Respaced (c :: (run ++ rest)) (c' :: (run' ++ rest'))

namespace Respaced

variable {chars chars' rest : List Char} {c : Char}

theorem symm (same : Respaced chars chars') : Respaced chars' chars := by
  induction same with
  | nil => exact .nil
  | kept c _ ih => exact .kept c ih
  | breaks run run' broken broken' _ ih => exact .breaks run' run broken' broken ih

theorem eq_nil (same : Respaced [] chars') : chars' = [] := by
  cases same
  rfl

theorem exists_cons (same : Respaced (c :: rest) chars') : ∃ c' rest', chars' = c' :: rest' := by
  cases same with
  | kept => exact ⟨_, _, rfl⟩
  | breaks => exact ⟨_, _, rfl⟩

/-- What is no break is kept. -/
theorem cons (same : Respaced (c :: rest) chars') (solid : isBreak c = false) :
    ∃ rest', chars' = c :: rest' ∧ Respaced rest rest' := by
  cases same with
  | kept _ later => exact ⟨_, rfl, later⟩
  | breaks _ _ broken => exact nomatch solid.symm.trans (broken c List.mem_cons_self)

/-- So are several characters that are none. -/
theorem append (used : List Char) (same : Respaced (used ++ rest) chars')
    (solid : ∀ x ∈ used, isBreak x = false) :
    ∃ rest', chars' = used ++ rest' ∧ Respaced rest rest' := by
  induction used generalizing chars' with
  | nil => exact ⟨chars', rfl, same⟩
  | cons c used ih =>
      obtain ⟨first, others⟩ := List.forall_mem_cons.1 solid
      obtain ⟨rest', rfl, later⟩ := same.cons first
      obtain ⟨rest', rfl, last⟩ := ih later others
      exact ⟨rest', rfl, last⟩

theorem skipBlanks (same : Respaced chars chars') :
    Respaced (skipBlanks chars) (skipBlanks chars') := by
  have blank {run : List Char} (broken : ∀ x ∈ run, isBreak x = true) :
      ∀ x ∈ run, isBlank x = true := by
    intro x member
    rcases eq_of_isBreak (broken x member) with rfl | rfl | rfl <;> rfl
  induction same with
  | nil => exact .nil
  | kept c later ih =>
      cases solid : isBlank c with
      | true =>
          rw [Json.skipBlanks, Json.skipBlanks, List.dropWhile_cons_of_pos solid,
            List.dropWhile_cons_of_pos solid]
          exact ih
      | false =>
          rw [skipBlanks_cons solid, skipBlanks_cons solid]
          exact .kept c later
  | breaks run run' broken broken' _ ih =>
      rw [← List.cons_append, ← List.cons_append, Json.skipBlanks, Json.skipBlanks,
        List.dropWhile_append_of_pos (blank broken), List.dropWhile_append_of_pos (blank broken')]
      exact ih

end Respaced

/-- It does not matter how lines end. -/
theorem respaced_unifyLineEnds (chars : List Char) :
    Respaced chars (Text.unifyLineEnds chars) := by
  have newline : ∀ x ∈ ['\n'], isBreak x = true := by simp [isBreak]
  fun_induction Text.unifyLineEnds chars with
  | case1 => exact .nil
  | case2 rest ih => exact .breaks ['\n'] [] (by simp [isBreak]) newline ih
  | case3 rest _ ih => exact .breaks [] [] (by simp [isBreak]) newline ih
  | case4 c rest _ _ ih => exact .kept c ih

/-! ## Readings that are alike -/

/-- What one reading comes to carries over to another, which leaves fewer characters than `length`:
the same value with the same left but for breaks, or the same limit. Faults are not carried. -/
def Carries {α : Type} (length : Nat) :
    Except Halt (α × List Char) → Except Halt (α × List Char) → Prop
  | .ok (value, left), other =>
    ∃ left', other = .ok (value, left') ∧ Respaced left left' ∧ left'.length < length
  | .error (.fault _ _), _ => True
  | .error halt, other => other = .error halt

namespace Carries

variable {α β : Type} {length more : Nat} {reading other : Except Halt (α × List Char)}

theorem mono (carries : Carries length reading other) (le : length ≤ more) :
    Carries more reading other := by
  match reading, carries with
  | .ok _, ⟨left', same, respaced, short⟩ => exact ⟨left', same, respaced, by omega⟩
  | .error (.fault _ _), _ => trivial
  | .error (.tooManyDigits _), same | .error (.tooDeep _), same => exact same

theorem bind {next next' : α × List Char → Except Halt (β × List Char)}
    (carries : Carries length reading other)
    (later : ∀ value {left left'}, Respaced left left' → left'.length < length →
      Carries length (next (value, left)) (next' (value, left'))) :
    Carries length (reading >>= next) (other >>= next') := by
  match reading, carries with
  | .ok (value, left), ⟨left', same, respaced, short⟩ =>
      rw [same]
      exact later value respaced short
  | .error (.fault _ _), _ => trivial
  | .error (.tooManyDigits _), same | .error (.tooDeep _), same =>
      rw [same]
      rfl

theorem map (carries : Carries length reading other) (change : α → β) :
    Carries length (reading.map fun (value, left) => (change value, left))
      (other.map fun (value, left) => (change value, left)) := by
  match reading, carries with
  | .ok (value, left), ⟨left', same, respaced, short⟩ =>
      rw [same]
      exact ⟨left', rfl, respaced, short⟩
  | .error (.fault _ _), _ => trivial
  | .error (.tooManyDigits _), same | .error (.tooDeep _), same =>
      rw [same]
      rfl

end Carries

/-! ## Texts -/

theorem exists_of_unit? {a b c d : Char} {after : List Char} {unit : Nat}
    (known : unit? (a :: b :: c :: d :: after) = some unit) :
    after ≠ [] ∧ ∀ x ∈ [a, b, c, d], isBreak x = false := by
  cases after with
  | nil => cases known
  | cons next more => exact ⟨List.cons_ne_nil next more, isBreak_of_hexNumber? known⟩

theorem unit?_respaced {rest rest' : List Char} {unit : Nat} (known : unit? rest = some unit)
    (same : Respaced rest rest') : unit? rest' = some unit := by
  unfold unit? at known
  split at known
  · rename_i a b c d next more
    obtain ⟨later, rfl, respaced⟩ :=
      same.append [a, b, c, d] (isBreak_of_hexNumber? known)
    obtain ⟨next', more', rfl⟩ := respaced.exists_cons
    exact known
  · cases known

theorem lowHalf?_of_unit? {rest : List Char} {unit : Nat} (known : unit? rest = some unit) :
    lowHalf? ('\\' :: 'u' :: rest) = some (if Text.isLowHalf unit then some unit else none) := by
  unfold unit? at known
  split at known
  · rw [lowHalf?, known]
    rfl
  · cases known

theorem exists_of_lowHalf? {after : List Char} {low : Nat}
    (known : lowHalf? after = some (some low)) :
    ∃ rest, after = '\\' :: 'u' :: rest ∧ unit? rest = some low ∧ Text.isLowHalf low = true := by
  unfold lowHalf? at known
  split at known
  · obtain ⟨unit, number, half⟩ := Option.map_eq_some_iff.1 known
    split at half
    · cases half
      exact ⟨_, rfl, number, ‹_›⟩
    · cases half
  · cases known

theorem lowHalf?_of_unescaped {after : List Char}
    (unescaped : ∀ rest, after ≠ '\\' :: 'u' :: rest) :
    lowHalf? after = some none := by
  unfold lowHalf?
  split
  · exact absurd rfl (unescaped _)
  · rfl

theorem readText_of_no_unit (opening : List Char) {rest : List Char} (unread : unit? rest = none) :
    readText opening ('\\' :: 'u' :: rest) =
      .error (.fault .invalidUnicodeEscape (rest.length + 1)) := by
  rw [readText, unread]

/-- Where no second half of a pair follows, none follows with other breaks, unless the text is
malformed there. -/
theorem lowHalf?_respaced (opening : List Char) {after after' : List Char}
    (same : Respaced after after') (alone : lowHalf? after = some none) :
    lowHalf? after' = some none ∨
      ∃ what remaining, readText opening after = .error (.fault what remaining) := by
  by_cases escaped : ∃ rest, after = '\\' :: 'u' :: rest
  · obtain ⟨rest, rfl⟩ := escaped
    cases known : unit? rest with
    | none => exact .inr ⟨_, _, readText_of_no_unit opening known⟩
    | some unit =>
        obtain ⟨rest', rfl, respaced⟩ := same.append ['\\', 'u'] (by simp [isBreak])
        rw [lowHalf?_of_unit? known] at alone
        exact .inl ((lowHalf?_of_unit? (unit?_respaced known respaced)).trans alone)
  · refine .inl (lowHalf?_of_unescaped ?_)
    rintro rest' rfl
    obtain ⟨rest, rfl, -⟩ := same.symm.append ['\\', 'u'] (by simp [isBreak])
    exact escaped ⟨rest, rfl⟩

/-- Escapes of units that stand alone, and of pairs of halves. -/
theorem readText_alone (opening : List Char) {unit : Nat} {a b c d : Char} {after : List Char}
    (known : unit? (a :: b :: c :: d :: after) = some unit)
    (alone : (if Text.isHighHalf unit then lowHalf? after else some none) = some none) :
    readText opening ('\\' :: 'u' :: a :: b :: c :: d :: after) =
      (readText opening after).map fun (tail, left) => (Text.charOf unit :: tail, left) := by
  rw [readText, known]
  simp only [alone]

theorem readText_pair (opening : List Char) {unit low : Nat} {a b c d e f g h i j : Char}
    {beyond : List Char}
    (known : unit? (a :: b :: c :: d :: e :: f :: g :: h :: i :: j :: beyond) = some unit)
    (paired : (if Text.isHighHalf unit then lowHalf? (e :: f :: g :: h :: i :: j :: beyond)
      else some none) = some (some low)) :
    readText opening
        ('\\' :: 'u' :: a :: b :: c :: d :: e :: f :: g :: h :: i :: j :: beyond) =
      (readText opening beyond).map fun (tail, left) =>
        (Text.joinHalves unit low :: tail, left) := by
  rw [readText, known]
  simp only [paired]

theorem carries_readText (opening opening' : List Char) {chars chars' : List Char}
    (same : Respaced chars chars') :
    Carries chars'.length (readText opening chars) (readText opening' chars') := by
  fun_induction readText opening chars generalizing chars' with
  | case1 | case3 | case4 | case5 | case8 | case9 | case10 | case12 => trivial
  | case2 rest =>
      obtain ⟨rest', rfl, later⟩ := same.cons rfl
      exact ⟨rest', rfl, later, Nat.lt_succ_self _⟩
  | case6 unit a b c d after alone known ih =>
      obtain ⟨rest', rfl, units⟩ := same.append ['\\', 'u'] (by simp [isBreak])
      have known' := unit?_respaced known units
      obtain ⟨after', rfl, later⟩ := units.append [a, b, c, d] (exists_of_unit? known).2
      have alone' : (if Text.isHighHalf unit then lowHalf? after' else some none) = some none ∨
          ∃ what remaining, readText opening after = .error (.fault what remaining) := by
        split at alone
        · rename_i high
          rw [if_pos high]
          exact lowHalf?_respaced opening later alone
        · rename_i notHigh
          exact .inl (if_neg notHigh)
      rcases alone' with alone' | ⟨what, remaining, fails⟩
      · simp only [List.cons_append, List.nil_append] at known' ⊢
        rw [readText_alone opening' known' alone']
        exact ((ih later).map _).mono (by simp only [List.length_cons]; omega)
      · rw [fails]
        trivial
  | case7 unit a b c d low e f g h i j beyond paired known ih =>
      obtain ⟨rest', rfl, units⟩ := same.append ['\\', 'u'] (by simp [isBreak])
      have known' := unit?_respaced known units
      obtain ⟨after', rfl, later⟩ := units.append [a, b, c, d] (exists_of_unit? known).2
      have high : Text.isHighHalf unit = true := by
        by_contra notHigh
        rw [if_neg notHigh] at paired
        cases paired
      rw [if_pos high] at paired
      obtain ⟨rest, halves, number, isLow⟩ := exists_of_lowHalf? paired
      cases halves
      obtain ⟨more, rfl, halves⟩ := later.append ['\\', 'u'] (by simp [isBreak])
      have number' := unit?_respaced number halves
      obtain ⟨beyond', rfl, last⟩ := halves.append [g, h, i, j] (exists_of_unit? number).2
      have paired' : (if Text.isHighHalf unit
          then lowHalf? ('\\' :: 'u' :: ([g, h, i, j] ++ beyond'))
          else some none) = some (some low) := by
        rw [if_pos high, lowHalf?_of_unit? number', if_pos isLow]
      simp only [List.cons_append, List.nil_append] at known' paired' ⊢
      rw [readText_pair opening' known' paired']
      exact ((ih last).map _).mono (by simp only [List.length_cons]; omega)
  | case11 c rest notUnit plain known ih =>
      have solid : isBreak c = false := by
        refine isBreak_eq_false ?_
        rintro (rfl | rfl | rfl) <;> cases known
      obtain ⟨rest', rfl, later⟩ :=
        same.append ['\\', c] (List.forall_mem_cons.2 ⟨rfl, by simpa using solid⟩)
      rw [List.cons_append, List.singleton_append, readText_simple _ _ known]
      exact ((ih later).map _).mono (by simp only [List.length_cons]; omega)
  | case13 c rest quote alone _ escape printable ih =>
      have solid : isBreak c = false := by
        refine isBreak_eq_false ?_
        rintro (rfl | rfl | rfl) <;> exact printable (by decide)
      have backslash : c ≠ '\\' := by
        rintro rfl
        cases rest with
        | nil => exact alone rfl rfl
        | cons next rest => exact escape next rest rfl rfl
      obtain ⟨rest', rfl, later⟩ := same.cons solid
      rw [readText_plain _ _ quote backslash (by omega)]
      exact ((ih later).map _).mono (Nat.le_succ _)

/-! ## Numbers -/

theorem Respaced.digits {chars chars' : List Char} (same : Respaced chars chars') :
    chars'.takeWhile isDigit = chars.takeWhile isDigit ∧
      Respaced (chars.dropWhile isDigit) (chars'.dropWhile isDigit) := by
  have solid {c : Char} {run : List Char} (broken : ∀ x ∈ c :: run, isBreak x = true) :
      ¬ isDigit c = true := by
    rcases eq_of_isBreak (broken c List.mem_cons_self) with rfl | rfl | rfl <;> decide
  induction same with
  | nil => exact ⟨rfl, .nil⟩
  | kept c later ih =>
      by_cases digit : isDigit c = true
      · obtain ⟨digits, left⟩ := ih
        rw [List.takeWhile_cons_of_pos digit, List.takeWhile_cons_of_pos digit,
          List.dropWhile_cons_of_pos digit, List.dropWhile_cons_of_pos digit, digits]
        exact ⟨rfl, left⟩
      · rw [List.takeWhile_cons_of_neg digit, List.takeWhile_cons_of_neg digit,
          List.dropWhile_cons_of_neg digit, List.dropWhile_cons_of_neg digit]
        exact ⟨rfl, .kept c later⟩
  | breaks run run' broken broken' later _ =>
      rw [List.takeWhile_cons_of_neg (solid broken), List.takeWhile_cons_of_neg (solid broken'),
        List.dropWhile_cons_of_neg (solid broken), List.dropWhile_cons_of_neg (solid broken')]
      exact ⟨rfl, .breaks run run' broken broken' later⟩

/-- What characters do not start with, they do not start with if other breaks are in them. -/
theorem Respaced.not_starts {chars chars' : List Char} {c : Char} (same : Respaced chars chars')
    (solid : isBreak c = false) (other : ∀ rest, chars ≠ c :: rest) :
    ∀ rest', chars' ≠ c :: rest' := by
  rintro rest' rfl
  obtain ⟨rest, rfl, -⟩ := same.symm.cons solid
  exact other rest rfl

theorem Respaced.wholePart {chars chars' : List Char} (same : Respaced chars chars') :
    (wholePart chars').1 = (wholePart chars).1 ∧
      Respaced (wholePart chars).2 (wholePart chars').2 := by
  by_cases zero : ∃ rest, chars = '0' :: rest
  · obtain ⟨rest, rfl⟩ := zero
    obtain ⟨rest', rfl, later⟩ := same.cons rfl
    exact ⟨rfl, later⟩
  · have other : ∀ rest, chars ≠ '0' :: rest := fun rest starts => zero ⟨rest, starts⟩
    rw [Json.wholePart.eq_2 chars other, Json.wholePart.eq_2 chars' (same.not_starts rfl other)]
    exact same.digits

theorem Respaced.fractionPart {chars chars' : List Char} (same : Respaced chars chars') :
    (fractionPart chars').1 = (fractionPart chars).1 ∧
      Respaced (fractionPart chars).2 (fractionPart chars').2 := by
  by_cases point : ∃ rest, chars = '.' :: rest
  · obtain ⟨rest, rfl⟩ := point
    obtain ⟨rest', rfl, later⟩ := same.cons rfl
    obtain ⟨digits, left⟩ := later.digits
    simp only [Json.fractionPart, digits]
    split
    · exact ⟨rfl, same⟩
    · exact ⟨rfl, left⟩
  · have other : ∀ rest, chars ≠ '.' :: rest := fun rest starts => point ⟨rest, starts⟩
    rw [Json.fractionPart.eq_2 chars other,
      Json.fractionPart.eq_2 chars' (same.not_starts rfl other)]
    exact ⟨rfl, same⟩

theorem Respaced.exponentSign {chars chars' : List Char} (same : Respaced chars chars') :
    (exponentSign chars').1 = (exponentSign chars).1 ∧
      Respaced (exponentSign chars).2 (exponentSign chars').2 := by
  by_cases minus : ∃ rest, chars = '-' :: rest
  · obtain ⟨rest, rfl⟩ := minus
    obtain ⟨rest', rfl, later⟩ := same.cons rfl
    exact ⟨rfl, later⟩
  by_cases plus : ∃ rest, chars = '+' :: rest
  · obtain ⟨rest, rfl⟩ := plus
    obtain ⟨rest', rfl, later⟩ := same.cons rfl
    exact ⟨rfl, later⟩
  · have notMinus : ∀ rest, chars ≠ '-' :: rest := fun rest starts => minus ⟨rest, starts⟩
    have notPlus : ∀ rest, chars ≠ '+' :: rest := fun rest starts => plus ⟨rest, starts⟩
    rw [Json.exponentSign.eq_3 chars notMinus notPlus, Json.exponentSign.eq_3 chars'
      (same.not_starts rfl notMinus) (same.not_starts rfl notPlus)]
    exact ⟨rfl, same⟩

theorem exponentPart_of_unmarked {chars : List Char} (unmarked : ∀ rest, chars ≠ 'e' :: rest)
    (unmarked' : ∀ rest, chars ≠ 'E' :: rest) : exponentPart chars = (none, chars) := by
  cases chars with
  | nil => rfl
  | cons c rest =>
      have other : ¬ (c = 'e' ∨ c = 'E') := by
        rintro (rfl | rfl)
        · exact unmarked rest rfl
        · exact unmarked' rest rfl
      rw [exponentPart, if_neg other]

theorem Respaced.exponentPart {chars chars' : List Char} (same : Respaced chars chars') :
    (exponentPart chars').1 = (exponentPart chars).1 ∧
      Respaced (exponentPart chars).2 (exponentPart chars').2 := by
  by_cases marked : ∃ c rest, chars = c :: rest ∧ (c = 'e' ∨ c = 'E')
  · obtain ⟨c, rest, rfl, mark⟩ := marked
    have solid : isBreak c = false := by
      rcases mark with rfl | rfl <;> rfl
    obtain ⟨rest', rfl, later⟩ := same.cons solid
    obtain ⟨sign, body⟩ := later.exponentSign
    obtain ⟨digits, left⟩ := body.digits
    simp only [Json.exponentPart, if_pos mark, sign, digits]
    split
    · exact ⟨rfl, same⟩
    · exact ⟨rfl, left⟩
  · have small : ∀ rest, chars ≠ 'e' :: rest :=
      fun rest starts => marked ⟨'e', rest, starts, .inl rfl⟩
    have capital : ∀ rest, chars ≠ 'E' :: rest :=
      fun rest starts => marked ⟨'E', rest, starts, .inr rfl⟩
    rw [exponentPart_of_unmarked small capital, exponentPart_of_unmarked
      (same.not_starts rfl small) (same.not_starts rfl capital)]
    exact ⟨rfl, same⟩

theorem wholePart_append (chars : List Char) :
    (Json.wholePart chars).1 ++ (Json.wholePart chars).2 = chars := by
  unfold Json.wholePart
  split
  · rfl
  · exact List.takeWhile_append_dropWhile

theorem Uses.length_le {chars left : List Char} (uses : Uses chars left) :
    left.length ≤ chars.length := by
  obtain ⟨used, rfl, -⟩ := uses
  rw [List.length_append]
  exact Nat.le_add_left _ _

/-- A number is read of what follows its sign. -/
def readUnsigned (negative : Bool) (length : Nat) (body : List Char) : Reading Json :=
  let (whole, afterWhole) := wholePart body
  let (places, afterPlaces) := fractionPart afterWhole
  let (exponent, left) := exponentPart afterPlaces
  if whole.isEmpty then .error (.fault .expectingValue length)
  else if places.isEmpty && exponent.isNone then
    if maxIntegerDigits < whole.length then .error (.tooManyDigits whole.length)
    else .ok (.int (if negative then -(digitsValue whole : Int) else digitsValue whole), left)
  else
    .ok (.float (Binary.ofDecimal .double negative (digitsValue (whole ++ places))
      (exponent.getD 0 - places.length)), left)

theorem readNumber_minus (rest : List Char) :
    readNumber ('-' :: rest) = readUnsigned true (rest.length + 1) rest :=
  rfl

theorem readNumber_of_not_minus {chars : List Char} (unsigned : ∀ rest, chars ≠ '-' :: rest) :
    readNumber chars = readUnsigned false chars.length chars := by
  unfold readNumber
  split
  rename_i negative body signed
  split at signed
  · exact absurd rfl (unsigned _)
  · cases signed
    rfl

theorem carries_readUnsigned (negative : Bool) {body body' : List Char} (same : Respaced body body')
    (length length' : Nat) :
    Carries body'.length (readUnsigned negative length body)
      (readUnsigned negative length' body') := by
  obtain ⟨whole, afterWhole⟩ := same.wholePart
  obtain ⟨places, afterPlaces⟩ := afterWhole.fractionPart
  obtain ⟨exponent, left⟩ := afterPlaces.exponentPart
  have shorter (empty : ¬ (wholePart body).1.isEmpty = true) :
      (exponentPart (fractionPart (wholePart body').2).2).2.length < body'.length := by
    rw [List.isEmpty_iff, ← whole] at empty
    have positive := List.length_pos_iff.2 empty
    have parts := congrArg List.length (wholePart_append body')
    have most := ((uses_fractionPart (Json.wholePart body').2).trans
      (uses_exponentPart _)).length_le
    rw [List.length_append] at parts
    exact Nat.lt_of_le_of_lt most (by omega)
  simp only [readUnsigned, whole, places, exponent]
  split_ifs with empty integer long
  · trivial
  · rfl
  -- The sign changes what an integer is, but not what is left of it.
  · exact ⟨_, rfl, left, shorter empty⟩
  · exact ⟨_, rfl, left, shorter empty⟩
  · exact ⟨_, rfl, left, shorter empty⟩

theorem carries_readNumber {chars chars' : List Char} (same : Respaced chars chars') :
    Carries chars'.length (readNumber chars) (readNumber chars') := by
  by_cases minus : ∃ rest, chars = '-' :: rest
  · obtain ⟨rest, rfl⟩ := minus
    obtain ⟨rest', rfl, later⟩ := same.cons rfl
    rw [readNumber_minus, readNumber_minus]
    exact (carries_readUnsigned true later _ _).mono (Nat.le_succ _)
  · have unsigned : ∀ rest, chars ≠ '-' :: rest := fun rest starts => minus ⟨rest, starts⟩
    rw [readNumber_of_not_minus unsigned,
      readNumber_of_not_minus (same.not_starts rfl unsigned)]
    exact carries_readUnsigned false same _ _

/-- A number that is read starts with a digit, perhaps after a sign. -/
theorem starts_readNumber (chars : List Char) :
    (∃ what remaining, readNumber chars = .error (.fault what remaining)) ∨
      ∃ c rest, isDigit c = true ∧ (chars = c :: rest ∨ chars = '-' :: c :: rest) := by
  have starts (negative : Bool) (length : Nat) (body : List Char) :
      (∃ what remaining, readUnsigned negative length body = .error (.fault what remaining)) ∨
        ∃ c rest, isDigit c = true ∧ body = c :: rest := by
    cases whole : (wholePart body).1 with
    | nil => exact .inl ⟨.expectingValue, length, by simp [readUnsigned, whole]⟩
    | cons c digits =>
        have parts := wholePart_append body
        rw [whole] at parts
        have digit : isDigit c = true :=
          isDigit_of_mem_wholePart c (by rw [whole]; exact List.mem_cons_self)
        exact .inr ⟨c, _, digit, parts.symm⟩
  by_cases minus : ∃ rest, chars = '-' :: rest
  · obtain ⟨rest, rfl⟩ := minus
    rw [readNumber_minus]
    refine (starts true _ rest).imp_right ?_
    rintro ⟨c, rest, digit, rfl⟩
    exact ⟨c, rest, digit, .inr rfl⟩
  · rw [readNumber_of_not_minus fun rest starts => minus ⟨rest, starts⟩]
    refine (starts false _ chars).imp_right ?_
    rintro ⟨c, rest, digit, rfl⟩
    exact ⟨c, rest, digit, .inl rfl⟩

theorem isBreak_of_isDigit {c : Char} (digit : isDigit c = true) : isBreak c = false := by
  refine isBreak_eq_false ?_
  rintro (rfl | rfl | rfl) <;> cases digit

/-- Wherever a number is read, one is read with other breaks as well. -/
theorem carries_numeral {chars chars' : List Char} (same : Respaced chars chars')
    (fuel depth : Nat) :
    Carries chars'.length (readNumber chars) (readValue (fuel + 1) depth chars') := by
  have carries := carries_readNumber same
  rcases starts_readNumber chars with ⟨what, remaining, fails⟩ | ⟨c, rest, digit, rfl | rfl⟩
  · rw [fails]
    trivial
  · obtain ⟨rest', rfl, -⟩ := same.cons (isBreak_of_isDigit digit)
    rw [readValue_digit _ _ _ digit]
    exact carries
  · obtain ⟨rest', rfl, -⟩ := same.append ['-', c]
      (List.forall_mem_cons.2 ⟨rfl, by simpa using isBreak_of_isDigit digit⟩)
    rw [List.cons_append, List.singleton_append, readValue_minus _ _ _ digit]
    exact carries

end ConstrainedDecoding.Json
