import Mathlib.Algebra.Group.Nat.Defs
import Mathlib.Order.Basic
import ConstrainedDecoding.Json.Reader
import ConstrainedDecoding.Proofs.Outcome

/-!
# What JSON is read

Not every value can be read from a text: its integers must have few enough digits and its arrays and
objects must not be nested too deep, which `Json.fits` tests, and no object may name a member twice
(`Json.hasDistinctNames`). Nothing but such values ever comes out of a text
(`Json.hasDistinctNames_of_readWithin`, `Json.fits_of_readWithin`).
-/

namespace ConstrainedDecoding.Json

/-! ## Tests of values -/

mutual

/-- Whether a test holds of a value and of every value inside it. -/
def all (test : Json → Bool) : Json → Bool
  | array items => test (array items) && allItems test items
  | object members => test (object members) && allMembers test members
  | null => test null
  | bool value => test (bool value)
  | int value => test (int value)
  | float value => test (float value)
  | text value => test (text value)

/-- Whether a test holds of everything in array items. -/
def allItems (test : Json → Bool) : List Json → Bool
  | [] => true
  | item :: rest => all test item && allItems test rest

/-- Whether a test holds of everything in object members. -/
def allMembers (test : Json → Bool) : List (String × Json) → Bool
  | [] => true
  | (_, value) :: rest => all test value && allMembers test rest

end

mutual

/-- How many arrays and objects are nested. -/
def nesting : Json → Nat
  | array items => nestingItems items + 1
  | object members => nestingMembers members + 1
  | null | bool _ | int _ | float _ | text _ => 0

def nestingItems : List Json → Nat
  | [] => 0
  | item :: rest => max (nesting item) (nestingItems rest)

def nestingMembers : List (String × Json) → Nat
  | [] => 0
  | (_, value) :: rest => max (nesting value) (nestingMembers rest)

end

/-- Whether no floating-point number occurs. -/
def isFloatFree (json : Json) : Bool :=
  json.all fun
    | float _ => false
    | _ => true

/-- Whether no object names a member twice. -/
def hasDistinctNames (json : Json) : Bool :=
  json.all fun
    | object members => decide (Keyed.keys members).Nodup
    | _ => true

/-- Whether no integer has more digits than are read. -/
def hasShortIntegers (json : Json) : Bool :=
  json.all fun
    | int value => hasFewDigits value
    | _ => true

/-- Whether a value is within the limits of reading where `depth` more arrays and objects may be
nested. -/
def fits (depth : Nat) (json : Json) : Bool :=
  json.hasShortIntegers && decide (json.nesting ≤ depth)

/-! ## Tests of arrays and objects -/

theorem allItems_eq (test : Json → Bool) (items : List Json) :
    allItems test items = items.all (all test) := by
  induction items with
  | nil => rfl
  | cons item rest ih => rw [allItems, ih, List.all_cons]

theorem allMembers_eq (test : Json → Bool) (members : List (String × Json)) :
    allMembers test members = members.all fun member => all test member.2 := by
  induction members with
  | nil => rfl
  | cons member rest ih => rw [allMembers, ih, List.all_cons]

theorem nestingItems_le {items : List Json} {depth : Nat} :
    nestingItems items ≤ depth ↔ ∀ item ∈ items, item.nesting ≤ depth := by
  induction items with
  | nil => simp [nestingItems]
  | cons item rest ih => rw [nestingItems, Nat.max_le, ih, List.forall_mem_cons]

theorem nestingMembers_le {members : List (String × Json)} {depth : Nat} :
    nestingMembers members ≤ depth ↔ ∀ member ∈ members, member.2.nesting ≤ depth := by
  induction members with
  | nil => simp [nestingMembers]
  | cons member rest ih => rw [nestingMembers, Nat.max_le, ih, List.forall_mem_cons]

theorem isFloatFree_array (items : List Json) :
    (array items).isFloatFree = items.all isFloatFree := by
  rw [isFloatFree, all, allItems_eq, Bool.true_and]
  rfl

theorem isFloatFree_object (members : List (String × Json)) :
    (object members).isFloatFree = members.all fun member => member.2.isFloatFree := by
  rw [isFloatFree, all, allMembers_eq, Bool.true_and]
  rfl

theorem hasDistinctNames_array (items : List Json) :
    (array items).hasDistinctNames = items.all hasDistinctNames := by
  rw [hasDistinctNames, all, allItems_eq, Bool.true_and]
  rfl

theorem hasDistinctNames_object (members : List (String × Json)) :
    (object members).hasDistinctNames = (decide (Keyed.keys members).Nodup &&
      members.all fun member => member.2.hasDistinctNames) := by
  rw [hasDistinctNames, all, allMembers_eq]
  rfl

theorem fits_int (depth : Nat) (value : Int) :
    (int value).fits depth = hasFewDigits value := by
  simp only [fits, hasShortIntegers, all, nesting, Nat.zero_le, decide_true, Bool.and_true]

theorem fits_array_zero (items : List Json) : (array items).fits 0 = false := by
  simp [fits, nesting]

theorem fits_object_zero (members : List (String × Json)) : (object members).fits 0 = false := by
  simp [fits, nesting]

theorem fits_array (depth : Nat) (items : List Json) :
    (array items).fits (depth + 1) = items.all (fits depth) := by
  rw [Bool.eq_iff_iff]
  simp only [fits, hasShortIntegers, all, allItems_eq, nesting, Nat.add_le_add_iff_right,
    nestingItems_le, List.all_eq_true, Bool.and_eq_true, decide_eq_true_eq, Bool.true_and]
  exact forall₂_and.symm

theorem fits_object (depth : Nat) (members : List (String × Json)) :
    (object members).fits (depth + 1) = members.all fun member => member.2.fits depth := by
  rw [Bool.eq_iff_iff]
  simp only [fits, hasShortIntegers, all, allMembers_eq, nesting, Nat.add_le_add_iff_right,
    nestingMembers_le, List.all_eq_true, Bool.and_eq_true, decide_eq_true_eq, Bool.true_and]
  exact forall₂_and.symm

theorem fits_of_le {json : Json} {depth deeper : Nat} (within : json.fits depth = true)
    (le : depth ≤ deeper) : json.fits deeper = true := by
  rw [fits, Bool.and_eq_true, decide_eq_true_eq] at within ⊢
  exact ⟨within.1, Nat.le_trans within.2 le⟩

/-! ## Numbers that are read -/

theorem foldl_digits_lt {digits : List Nat} (small : ∀ digit ∈ digits, digit < 10) (start : Nat) :
    digits.foldl (fun value digit => value * 10 + digit) start <
      (start + 1) * 10 ^ digits.length := by
  induction digits generalizing start with
  | nil => simp
  | cons digit rest ih =>
      have first : digit < 10 := small digit List.mem_cons_self
      have others := ih (fun digit member => small digit (List.mem_cons_of_mem _ member))
        (start * 10 + digit)
      rw [List.foldl_cons, List.length_cons, Nat.pow_succ']
      calc rest.foldl (fun value digit => value * 10 + digit) (start * 10 + digit)
          < (start * 10 + digit + 1) * 10 ^ rest.length := others
        _ ≤ ((start + 1) * 10) * 10 ^ rest.length := Nat.mul_le_mul_right _ (by omega)
        _ = (start + 1) * (10 * 10 ^ rest.length) := Nat.mul_assoc ..

theorem digitsValue_lt {digits : List Char} (decimal : ∀ c ∈ digits, isDigit c = true) :
    digitsValue digits < 10 ^ digits.length := by
  have small : ∀ digit ∈ digits.map fun c => c.toNat - 48, digit < 10 := by
    intro digit member
    obtain ⟨c, among, rfl⟩ := List.mem_map.1 member
    have digit := decimal c among
    simp only [isDigit, Bool.and_eq_true, decide_eq_true_eq, Char.le_def] at digit
    have upper : c.toNat ≤ 57 := UInt32.le_iff_toNat_le.1 digit.2
    omega
  have bound := foldl_digits_lt small 0
  rwa [List.length_map, Nat.zero_add, Nat.one_mul] at bound

theorem isDigit_of_mem_wholePart {chars : List Char} :
    ∀ c ∈ (wholePart chars).1, isDigit c = true := by
  unfold wholePart
  split
  · simp [isDigit]
  · exact List.all_eq_true.1 List.all_takeWhile

theorem hasFewDigits_iff (value : Int) :
    hasFewDigits value = true ↔ value.natAbs < 10 ^ maxIntegerDigits := by
  rw [hasFewDigits, decide_eq_true_eq, Nat.length_toDigits_le_iff (by decide) (by decide)]

theorem isFit_readNumber {chars left : List Char} {json : Json} (depth : Nat)
    (read : readNumber chars = .ok (json, left)) :
    json.hasDistinctNames = true ∧ json.fits depth = true := by
  unfold readNumber at read
  split at read
  rename_i negative body _
  have short : ¬ maxIntegerDigits < (wholePart body).1.length →
      digitsValue (wholePart body).1 < 10 ^ maxIntegerDigits := by
    intro long
    have bound : digitsValue (wholePart body).1 < _ := digitsValue_lt isDigit_of_mem_wholePart
    exact Nat.lt_of_lt_of_le bound (Nat.pow_le_pow_right (by decide) (Nat.le_of_not_lt long))
  simp only at read
  split_ifs at read with empty integer long minus
  · cases read
    rw [fits_int, hasFewDigits_iff, Int.natAbs_neg, Int.natAbs_natCast]
    exact ⟨rfl, short long⟩
  · cases read
    rw [fits_int, hasFewDigits_iff, Int.natAbs_natCast]
    exact ⟨rfl, short long⟩
  · cases read
    exact ⟨rfl, rfl⟩

/-! ## Values that are read -/

mutual

theorem isFit_readValue : ∀ {fuel depth : Nat} {chars left : List Char} {json : Json},
    readValue fuel depth chars = .ok (json, left) →
    json.hasDistinctNames = true ∧ json.fits depth = true
  | fuel + 1, depth, chars, left, json, read => by
      unfold readValue at read
      split at read
      · obtain ⟨inner, _, same⟩ := map_eq_ok.1 read
        cases same
        exact ⟨rfl, rfl⟩
      · split at read
        · cases read
        · split at read
          · cases read
            exact ⟨rfl, by rw [fits_object]; rfl⟩
          · obtain ⟨⟨members, _⟩, inner, same⟩ := map_eq_ok.1 read
            cases same
            have good := Keyed.forall_ofList
              (fun value : Json => value.hasDistinctNames = true ∧ value.fits _ = true)
              (isFit_readMembers inner)
            rw [hasDistinctNames_object, fits_object, Bool.and_eq_true, decide_eq_true_eq,
              List.all_eq_true, List.all_eq_true]
            exact ⟨⟨Keyed.nodup_keys_ofList members, fun member among => (good member among).1⟩,
              fun member among => (good member among).2⟩
      · split at read
        · cases read
        · split at read
          · cases read
            exact ⟨rfl, by rw [fits_array]; rfl⟩
          · obtain ⟨⟨items, _⟩, inner, same⟩ := map_eq_ok.1 read
            cases same
            have good := isFit_readItems inner
            rw [hasDistinctNames_array, fits_array, List.all_eq_true, List.all_eq_true]
            exact ⟨fun item among => (good item among).1, fun item among => (good item among).2⟩
      -- What is left are the words, which are read as they stand, and numbers.
      all_goals try exact isFit_readNumber depth read
      all_goals
        cases read
        exact ⟨rfl, rfl⟩

theorem isFit_readItems : ∀ {fuel depth : Nat} {chars left : List Char} {items : List Json},
    readItems fuel depth chars = .ok (items, left) →
    ∀ item ∈ items, item.hasDistinctNames = true ∧ item.fits depth = true
  | fuel + 1, depth, chars, left, items, read => by
      unfold readItems at read
      obtain ⟨⟨first, afterItem⟩, inner, read⟩ := bind_eq_ok.1 read
      have good := isFit_readValue inner
      simp only at read
      split at read
      · cases read
        simpa using good
      · obtain ⟨⟨others, _⟩, later, same⟩ := map_eq_ok.1 read
        cases same
        exact List.forall_mem_cons.2 ⟨good, isFit_readItems later⟩
      · cases read

theorem isFit_readMembers : ∀ {fuel depth : Nat} {chars left : List Char}
    {members : List (String × Json)}, readMembers fuel depth chars = .ok (members, left) →
    ∀ member ∈ members, member.2.hasDistinctNames = true ∧ member.2.fits depth = true
  | fuel + 1, depth, chars, left, items, read => by
      unfold readMembers at read
      split at read
      · obtain ⟨⟨name, afterName⟩, _, read⟩ := bind_eq_ok.1 read
        simp only at read
        split at read
        · obtain ⟨⟨value, afterValue⟩, inner, read⟩ := bind_eq_ok.1 read
          have good := isFit_readValue inner
          simp only at read
          split at read
          · cases read
            simpa using good
          · obtain ⟨⟨others, _⟩, later, same⟩ := map_eq_ok.1 read
            cases same
            exact List.forall_mem_cons.2 ⟨good, isFit_readMembers later⟩
          · cases read
        · cases read
      · cases read

end

theorem isFit_readLocated {depth : Nat} {chars : List Char} {json : Json}
    (known : readLocated depth chars = .ok json) :
    json.hasDistinctNames = true ∧ json.fits depth = true := by
  unfold readLocated at known
  split at known
  · cases known
    rename_i whole
    obtain ⟨⟨value, left⟩, inner, ends⟩ := bind_eq_ok.1 whole
    simp only at ends
    split at ends
    · cases ends
      exact isFit_readValue inner
    · cases ends
  all_goals cases known

theorem isFit_readWithin {depth : Nat} {text : String} {json : Json}
    (known : readWithin depth text = .ok json) :
    json.hasDistinctNames = true ∧ json.fits depth = true := by
  unfold readWithin at known
  split at known
  · cases known
  · exact isFit_readLocated known

/-- No object that is read names a member twice. -/
theorem hasDistinctNames_of_readWithin {depth : Nat} {text : String} {json : Json}
    (known : readWithin depth text = .ok json) : json.hasDistinctNames = true :=
  (isFit_readWithin known).1

/-- Whatever is read is within the limits. -/
theorem fits_of_readWithin {depth : Nat} {text : String} {json : Json}
    (known : readWithin depth text = .ok json) : json.fits depth = true :=
  (isFit_readWithin known).2

end ConstrainedDecoding.Json
