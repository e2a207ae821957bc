import ConstrainedDecoding.Bitmask
import Mathlib.Data.List.GetD
import Mathlib.Data.Nat.Bitwise

/-!
# Packed masks

`Bitmask.bit` reads one token off a packed mask. Unpacking lists the bits of the first tokens, as
far as there are words (`unpack_natCast`), which is for all tokens if the words are as many as it
takes (`unpack_eq_map_bit`). Packing sets the bits of the tokens that satisfy the condition
(`bit_pack`).
-/

namespace ConstrainedDecoding.Bitmask

/-- Whether a packed mask allows a token. -/
def bit (words : List MaskWord) (token : Nat) : Bool :=
  ((words[token / 32]?).getD 0).getLsbD (token % 32)

/-! ## Unpacking -/

theorem getElem?_flatMap_wordBits (words : List MaskWord) {token : Nat}
    (inside : token < 32 * words.length) :
    (words.flatMap wordBits)[token]? = some (bit words token) := by
  induction words generalizing token with
  | nil => simp at inside
  | cons word rest ih =>
      have width : (wordBits word).length = 32 := by simp [wordBits]
      rw [List.flatMap_cons]
      by_cases first : token < 32
      · have index : token / 32 = 0 ∧ token % 32 = token := by omega
        rw [List.getElem?_append_left (width ▸ first)]
        simp [wordBits, bit, index, first]
      · have index : token / 32 = (token - 32) / 32 + 1 ∧ token % 32 = (token - 32) % 32 := by
          omega
        have below : token - 32 < 32 * rest.length := by
          rw [List.length_cons] at inside
          omega
        rw [List.getElem?_append_right (by omega), width, ih below]
        simp [bit, index]

theorem length_flatMap_wordBits (words : List MaskWord) :
    (words.flatMap wordBits).length = 32 * words.length := by
  induction words with
  | nil => rfl
  | cons word rest ih =>
      rw [List.flatMap_cons, List.length_append, ih, List.length_cons]
      simp only [wordBits, List.length_map, List.length_range]
      omega

theorem flatMap_wordBits_eq (words : List MaskWord) :
    words.flatMap wordBits = (List.range (32 * words.length)).map (bit words) := by
  refine List.ext_getElem? fun token => ?_
  by_cases inside : token < 32 * words.length
  · rw [getElem?_flatMap_wordBits words inside]
    simp [inside]
  · rw [List.getElem?_eq_none (by rw [length_flatMap_wordBits]; omega)]
    simp [inside]

theorem takeSigned_natCast {α : Type} (length : Nat) (items : List α) :
    takeSigned length items = items.take length := by
  rw [takeSigned, if_pos (Int.natCast_nonneg length), Int.toNat_natCast]

/-- Unpacking lists the bits of the first tokens, as far as there are words. -/
theorem unpack_natCast (words : List MaskWord) (size : Nat) :
    unpack words size = (List.range (min size (32 * words.length))).map (bit words) := by
  rw [unpack, takeSigned_natCast, flatMap_wordBits_eq, ← List.map_take, List.take_range]

/-- With words for so many tokens and no more, unpacking lists their bits. -/
theorem unpack_eq_map_bit {words : List MaskWord} {size : Int}
    (enough : size ≤ 32 * words.length) (tight : 32 * words.length < size + 32) :
    unpack words size = (List.range size.toNat).map (bit words) := by
  by_cases nonnegative : 0 ≤ size
  · obtain ⟨count, rfl⟩ := Int.eq_ofNat_of_zero_le nonnegative
    rw [unpack_natCast, Nat.min_eq_left (by omega), Int.toNat_natCast]
  · -- no words are needed for a negative number of tokens
    have none : words = [] := List.eq_nil_of_length_eq_zero (by omega)
    have zero : size.toNat = 0 := by omega
    rw [unpack, takeSigned, if_neg nonnegative, none, zero, List.range_zero, List.map_nil,
      List.flatMap_nil, List.take_nil]

/-! ## Packing -/

theorem testBit_ofBits (bits : List Bool) (position : Nat) :
    (ofBits bits).testBit position = (bits[position]?).getD false := by
  induction bits generalizing position with
  | nil => simp [ofBits]
  | cons first rest ih =>
      cases position with
      | zero => cases first <;> simp [ofBits]
      | succ position =>
          have half : (first.toNat + 2 * ofBits rest) / 2 = ofBits rest := by
            have small : first.toNat < 2 := first.toNat_lt
            omega
          rw [ofBits, Nat.testBit_succ, half, ih, List.getElem?_cons_succ]

theorem getLsbD_wordOf (condition : Nat → Bool) {position : Nat} (inside : position < 32) :
    (wordOf condition).getLsbD position = condition position := by
  rw [wordOf, BitVec.getLsbD_ofNat, testBit_ofBits]
  simp [inside]

theorem bit_pack (condition : Nat → Bool) {count token : Nat} (inside : token < 32 * count) :
    bit (pack count condition) token = condition token := by
  have word : token / 32 < count := by omega
  have rest : token % 32 < 32 := Nat.mod_lt _ (by decide)
  have whole : 32 * (token / 32) + token % 32 = token := Nat.div_add_mod token 32
  have at_word : (pack count condition)[token / 32]? =
      some (wordOf fun position => condition (32 * (token / 32) + position)) := by
    simp [pack, word]
  rw [bit, at_word, Option.getD_some, getLsbD_wordOf _ rest, whole]

end ConstrainedDecoding.Bitmask
