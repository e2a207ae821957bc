import ConstrainedDecoding.Proofs.PackedMask
import Mathlib.Tactic.Ring

/-!
# Packed masks of signed words

The words of a packed mask are integers in two's complement: shifting one right keeps its sign, and
its bit 31 counts negatively. Read in this way, unpacking gives one bit for each token that is asked
for and has a word (`Bitmask.unpack_eq_map_signedBit`), and gives back whatever bits are packed,
wherever the last word ends (`Bitmask.unpack_packBits`).
-/

namespace ConstrainedDecoding.Bitmask

/-! ## Unpacking -/

/-- Whether a packed mask allows a token: the lowest bit of the token's word after shifting it right
as a signed integer. -/
def signedBit (words : List MaskWord) (token : Nat) : Bool :=
  (((words[token / 32]?).getD 0).toInt >>> (token % 32)) % 2 = 1

theorem getLsbD_zero_eq (word : MaskWord) : word.getLsbD 0 = decide (word.toInt % 2 = 1) := by
  rw [BitVec.getLsbD, Nat.testBit_zero, BitVec.toInt_eq_toNat_cond]
  refine decide_eq_decide.2 ?_
  split_ifs <;> omega

/-- Shifting a negative word fills it up with ones, which none of its own positions can see. -/
theorem getLsbD_eq_shiftRight (word : MaskWord) {position : Nat} (inside : position < 32) :
    word.getLsbD position = decide ((word.toInt >>> position) % 2 = 1) := by
  rw [← BitVec.toInt_sshiftRight, ← getLsbD_zero_eq, BitVec.getLsbD_sshiftRight]
  simp [inside]

theorem signedBit_eq_bit (words : List MaskWord) (token : Nat) :
    signedBit words token = bit words token :=
  (getLsbD_eq_shiftRight _ (Nat.mod_lt _ (by decide))).symm

/-- Unpacking gives the bits of the tokens that are asked for, as far as there are words. -/
theorem unpack_eq_map_signedBit (words : List MaskWord) (size : Nat) :
    unpack words size = (List.range (min size (32 * words.length))).map (signedBit words) := by
  rw [unpack_natCast, funext (signedBit_eq_bit words)]

/-! ## Packing -/

/-- The integer whose bits in two's complement satisfy a condition: bit 31 counts negatively. -/
def signedOf (condition : Nat → Bool) : Int :=
  ofBits ((List.range 31).map condition) - (condition 31).toNat * 2 ^ 31

theorem ofBits_concat (bits : List Bool) (last : Bool) :
    ofBits (bits ++ [last]) = ofBits bits + last.toNat * 2 ^ bits.length := by
  induction bits with
  | nil => simp [ofBits]
  | cons first rest ih =>
      rw [List.cons_append, ofBits, ih, ofBits, List.length_cons, Nat.pow_succ]
      ring

theorem ofBits_lt (bits : List Bool) : ofBits bits < 2 ^ bits.length := by
  induction bits with
  | nil => simp [ofBits]
  | cons first rest ih =>
      have small : first.toNat < 2 := first.toNat_lt
      rw [ofBits, List.length_cons, Nat.pow_succ]
      omega

theorem toInt_wordOf (condition : Nat → Bool) : (wordOf condition).toInt = signedOf condition := by
  have below := ofBits_lt ((List.range 31).map condition)
  rw [List.length_map, List.length_range] at below
  have whole : ofBits ((List.range 32).map condition) =
      ofBits ((List.range 31).map condition) + (condition 31).toNat * 2 ^ 31 := by
    rw [List.range_succ, List.map_append, List.map_singleton, ofBits_concat, List.length_map,
      List.length_range]
  rw [wordOf, BitVec.toInt_eq_toNat_cond, BitVec.toNat_ofNat, whole, signedOf]
  generalize ofBits ((List.range 31).map condition) = low at below
  cases condition 31 with
  | true =>
      rw [Bool.toNat_true, Nat.mod_eq_of_lt (by omega), if_neg (by omega)]
      omega
  | false =>
      rw [Bool.toNat_false, Nat.mod_eq_of_lt (by omega), if_pos (by omega)]
      omega

theorem toInt_pack (count : Nat) (allowed : Nat → Bool) :
    (pack count allowed).map BitVec.toInt =
      (List.range count).map
        fun word => signedOf fun position => allowed (32 * word + position) := by
  rw [pack, List.map_map]
  refine List.map_congr_left fun word _ => ?_
  rw [Function.comp_apply, toInt_wordOf]

/-- The places of packed bits, and in the last word any others. -/
def filled (bits : List Bool) (padding : Nat → Bool) (token : Nat) : Bool :=
  (bits[token]?).getD (padding token)

/-- Bits packed into as many words as it takes to hold them, with anything in the places that are
left over in the last word. -/
def packBits (bits : List Bool) (padding : Nat → Bool) : List MaskWord :=
  pack ((bits.length + 31) / 32) (filled bits padding)

theorem map_bit_packBits (bits : List Bool) (padding : Nat → Bool) :
    (List.range bits.length).map (bit (packBits bits padding)) = bits := by
  refine List.ext_getElem (by simp) fun token _ inside => ?_
  rw [List.getElem_map, List.getElem_range, packBits, bit_pack _ (by omega), filled,
    List.getElem?_eq_getElem inside, Option.getD_some]

theorem unpack_packBits (bits : List Bool) (padding : Nat → Bool) :
    unpack (packBits bits padding) bits.length = bits := by
  have count : (packBits bits padding).length = (bits.length + 31) / 32 := by
    simp [packBits, pack]
  have enough : min bits.length (32 * ((bits.length + 31) / 32)) = bits.length := by omega
  rw [unpack_natCast, count, enough, map_bit_packBits]

/-- Unpacking inverts packing, whatever fills up the last word, and of any words it gives the bits
in two's complement, as many as are asked for and there are. -/
theorem unpack_inverts_packing (bits : List Bool) (padding : Nat → Bool) :
    (packBits bits padding).map BitVec.toInt =
      (List.range ((bits.length + 31) / 32)).map
        (fun word => signedOf fun position => filled bits padding (32 * word + position)) ∧
    unpack (packBits bits padding) bits.length = bits ∧
    ∀ (words : List MaskWord) (size : Nat),
      unpack words size = (List.range (min size (32 * words.length))).map (signedBit words) :=
  ⟨toInt_pack _ _, unpack_packBits bits padding, unpack_eq_map_signedBit⟩

end ConstrainedDecoding.Bitmask
