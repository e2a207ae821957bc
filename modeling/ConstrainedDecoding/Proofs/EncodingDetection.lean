import ConstrainedDecoding.Text.Encoding
import ConstrainedDecoding.Proofs.Outcome
import Mathlib.Algebra.Group.Nat.Defs
import Mathlib.Tactic.SplitIfs

/-!
# UTF-8, marks and zero bytes

Bytes that are UTF-8 are still so where halves of pairs pass (`Text.decodeFrom_lenient`), and a body
is decoded to the same characters unless something else is detected in it. Where something else is,
a mark starts the characters, or one of the first two is zero (`Text.starts_of_not_plain`).
-/

namespace ConstrainedDecoding.Text

/-! ## Fronts -/

theorem continuation_of_wider {share seen tails low low' high high' : Nat} {rest : List UInt8}
    {c : Char} {length : Nat} (lower : low' ≤ low) (higher : high ≤ high')
    (known : continuation share seen tails low high rest = .char c length) :
    continuation share seen tails low' high' rest = .char c length := by
  cases tails with
  | zero => exact known
  | succ tails =>
      cases rest with
      | nil => cases known
      | cons byte rest =>
          rw [continuation] at known ⊢
          split at known
          · rename_i within
            rw [if_pos ⟨Nat.le_trans lower within.1, Nat.le_trans within.2 higher⟩]
            exact known
          · cases known

theorem lead?_lenient {byte : Nat} {lead : Lead} (known : lead? false byte = some lead) :
    ∃ high, lead.high ≤ high ∧ lead? true byte = some { lead with high } := by
  by_cases half : byte = 0xed
  · subst half
    cases known
    exact ⟨0xbf, by decide, rfl⟩
  · have same : lead? true byte = lead? false byte := by simp [lead?, half]
    exact ⟨lead.high, Nat.le_refl _, same.trans known⟩

theorem frontUtf8_lenient {first : UInt8} {rest : List UInt8} {c : Char} {length : Nat}
    (known : frontUtf8 false first rest = .char c length) :
    frontUtf8 true first rest = .char c length := by
  unfold frontUtf8 at known ⊢
  cases leads : lead? false first.toNat with
  | none =>
      rw [leads] at known
      cases known
  | some lead =>
      rw [leads] at known
      obtain ⟨high, wider, leads'⟩ := lead?_lenient leads
      rw [leads']
      dsimp only at known ⊢
      cases strict : continuation lead.share 1 lead.tails lead.low lead.high rest with
      | malformed what length =>
          rw [strict] at known
          cases known
      | char c' length' =>
          rw [strict] at known
          rw [continuation_of_wider (Nat.le_refl _) wider strict]
          exact known

/-- What is UTF-8 is so where halves of pairs pass. -/
theorem decodeFrom_lenient {skip position : Nat} {bytes : List UInt8} {chars : List Char}
    (position' : Nat) (known : decodeFrom .utf8 false skip position bytes = .ok chars) :
    decodeFrom .utf8 true skip position' bytes = .ok chars := by
  induction bytes generalizing skip position position' chars with
  | nil =>
      cases known
      rfl
  | cons first rest ih =>
      cases skip with
      | succ skip =>
          rw [decodeFrom] at known ⊢
          exact ih _ known
      | zero =>
          rw [decodeFrom] at known ⊢
          cases front : Encoding.utf8.front false first rest with
          | malformed what length =>
              simp only [front] at known
              cases known
          | char c length =>
              simp only [front] at known
              have lenient : Encoding.utf8.front true first rest = .char c length :=
                frontUtf8_lenient front
              simp only [lenient]
              obtain ⟨more, decoded, rfl⟩ := map_eq_ok.1 known
              rw [ih _ decoded]
              rfl

/-! ## What stands at the front -/

/-- The first character of what is UTF-8 is the one at the front. -/
theorem front_of_decodeFrom {position : Nat} {first : UInt8} {rest : List UInt8}
    {chars : List Char} (known : decodeFrom .utf8 false 0 position (first :: rest) = .ok chars) :
    ∃ c length more, frontUtf8 false first rest = .char c length ∧ chars = c :: more ∧
      decodeFrom .utf8 false (length - 1) (position + 1) rest = .ok more := by
  rw [decodeFrom] at known
  cases front : Encoding.utf8.front false first rest with
  | malformed what length =>
      simp only [front] at known
      cases known
  | char c length =>
      simp only [front] at known
      obtain ⟨more, decoded, rfl⟩ := map_eq_ok.1 known
      exact ⟨c, length, more, front, rfl, decoded⟩

theorem code_of_continuation {share seen tails low high : Nat} {rest : List UInt8} {c : Char}
    {length : Nat} (known : continuation share seen tails low high rest = .char c length) :
    ∃ code, c = charOf code ∧ share * 64 ^ tails ≤ code ∧ code < (share + 1) * 64 ^ tails := by
  induction tails generalizing share seen low high rest with
  | zero =>
      cases known
      exact ⟨share, rfl, by omega, by omega⟩
  | succ tails ih =>
      cases rest with
      | nil => cases known
      | cons byte rest =>
          rw [continuation] at known
          split at known
          · obtain ⟨code, rfl, least, most⟩ := ih known
            refine ⟨code, rfl, ?_, ?_⟩
            · calc share * 64 ^ (tails + 1) = share * 64 * 64 ^ tails := by
                    rw [Nat.pow_succ', Nat.mul_assoc]
                _ ≤ (share * 64 + byte.toNat % 64) * 64 ^ tails :=
                    Nat.mul_le_mul_right _ (Nat.le_add_right _ _)
                _ ≤ code := least
            · calc code < (share * 64 + byte.toNat % 64 + 1) * 64 ^ tails := most
                _ ≤ ((share + 1) * 64) * 64 ^ tails := Nat.mul_le_mul_right _ (by omega)
                _ = (share + 1) * 64 ^ (tails + 1) := by rw [Nat.pow_succ', Nat.mul_assoc]
          · cases known

theorem toNat_ofNat (code : Nat) :
    (Char.ofNat code).toNat = if code.isValidChar then code else 0 := by
  by_cases valid : code.isValidChar
  · rw [Char.ofNat, dif_pos valid, if_pos valid]
    rfl
  · rw [Char.ofNat, dif_neg valid, if_neg valid]
    rfl

theorem eq_of_charOf_mark {code : Nat} (mark : charOf code = '\ufeff') : code = 0xfeff := by
  have number := congrArg Char.toNat mark
  unfold charOf at number
  split at number
  · rename_i half
    simp only [isHighHalf, isLowHalf, Bool.or_eq_true, Bool.and_eq_true, decide_eq_true_eq] at half
    rw [toNat_ofNat] at number
    split at number
    · have shift : halfShift = 0x101800 := rfl
      have mark : '\ufeff'.toNat = 0xfeff := rfl
      omega
    · cases number
  · rw [toNat_ofNat] at number
    split at number
    · exact number
    · cases number

/-- The bytes that two continuation bytes make of their share. -/
theorem bytes_of_continuation {share seen low high : Nat} {rest : List UInt8} {c : Char}
    {length : Nat} (known : continuation share seen 2 low high rest = .char c length) :
    ∃ b b' more, rest = b :: b' :: more ∧ low ≤ b.toNat ∧ b.toNat ≤ high ∧
      0x80 ≤ b'.toNat ∧ b'.toNat ≤ 0xbf ∧
      c = charOf ((share * 64 + b.toNat % 64) * 64 + b'.toNat % 64) := by
  match rest with
  | [] => cases known
  | [b] =>
      rw [continuation] at known
      split at known <;> cases known
  | b :: b' :: more =>
      rw [continuation] at known
      split at known
      · rename_i within
        rw [continuation] at known
        split at known
        · rename_i within'
          cases known
          exact ⟨b, b', more, rfl, within.1, within.2, within'.1, within'.2, rfl⟩
        · cases known
      · cases known

/-- What a leading byte announces, by the number of bytes that follow. -/
theorem lead?_cases {byte : Nat} {lead : Lead} (known : lead? false byte = some lead) :
    (lead.tails = 0 ∧ lead.share < 0x80) ∨ (lead.tails = 1 ∧ lead.share < 0x20) ∨
      (lead.tails = 2 ∧ byte = 0xe0 + lead.share ∧ lead.share < 0x10 ∧ 0x80 ≤ lead.low ∧
        lead.high ≤ 0xbf) ∨
      (lead.tails = 3 ∧ (1 ≤ lead.share ∨ 0x90 ≤ lead.low ∧ lead.high ≤ 0xbf)) := by
  unfold lead? at known
  split_ifs at known
  all_goals
    obtain rfl := Option.some.inj known
    dsimp only
    omega

/-- A mark is written in three bytes. -/
theorem mark_of_frontUtf8 {first : UInt8} {rest : List UInt8} {length : Nat}
    (front : frontUtf8 false first rest = .char '\ufeff' length) :
    ∃ more, first :: rest = 0xef :: 0xbb :: 0xbf :: more := by
  unfold frontUtf8 at front
  cases leads : lead? false first.toNat with
  | none =>
      rw [leads] at front
      cases front
  | some lead =>
      rw [leads] at front
      dsimp only at front
      have known : continuation lead.share 1 lead.tails lead.low lead.high rest =
          .char '\ufeff' length := by
        split at front
        · contradiction
        · exact front
      obtain ⟨code, mark, least, most⟩ := code_of_continuation known
      obtain rfl := eq_of_charOf_mark mark.symm
      rcases lead?_cases leads with ⟨tails, share⟩ | ⟨tails, share⟩ |
        ⟨tails, byte, share, low, high⟩ | ⟨tails, more⟩
      · rw [tails] at most
        omega
      · rw [tails] at most
        omega
      · rw [tails] at known least most
        obtain ⟨b, b', more, rfl, least, most, least', most', value⟩ := bytes_of_continuation known
        have code := eq_of_charOf_mark value.symm
        have first : first = 0xef := UInt8.toNat_inj.1 (by simp; omega)
        have second : b = 0xbb := UInt8.toNat_inj.1 (by simp; omega)
        have third : b' = 0xbf := UInt8.toNat_inj.1 (by simp; omega)
        exact ⟨more, by rw [first, second, third]⟩
      · rw [tails] at known least most
        rcases more with high | ⟨low, high⟩
        · omega
        cases rest with
        | nil => cases known
        | cons b rest =>
            rw [continuation] at known
            split at known
            · obtain ⟨code, value, least, -⟩ := code_of_continuation known
              have code := eq_of_charOf_mark value.symm
              omega
            · cases known

theorem decodeFrom_zero (position : Nat) (rest : List UInt8) :
    decodeFrom .utf8 false 0 position (0 :: rest) =
      (decodeFrom .utf8 false 0 (position + 1) rest).map ('\x00' :: ·) :=
  rfl

theorem decodeFrom_mark (position : Nat) (rest : List UInt8) :
    decodeFrom .utf8 false 0 position (0xef :: 0xbb :: 0xbf :: rest) =
      (decodeFrom .utf8 false 0 (position + 3) rest).map ('\ufeff' :: ·) := by
  have mark : charOf 0xfeff = '\ufeff' := by decide
  rw [← mark]
  rfl

theorem lead?_low {byte : Nat} {lead : Lead} (known : lead? false byte = some lead) :
    0x80 ≤ lead.low := by
  unfold lead? at known
  split_ifs at known
  all_goals
    obtain rfl := Option.some.inj known
    simp

/-- A zero byte is a character of its own wherever one can start. -/
theorem zero_of_decodeFrom {position : Nat} {first : UInt8} {rest : List UInt8}
    {chars : List Char}
    (known : decodeFrom .utf8 false 0 position (first :: 0 :: rest) = .ok chars) :
    ∃ c more, chars = c :: '\x00' :: more := by
  obtain ⟨c, length, more, front, rfl, decoded⟩ := front_of_decodeFrom known
  have single : length = 1 := by
    unfold frontUtf8 at front
    cases leads : lead? false first.toNat with
    | none =>
        rw [leads] at front
        cases front
    | some lead =>
        have low := lead?_low leads
        rw [leads] at front
        dsimp only at front
        cases tails : lead.tails with
        | zero =>
            rw [tails] at front
            cases front
            rfl
        | succ tails =>
            rw [tails, continuation, if_neg (fun within => by
              have zero : (0 : UInt8).toNat = 0 := rfl
              omega)] at front
            cases front
  rw [single, decodeFrom_zero] at decoded
  obtain ⟨others, _, rfl⟩ := map_eq_ok.1 decoded
  exact ⟨c, others, rfl⟩

/-! ## Detection -/

/-- What is UTF-8 without a mark and zero bytes at the front is taken for that. -/
theorem decodeDetected_of_decode {bytes : List UInt8} {chars : List Char}
    (plain : detect bytes = (.utf8, bytes)) (known : decode .utf8 false bytes = .ok chars) :
    decodeDetected bytes = .ok chars := by
  unfold decodeDetected
  rw [plain]
  exact decodeFrom_lenient _ known

/-- Without a mark, anything but UTF-8 shows in a zero byte among the first two. -/
theorem unmarkedEncoding_cases (bytes : List UInt8) :
    unmarkedEncoding bytes = .utf8 ∨ (∃ rest, bytes = 0 :: rest) ∨
      ∃ first rest, bytes = first :: 0 :: rest := by
  unfold unmarkedEncoding
  split
  · rename_i a b c d rest
    split_ifs with first wide second wide'
    · exact .inr (.inl ⟨_, by rw [first]⟩)
    · exact .inr (.inl ⟨_, by rw [first]⟩)
    · exact .inr (.inr ⟨a, _, by rw [second]⟩)
    · exact .inr (.inr ⟨a, _, by rw [second]⟩)
    · exact .inl rfl
  · rename_i a b
    split_ifs with first second
    · exact .inr (.inl ⟨_, by rw [first]⟩)
    · exact .inr (.inr ⟨a, _, by rw [second]⟩)
    · exact .inl rfl
  · exact .inl rfl

/-- Where something else is detected, there is a mark at the front or a zero byte. -/
theorem detected_cases (bytes : List UInt8) :
    detect bytes = (.utf8, bytes) ∨ (∃ rest, bytes = 0xef :: 0xbb :: 0xbf :: rest) ∨
      (∃ rest, bytes = 0xfe :: rest ∨ bytes = 0xff :: rest) ∨ (∃ rest, bytes = 0 :: rest) ∨
      ∃ first rest, bytes = first :: 0 :: rest := by
  unfold detect
  split
  · exact .inr (.inr (.inr (.inl ⟨_, rfl⟩)))
  · exact .inr (.inr (.inl ⟨_, .inr rfl⟩))
  · exact .inr (.inr (.inl ⟨_, .inl rfl⟩))
  · exact .inr (.inr (.inl ⟨_, .inr rfl⟩))
  · exact .inr (.inl ⟨_, rfl⟩)
  · rcases unmarkedEncoding_cases bytes with plain | zero
    · exact .inl (congrArg (·, bytes) plain)
    · exact .inr (.inr (.inr zero))

theorem unmarked_of_detect {bytes : List UInt8} {chars : List Char}
    (plain : detect bytes = (.utf8, bytes)) (known : decode .utf8 false bytes = .ok chars) :
    ∀ rest, chars ≠ '\ufeff' :: rest := by
  rintro rest rfl
  cases bytes with
  | nil => cases known
  | cons first bytes =>
      obtain ⟨c, length, more, front, same, -⟩ := front_of_decodeFrom known
      cases same
      obtain ⟨left, marked⟩ := mark_of_frontUtf8 front
      rw [marked] at plain
      have shorter := congrArg List.length (congrArg Prod.snd plain)
      change left.length = left.length + 3 at shorter
      omega

/-- What is UTF-8, but not taken for that in full, starts with a mark or has a zero character first
or second. -/
theorem starts_of_not_plain {bytes : List UInt8} {chars : List Char}
    (other : detect bytes ≠ (.utf8, bytes)) (known : decode .utf8 false bytes = .ok chars) :
    (∃ rest, chars = '\ufeff' :: rest) ∨ (∃ rest, chars = '\x00' :: rest) ∨
      ∃ c rest, chars = c :: '\x00' :: rest := by
  rcases detected_cases bytes with plain | ⟨rest, rfl⟩ | ⟨rest, rfl | rfl⟩ | ⟨rest, rfl⟩ |
    ⟨first, rest, rfl⟩
  · exact absurd plain other
  · rw [decode, decodeFrom_mark] at known
    obtain ⟨more, _, rfl⟩ := map_eq_ok.1 known
    exact .inl ⟨more, rfl⟩
  · cases known
  · cases known
  · rw [decode, decodeFrom_zero] at known
    obtain ⟨more, _, rfl⟩ := map_eq_ok.1 known
    exact .inr (.inl ⟨more, rfl⟩)
  · exact .inr (.inr (zero_of_decodeFrom known))

end ConstrainedDecoding.Text
