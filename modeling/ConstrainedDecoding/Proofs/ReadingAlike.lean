import ConstrainedDecoding.Proofs.LineBreaks

/-!
# JSON with other line breaks

Documents that differ in nothing but runs of breaks are read alike (`Json.readsAlike_readLocated`):
as the same value, as one beyond the same limit, or both as malformed. Both readers run side by
side, the second one with as many steps as its own characters ask for.
-/

namespace ConstrainedDecoding.Json

/-! ## Values -/

theorem length_skipBlanks_le (chars : List Char) : (skipBlanks chars).length ≤ chars.length :=
  (List.dropWhile_sublist _).length_le

/-- A sign that comes next, after blanks, comes next with other breaks as well. -/
theorem Respaced.exists_sign {chars chars' rest : List Char} {c : Char}
    (same : Respaced chars chars') (sign : Json.skipBlanks chars = c :: rest)
    (solid : isBreak c = false) :
    ∃ rest', Json.skipBlanks chars' = c :: rest' ∧ Respaced rest rest' ∧
      rest'.length < chars'.length := by
  have inside := same.skipBlanks
  rw [sign] at inside
  obtain ⟨rest', sign', later⟩ := inside.cons solid
  have least := length_skipBlanks_le chars'
  rw [sign', List.length_cons] at least
  exact ⟨rest', sign', later, least⟩

/-- How arrays and objects are read on. -/
theorem readValue_brace (fuel depth : Nat) {rest : List Char}
    (opens : ∀ left, skipBlanks rest ≠ '}' :: left) :
    readValue (fuel + 1) (depth + 1) ('{' :: rest) =
      (readMembers fuel depth (skipBlanks rest)).map fun (members, left) =>
        (.object (Keyed.ofList members), left) := by
  rw [readValue]
  split
  · exact absurd ‹_› (opens _)
  · rfl

theorem readValue_bracket (fuel depth : Nat) {rest : List Char}
    (opens : ∀ left, skipBlanks rest ≠ ']' :: left) :
    readValue (fuel + 1) (depth + 1) ('[' :: rest) =
      (readItems fuel depth (skipBlanks rest)).map fun (items, left) => (.array items, left) := by
  rw [readValue]
  split
  · exact absurd ‹_› (opens _)
  · rfl

theorem readValue_emptyObject (fuel depth : Nat) {rest left : List Char}
    (closes : skipBlanks rest = '}' :: left) :
    readValue (fuel + 1) (depth + 1) ('{' :: rest) = .ok (.object [], left) := by
  rw [readValue, closes]
  rfl

theorem readValue_emptyArray (fuel depth : Nat) {rest left : List Char}
    (closes : skipBlanks rest = ']' :: left) :
    readValue (fuel + 1) (depth + 1) ('[' :: rest) = .ok (.array [], left) := by
  rw [readValue, closes]
  rfl

/-- A word is read with other breaks after it as well. -/
theorem carries_word {c : Char} (word : List Char) {left chars' : List Char} {json : Json}
    {fuel depth : Nat} (same : Respaced (c :: word ++ left) chars')
    (solid : ∀ x ∈ c :: word, isBreak x = false)
    (reads : ∀ left, readValue (fuel + 1) depth (c :: word ++ left) = .ok (json, left)) :
    Carries chars'.length (.ok (json, left)) (readValue (fuel + 1) depth chars') := by
  obtain ⟨left', rfl, last⟩ := same.append (c :: word) solid
  exact ⟨left', reads left', last, by simp [Nat.lt_succ_of_le (Nat.le_add_left _ _)]⟩

mutual

theorem carries_readValue : ∀ (fuel fuel' depth : Nat) {chars chars' : List Char},
    Respaced chars chars' → 2 * chars'.length + 1 ≤ fuel' →
    Carries chars'.length (readValue fuel depth chars) (readValue fuel' depth chars')
  | 0, _, _, _, _, _, _ => by
      rw [readValue]
      trivial
  | fuel + 1, fuel' + 1, depth, chars, chars', same, enough => by
      generalize outcome : readValue (fuel + 1) depth chars = reading
      unfold readValue at outcome
      split at outcome
      case h_1 rest =>
        obtain ⟨rest', rfl, later⟩ := same.cons rfl
        subst outcome
        rw [readValue]
        exact ((carries_readText _ _ later).map fun value => text (String.ofList value)).mono
          (Nat.le_succ _)
      case h_2 rest =>
        obtain ⟨rest', rfl, later⟩ := same.cons rfl
        have least := length_skipBlanks_le rest'
        rw [List.length_cons] at enough
        split at outcome
        · subst outcome
          rfl
        split at outcome
        · rename_i left closes
          obtain ⟨left', closes', last, short⟩ := later.exists_sign closes rfl
          subst outcome
          rw [readValue_emptyObject _ _ closes']
          exact ⟨left', rfl, last, Nat.lt_succ_of_lt short⟩
        · rename_i opens
          subst outcome
          rw [readValue_brace _ _ (later.skipBlanks.not_starts rfl opens)]
          refine ((carries_readMembers fuel fuel' _ later.skipBlanks ?_).map fun members =>
            object (Keyed.ofList members)).mono ?_
          · omega
          · exact Nat.le_succ_of_le least
      case h_3 rest =>
        obtain ⟨rest', rfl, later⟩ := same.cons rfl
        have least := length_skipBlanks_le rest'
        rw [List.length_cons] at enough
        split at outcome
        · subst outcome
          rfl
        split at outcome
        · rename_i left closes
          obtain ⟨left', closes', last, short⟩ := later.exists_sign closes rfl
          subst outcome
          rw [readValue_emptyArray _ _ closes']
          exact ⟨left', rfl, last, Nat.lt_succ_of_lt short⟩
        · rename_i opens
          subst outcome
          rw [readValue_bracket _ _ (later.skipBlanks.not_starts rfl opens)]
          refine ((carries_readItems fuel fuel' _ later.skipBlanks ?_).map array).mono ?_
          · omega
          · exact Nat.le_succ_of_le least
      case h_10 =>
        subst outcome
        exact carries_numeral same fuel' depth
      case h_4 =>
        exact outcome ▸ carries_word ['u', 'l', 'l'] same (by simp [isBreak]) fun _ => rfl
      case h_5 =>
        exact outcome ▸ carries_word ['r', 'u', 'e'] same (by simp [isBreak]) fun _ => rfl
      case h_6 =>
        exact outcome ▸ carries_word ['a', 'l', 's', 'e'] same (by simp [isBreak]) fun _ => rfl
      case h_7 =>
        exact outcome ▸ carries_word ['a', 'N'] same (by simp [isBreak]) fun _ => rfl
      case h_8 =>
        exact outcome ▸ carries_word ['n', 'f', 'i', 'n', 'i', 't', 'y'] same (by simp [isBreak])
          fun _ => rfl
      case h_9 =>
        exact outcome ▸ carries_word ['I', 'n', 'f', 'i', 'n', 'i', 't', 'y'] same
          (by simp [isBreak]) fun _ => rfl

theorem carries_readItems : ∀ (fuel fuel' depth : Nat) {chars chars' : List Char},
    Respaced chars chars' → 2 * chars'.length + 2 ≤ fuel' →
    Carries chars'.length (readItems fuel depth chars) (readItems fuel' depth chars')
  | 0, _, _, _, _, _, _ => by
      rw [readItems]
      trivial
  | fuel + 1, fuel' + 1, depth, chars, chars', same, enough => by
      rw [readItems, readItems]
      refine (carries_readValue fuel fuel' depth same (by omega)).bind ?_
      intro item left left' respaced short
      dsimp only
      split
      · rename_i rest closes
        obtain ⟨rest', closes', last, shorter⟩ := respaced.exists_sign closes rfl
        rw [closes']
        exact ⟨rest', rfl, last, shorter.trans short⟩
      · rename_i rest continues
        obtain ⟨rest', continues', last, shorter⟩ := respaced.exists_sign continues rfl
        have least := length_skipBlanks_le rest'
        rw [continues']
        refine ((carries_readItems fuel fuel' depth last.skipBlanks ?_).map fun items =>
          item :: items).mono ?_
        · omega
        · omega
      · trivial

theorem carries_readMembers : ∀ (fuel fuel' depth : Nat) {chars chars' : List Char},
    Respaced chars chars' → 2 * chars'.length + 2 ≤ fuel' →
    Carries chars'.length (readMembers fuel depth chars) (readMembers fuel' depth chars')
  | 0, _, _, _, _, _, _ => by
      rw [readMembers]
      trivial
  | fuel + 1, fuel' + 1, depth, chars, chars', same, enough => by
      by_cases quote : ∃ rest, chars = '"' :: rest
      swap
      · rw [readMembers]
        · trivial
        · exact fun rest starts => quote ⟨rest, starts⟩
      obtain ⟨rest, rfl⟩ := quote
      obtain ⟨rest', rfl, later⟩ := same.cons rfl
      rw [List.length_cons] at enough
      rw [readMembers, readMembers]
      refine ((carries_readText _ _ later).mono (Nat.le_succ _)).bind ?_
      intro name afterName afterName' respaced short
      dsimp only
      split
      swap
      · trivial
      rename_i afterColon colon
      obtain ⟨afterColon', colon', last, shorter⟩ := respaced.exists_sign colon rfl
      have least := length_skipBlanks_le afterColon'
      rw [colon']
      refine ((carries_readValue fuel fuel' depth last.skipBlanks ?_).mono ?_).bind ?_
      · omega
      · omega
      intro value afterValue afterValue' respaced short
      dsimp only
      split
      · rename_i rest closes
        obtain ⟨rest', closes', last, shorter⟩ := respaced.exists_sign closes rfl
        rw [closes']
        exact ⟨rest', rfl, last, shorter.trans short⟩
      · rename_i rest continues
        obtain ⟨rest', continues', last, shorter⟩ := respaced.exists_sign continues rfl
        have least := length_skipBlanks_le rest'
        rw [continues']
        refine ((carries_readMembers fuel fuel' depth last.skipBlanks ?_).map fun members =>
          (String.ofList name, value) :: members).mono ?_
        · omega
        · omega
      · trivial

end

/-! ## Whole texts -/

/-- Reading comes to the same value, to the same limit, or is malformed both times. -/
structure ReadsAlike (outcome other : Except ReadError Json) : Prop where
  ok_iff (json : Json) : outcome = .ok json ↔ other = .ok json
  limit_iff (error : ReadError) (limit : error.isMalformed = false) :
    outcome = .error error ↔ other = .error error

theorem ReadsAlike.cases {outcome other : Except ReadError Json}
    (alike : ReadsAlike outcome other) :
    (∃ json, outcome = .ok json ∧ other = .ok json) ∨
      (∃ error, error.isMalformed = false ∧ outcome = .error error ∧ other = .error error) ∨
      ∃ error error', error.isMalformed = true ∧ error'.isMalformed = true ∧
        outcome = .error error ∧ other = .error error' := by
  cases outcome with
  | ok json => exact .inl ⟨json, rfl, (alike.ok_iff json).1 rfl⟩
  | error error =>
      cases malformed : error.isMalformed with
      | false => exact .inr (.inl ⟨error, malformed, rfl, (alike.limit_iff error malformed).1 rfl⟩)
      | true =>
          cases other with
          | ok json => exact nomatch (alike.ok_iff json).2 rfl
          | error error' =>
              cases malformed' : error'.isMalformed with
              | false =>
                  cases (alike.limit_iff error' malformed').2 rfl
                  exact nomatch malformed.symm.trans malformed'
              | true => exact .inr (.inr ⟨error, error', malformed, malformed', rfl, rfl⟩)

/-- What reading a whole text comes to carries over as well. -/
theorem readChars_respaced (depth : Nat) {chars chars' : List Char}
    (same : Respaced chars chars') :
    (∀ json, readChars depth chars = .ok json → readChars depth chars' = .ok json) ∧
      ∀ halt, (∀ what remaining, halt ≠ .fault what remaining) →
        readChars depth chars = .error halt → readChars depth chars' = .error halt := by
  have shorter := length_skipBlanks_le chars'
  have carries := carries_readValue (2 * chars.length + 2) (2 * chars'.length + 2) depth
    same.skipBlanks (by omega)
  unfold readChars
  cases outcome : readValue (2 * chars.length + 2) depth (skipBlanks chars) with
  | error halt =>
      rw [outcome] at carries
      rw [error_bind]
      constructor
      · intro json impossible
        cases impossible
      · rintro _ limit ⟨⟩
        cases halt with
        | fault what remaining => exact absurd rfl (limit what remaining)
        | tooManyDigits count =>
            rw [show readValue _ _ _ = .error (.tooManyDigits count) from carries, error_bind]
        | tooDeep container =>
            rw [show readValue _ _ _ = .error (.tooDeep container) from carries, error_bind]
  | ok read =>
      obtain ⟨value, left⟩ := read
      rw [outcome] at carries
      obtain ⟨left', outcome', respaced, -⟩ := carries
      have inside := respaced.skipBlanks
      rw [outcome', ok_bind, ok_bind]
      dsimp only
      cases ends : skipBlanks left with
      | nil =>
          rw [ends] at inside
          rw [inside.eq_nil]
          exact ⟨fun _ known => known, fun _ _ known => known⟩
      | cons c rest =>
          constructor
          · intro json impossible
            cases impossible
          · rintro _ limit ⟨⟩
            exact absurd rfl (limit _ _)

theorem readLocated_respaced (depth : Nat) {chars chars' : List Char}
    (same : Respaced chars chars') :
    (∀ json, readLocated depth chars = .ok json → readLocated depth chars' = .ok json) ∧
      ∀ error, error.isMalformed = false → readLocated depth chars = .error error →
        readLocated depth chars' = .error error := by
  obtain ⟨values, limits⟩ := readChars_respaced depth same
  unfold readLocated
  cases outcome : readChars depth chars with
  | ok value =>
      rw [values value outcome]
      exact ⟨fun _ known => known, fun _ _ known => known⟩
  | error halt =>
      cases halt with
      | fault what remaining =>
          constructor
          · intro json impossible
            cases impossible
          · rintro _ limit ⟨⟩
            cases limit
      | tooManyDigits count =>
          rw [limits _ (by simp) outcome]
          exact ⟨fun _ known => known, fun _ _ known => known⟩
      | tooDeep container =>
          rw [limits _ (by simp) outcome]
          exact ⟨fun _ known => known, fun _ _ known => known⟩

/-- Characters that differ in nothing but their breaks are read alike. -/
theorem readsAlike_readLocated (depth : Nat) {chars chars' : List Char}
    (same : Respaced chars chars') :
    ReadsAlike (readLocated depth chars) (readLocated depth chars') := by
  obtain ⟨values, limits⟩ := readLocated_respaced depth same
  obtain ⟨values', limits'⟩ := readLocated_respaced depth same.symm
  exact ⟨fun json => ⟨values json, values' json⟩,
    fun error limit => ⟨limits error limit, limits' error limit⟩⟩

end ConstrainedDecoding.Json
