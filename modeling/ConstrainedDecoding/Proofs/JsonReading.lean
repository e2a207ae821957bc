import ConstrainedDecoding.Proofs.JsonText

/-!
# What texts of values are read as

The text of any value, floating-point numbers and repeated names included, is read as the same value
but for two things, if it is read at all (`Json.readsAs_of_readWithin`): a floating-point number
comes back as some number, and a repeated name stands once, where it stood first, with the last of
its values. Numbers are the only values that need not be read to their end, and what would be left
of one can stand nowhere.
-/

namespace ConstrainedDecoding.Json

/-! ## The same value but for its numbers -/

mutual

/-- A value may be read from the text of another one. -/
def ReadsAs : Json → Json → Prop
  | null, read => read = null
  | bool value, read => read = bool value
  | int value, read => read = int value
  | float _, read => read.IsNumber
  | text value, read => read = text value
  | array items, read => ∃ others, read = array others ∧ ItemsReadAs items others
  | object members, read =>
    ∃ others, read = object (Keyed.ofList others) ∧ MembersReadAs members others

/-- Array items may be read from the texts of others. -/
def ItemsReadAs : List Json → List Json → Prop
  | [], read => read = []
  | item :: rest, read => ∃ other others, read = other :: others ∧ ReadsAs item other ∧
    ItemsReadAs rest others

/-- Object members may be read from the texts of others, under the same names. -/
def MembersReadAs : List (String × Json) → List (String × Json) → Prop
  | [], read => read = []
  | (name, value) :: rest, read => ∃ other others, read = (name, other) :: others ∧
    ReadsAs value other ∧ MembersReadAs rest others

end

mutual

/-- Without floating-point numbers and repeated names there is nothing to choose. -/
theorem eq_of_readsAs : ∀ {json found : Json}, json.isPlain = true → json.ReadsAs found →
    found = json
  | null, _, _, reads | bool _, _, _, reads | int _, _, _, reads | text _, _, _, reads => reads
  | float _, _, plain, _ => nomatch plain
  | array items, found, plain, reads => by
      rw [isPlain_array] at plain
      obtain ⟨others, rfl, itemsRead⟩ := reads
      rw [eq_of_itemsReadAs plain itemsRead]
  | object members, found, plain, reads => by
      rw [isPlain_object, Bool.and_eq_true, decide_eq_true_eq] at plain
      obtain ⟨others, rfl, membersRead⟩ := reads
      rw [eq_of_membersReadAs plain.2 membersRead, Keyed.ofList_of_nodup plain.1]

theorem eq_of_itemsReadAs : ∀ {items found : List Json}, items.all isPlain = true →
    ItemsReadAs items found → found = items
  | [], _, _, reads => reads
  | item :: rest, found, plain, reads => by
      rw [List.all_cons, Bool.and_eq_true] at plain
      obtain ⟨other, others, rfl, itemRead, restRead⟩ := reads
      rw [eq_of_readsAs plain.1 itemRead, eq_of_itemsReadAs plain.2 restRead]

theorem eq_of_membersReadAs : ∀ {members found : List (String × Json)},
    (members.all fun member => member.2.isPlain) = true → MembersReadAs members found →
    found = members
  | [], _, _, reads => reads
  | (name, value) :: rest, found, plain, reads => by
      rw [List.all_cons, Bool.and_eq_true] at plain
      obtain ⟨other, others, rfl, valueRead, restRead⟩ := reads
      rw [eq_of_readsAs plain.1 valueRead, eq_of_membersReadAs plain.2 restRead]

end

theorem keys_of_membersReadAs : ∀ {members found : List (String × Json)},
    MembersReadAs members found → Keyed.keys found = Keyed.keys members
  | [], _, reads => by rw [reads]
  | (name, value) :: rest, _, reads => by
      obtain ⟨other, others, rfl, _, restRead⟩ := reads
      rw [Keyed.keys_cons, Keyed.keys_cons, keys_of_membersReadAs restRead]

/-- Members with distinct names all stay. -/
theorem membersReadAs_of_readsAs {members : List (String × Json)} {found : Json}
    (distinct : (Keyed.keys members).Nodup) (reads : (object members).ReadsAs found) :
    ∃ others, found = object others ∧ MembersReadAs members others := by
  obtain ⟨others, rfl, membersRead⟩ := reads
  have distinctOthers : (Keyed.keys others).Nodup := keys_of_membersReadAs membersRead ▸ distinct
  exact ⟨others, by rw [Keyed.ofList_of_nodup distinctOthers], membersRead⟩

theorem membersReadAs_append : ∀ {first second found : List (String × Json)},
    MembersReadAs (first ++ second) found → ∃ one other, found = one ++ other ∧
      MembersReadAs first one ∧ MembersReadAs second other
  | [], _, found, reads => ⟨[], found, rfl, rfl, reads⟩
  | (name, value) :: rest, _, _, reads => by
      obtain ⟨other, others, rfl, valueRead, restRead⟩ := reads
      obtain ⟨one, two, rfl, oneRead, twoRead⟩ := membersReadAs_append restRead
      exact ⟨(name, other) :: one, two, rfl, ⟨other, one, rfl, valueRead, oneRead⟩, twoRead⟩

/-! ## Reading -/

/-- All is read that was written, or a number leaves a part of itself. -/
def Leaves (rest left : List Char) : Prop :=
  left = rest ∨ ∃ c tail, left = c :: tail ∧ isNumeral c = true

/-- A number that is followed by the end of a value. -/
theorem leaves_of_readNumber {chars rest left : List Char} {json : Json}
    (numerals : ∀ c ∈ chars, isNumeral c = true) (closes : Closes rest)
    (read : readNumber (chars ++ rest) = .ok (json, left)) :
    json.IsNumber ∧ Leaves rest left := by
  obtain ⟨⟨used, same, usedNumerals⟩, number⟩ := uses_readNumber read
  refine ⟨number, ?_⟩
  rcases List.append_eq_append_iff.1 same with ⟨extra, usedEq, rfl⟩ | ⟨extra, charsEq, rfl⟩
  · cases extra with
    | nil => exact .inl rfl
    | cons c extra =>
        have numeral := usedNumerals c (by simp [usedEq])
        rcases closes with rfl | rfl | rfl <;> cases numeral
  · cases extra with
    | nil => exact .inl rfl
    | cons c extra => exact .inr ⟨c, extra ++ rest, rfl, numerals c (by simp [charsEq])⟩

/-- A numeral starts a number, unless what follows it could spell an infinity. -/
theorem readValue_numeral (fuel depth : Nat) {c : Char} {tail : List Char}
    (numeral : isNumeral c = true) (next : ∀ rest, tail ≠ 'I' :: rest) :
    readValue (fuel + 1) depth (c :: tail) = readNumber (c :: tail) := by
  rw [readValue]
  all_goals
    intros
    rename_i same
    cases same
    first
    | exact absurd rfl (next _)
    | cases numeral

theorem readsAs_of_readValue_float {fuel depth : Nat} {rest left : List Char}
    {value : Binary .double} {json : Json} (closes : Closes rest)
    (read : readValue fuel depth ((floatText value).toList ++ rest) = .ok (json, left)) :
    json.IsNumber ∧ Leaves rest left := by
  cases fuel with
  | zero => cases read
  | succ fuel =>
      rcases floatText_cases value with word | word | word | ⟨numerals, nonempty⟩
      · rw [word] at read
        cases read
        exact ⟨.inr ⟨_, rfl⟩, .inl rfl⟩
      · rw [word] at read
        cases read
        exact ⟨.inr ⟨_, rfl⟩, .inl rfl⟩
      · rw [word] at read
        cases read
        exact ⟨.inr ⟨_, rfl⟩, .inl rfl⟩
      · obtain ⟨c, tail, start⟩ := List.exists_cons_of_ne_nil nonempty
        rw [start] at read numerals
        have next (others : List Char) : tail ++ rest ≠ 'I' :: others := by
          intro same
          cases tail with
          | nil =>
              cases rest with
              | nil => cases same
              | cons _ _ =>
                  cases same
                  rcases closes with impossible | impossible | impossible <;> cases impossible
          | cons _ _ =>
              cases same
              cases numerals 'I' (List.mem_cons_of_mem _ List.mem_cons_self)
        rw [List.cons_append, readValue_numeral _ _ (numerals c List.mem_cons_self) next] at read
        exact leaves_of_readNumber numerals closes read

/-- Where the end of a value has to follow, nothing of the value was left. -/
theorem Leaves.eq_of_skipBlanks {rest left after : List Char} {c : Char} (leaves : Leaves rest left)
    (follows : skipBlanks left = c :: after) (closes : Closes (c :: after)) : left = rest := by
  rcases leaves with same | ⟨numeral, tail, rfl, isNumeral_numeral⟩
  · exact same
  · rw [skipBlanks_cons (isBlank_of_isNumeral isNumeral_numeral)] at follows
    cases follows
    rcases closes with rfl | rfl | rfl <;> cases isNumeral_numeral

theorem closes_comma (rest : List Char) : Closes (',' :: rest) := .inl rfl

theorem closes_bracket (rest : List Char) : Closes (']' :: rest) := .inr (.inl rfl)

theorem closes_brace (rest : List Char) : Closes ('}' :: rest) := .inr (.inr rfl)

mutual

/-- What is read of the text of a value, if anything is. -/
theorem readsAs_of_readValue : ∀ (json : Json) {fuel depth : Nat} {rest left : List Char}
    {found : Json}, Closes rest → readValue fuel depth (json.write ++ rest) = .ok (found, left) →
    json.ReadsAs found ∧ Leaves rest left
  | _, 0, _, _, _, _, _, read => by cases read
  | .null, _ + 1, _, _, _, _, _, read | .bool true, _ + 1, _, _, _, _, _, read
  | .bool false, _ + 1, _, _, _, _, _, read => by
      cases read
      exact ⟨rfl, .inl rfl⟩
  | .float value, _ + 1, _, _, _, _, closes, read => readsAs_of_readValue_float closes read
  | .int value, fuel + 1, depth, rest, left, found, closes, read => by
      rw [write, readValue_toString, readNumber_toString value closes] at read
      split_ifs at read
      cases read
      exact ⟨rfl, .inl rfl⟩
  | .text value, fuel + 1, depth, rest, left, found, _, read => by
      rw [write, writeText, List.cons_append, List.append_assoc, readValue, List.singleton_append,
        readText_write] at read
      cases read
      exact ⟨congrArg Json.text String.ofList_toList, .inl rfl⟩
  | .array _, _ + 1, 0, _, _, _, _, read | .object _, _ + 1, 0, _, _, _, _, read => by cases read
  | .array [], _ + 1, _ + 1, _, _, _, _, read => by
      cases read
      exact ⟨⟨[], rfl, rfl⟩, .inl rfl⟩
  | .object [], _ + 1, _ + 1, _, _, _, _, read => by
      cases read
      exact ⟨⟨[], rfl, rfl⟩, .inl rfl⟩
  | .array (item :: items), fuel + 1, depth + 1, rest, left, found, _, read => by
      obtain ⟨c, tail, start, solid, opens⟩ := exists_writeItems_eq_cons item items
      rw [write, start, List.cons_append, List.append_assoc, List.singleton_append,
        List.cons_append, readValue_array _ _ _ solid opens] at read
      obtain ⟨⟨others, _⟩, inner, same⟩ := map_eq_ok.1 read
      cases same
      rw [← List.cons_append, ← start] at inner
      obtain ⟨itemsRead, rfl⟩ := itemsReadAs_of_readItems item items inner
      exact ⟨⟨others, rfl, itemsRead⟩, .inl rfl⟩
  | .object (member :: members), fuel + 1, depth + 1, rest, left, found, _, read => by
      obtain ⟨tail, start⟩ := exists_writeMembers_eq_cons member members
      rw [write, start, List.cons_append, List.append_assoc, List.singleton_append,
        List.cons_append, readValue_object] at read
      obtain ⟨⟨others, _⟩, inner, same⟩ := map_eq_ok.1 read
      cases same
      rw [← List.cons_append, ← start] at inner
      obtain ⟨membersRead, rfl⟩ := membersReadAs_of_readMembers member members inner
      exact ⟨⟨others, rfl, membersRead⟩, .inl rfl⟩

theorem itemsReadAs_of_readItems : ∀ (item : Json) (items : List Json) {fuel depth : Nat}
    {rest left : List Char} {found : List Json},
    readItems fuel depth (writeItems (item :: items) ++ ']' :: rest) = .ok (found, left) →
    ItemsReadAs (item :: items) found ∧ left = rest
  | _, _, 0, _, _, _, _, read => by cases read
  | item, [], fuel + 1, depth, rest, left, found, read => by
      rw [writeItems, readItems] at read
      obtain ⟨⟨value, after⟩, inner, read⟩ := bind_eq_ok.1 read
      obtain ⟨valueRead, leaves⟩ := readsAs_of_readValue item (closes_bracket _) inner
      dsimp only at read
      split at read
      · rename_i follows
        obtain rfl := leaves.eq_of_skipBlanks follows (closes_bracket _)
        cases follows
        cases read
        exact ⟨⟨value, [], rfl, valueRead, rfl⟩, rfl⟩
      · rename_i follows
        obtain rfl := leaves.eq_of_skipBlanks follows (closes_comma _)
        cases follows
      · cases read
  | item, next :: items, fuel + 1, depth, rest, left, found, read => by
      obtain ⟨c, tail, start, solid, _⟩ := exists_writeItems_eq_cons next items
      rw [writeItems_cons, readItems, List.append_assoc, List.cons_append,
        List.cons_append] at read
      obtain ⟨⟨value, after⟩, inner, read⟩ := bind_eq_ok.1 read
      obtain ⟨valueRead, leaves⟩ := readsAs_of_readValue item (closes_comma _) inner
      dsimp only at read
      split at read
      · rename_i follows
        obtain rfl := leaves.eq_of_skipBlanks follows (closes_bracket _)
        cases follows
      · rename_i follows
        obtain rfl := leaves.eq_of_skipBlanks follows (closes_comma _)
        cases follows
        obtain ⟨⟨others, _⟩, rest, same⟩ := map_eq_ok.1 read
        cases same
        rw [start, List.cons_append, skipBlanks_space solid, ← List.cons_append, ← start] at rest
        obtain ⟨othersRead, rfl⟩ := itemsReadAs_of_readItems next items rest
        exact ⟨⟨value, others, rfl, valueRead, othersRead⟩, rfl⟩
      · cases read

theorem membersReadAs_of_readMembers : ∀ (member : String × Json)
    (members : List (String × Json)) {fuel depth : Nat} {rest left : List Char}
    {found : List (String × Json)},
    readMembers fuel depth (writeMembers (member :: members) ++ '}' :: rest) =
      .ok (found, left) →
    MembersReadAs (member :: members) found ∧ left = rest
  | _, _, 0, _, _, _, _, read => by cases read
  | (name, value), [], fuel + 1, depth, rest, left, found, read => by
      obtain ⟨c, tail, start, solid, _⟩ := exists_write_eq_cons value
      rw [writeMembers, List.append_assoc, List.cons_append, List.cons_append, start,
        List.cons_append, readMembers_member _ _ _ _ solid] at read
      obtain ⟨⟨other, after⟩, inner, read⟩ := bind_eq_ok.1 read
      rw [← List.cons_append, ← start] at inner
      obtain ⟨valueRead, leaves⟩ := readsAs_of_readValue value (closes_brace _) inner
      dsimp only at read
      split at read
      · rename_i follows
        obtain rfl := leaves.eq_of_skipBlanks follows (closes_brace _)
        cases follows
        cases read
        exact ⟨⟨other, [], rfl, valueRead, rfl⟩, rfl⟩
      · rename_i follows
        obtain rfl := leaves.eq_of_skipBlanks follows (closes_comma _)
        cases follows
      · cases read
  | (name, value), next :: members, fuel + 1, depth, rest, left, found, read => by
      obtain ⟨c, tail, start, solid, _⟩ := exists_write_eq_cons value
      obtain ⟨more, quote⟩ := exists_writeMembers_eq_cons next members
      rw [writeMembers_cons, start] at read
      simp only [List.append_assoc, List.cons_append] at read
      rw [readMembers_member _ _ _ _ solid] at read
      obtain ⟨⟨other, after⟩, inner, read⟩ := bind_eq_ok.1 read
      rw [← List.cons_append, ← start] at inner
      obtain ⟨valueRead, leaves⟩ := readsAs_of_readValue value (closes_comma _) inner
      dsimp only at read
      split at read
      · rename_i follows
        obtain rfl := leaves.eq_of_skipBlanks follows (closes_brace _)
        cases follows
      · rename_i follows
        obtain rfl := leaves.eq_of_skipBlanks follows (closes_comma _)
        cases follows
        obtain ⟨⟨others, _⟩, rest, same⟩ := map_eq_ok.1 read
        cases same
        rw [quote, List.cons_append, skipBlanks_space rfl, ← List.cons_append, ← quote] at rest
        obtain ⟨othersRead, rfl⟩ := membersReadAs_of_readMembers next members rest
        exact ⟨⟨other, others, rfl, valueRead, othersRead⟩, rfl⟩
      · cases read

end

/-! ## Whole texts -/

/-- What is read of the text of a value is the value again, apart from its numbers and repeated
names. -/
theorem readsAs_of_readWithin {depth : Nat} {json found : Json}
    (known : readWithin depth json.render = .ok found) : json.ReadsAs found := by
  obtain ⟨c, tail, start, solid, _⟩ := exists_write_eq_cons json
  have chars : readChars depth json.write = .ok found := by
    rw [readWithin_render_eq_readLocated, readLocated] at known
    split at known
    · rename_i value whole
      cases known
      exact whole
    all_goals cases known
  have unblanked : skipBlanks json.write = json.write := by
    rw [start]
    exact skipBlanks_cons solid tail
  rw [readChars, unblanked] at chars
  obtain ⟨⟨value, after⟩, inner, ended⟩ := bind_eq_ok.1 chars
  rw [← List.append_nil json.write] at inner
  have closes : Closes [] := trivial
  dsimp only at ended
  split at ended
  · cases ended
    exact (readsAs_of_readValue json closes inner).1
  · cases ended

end ConstrainedDecoding.Json
