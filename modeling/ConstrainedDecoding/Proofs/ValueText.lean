import ConstrainedDecoding.Proofs.JsonText
import ConstrainedDecoding.Value.Encode
import ConstrainedDecoding.Value.Field

/-!
# Values sent as texts

Grammars and tokenizer records go to an engine as JSON texts. A value that comes from JSON within
the limits is written as that JSON (`Value.renderWithin_ofJson`), and any other has no text
(`Value.exists_error_of_renderWithin_ofJson`). What is read back is the value itself if nothing in
it is a floating-point number or named twice (`Value.Plain.exists_text`), provided writer and reader
have room for its levels. Such values are built up part by part: a list or a mapping of them is one
again, one level deeper.
-/

namespace ConstrainedDecoding

/-- The value of a JSON text, read where `levels` more levels are left. -/
def EngineSession.valueOf (levels : Nat) (text : String) : Except Fault Value :=
  ((Json.readWithin levels text).mapError Fault.unreadable).map Value.ofJson

theorem EngineSession.valueOf_eq_ok {levels : Nat} {text : String} {value : Value} :
    valueOf levels text = .ok value ↔
      ∃ json, Json.readWithin levels text = .ok json ∧ Value.ofJson json = value := by
  unfold valueOf
  cases Json.readWithin levels text <;> simp [Except.map, Except.mapError]

namespace Value

open EngineSession (valueOf)

/-! ## What is written of a value from JSON -/

mutual

theorem toOption_toJsonWithin_ofJson : ∀ (json : Json) (depth : Nat),
    (toJsonWithin depth (ofJson json)).toOption = if json.fits depth then some json else none
  | .null, _ | .bool _, _ | .float _, _ | .text _, _ => rfl
  | .int value, depth => by
      rw [Json.fits_int, ofJson, toJsonWithin]
      split_ifs
      · rfl
      · rfl
  | .array items, 0 => by
      rw [Json.fits_array_zero]
      rfl
  | .object members, 0 => by
      rw [Json.fits_object_zero]
      rfl
  | .array items, depth + 1 => by
      rw [ofJson, toJsonWithin, toOption_map, toOption_itemsToJson_ofItems, Json.fits_array]
      split_ifs
      · rfl
      · rfl
  | .object members, depth + 1 => by
      rw [ofJson, toJsonWithin, toOption_map, toOption_entriesToJson_ofMembers, Json.fits_object]
      split_ifs
      · rfl
      · rfl

theorem toOption_itemsToJson_ofItems : ∀ (items : List Json) (depth : Nat),
    (itemsToJson depth (ofItems items)).toOption =
      if items.all (Json.fits depth) then some items else none
  | [], _ => rfl
  | item :: rest, depth => by
      rw [ofItems, itemsToJson, toOption_bind, toOption_toJsonWithin_ofJson, List.all_cons]
      cases item.fits depth with
      | false => rfl
      | true =>
          simp only [if_true, Option.bind_some, toOption_bind, toOption_itemsToJson_ofItems,
            Bool.true_and]
          split_ifs <;> rfl

theorem toOption_entriesToJson_ofMembers : ∀ (members : List (String × Json)) (depth : Nat),
    (entriesToJson depth (ofMembers members)).toOption =
      if members.all fun member => member.2.fits depth then some members else none
  | [], _ => rfl
  | (name, value) :: rest, depth => by
      have named : memberName (text name) = .ok name := rfl
      rw [ofMembers, entriesToJson, named, ok_bind, toOption_bind, toOption_toJsonWithin_ofJson,
        List.all_cons]
      cases value.fits depth with
      | false => rfl
      | true =>
          simp only [if_true, Option.bind_some, toOption_bind, toOption_entriesToJson_ofMembers,
            Bool.true_and]
          split_ifs <;> rfl

end

theorem entriesToJson_cons_eq_ok {depth : Nat} {name : String} {value : Value}
    {rest : List (Value × Value)} {members : List (String × Json)} :
    entriesToJson depth ((text name, value) :: rest) = .ok members ↔
      ∃ first, value.toJsonWithin depth = .ok first ∧
        ∃ others, entriesToJson depth rest = .ok others ∧ (name, first) :: others = members := by
  have named : memberName (text name) = .ok name := rfl
  rw [entriesToJson, named, ok_bind]
  simp only [bind_eq_ok, Except.ok.injEq]

theorem exists_of_entriesToJson_append {depth : Nat} {first second : List (Value × Value)}
    {members : List (String × Json)}
    (written : entriesToJson depth (first ++ second) = .ok members) :
    ∃ one other, entriesToJson depth first = .ok one ∧ entriesToJson depth second = .ok other ∧
      members = one ++ other := by
  induction first generalizing members with
  | nil => exact ⟨[], members, rfl, written, rfl⟩
  | cons entry rest ih =>
      obtain ⟨key, value⟩ := entry
      rw [List.cons_append, entriesToJson] at written
      obtain ⟨name, named, written⟩ := bind_eq_ok.1 written
      obtain ⟨json, encoded, written⟩ := bind_eq_ok.1 written
      obtain ⟨others, inner, written⟩ := bind_eq_ok.1 written
      cases written
      obtain ⟨one, other, restWritten, secondWritten, rfl⟩ := ih inner
      refine ⟨(name, json) :: one, other, ?_, secondWritten, rfl⟩
      rw [entriesToJson, named, ok_bind, encoded, ok_bind, restWritten]
      rfl

theorem eq_of_entriesToJson_ofMembers {depth : Nat} {members found : List (String × Json)}
    (written : entriesToJson depth (ofMembers members) = .ok found) : found = members := by
  have same := toOption_entriesToJson_ofMembers members depth
  rw [written] at same
  split_ifs at same
  · exact Option.some.inj same
  · cases same

/-- What comes from JSON within the limits is written as that JSON. -/
theorem renderWithin_ofJson {json : Json} {depth : Nat} (within : json.fits depth = true) :
    (ofJson json).renderWithin depth = .ok json.render := by
  have encoded : (ofJson json).toJsonWithin depth = .ok json :=
    eq_ok_of_toOption (by rw [toOption_toJsonWithin_ofJson, if_pos within])
  rw [renderWithin, encoded]
  rfl

/-- JSON beyond the limits has no text. -/
theorem exists_error_of_renderWithin_ofJson {json : Json} {depth : Nat}
    (beyond : json.fits depth = false) :
    ∃ fault, (ofJson json).renderWithin depth = .error fault := by
  have unencoded : ∃ fault, (ofJson json).toJsonWithin depth = .error fault :=
    exists_error_of_toOption (by
      rw [toOption_toJsonWithin_ofJson, if_neg (by rw [beyond]; decide)])
  obtain ⟨fault, unencoded⟩ := unencoded
  exact ⟨fault, by rw [renderWithin, unencoded]; rfl⟩

mutual

theorem isLimit_of_toJsonWithin : ∀ {json : Json} {depth : Nat} {fault : Fault},
    toJsonWithin depth (ofJson json) = .error fault →
      fault = .longInteger ∨ fault = .deepNesting
  | .null, _, _, failed | .bool _, _, _, failed | .float _, _, _, failed
  | .text _, _, _, failed => by cases failed
  | .int value, _, _, failed => by
      rw [ofJson, toJsonWithin] at failed
      split_ifs at failed
      cases failed
      exact .inl rfl
  | .array _, 0, _, failed | .object _, 0, _, failed => by
      cases failed
      exact .inr rfl
  | .array _, _ + 1, _, failed => isLimit_of_itemsToJson (map_eq_error.1 failed)
  | .object _, _ + 1, _, failed => isLimit_of_entriesToJson (map_eq_error.1 failed)

theorem isLimit_of_itemsToJson : ∀ {items : List Json} {depth : Nat} {fault : Fault},
    itemsToJson depth (ofItems items) = .error fault →
      fault = .longInteger ∨ fault = .deepNesting
  | _ :: _, _, _, failed => by
      rw [ofItems, itemsToJson] at failed
      rcases bind_eq_error.1 failed with first | ⟨_, _, failed⟩
      · exact isLimit_of_toJsonWithin first
      · rcases bind_eq_error.1 failed with others | ⟨_, _, impossible⟩
        · exact isLimit_of_itemsToJson others
        · cases impossible

theorem isLimit_of_entriesToJson : ∀ {members : List (String × Json)} {depth : Nat}
    {fault : Fault}, entriesToJson depth (ofMembers members) = .error fault →
      fault = .longInteger ∨ fault = .deepNesting
  | (name, _) :: _, _, _, failed => by
      have named : memberName (text name) = .ok name := rfl
      rw [ofMembers, entriesToJson, named, ok_bind] at failed
      rcases bind_eq_error.1 failed with first | ⟨_, _, failed⟩
      · exact isLimit_of_toJsonWithin first
      · rcases bind_eq_error.1 failed with others | ⟨_, _, impossible⟩
        · exact isLimit_of_entriesToJson others
        · cases impossible

end

/-- What is wrong with JSON beyond the limits is one of them. -/
theorem renderWithin_ofJson_of_beyond {json : Json} {depth : Nat}
    (beyond : json.fits depth = false) :
    (ofJson json).renderWithin depth = .error .longInteger ∨
      (ofJson json).renderWithin depth = .error .deepNesting := by
  obtain ⟨fault, failed⟩ := exists_error_of_renderWithin_ofJson beyond
  rcases isLimit_of_toJsonWithin (map_eq_error.1 failed) with rfl | rfl
  · exact .inl failed
  · exact .inr failed

theorem valueOf_render {json : Json} {levels : Nat} (plain : json.isPlain = true)
    (within : json.fits levels = true) : valueOf levels json.render = .ok (ofJson json) := by
  rw [valueOf, Json.readWithin_render plain within]
  rfl

theorem ofMembers_eq (members : List (String × Json)) :
    ofMembers members = members.map fun member => (text member.1, ofJson member.2) := by
  induction members with
  | nil => rfl
  | cons member rest ih => rw [ofMembers, ih, List.map_cons]

/-! ## Values that come back -/

/-- A value from JSON without floating-point numbers and names given twice, within the limits of
reading where `depth` more lists and mappings may be nested. -/
def Plain (depth : Nat) (value : Value) : Prop :=
  ∃ json : Json, ofJson json = value ∧ json.isPlain = true ∧ json.fits depth = true

namespace Plain

variable {depth : Nat}

/-- Such a value is written as one text wherever there is room for it, and that text gives the value
back wherever there is room to read it. -/
theorem exists_text {value : Value} (plain : Plain depth value) :
    ∃ written, (∀ room, depth ≤ room → value.renderWithin room = .ok written) ∧
      ∀ levels, depth ≤ levels → valueOf levels written = .ok value := by
  obtain ⟨json, rfl, good, within⟩ := plain
  refine ⟨json.render, ?_, ?_⟩
  · intro room enough
    exact renderWithin_ofJson (Json.fits_of_le within enough)
  · intro levels enough
    exact valueOf_render good (Json.fits_of_le within enough)

theorem null : Plain depth Value.null :=
  ⟨.null, rfl, rfl, rfl⟩

theorem bool (value : Bool) : Plain depth (.bool value) :=
  ⟨.bool value, rfl, rfl, rfl⟩

theorem text (value : String) : Plain depth (.text value) :=
  ⟨.text value, rfl, rfl, rfl⟩

theorem int {value : Int} (short : hasFewDigits value = true) : Plain depth (.int value) :=
  ⟨.int value, rfl, rfl, by rw [Json.fits_int, short]⟩

theorem list {items : List Value} (plain : ∀ item ∈ items, Plain depth item) :
    Plain (depth + 1) (.list items) := by
  have parts : ∃ jsons : List Json, ofItems jsons = items ∧ (∀ json ∈ jsons, json.isPlain = true) ∧
      ∀ json ∈ jsons, json.fits depth = true := by
    induction items with
    | nil => exact ⟨[], rfl, by simp, by simp⟩
    | cons item rest ih =>
        obtain ⟨first, rest⟩ := List.forall_mem_cons.1 plain
        obtain ⟨json, rfl, good, within⟩ := first
        obtain ⟨jsons, rfl, others, othersWithin⟩ := ih rest
        exact ⟨json :: jsons, rfl, List.forall_mem_cons.2 ⟨good, others⟩,
          List.forall_mem_cons.2 ⟨within, othersWithin⟩⟩
  obtain ⟨jsons, rfl, good, within⟩ := parts
  refine ⟨.array jsons, rfl, ?_, ?_⟩
  · rw [Json.isPlain_array, List.all_eq_true]
    exact good
  · rw [Json.fits_array, List.all_eq_true]
    exact within

theorem dict (members : List (String × Value)) (distinct : (Keyed.keys members).Nodup)
    (plain : ∀ member ∈ members, Plain depth member.2) :
    Plain (depth + 1) (.dict (members.map fun member => (.text member.1, member.2))) := by
  have parts : ∃ jsons : List (String × Json),
      jsons.map (fun member => (member.1, ofJson member.2)) = members ∧
      (∀ member ∈ jsons, member.2.isPlain = true) ∧
      ∀ member ∈ jsons, member.2.fits depth = true := by
    clear distinct
    induction members with
    | nil => exact ⟨[], rfl, by simp, by simp⟩
    | cons member rest ih =>
        obtain ⟨name, value⟩ := member
        obtain ⟨first, rest⟩ := List.forall_mem_cons.1 plain
        obtain ⟨json, rfl, good, within⟩ := first
        obtain ⟨jsons, rfl, others, othersWithin⟩ := ih rest
        exact ⟨(name, json) :: jsons, rfl, List.forall_mem_cons.2 ⟨good, others⟩,
          List.forall_mem_cons.2 ⟨within, othersWithin⟩⟩
  obtain ⟨jsons, rfl, good, within⟩ := parts
  have names : Keyed.keys (jsons.map fun member => (member.1, ofJson member.2)) =
      Keyed.keys jsons := by
    rw [Keyed.keys, List.map_map]
    rfl
  rw [names] at distinct
  refine ⟨.object jsons, ?_, ?_, ?_⟩
  · rw [ofJson, ofMembers_eq, List.map_map]
    rfl
  · rw [Json.isPlain_object, Bool.and_eq_true, decide_eq_true_eq, List.all_eq_true]
    exact ⟨distinct, good⟩
  · rw [Json.fits_object, List.all_eq_true]
    exact within

theorem mono {value : Value} {deeper : Nat} (plain : Plain depth value) (le : depth ≤ deeper) :
    Plain deeper value := by
  obtain ⟨json, same, good, within⟩ := plain
  exact ⟨json, same, good, Json.fits_of_le within le⟩

end Plain

/-! ## Texts as keys -/

@[simp] theorem text_beq (a b : String) : (text a == text b) = (a == b) := by
  show same (text a) (text b) = _
  rw [same]

end Value

end ConstrainedDecoding
