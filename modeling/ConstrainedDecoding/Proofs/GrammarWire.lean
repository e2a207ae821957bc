import ConstrainedDecoding.Grammar.Basic
import ConstrainedDecoding.Proofs.Outcome
import ConstrainedDecoding.Proofs.ValueText
import ConstrainedDecoding.Scripted.TokenEngine
import ConstrainedDecoding.TokenEngine.Session

/-!
# The wire form of grammars

A grammar is sent to an engine as the text of its wire form. Nothing is lost on the way: the text is
read as the wire form again, and compiling that makes a single call to the engine, with the content
of the grammar as it was (`Grammar.compile_of_means`). Schemas have to be free of floating-point
numbers and of integers with too many digits, and there must be room for the three levels that the
wire form puts around them; a schema with a longer integer has no text, however much room there is
(`Grammar.no_text_beyond_limits`).
-/

namespace ConstrainedDecoding

/-! ## What a wire form constrains -/

namespace Constraint

/-- The wire form with a single constraint. -/
def wire (members : List (String × Value)) : Value :=
  .dict [(.text "grammars", .list [.dict (members.map fun member => (.text member.1, member.2))])]

section

variable [Stack]

theorem selectStart_text (grammar start : String) :
    selectStart (.text grammar) (.text start) = .ok (.text (Lark.selectStart grammar start)) := by
  rw [selectStart, Value.text_beq]
  by_cases usual : start = "start"
  · rw [if_pos (beq_iff_eq.2 usual), Lark.selectStart, if_pos usual]
  · rw [if_neg (by simpa using usual)]
    rfl

theorem ofWire_jsonSchema (schema : Value) :
    ofWire (wire [("json_schema", schema)]) = .ok (.jsonSchema schema) := rfl

theorem ofWire_regex (pattern : Value) :
    ofWire (wire [("rx", pattern)]) = .ok (.regex pattern) := rfl

theorem ofWire_lark {grammar start : String} (named : start ≠ "") :
    ofWire (wire [("lark", .text grammar), ("start", .text start)]) =
      .ok (.lark (.text (Lark.selectStart grammar start))) := by
  have counts : (Value.text start).truthy = true := by simpa [Value.truthy] using named
  show (selectStart (.text grammar)
    (if (Value.text start).truthy then .text start else .text "start") >>=
      fun entered => Except.ok (lark entered)) = _
  rw [counts, if_pos rfl, selectStart_text]
  rfl

end

theorem plain_wire {depth : Nat} {members : List (String × Value)}
    (distinct : (Keyed.keys members).Nodup)
    (plain : ∀ member ∈ members, Value.Plain depth member.2) :
    Value.Plain (depth + 3) (wire members) := by
  have listed := Value.Plain.list
    (List.forall_mem_singleton.2 (Value.Plain.dict members distinct plain))
  exact Value.Plain.dict [("grammars", _)] (by simp [Keyed.keys])
    (List.forall_mem_singleton.2 listed)

end Constraint

/-! ## What a grammar sends -/

namespace Grammar

open Value (ofJson)

section

variable [Stack]

/-- The constraint that the content of a grammar amounts to. A schema is float-free JSON, given as a
value or as a text, whose integers have few enough digits and which is nested at most `depth` levels
deep; a start symbol that is empty is the usual one. -/
inductive Means (depth : Nat) : Grammar → Constraint → Prop
  | regex (pattern : String) : Means depth (.regex (.text pattern)) (.regex (.text pattern))
  | lark (grammar start : String) :
      Means depth (.lark (.text grammar) (.text start))
        (.lark (.text (Lark.selectStart grammar (if start = "" then "start" else start))))
  | schema (json : Json) (untexted : ∀ text, json ≠ .text text) (plain : json.isPlain = true)
      (within : json.fits depth = true) :
      Means depth (.jsonSchema (ofJson json)) (.jsonSchema (ofJson json))
  | schemaText (text : String) (json : Json)
      (known : Json.readWithin (Stack.levels .schemaText) text = .ok json)
      (floatFree : json.isFloatFree = true) (within : json.fits depth = true) :
      Means depth (.jsonSchema (.text text)) (.jsonSchema (ofJson json))

/-- A value from JSON other than a text is taken as it is. -/
theorem decodeSchema_ofJson {json : Json} (untexted : ∀ text, json ≠ .text text) :
    decodeSchema (ofJson json) = .ok (ofJson json) := by
  cases json with
  | text value => exact absurd rfl (untexted value)
  | _ => rfl

theorem decodeSchema_text {text : String} {json : Json}
    (known : Json.readWithin (Stack.levels .schemaText) text = .ok json) :
    decodeSchema (.text text) = .ok (ofJson json) := by
  rw [decodeSchema, known]
  rfl

theorem toWire_jsonSchema {schema decoded : Value} (known : decodeSchema schema = .ok decoded) :
    (jsonSchema schema).toWire = .ok (Constraint.wire [("json_schema", decoded)]) := by
  rw [toWire, constraint, known]
  rfl

theorem toWire_lark (grammar start : String) :
    (lark (.text grammar) (.text start)).toWire = .ok (Constraint.wire
      [("lark", .text grammar), ("start", .text (if start = "" then "start" else start))]) := by
  have chosen : (if (Value.text start).truthy then Value.text start else .text "start") =
      .text (if start = "" then "start" else start) := by
    by_cases empty : start = "" <;> simp [Value.truthy, empty]
  rw [← chosen]
  rfl

variable {depth : Nat} {g : Grammar} {constraint : Constraint}

/-- The wire form of a grammar comes back from its text and constrains to the grammar's content. -/
theorem Means.exists_wire (means : Means depth g constraint) :
    ∃ wire, g.toWire = .ok wire ∧ Value.Plain (depth + 3) wire ∧
      Constraint.ofWire wire = .ok constraint := by
  have wired : ∀ {schema decoded : Value}, decodeSchema schema = .ok decoded →
      decoded.Plain depth → ∃ wire, (jsonSchema schema).toWire = .ok wire ∧
        Value.Plain (depth + 3) wire ∧
        Constraint.ofWire wire = .ok (.jsonSchema decoded) := fun known plain =>
    ⟨_, toWire_jsonSchema known,
      Constraint.plain_wire (by simp [Keyed.keys]) (List.forall_mem_singleton.2 plain),
      Constraint.ofWire_jsonSchema _⟩
  cases means with
  | regex pattern =>
      refine ⟨Constraint.wire [("rx", .text pattern)], rfl, ?_, Constraint.ofWire_regex _⟩
      exact Constraint.plain_wire (by simp [Keyed.keys])
        (List.forall_mem_singleton.2 (.text pattern))
  | lark grammar start =>
      refine ⟨_, toWire_lark grammar start, ?_, Constraint.ofWire_lark ?_⟩
      · refine Constraint.plain_wire (by simp [Keyed.keys]) ?_
        exact List.forall_mem_cons.2 ⟨.text _, List.forall_mem_singleton.2 (.text _)⟩
      · split_ifs with empty
        · decide
        · exact empty
  | schema json untexted plain within =>
      exact wired (decodeSchema_ofJson untexted) ⟨json, rfl, plain, within⟩
  | schemaText text json known floatFree within =>
      have plain : json.isPlain = true := by
        rw [Json.isPlain, floatFree, Json.hasDistinctNames_of_readWithin known]
        rfl
      exact wired (decodeSchema_text known) ⟨json, rfl, plain, within⟩

/-- What a wire form constrains is compiled in a single call. -/
theorem compile_of_ofWire {τ ρ σ : Type} (E : TokenEngine τ ρ) {wire : Value}
    (known : Constraint.ofWire wire = .ok constraint) (state : σ) :
    EngineSession.compile E wire state =
      ⟨E.compile constraint, state, [.call (.compile constraint)]⟩ := by
  unfold EngineSession.compile
  rw [Action.ofExcept_bind known]
  cases compiled : E.compile constraint <;> rfl

/-- Whatever a grammar means reaches the engine: its text is read as its wire form, and compiling
that makes a single call, for what the grammar means. There has to be room for the grammar and three
levels around it where its text is written and where it is read. -/
theorem compile_of_means {τ ρ σ : Type} (E : TokenEngine τ ρ) (means : Means depth g constraint)
    (writable : depth + 3 ≤ Stack.levels .grammar) (state : σ) :
    ∃ text wire, g.render = .ok text ∧ g.toWire = .ok wire ∧
      (∀ levels, depth + 3 ≤ levels → EngineSession.valueOf levels text = .ok wire) ∧
      (depth + 3 ≤ Stack.levels .sentText →
        (EngineSession.readText text >>= EngineSession.compile E) state =
          ⟨E.compile constraint, state, [.call (.compile constraint)]⟩) := by
  obtain ⟨wire, wired, plain, known⟩ := means.exists_wire
  obtain ⟨text, rendered, reads⟩ := plain.exists_text
  refine ⟨text, wire, ?_, wired, reads, ?_⟩
  · rw [render, wired]
    exact rendered _ writable
  · intro readable
    exact (Action.ofExcept_bind (reads _ readable) _ state).trans (compile_of_ofWire E known state)

end

/-- A schema with names of constraints and characters that are escaped. -/
def keyworded : Json :=
  .object [("rx", .array [.int (10 ^ 30), .null]), ("start", .text "\"\\\n\x07é")]

/-- The schema as a text. -/
def keywordedText : String :=
  "\x7b\"rx\": [1000000000000000000000000000000, null], \"start\": \"\\\"\\\\\\n\\u0007é\"\x7d"

theorem compile_of_means_keyworded :
    (∃ text wire, @render ⟨fun _ => 5⟩ (jsonSchema (ofJson keyworded)) = .ok text ∧
      @toWire ⟨fun _ => 5⟩ (jsonSchema (ofJson keyworded)) = .ok wire ∧
      EngineSession.valueOf 5 text = .ok wire ∧
      (@EngineSession.readText ⟨fun _ => 5⟩ _ text >>=
        @EngineSession.compile ⟨fun _ => 5⟩ _ _ _ (Scripted.tokenEngine [] none)) () =
        ⟨(Scripted.tokenEngine [] none).compile (.jsonSchema (ofJson keyworded)), (),
          [.call (.compile (.jsonSchema (ofJson keyworded)))]⟩) ∧
    ∃ text wire, @render ⟨fun _ => 5⟩ (jsonSchema (.text keywordedText)) = .ok text ∧
      @toWire ⟨fun _ => 5⟩ (jsonSchema (.text keywordedText)) = .ok wire ∧
      EngineSession.valueOf 5 text = .ok wire ∧
      (@EngineSession.readText ⟨fun _ => 5⟩ _ text >>=
        @EngineSession.compile ⟨fun _ => 5⟩ _ _ _ (Scripted.tokenEngine [] none)) () =
        ⟨(Scripted.tokenEngine [] none).compile (.jsonSchema (ofJson keyworded)), (),
          [.call (.compile (.jsonSchema (ofJson keyworded)))]⟩ := by
  have short : hasFewDigits (10 ^ 30) = true := by decide +kernel
  have within : ∀ depth, keyworded.fits (depth + 2) = true := by
    intro depth
    rw [keyworded, Json.fits_object, List.all_cons, List.all_cons, Json.fits_array, List.all_cons,
      Json.fits_int, short]
    rfl
  have written : keyworded.render = keywordedText := by decide +kernel
  have known : Json.readWithin 5 keywordedText = .ok keyworded :=
    written ▸ Json.readWithin_render rfl (within 3)
  constructor
  · obtain ⟨text, wire, rendered, wired, reads, compiled⟩ :=
      @compile_of_means ⟨fun _ => 5⟩ 2 _ _ _ _ _ (Scripted.tokenEngine [] none)
        (@Means.schema ⟨fun _ => 5⟩ 2 keyworded (fun _ => by rintro ⟨⟩) rfl (within 0))
        (Nat.le_refl 5) ()
    exact ⟨text, wire, rendered, wired, reads 5 (Nat.le_refl 5), compiled (Nat.le_refl 5)⟩
  · obtain ⟨text, wire, rendered, wired, reads, compiled⟩ :=
      @compile_of_means ⟨fun _ => 5⟩ 2 _ _ _ _ _ (Scripted.tokenEngine [] none)
        (@Means.schemaText ⟨fun _ => 5⟩ 2 keywordedText keyworded known rfl (within 0))
        (Nat.le_refl 5) ()
    exact ⟨text, wire, rendered, wired, reads 5 (Nat.le_refl 5), compiled (Nat.le_refl 5)⟩

/-! ## Schemas beyond the limits -/

section

variable [Stack]

theorem no_text_of_decodeSchema {schema decoded : Value} {json : Json}
    (known : decodeSchema schema = .ok decoded) (same : decoded = ofJson json)
    (beyond : ∀ depth, json.fits depth = false) :
    ¬ ∃ text, (jsonSchema schema).render = .ok text := by
  rintro ⟨text, rendered⟩
  subst same
  have whole : Constraint.wire [("json_schema", ofJson json)] =
      ofJson (.object [("grammars", .array [.object [("json_schema", json)]])]) := rfl
  have beyondWire : ∀ depth,
      (Json.object [("grammars", .array [.object [("json_schema", json)]])]).fits depth =
        false := by
    intro depth
    rw [← Bool.not_eq_true]
    intro fits
    have deeper := Json.fits_of_le fits (Nat.le_add_right depth 3)
    simp [Json.fits_object, Json.fits_array, beyond] at deeper
  obtain ⟨fault, unwritten⟩ := Value.exists_error_of_renderWithin_ofJson
    (beyondWire (Stack.levels .grammar))
  rw [render, toWire_jsonSchema known, ok_bind, whole, unwritten] at rendered
  cases rendered

/-- A schema that no room is enough for has no wire text, be it given as a value or as a text. -/
theorem no_text_of_beyond {json : Json} (untexted : ∀ text, json ≠ .text text)
    (plain : json.isPlain = true) (beyond : ∀ depth, json.fits depth = false) :
    (¬ ∃ text, (jsonSchema (ofJson json)).render = .ok text) ∧
      ¬ ∃ text, (jsonSchema (.text json.render)).render = .ok text := by
  refine ⟨no_text_of_decodeSchema (decodeSchema_ofJson untexted) rfl beyond, ?_⟩
  rintro ⟨text, rendered⟩
  obtain ⟨error, unread⟩ :=
    Json.exists_error_of_readWithin_render plain (beyond (Stack.levels .schemaText))
  rw [render, toWire, constraint, decodeSchema, unread] at rendered
  cases rendered

end

/-- An integer with too many digits has no wire text, however much room there is. -/
theorem no_text_beyond_limits :
    (¬ ∃ (stack : Stack) (text : String),
      @render stack (jsonSchema (ofJson (.int (10 ^ maxIntegerDigits)))) = .ok text) ∧
    ¬ ∃ (stack : Stack) (text : String),
      @render stack (jsonSchema (.text (Json.int (10 ^ maxIntegerDigits)).render)) = .ok text := by
  have size := Nat.le_of_eq (Json.natAbs_pow_ten maxIntegerDigits).symm
  have untexted : ∀ text, Json.int (10 ^ maxIntegerDigits) ≠ .text text := fun _ => by rintro ⟨⟩
  constructor
  · rintro ⟨stack, text, written⟩
    exact (no_text_of_beyond untexted rfl (Json.fits_int_of_long size)).1 ⟨text, written⟩
  · rintro ⟨stack, text, written⟩
    exact (no_text_of_beyond untexted rfl (Json.fits_int_of_long size)).2 ⟨text, written⟩

end Grammar

end ConstrainedDecoding
