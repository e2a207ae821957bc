import ConstrainedDecoding.Stack
import ConstrainedDecoding.Value.Display
import ConstrainedDecoding.Value.Equality

/-!
Settings of a logits processor: how many top-ranked candidates are checked one by one before a full
mask is computed, and whether each masking decision is traced where it is seen. Tracing never
changes a result.
-/

namespace ConstrainedDecoding

/-- The settings of a logits processor. -/
structure Settings where
  depth : Nat := 5
  debug : Value := .bool false
  depth_pos : 0 < depth := by decide

namespace Settings

/-- The depth that a value sets, which must be a positive integer. -/
def depthOf [Stack] : Value → Except Fault { depth : Nat // 0 < depth }
  | .int given =>
    if positive : 0 < given.toNat then .ok ⟨given.toNat, positive⟩
    else if hasFewDigits given then .error (.depthNotPositive given)
    else .error .longInteger
  | given => do .error (.depthNotInteger (← given.repr (Stack.levels .setting)))

/-- The settings that named options make. -/
def ofOptions [Stack] (options : List (String × Value)) : Except Fault Settings := do
  match options.find? fun option => option.1 ≠ "speculation_depth" ∧ option.1 ≠ "debug" with
  | some (name, _) => .error (.unknownSetting name)
  | none =>
    let ⟨depth, depth_pos⟩ ← depthOf ((Keyed.get? options "speculation_depth").getD (.int 5))
    .ok { depth, depth_pos, debug := (Keyed.get? options "debug").getD (.bool false) }

/-- Whether settings amount to the usual ones. -/
def isUsual (settings : Settings) : Bool :=
  settings.depth = 5 && settings.debug == .bool false

/-- The named options that make the settings. -/
def toOptions (settings : Settings) : List (String × Value) :=
  [("speculation_depth", .int settings.depth), ("debug", settings.debug)]

end Settings

end ConstrainedDecoding
