import ConstrainedDecoding.Json.Reader
import ConstrainedDecoding.Proofs.Outcome
import ConstrainedDecoding.Tokenizer.Description

/-!
# Where more or fewer levels are left

How many levels are left shows in a result only where they ran out. So any two computations of the
same thing agree, unless one of them ran out of levels (`SameUnless`). This holds of showing a value
(`Value.sameUnless_str`), of reading a text (`Json.sameUnless_readLocated`), and hence of parsing a
document (`Tokenizer.sameUnless_parse`).
-/

namespace ConstrainedDecoding

variable {α β ε : Type}

/-! ## Results that agree -/

/-- A computation came to one of certain ends. -/
def EndsIn (out : ε → Prop) (result : Except ε α) : Prop :=
  ∃ fault, result = .error fault ∧ out fault

/-- Two results are the same, unless one of the computations came to one of certain ends. -/
def SameUnless (out : ε → Prop) (one other : Except ε α) : Prop :=
  one = other ∨ EndsIn out one ∨ EndsIn out other

/-- A computation ran out of levels. -/
def RunsOut (result : Except Fault α) : Prop :=
  EndsIn (fun fault => fault.kind = .recursion) result

/-- Two results are the same, unless one of the computations ran out of levels. -/
abbrev SameUnlessOut (one other : Except Fault α) : Prop :=
  SameUnless (fun fault => fault.kind = .recursion) one other

theorem not_endsIn_ok {out : ε → Prop} (value : α) : ¬ EndsIn out (.ok value : Except ε α) :=
  nofun

theorem EndsIn.bind {out : ε → Prop} {result : Except ε α} (ends : EndsIn out result)
    (next : α → Except ε β) : EndsIn out (result >>= next) := by
  obtain ⟨fault, rfl, isOut⟩ := ends
  exact ⟨fault, rfl, isOut⟩

theorem endsIn_map {out : ε → Prop} {result : Except ε α} {change : α → β} :
    EndsIn out (result.map change) ↔ EndsIn out result := by
  simp only [EndsIn, map_eq_error]

namespace SameUnless

variable {out : ε → Prop} {one other : Except ε α}

theorem rfl : SameUnless out one one :=
  .inl (Eq.refl one)

theorem symm (same : SameUnless out one other) : SameUnless out other one := by
  rcases same with same | ends | ends
  · exact .inl same.symm
  · exact .inr (.inr ends)
  · exact .inr (.inl ends)

theorem bind (same : SameUnless out one other) {next next' : α → Except ε β}
    (each : ∀ value, one = .ok value → SameUnless out (next value) (next' value)) :
    SameUnless out (one >>= next) (other >>= next') := by
  rcases same with rfl | ends | ends
  · cases one with
    | error fault => exact rfl
    | ok value => exact each value (Eq.refl _)
  · exact .inr (.inl (ends.bind next))
  · exact .inr (.inr (ends.bind next'))

theorem map (same : SameUnless out one other) (change : α → β) :
    SameUnless out (one.map change) (other.map change) := by
  rcases same with rfl | ends | ends
  · exact rfl
  · exact .inr (.inl (endsIn_map.2 ends))
  · exact .inr (.inr (endsIn_map.2 ends))

theorem mapM {step step' : α → Except ε β} {items : List α}
    (each : ∀ item ∈ items, SameUnless out (step item) (step' item)) :
    SameUnless out (items.mapM step) (items.mapM step') := by
  induction items with
  | nil => exact rfl
  | cons item rest ih =>
      obtain ⟨first, others⟩ := List.forall_mem_cons.1 each
      rw [List.mapM_cons, List.mapM_cons]
      exact first.bind fun _ _ => (ih others).bind fun _ _ => rfl

/-- Where one computation gives a value, the other gives it too or came to such an end. -/
theorem ok_or_endsIn (same : SameUnless out one other) {value : α} (known : one = .ok value) :
    other = .ok value ∨ EndsIn out other := by
  subst known
  rcases same with same | ends | ends
  · exact .inl same.symm
  · exact absurd ends (not_endsIn_ok value)
  · exact .inr ends

/-- Two values agree. -/
theorem eq_of_ok {value value' : α} (same : SameUnless out one other) (first : one = .ok value)
    (second : other = .ok value') : value = value' := by
  rcases same.ok_or_endsIn first with known | ends
  · exact Except.ok.inj (known.symm.trans second)
  · exact absurd (second ▸ ends) (not_endsIn_ok value')

end SameUnless

/-! ## Reading texts -/

namespace Json

/-- Reading stopped because it was told to read no deeper. -/
def Halt.IsTooDeep (halt : Halt) : Prop :=
  ∃ container, halt = .tooDeep container

/-- The error for that. -/
def ReadError.IsTooDeep (error : ReadError) : Prop :=
  ∃ container, error = .tooDeep container

mutual

theorem sameUnless_readValue : ∀ (fuel depth depth' : Nat) (chars : List Char),
    SameUnless Halt.IsTooDeep (readValue fuel depth chars) (readValue fuel depth' chars)
  | 0, _, _, _ => by
      rw [readValue, readValue]
      exact .rfl
  | fuel + 1, depth, depth', chars => by
      unfold readValue
      split
      case h_2 rest =>
        cases depth with
        | zero => exact .inr (.inl ⟨_, rfl, _, rfl⟩)
        | succ depth =>
        cases depth' with
        | zero => exact .inr (.inr ⟨_, rfl, _, rfl⟩)
        | succ depth' =>
        dsimp only
        split
        · exact .rfl
        · exact (sameUnless_readMembers fuel depth depth' _).map _
      case h_3 rest =>
        cases depth with
        | zero => exact .inr (.inl ⟨_, rfl, _, rfl⟩)
        | succ depth =>
        cases depth' with
        | zero => exact .inr (.inr ⟨_, rfl, _, rfl⟩)
        | succ depth' =>
        dsimp only
        split
        · exact .rfl
        · exact (sameUnless_readItems fuel depth depth' _).map _
      all_goals exact .rfl

theorem sameUnless_readItems : ∀ (fuel depth depth' : Nat) (chars : List Char),
    SameUnless Halt.IsTooDeep (readItems fuel depth chars) (readItems fuel depth' chars)
  | 0, _, _, _ => by
      rw [readItems, readItems]
      exact .rfl
  | fuel + 1, depth, depth', chars => by
      rw [readItems, readItems]
      refine (sameUnless_readValue fuel depth depth' chars).bind fun read _ => ?_
      dsimp only
      split
      · exact .rfl
      · exact (sameUnless_readItems fuel depth depth' _).map _
      · exact .rfl

theorem sameUnless_readMembers : ∀ (fuel depth depth' : Nat) (chars : List Char),
    SameUnless Halt.IsTooDeep (readMembers fuel depth chars) (readMembers fuel depth' chars)
  | 0, _, _, _ => by
      rw [readMembers, readMembers]
      exact .rfl
  | fuel + 1, depth, depth', chars => by
      unfold readMembers
      split
      case h_2 => exact .rfl
      refine SameUnless.rfl.bind fun name _ => ?_
      dsimp only
      split
      case h_2 => exact .rfl
      refine (sameUnless_readValue fuel depth depth' _).bind fun value _ => ?_
      split
      · exact .rfl
      · exact (sameUnless_readMembers fuel depth depth' _).map _
      · exact .rfl

end

theorem sameUnless_readChars (depth depth' : Nat) (chars : List Char) :
    SameUnless Halt.IsTooDeep (readChars depth chars) (readChars depth' chars) :=
  (sameUnless_readValue _ depth depth' _).bind fun _ _ => .rfl

/-- Characters are read alike, however deep arrays and objects may be nested, unless that was not
deep enough. -/
theorem sameUnless_readLocated (depth depth' : Nat) (chars : List Char) :
    SameUnless ReadError.IsTooDeep (readLocated depth chars) (readLocated depth' chars) := by
  unfold readLocated
  rcases sameUnless_readChars depth depth' chars with
    same | ⟨_, deep, container, rfl⟩ | ⟨_, deep, container, rfl⟩
  · exact .inl (by rw [same])
  · exact .inr (.inl ⟨.tooDeep container, by rw [deep], container, rfl⟩)
  · exact .inr (.inr ⟨.tooDeep container, by rw [deep], container, rfl⟩)

end Json

/-! ## Showing values -/

namespace Value

/-- What keeps two values from being shown is the same, unless it is the levels for one of them. -/
def SameFault (one other : Option Fault) : Prop :=
  one = other ∨ one = some .deepDisplay ∨ other = some .deepDisplay

theorem SameFault.or {one other rest rest' : Option Fault} (first : SameFault one other)
    (others : SameFault rest rest') : SameFault (one.or rest) (other.or rest') := by
  rcases first with rfl | rfl | rfl
  · cases one with
    | some fault => exact .inl rfl
    | none => exact others
  · exact .inr (.inl rfl)
  · exact .inr (.inr rfl)

mutual

/-- Values are gone through in the same order, whatever the levels, so that what stops one is what
stops the other, unless it is the levels. -/
theorem sameFault_showFault? : ∀ (levels levels' : Nat) (value : Value),
    SameFault (showFault? levels value) (showFault? levels' value)
  | 0, _, value => by
      refine .inr (.inl ?_)
      cases value <;> rfl
  | _ + 1, 0, value => by
      refine .inr (.inr ?_)
      cases value <;> rfl
  | levels + 1, levels' + 1, list items | levels + 1, levels' + 1, tuple items =>
      sameFault_itemsFault? levels levels' items
  | levels + 1, levels' + 1, dict entries => sameFault_entriesFault? levels levels' entries
  | 1, _ + 1, view _ => .inr (.inl rfl)
  | _ + 2, 1, view _ => .inr (.inr rfl)
  | levels + 2, levels' + 2, view entries => sameFault_entriesFault? levels levels' entries
  | levels + 1, levels' + 1, object attributes =>
      sameFault_attributesFault? levels levels' attributes
  | _ + 1, _ + 1, null | _ + 1, _ + 1, bool _ | _ + 1, _ + 1, int _ | _ + 1, _ + 1, float _
  | _ + 1, _ + 1, text _ | _ + 1, _ + 1, bytes _ | _ + 1, _ + 1, function _
  | _ + 1, _ + 1, failing _ _ => .inl rfl

theorem sameFault_itemsFault? : ∀ (levels levels' : Nat) (items : List Value),
    SameFault (itemsFault? levels items) (itemsFault? levels' items)
  | _, _, [] => .inl rfl
  | levels, levels', item :: rest =>
      (sameFault_showFault? levels levels' item).or (sameFault_itemsFault? levels levels' rest)

theorem sameFault_entriesFault? : ∀ (levels levels' : Nat) (entries : List (Value × Value)),
    SameFault (entriesFault? levels entries) (entriesFault? levels' entries)
  | _, _, [] => .inl rfl
  | levels, levels', (key, value) :: rest =>
      ((sameFault_showFault? levels levels' key).or (sameFault_showFault? levels levels' value)).or
        (sameFault_entriesFault? levels levels' rest)

theorem sameFault_attributesFault? :
    ∀ (levels levels' : Nat) (attributes : List (String × Value)),
      SameFault (attributesFault? levels attributes) (attributesFault? levels' attributes)
  | _, _, [] => .inl rfl
  | levels, levels', (name, value) :: rest => by
      rw [attributesFault?, attributesFault?]
      apply SameFault.or _ (sameFault_attributesFault? levels levels' rest)
      cases name.isEmpty with
      | true => exact .inl rfl
      | false => exact sameFault_showFault? levels levels' value

end

mutual

/-- Nothing keeps a value from being shown but its digits and its levels. -/
theorem unshown_of_showFault? : ∀ {levels : Nat} {value : Value} {fault : Fault},
    showFault? levels value = some fault → fault = .longInteger ∨ fault = .deepDisplay
  | 0, value, _, failed => by
      refine .inr ?_
      cases value <;> cases failed <;> rfl
  | _ + 1, int value, _, failed => by
      simp only [showFault?, Nat.add_one_ne_zero, if_false] at failed
      split at failed
      · cases failed
      · exact .inl (Option.some.inj failed).symm
  | _ + 1, list items, _, failed | _ + 1, tuple items, _, failed =>
      @unshown_of_itemsFault? _ items _ failed
  | _ + 1, dict entries, _, failed => @unshown_of_entriesFault? _ entries _ failed
  | 1, view _, _, failed => .inr (Option.some.inj failed).symm
  | _ + 2, view entries, _, failed => @unshown_of_entriesFault? _ entries _ failed
  | _ + 1, object attributes, _, failed =>
      @unshown_of_attributesFault? _ attributes _ failed
  | _ + 1, null, _, failed | _ + 1, bool _, _, failed | _ + 1, float _, _, failed
  | _ + 1, text _, _, failed | _ + 1, bytes _, _, failed | _ + 1, function _, _, failed
  | _ + 1, failing _ _, _, failed => by cases failed

theorem unshown_of_itemsFault? : ∀ {levels : Nat} {items : List Value} {fault : Fault},
    itemsFault? levels items = some fault → fault = .longInteger ∨ fault = .deepDisplay
  | _, [], _, failed => by cases failed
  | _, item :: rest, _, failed => by
      rcases Option.or_eq_some_iff.1 failed with first | ⟨_, others⟩
      · exact unshown_of_showFault? first
      · exact unshown_of_itemsFault? others

theorem unshown_of_entriesFault? : ∀ {levels : Nat} {entries : List (Value × Value)}
    {fault : Fault}, entriesFault? levels entries = some fault →
      fault = .longInteger ∨ fault = .deepDisplay
  | _, [], _, failed => by cases failed
  | _, (key, value) :: rest, _, failed => by
      rcases Option.or_eq_some_iff.1 failed with first | ⟨_, others⟩
      · rcases Option.or_eq_some_iff.1 first with unshown | ⟨_, unshown⟩
        · exact unshown_of_showFault? unshown
        · exact unshown_of_showFault? unshown
      · exact unshown_of_entriesFault? others

theorem unshown_of_attributesFault? : ∀ {levels : Nat} {attributes : List (String × Value)}
    {fault : Fault}, attributesFault? levels attributes = some fault →
      fault = .longInteger ∨ fault = .deepDisplay
  | _, [], _, failed => by cases failed
  | _, (name, value) :: rest, _, failed => by
      rw [attributesFault?] at failed
      rcases Option.or_eq_some_iff.1 failed with first | ⟨_, others⟩
      · split at first
        · cases first
        · exact unshown_of_showFault? first
      · exact unshown_of_attributesFault? others

end

theorem unshown_of_shown {levels : Nat} {value : Value} {content : String} {fault : Fault}
    (failed : value.shown levels content = .error fault) :
    fault = .longInteger ∨ fault = .deepDisplay := by
  unfold shown at failed
  split at failed
  · rename_i unshown
    cases failed
    exact unshown_of_showFault? unshown
  · cases failed

theorem unshown_of_str {levels : Nat} {value : Value} {fault : Fault}
    (failed : value.str levels = .error fault) : fault = .longInteger ∨ fault = .deepDisplay := by
  cases value with
  | text content => cases failed
  | _ => exact unshown_of_shown failed

/-- An integer that is shown has few enough digits. -/
theorem short_of_str {levels : Nat} {number : Int} {content : String}
    (known : (int number).str levels = .ok content) : hasFewDigits number = true := by
  cases short : hasFewDigits number with
  | true => rfl
  | false =>
      cases levels with
      | zero => cases known
      | succ levels =>
          change (int number).shown (levels + 1) _ = _ at known
          simp [shown, showFault?, short] at known

/-- A value is shown as the text it stands for. -/
theorem toText_of_str {levels : Nat} {value : Value} {content : String}
    (known : value.str levels = .ok content) : value.toText = content := by
  have showing {content' : String} (shows : value.shown levels content' = .ok content) :
      content' = content := by
    unfold shown at shows
    split at shows
    · cases shows
    · exact Except.ok.inj shows
  cases value with
  | text given => exact Except.ok.inj known
  | _ => exact showing known

variable (levels levels' : Nat) (value : Value)

theorem runsOut_shown {content : String} (deep : showFault? levels value = some .deepDisplay) :
    RunsOut (value.shown levels content) :=
  ⟨.deepDisplay, by rw [shown, deep], rfl⟩

theorem sameUnless_shown (content : String) :
    SameUnlessOut (value.shown levels content) (value.shown levels' content) := by
  rcases sameFault_showFault? levels levels' value with same | deep | deep
  · exact .inl (by rw [shown, shown, same])
  · exact .inr (.inl (runsOut_shown levels value deep))
  · exact .inr (.inr (runsOut_shown levels' value deep))

theorem sameUnless_repr :
    SameUnlessOut (value.repr levels) (value.repr levels') :=
  sameUnless_shown levels levels' value value.display

theorem sameUnless_str :
    SameUnlessOut (value.str levels) (value.str levels') := by
  cases value with
  | text content => exact .rfl
  | _ => exact sameUnless_shown levels levels' _ _

end Value

/-! ## Parsing documents -/

variable (here there : Stack)

theorem Vocabulary.sameUnless_readEntry (token id : Value) :
    SameUnlessOut (@readEntry here token id) (@readEntry there token id) :=
  SameUnless.rfl.bind fun _ _ =>
    (Value.sameUnless_str (here.levels .token) (there.levels .token) token).bind fun _ _ => .rfl

theorem Vocabulary.sameUnless_read (source : Value) :
    SameUnlessOut (@read here source) (@read there source) := by
  unfold read
  cases source.entries? with
  | some entries =>
      exact (SameUnless.mapM fun entry _ => sameUnless_readEntry here there entry.1 entry.2).bind
        fun _ _ => .rfl
  | none =>
      refine SameUnless.rfl.bind fun items _ => SameUnless.bind (.mapM fun item _ => ?_) fun _ _ =>
        .rfl
      exact SameUnless.rfl.bind fun pair _ => sameUnless_readEntry here there pair.1 pair.2

theorem Merge.sameUnless_read (rule : Value) :
    SameUnlessOut (@read here rule) (@read there rule) := by
  unfold read
  split
  · exact .rfl
  · refine SameUnless.rfl.bind fun items _ => ?_
    split
    · rename_i left right _
      refine (Value.sameUnless_str (here.levels .mergePart) (there.levels .mergePart) left).bind
        fun _ _ => ?_
      exact (Value.sameUnless_str (here.levels .mergePart) (there.levels .mergePart) right).bind
        fun _ _ => .rfl
    · exact (Value.sameUnless_repr (here.levels .mergeRule) (there.levels .mergeRule) rule).bind
        fun _ _ => .rfl

theorem Merge.sameUnless_readAll (rules : Value) :
    SameUnlessOut (@readAll here rules) (@readAll there rules) := by
  unfold readAll
  split
  · exact SameUnless.rfl.bind fun items _ => .mapM fun rule _ => sameUnless_read here there rule
  · exact .rfl

theorem AddedToken.sameUnless_read (entry id : Value) :
    SameUnlessOut (@read here entry id) (@read there entry id) :=
  SameUnless.rfl.bind fun _ _ =>
    (Value.sameUnless_str (here.levels .content) (there.levels .content)
      (entry.field "content")).bind fun _ _ => .rfl

theorem AddedToken.sameUnless_readAll (source : Value) :
    SameUnlessOut (@readAll here source) (@readAll there source) := by
  unfold readAll
  split
  · exact SameUnless.rfl.bind fun items _ => .mapM fun entry _ =>
      sameUnless_read here there entry .null
  · split
    · exact SameUnless.rfl.bind fun entries _ => .mapM fun entry _ =>
        sameUnless_read here there entry.2 entry.1
    · exact .rfl

theorem Tokenizer.sameUnless_declaredModelType (model : Value) (merges : List Merge) :
    SameUnlessOut (@declaredModelType here model merges)
      (@declaredModelType there model merges) := by
  unfold declaredModelType
  dsimp only
  split
  · exact (Value.sameUnless_str (here.levels .modelType) (there.levels .modelType) _).map _
  · exact .rfl

/-- A document gives the same tokenizer or the same fault wherever it is parsed, unless the levels
run out somewhere. -/
theorem Tokenizer.sameUnless_parse (document : Value) :
    SameUnlessOut (@parse here document) (@parse there document) := by
  unfold parse
  split
  · dsimp only
    split
    · exact .rfl
    · rename_i given _
      refine (Merge.sameUnless_readAll here there _).bind fun merges _ => ?_
      refine (sameUnless_declaredModelType here there _ merges).bind fun modelType _ => ?_
      refine (Vocabulary.sameUnless_read here there given).bind fun vocabulary _ => ?_
      exact (AddedToken.sameUnless_readAll here there document).bind fun _ _ => .rfl
  · exact .rfl

end ConstrainedDecoding
