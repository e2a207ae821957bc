import ConstrainedDecoding.Proofs.DocumentFaults
import ConstrainedDecoding.Proofs.FetchOutcomes
import ConstrainedDecoding.Proofs.LevelsLeft
import ConstrainedDecoding.Proofs.ReadingAlike

/-!
# Files and responses

A file is a text in UTF-8, with line ends of any kind, while the body of a response is JSON in an
encoding that is told from its first bytes. Where both are the same text, they give the same
tokenizer or faults of the same class, unless one of them runs out of levels
(`Hub.load_agrees_with_file`): a file may well be read where more of them are left.
-/

namespace ConstrainedDecoding

/-! ## Zero characters -/

namespace Json

/-- Reading ends in a fault. -/
def IsFaulty {α : Type} (outcome : Except Halt α) : Prop :=
  ∃ what remaining, outcome = .error (.fault what remaining)

theorem IsFaulty.map {α β : Type} {outcome : Except Halt α} (faulty : IsFaulty outcome)
    (change : α → β) : IsFaulty (outcome.map change) := by
  obtain ⟨what, remaining, rfl⟩ := faulty
  exact ⟨what, remaining, rfl⟩

theorem IsFaulty.bind {α β : Type} {outcome : Except Halt α} (faulty : IsFaulty outcome)
    (next : α → Except Halt β) : IsFaulty (outcome >>= next) := by
  obtain ⟨what, remaining, rfl⟩ := faulty
  exact ⟨what, remaining, rfl⟩

theorem skipBlanks_zero (rest : List Char) : skipBlanks ('\x00' :: rest) = '\x00' :: rest :=
  skipBlanks_cons rfl rest

theorem isFaulty_readValue_zero (fuel depth : Nat) (rest : List Char) :
    IsFaulty (readValue fuel depth ('\x00' :: rest)) := by
  cases fuel with
  | zero => exact ⟨_, _, by rw [readValue]⟩
  | succ fuel => exact ⟨_, _, rfl⟩

theorem isFaulty_readItems_zero (fuel depth : Nat) (rest : List Char) :
    IsFaulty (readItems fuel depth ('\x00' :: rest)) := by
  cases fuel with
  | zero => exact ⟨_, _, by rw [readItems]⟩
  | succ fuel =>
      rw [readItems]
      exact (isFaulty_readValue_zero fuel depth rest).bind _

theorem isFaulty_readMembers_zero (fuel depth : Nat) (rest : List Char) :
    IsFaulty (readMembers fuel depth ('\x00' :: rest)) := by
  cases fuel with
  | zero => exact ⟨_, _, by rw [readMembers]⟩
  | succ fuel => exact ⟨_, _, rfl⟩

theorem wholePart_before_zero {c : Char} (digit : isDigit c = true) (rest : List Char) :
    wholePart (c :: '\x00' :: rest) = ([c], '\x00' :: rest) := by
  by_cases zero : c = '0'
  · rw [zero]
    rfl
  · rw [wholePart]
    · rw [List.takeWhile_cons_of_pos digit, List.dropWhile_cons_of_pos digit,
        List.takeWhile_cons_of_neg (by decide), List.dropWhile_cons_of_neg (by decide)]
    · rintro rest ⟨⟩
      exact zero rfl

theorem readNumber_before_zero (c : Char) (rest : List Char) :
    IsFaulty (readNumber (c :: '\x00' :: rest)) ∨
      ∃ value, readNumber (c :: '\x00' :: rest) = .ok (value, '\x00' :: rest) := by
  rcases starts_readNumber (c :: '\x00' :: rest) with faulty | ⟨d, more, digit, starts | starts⟩
  · exact .inl faulty
  · cases starts
    have unsigned : ∀ more, c :: '\x00' :: rest ≠ '-' :: more := by
      rintro more ⟨⟩
      cases digit
    have short : ¬ maxIntegerDigits < 1 := by decide
    have fraction : fractionPart ('\x00' :: rest) = ([], '\x00' :: rest) := rfl
    have exponent : exponentPart ('\x00' :: rest) = (none, '\x00' :: rest) := rfl
    rw [readNumber_of_not_minus unsigned, readUnsigned, wholePart_before_zero digit]
    simp only [fraction, exponent]
    rw [if_neg (by simp), if_pos (by simp), List.length_singleton, if_neg short]
    exact .inr ⟨_, rfl⟩
  · cases starts
    cases digit

/-- No value goes beyond a zero character. -/
theorem readValue_before_zero (fuel depth : Nat) {c : Char} (rest : List Char) :
    IsFaulty (readValue fuel (depth + 1) (c :: '\x00' :: rest)) ∨
      ∃ value, readValue fuel (depth + 1) (c :: '\x00' :: rest) = .ok (value, '\x00' :: rest) := by
  cases fuel with
  | zero => exact .inl ⟨_, _, by rw [readValue]⟩
  | succ fuel =>
      generalize outcome : readValue (fuel + 1) (depth + 1) (c :: '\x00' :: rest) = reading
      unfold readValue at outcome
      split at outcome
      case h_1 starts =>
        cases starts
        exact .inl (outcome ▸ ⟨_, _, rfl⟩)
      case h_2 starts =>
        cases starts
        dsimp only at outcome
        rw [skipBlanks_zero] at outcome
        exact .inl (outcome ▸ (isFaulty_readMembers_zero fuel depth rest).map _)
      case h_3 starts =>
        cases starts
        dsimp only at outcome
        rw [skipBlanks_zero] at outcome
        exact .inl (outcome ▸ (isFaulty_readItems_zero fuel depth rest).map _)
      case h_10 => exact outcome ▸ readNumber_before_zero c rest
      all_goals
        rename_i starts
        cases starts

/-- A document in which one of the first two characters is zero is none, though reading may stop
before the second one. -/
theorem isFaulty_readChars {chars : List Char} (depth : Nat)
    (starts : (∃ rest, chars = '\x00' :: rest) ∨ ∃ c rest, chars = c :: '\x00' :: rest) :
    IsFaulty (readChars depth chars) ∨ EndsIn Halt.IsTooDeep (readChars depth chars) := by
  rw [readChars]
  rcases starts with ⟨rest, rfl⟩ | ⟨c, rest, rfl⟩
  · rw [skipBlanks_zero]
    exact .inl ((isFaulty_readValue_zero _ _ rest).bind _)
  cases blank : isBlank c with
  | true =>
      have skips : skipBlanks (c :: '\x00' :: rest) = '\x00' :: rest := by
        rw [skipBlanks, List.dropWhile_cons_of_pos blank]
        exact skipBlanks_zero rest
      rw [skips]
      exact .inl ((isFaulty_readValue_zero _ _ rest).bind _)
  | false =>
      rw [skipBlanks_cons blank]
      rcases sameUnless_readValue (2 * (c :: '\x00' :: rest).length + 2) (depth + 1) depth
        (c :: '\x00' :: rest) with same | deep | deep
      · rw [← same]
        rcases readValue_before_zero (2 * (c :: '\x00' :: rest).length + 2) depth rest with
          faulty | ⟨value, read⟩
        · exact .inl (faulty.bind _)
        · rw [read, ok_bind]
          dsimp only
          rw [skipBlanks_zero]
          exact .inl ⟨_, _, rfl⟩
      · obtain ⟨_, stops, container, rfl⟩ := deep
        rcases readValue_before_zero (2 * (c :: '\x00' :: rest).length + 2) depth rest with
          ⟨_, _, faulty⟩ | ⟨value, read⟩
        · cases stops.symm.trans faulty
        · cases stops.symm.trans read
      · exact .inr (deep.bind _)

theorem isMalformed_readLocated {depth : Nat} {chars : List Char}
    (faulty : IsFaulty (readChars depth chars)) :
    ∃ error, readLocated depth chars = .error (.malformed error) := by
  obtain ⟨what, remaining, fails⟩ := faulty
  rw [readLocated, fails]
  exact ⟨_, rfl⟩

theorem isTooDeep_readLocated {depth : Nat} {chars : List Char}
    (deep : EndsIn Halt.IsTooDeep (readChars depth chars)) :
    EndsIn ReadError.IsTooDeep (readLocated depth chars) := by
  obtain ⟨_, stops, container, rfl⟩ := deep
  rw [readLocated, stops]
  exact ⟨_, rfl, container, rfl⟩

/-- Only a mark makes a difference between a text and its characters. -/
theorem readWithin_of_unmarked (depth : Nat) {chars : List Char}
    (unmarked : ∀ rest, chars ≠ '\ufeff' :: rest) :
    readWithin depth (String.ofList chars) = readLocated depth chars := by
  unfold readWithin
  rw [String.toList_ofList]
  split
  · exact absurd rfl (unmarked _)
  · rfl

theorem readWithin_of_marked (depth : Nat) (rest : List Char) :
    ∃ error, readWithin depth (String.ofList ('\ufeff' :: rest)) = .error (.malformed error) := by
  unfold readWithin
  rw [String.toList_ofList]
  exact ⟨_, rfl⟩

end Json

theorem Text.unifyLineEnds_before_zero (c : Char) (rest : List Char) :
    ∃ c', Text.unifyLineEnds (c :: '\x00' :: rest) = c' :: '\x00' :: Text.unifyLineEnds rest := by
  by_cases carriage : c = '\r'
  · rw [carriage]
    exact ⟨'\n', rfl⟩
  · refine ⟨c, ?_⟩
    rw [Text.unifyLineEnds]
    · rfl
    · rintro _ rfl
      exact absurd rfl carriage
    · exact carriage

/-! ## Files -/

namespace Tokenizer

variable [Stack] {path : String} {bytes : List UInt8} {chars : List Char}

/-- A file that is no UTF-8 gives no tokenizer. -/
theorem exists_error_of_undecodable {error : Text.EncodingError}
    (undecoded : Text.decode .utf8 false bytes = .error error) :
    ∃ fault, ofFile path bytes = .error fault := by
  unfold ofFile
  rw [undecoded]
  exact ⟨_, rfl⟩

/-- A file with a mark or a zero character at the front is malformed, unless there are no levels to
find that out. -/
theorem malformed_of_not_plain (decoded : Text.decode .utf8 false bytes = .ok chars)
    (other : Text.detect bytes ≠ (.utf8, bytes)) :
    RunsOut (ofFile path bytes) ∨
      ∃ fault, ofFile path bytes = .error fault ∧ fault.kind = .malformedDescriptor := by
  have reading : EndsIn Json.ReadError.IsTooDeep (Json.readWithin (Stack.levels .fileText)
        (String.ofList (Text.unifyLineEnds chars))) ∨
      ∃ error, Json.readWithin (Stack.levels .fileText)
        (String.ofList (Text.unifyLineEnds chars)) = .error (.malformed error) := by
    by_cases marked : ∃ rest, Text.unifyLineEnds chars = '\ufeff' :: rest
    · obtain ⟨rest, marked⟩ := marked
      rw [marked]
      exact .inr (Json.readWithin_of_marked _ rest)
    rw [Json.readWithin_of_unmarked _ fun rest starts => marked ⟨rest, starts⟩]
    have starts : (∃ rest, Text.unifyLineEnds chars = '\x00' :: rest) ∨
        ∃ c rest, Text.unifyLineEnds chars = c :: '\x00' :: rest := by
      rcases Text.starts_of_not_plain other decoded with ⟨rest, rfl⟩ | ⟨rest, rfl⟩ | ⟨c, rest, rfl⟩
      · exact absurd ⟨_, rfl⟩ marked
      · exact .inl ⟨_, rfl⟩
      · obtain ⟨c', unified⟩ := Text.unifyLineEnds_before_zero c rest
        exact .inr ⟨c', _, unified⟩
    rcases Json.isFaulty_readChars (Stack.levels .fileText) starts with faulty | deep
    · exact .inr (Json.isMalformed_readLocated faulty)
    · exact .inl (Json.isTooDeep_readLocated deep)
  unfold ofFile
  simp only [decoded]
  rcases reading with ⟨_, deep, container, rfl⟩ | ⟨error, malformed⟩
  · simp only [deep]
    exact .inl ⟨_, rfl, rfl⟩
  · simp only [malformed]
    exact .inr ⟨_, rfl, rfl⟩

end Tokenizer

namespace Hub

variable {network : Http.Network} {source : Source} {path : String} {response : Http.Response}

/-- Two loads come to the same tokenizer, or to faults of the same class. -/
def Agree (outcome other : Except Fault Tokenizer) : Prop :=
  (∃ tokenizer, outcome = .ok tokenizer ∧ other = .ok tokenizer) ∨
    ∃ fault fault', outcome = .error fault ∧ other = .error fault' ∧ fault.kind = fault'.kind

theorem Agree.refl (outcome : Except Fault Tokenizer) : Agree outcome outcome := by
  cases outcome with
  | ok tokenizer => exact .inl ⟨tokenizer, rfl, rfl⟩
  | error fault => exact .inr ⟨fault, fault, rfl, rfl, rfl⟩

/-- Two loads agree, unless one of them runs out of levels. -/
def AgreeUnlessOut (outcome other : Except Fault Tokenizer) : Prop :=
  Agree outcome other ∨ RunsOut outcome ∨ RunsOut other

theorem AgreeUnlessOut.of_same {outcome other : Except Fault Tokenizer}
    (same : SameUnlessOut outcome other) : AgreeUnlessOut outcome other := by
  rcases same with rfl | ends | ends
  · exact .inl (.refl outcome)
  · exact .inr (.inl ends)
  · exact .inr (.inr ends)

/-- A file that is refused as malformed agrees with what is refused so as well. -/
theorem agree_iff_of_refused {file loaded : Except Fault Tokenizer}
    (refused : ∃ fault, file = .error fault ∧ fault.kind = .malformedDescriptor) :
    Agree file loaded ↔ ∃ fault, loaded = .error fault ∧ fault.kind = .malformedDescriptor := by
  obtain ⟨fault, rfl, malformed⟩ := refused
  constructor
  · rintro (⟨_, impossible, _⟩ | ⟨_, fault', ⟨⟩, loads, same⟩)
    · cases impossible
    · exact ⟨fault', loads, same ▸ malformed⟩
  · rintro ⟨fault', loads, malformed'⟩
    exact .inr ⟨fault, fault', rfl, loads, malformed.trans malformed'.symm⟩

/-- A file that is the same text as a body gives the same, unless one of them runs out of levels.
The body is read as if it were one with the line ends of the file, and as deep as the file. -/
theorem agree_of_plain (here there : Stack) {client : Http.Client} {location : String}
    {chars : List Char} (success : Http.isSuccess response.status = true)
    (decoded : Text.decode .utf8 false response.body = .ok chars)
    (plain : Text.detect response.body = (.utf8, response.body)) :
    AgreeUnlessOut (@Tokenizer.ofFile here path response.body)
      (@Http.Client.read there client network location response >>=
        fun document => @Tokenizer.parse there (.ofJson document)) := by
  have respaced := Json.respaced_unifyLineEnds chars
  have unmarked := respaced.not_starts rfl (Text.unmarked_of_detect plain decoded)
  have alike := Json.readsAlike_readLocated (here.levels .fileText) respaced.symm
  rw [← Json.readWithin_of_unmarked _ unmarked] at alike
  have body : Json.readBytesWithin (there.levels .responseText) response.body =
      Json.readLocated (there.levels .responseText) chars := by
    rw [Json.readBytesWithin, Text.decodeDetected_of_decode plain decoded]
  have parses (document : Json) := AgreeUnlessOut.of_same
    (Tokenizer.sameUnless_parse here there (.ofJson document))
  unfold Tokenizer.ofFile Http.Client.read
  rw [if_pos success, body]
  simp only [decoded]
  rcases Json.sameUnless_readLocated (here.levels .fileText) (there.levels .responseText) chars with
    level | ⟨_, deep, container, rfl⟩ | ⟨_, deep, container, rfl⟩
  · rw [← level]
    rcases alike.cases with ⟨document, file, same⟩ | ⟨error, limit, file, same⟩ |
      ⟨error, error', malformed, malformed', file, same⟩
    · rw [file, same]
      exact parses document
    · rw [file, same]
      cases error with
      | malformed => cases limit
      | undecodable => cases limit
      | tooManyDigits => exact .inl (.refl _)
      | tooDeep => exact .inl (.refl _)
    · rw [file, same]
      cases error with
      | malformed error =>
          dsimp only
          rw [if_pos malformed']
          exact .inl (.inr ⟨_, _, rfl, rfl, rfl⟩)
      | undecodable => exact absurd file Tokenizer.readWithin_ne_undecodable
      | tooManyDigits => cases malformed
      | tooDeep => cases malformed
  · rw [(alike.limit_iff (.tooDeep container) rfl).2 deep]
    exact .inr (.inl ⟨_, rfl, rfl⟩)
  · rw [deep]
    exact .inr (.inr ⟨_, rfl, rfl⟩)

/-- Files and bodies of responses with a success code agree wherever the bytes are UTF-8 and nothing
else is detected in them, unless the levels run out, of which there may be more in one place than in
the other. Any other file is refused, as malformed if it is UTF-8 at all; so then they agree only on
what is malformed. -/
theorem load_agrees_with_file (here there : Stack) (environment : Environment)
    (network : Http.Network) (source : Source) (path : String)
    (answered : (network.get (source.client environment).base (source.client environment).headers
      source.path []).outcome = .ok response)
    (success : Http.isSuccess response.status = true) :
    let file := @Tokenizer.ofFile here path response.body
    let loaded := (@load there environment network source).1
    (∀ chars, Text.decode .utf8 false response.body = .ok chars →
      Text.detect response.body = (.utf8, response.body) → AgreeUnlessOut file loaded) ∧
    (∀ chars, Text.decode .utf8 false response.body = .ok chars →
      Text.detect response.body ≠ (.utf8, response.body) →
      RunsOut file ∨
        (∃ fault, file = .error fault ∧ fault.kind = .malformedDescriptor) ∧
        (Agree file loaded ↔
          ∃ fault, loaded = .error fault ∧ fault.kind = .malformedDescriptor)) ∧
    ∀ error, Text.decode .utf8 false response.body = .error error →
      ∃ fault, file = .error fault := by
  intro file loaded
  refine ⟨fun chars decoded plain => ?_, fun chars decoded other => ?_,
    fun error undecoded => @Tokenizer.exists_error_of_undecodable here _ _ _ undecoded⟩
  · have whole : loaded = @Http.Client.read there (source.client environment) network source.path
        response >>= fun document => @Tokenizer.parse there (.ofJson document) :=
      load_of_response answered
    rw [whole]
    exact agree_of_plain here there success decoded plain
  · rcases @Tokenizer.malformed_of_not_plain here path _ _ decoded other with out | refused
    · exact .inl out
    · exact .inr ⟨refused, agree_iff_of_refused refused⟩

/-- A document with line ends around it. -/
def brokenDocument : List Char :=
  '\r' :: '\n' :: (Tokenizer.withVocabulary (.object [("a", .int 0)])).write ++ ['\r']

def brokenBytes : List UInt8 :=
  brokenDocument.map fun c => c.toNat.toUInt8

theorem load_agrees_with_file_broken :
    Text.decode .utf8 false brokenBytes = .ok brokenDocument ∧
      Text.detect brokenBytes = (.utf8, brokenBytes) ∧
      (@Tokenizer.ofFile ⟨fun _ => 4⟩ "tokenizer.json" brokenBytes).isOk = true ∧
      AgreeUnlessOut (@Tokenizer.ofFile ⟨fun _ => 4⟩ "tokenizer.json" brokenBytes)
        (@load ⟨fun _ => 3⟩ {} (replying brokenBytes) plainSource).1 := by
  have decoded : Text.decode .utf8 false brokenBytes = .ok brokenDocument := by decide +kernel
  have plain : Text.detect brokenBytes = (.utf8, brokenBytes) := by decide +kernel
  have loads : (@Tokenizer.ofFile ⟨fun _ => 4⟩ "tokenizer.json" brokenBytes).isOk = true := by
    decide +kernel
  obtain ⟨agrees, -, -⟩ := load_agrees_with_file ⟨fun _ => 4⟩ ⟨fun _ => 3⟩ {}
    (replying brokenBytes) plainSource "tokenizer.json" (outcome_replying brokenBytes) rfl
  exact ⟨decoded, plain, loads, agrees brokenDocument decoded plain⟩

/-- The same document after a mark. -/
def markedBytes : List UInt8 :=
  0xef :: 0xbb :: 0xbf :: brokenBytes

theorem load_disagrees_marked :
    ¬ AgreeUnlessOut (@Tokenizer.ofFile ⟨fun _ => 3⟩ "tokenizer.json" markedBytes)
      (@load ⟨fun _ => 3⟩ {} (replying markedBytes) plainSource).1 := by
  have refused : faultKind? (@Tokenizer.ofFile ⟨fun _ => 3⟩ "tokenizer.json" markedBytes) =
      some .malformedDescriptor := by decide +kernel
  have loads : (@Http.Client.read ⟨fun _ => 3⟩ (plainSource.client {}) (replying markedBytes)
      plainSource.path ⟨200, [], markedBytes⟩ >>=
        fun document => @Tokenizer.parse ⟨fun _ => 3⟩ (.ofJson document)).isOk = true := by
    decide +kernel
  obtain ⟨fault, refused, kind⟩ := exists_of_faultKind? refused
  obtain ⟨tokenizer, loads⟩ := exists_of_isOk loads
  rw [@load_of_response ⟨fun _ => 3⟩ _ _ _ _ (outcome_replying markedBytes), refused, loads]
  rintro ((⟨_, impossible, _⟩ | ⟨_, _, _, impossible, _⟩) | ⟨_, ⟨⟩, out⟩ | ⟨_, impossible, _⟩)
  · cases impossible
  · cases impossible
  · cases kind.symm.trans out
  · cases impossible

end Hub

end ConstrainedDecoding
