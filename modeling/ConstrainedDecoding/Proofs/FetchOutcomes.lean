import ConstrainedDecoding.Proofs.Credentials
import ConstrainedDecoding.Proofs.DocumentFaults
import ConstrainedDecoding.Proofs.EncodingDetection
import ConstrainedDecoding.Proofs.LineBreaks

/-!
# How a fetch ends

A fetch sends one request, and one more for each redirect that is followed; what it comes to is
decided by its last exchange alone (`Hub.load_accounted`). A failed exchange, an error status and a
body that is no JSON are reported with what is known of them. What escapes is a body beyond the
limits of the reader, and whatever else the HTTP library throws: in place of a response, for a
redirect it cannot follow, or where it has to make a text of the body.
-/

namespace ConstrainedDecoding

/-- What is known of a failed exchange comes with a failed fetch. -/
theorem Fault.kind_of_report? {fault : Fault} {report : FetchReport}
    (reports : fault.report? = some report) : fault.kind = .fetch := by
  unfold report? at reports
  split at reports
  · rfl
  · rfl
  · rfl
  · cases reports

theorem Fault.IsForeign.report? {fault : Fault} (foreign : fault.IsForeign) :
    fault.report? = none := by
  cases reports : fault.report? with
  | none => rfl
  | some report =>
      have fetch := Fault.kind_of_report? reports
      rw [IsForeign, fetch] at foreign
      cases foreign

namespace Hub

open Http

variable {network : Network} {environment : Environment} {source : Source} {request : Request}
  {location : String} {exchange : Except Thrown Progress} {outcome : Except Fault Tokenizer}

section

variable [Stack]

/-! ## Outcomes -/

/-- What a load comes to when its last exchange ends in an accountable way: a failure and the
redirect beyond the most are reported with the location asked for, a status that is none of success
with that, the status and the body as well, and a body that is no JSON with what is wrong with it.
Any other document is parsed. -/
inductive Ends (network : Network) (location : String) :
    Except Thrown Progress → Except Fault Tokenizer → Prop
  | failed (failure : Failure) :
    Ends network location (.error (.failure failure)) (.error (.requestFailed failure location))
  | redirected (next : Request) :
    Ends network location (.ok (.redirected next)) (.error (.requestFailed .redirectLimit location))
  | badStatus {response : Response} {body : String} :
    isSuccess response.status = false → network.text response = .ok body →
    Ends network location (.ok (.final response))
      (.error (.badStatus response.status location body))
  | notJson {response : Response} {error : Json.ReadError} :
    isSuccess response.status = true →
    Json.readBytesWithin (Stack.levels .responseText) response.body = .error error →
    error.isMalformed = true →
    Ends network location (.ok (.final response)) (.error (.responseNotJson location error))
  | parsed {response : Response} {document : Json} :
    isSuccess response.status = true →
    Json.readBytesWithin (Stack.levels .responseText) response.body = .ok document →
    Ends network location (.ok (.final response)) (Tokenizer.parse (.ofJson document))

/-- A fault that passes through a load unreported: one that is thrown in place of a response or by
what the library makes of it, that of a body beyond the limits of the reader, and that of the body
of a response without success for which there is no text. -/
inductive Escapes (network : Network) : Except Thrown Progress → Fault → Prop
  | exchange (fault : Fault) : Escapes network (.error (.foreign fault)) fault
  | document {response : Response} {error : Json.ReadError} :
    isSuccess response.status = true →
    Json.readBytesWithin (Stack.levels .responseText) response.body = .error error →
    error.isMalformed = false → Escapes network (.ok (.final response)) (.unreadable error)
  | text {response : Response} {fault : Fault} :
    isSuccess response.status = false → network.text response = .error fault →
    Escapes network (.ok (.final response)) fault

omit [Stack] in
theorem isForeign_of_exchange (own : network.ThrowsOwn) {earlier : List Request} {fault : Fault}
    (thrown : network.exchange earlier request = .error (.foreign fault)) : fault.IsForeign := by
  rcases bind_eq_error.1 thrown with unreplied | ⟨response, -, stuck⟩
  · exact own.reply unreplied
  · exact own.progress stuck

theorem Escapes.isForeign (own : network.ThrowsOwn) {earlier : List Request} {fault : Fault}
    (escapes : Escapes network (network.exchange earlier request) fault) : fault.IsForeign := by
  generalize known : network.exchange earlier request = exchange at escapes
  cases escapes with
  | exchange => exact isForeign_of_exchange own known
  | @document response error _ _ limited =>
      cases error with
      | tooManyDigits => rfl
      | tooDeep => rfl
      | malformed => cases limited
      | undecodable => cases limited
  | text _ unread => exact own.text unread

theorem Ends.not_escapes {fault : Fault} (ends : Ends network location exchange outcome) :
    ¬ Escapes network exchange fault := by
  intro escapes
  cases ends with
  | failed failure => cases escapes
  | redirected next => cases escapes
  | badStatus unsuccessful textual =>
      cases escapes with
      | document success => exact nomatch unsuccessful.symm.trans success
      | text _ unread => exact nomatch textual.symm.trans unread
  | notJson success unread malformed =>
      cases escapes with
      | document _ unread' limited =>
          cases unread.symm.trans unread'
          exact nomatch malformed.symm.trans limited
      | text unsuccessful => exact nomatch unsuccessful.symm.trans success
  | parsed success read =>
      cases escapes with
      | document _ unread => exact nomatch read.symm.trans unread
      | text unsuccessful => exact nomatch unsuccessful.symm.trans success

/-- What a load comes to is accounted for by its last exchange. -/
structure AccountedBy (network : Network) (location : String) (exchange : Except Thrown Progress)
    (outcome : Except Fault Tokenizer) : Prop where
  /-- It ends in one of the accountable ways, or one foreign fault escapes. -/
  ends_or_escapes : Ends network location exchange outcome ∨
    ∃ fault, outcome = .error fault ∧ Escapes network exchange fault ∧ fault.IsForeign
  ends_iff : Ends network location exchange outcome ↔ ∀ fault, ¬ Escapes network exchange fault
  /-- A failed fetch without a status is reported for failures and too many redirects. -/
  failure_iff :
    (∃ fault, outcome = .error fault ∧ fault.report? = some { url := some location }) ↔
      (∃ failure, exchange = .error (.failure failure)) ∨ ∃ next, exchange = .ok (.redirected next)
  /-- One with a status is reported for a response without success. -/
  status_iff (status : Nat) (body : String) :
    (∃ fault, outcome = .error fault ∧
        fault.report? = some { status := some status, url := some location, body := some body }) ↔
      ∃ response, exchange = .ok (.final response) ∧ isSuccess response.status = false ∧
        response.status = status ∧ network.text response = .ok body

theorem report?_of_parse {document : Value} {fault : Fault}
    (failed : Tokenizer.parse document = .error fault) : fault.report? = none := by
  cases reports : fault.report? with
  | none => rfl
  | some report =>
      have fetch := Fault.kind_of_report? reports
      rcases Tokenizer.kind_of_parse failed with malformed | conversion
      · exact nomatch fetch.symm.trans malformed
      · rw [fetch] at conversion
        cases conversion

theorem AccountedBy.of_ends (ends : Ends network location exchange outcome) :
    AccountedBy network location exchange outcome := by
  refine ⟨.inl ends, iff_of_true ends fun _ => ends.not_escapes, ?_, fun status body => ?_⟩
  · cases ends with
    | failed failure => exact iff_of_true ⟨_, rfl, rfl⟩ (.inl ⟨failure, rfl⟩)
    | redirected next => exact iff_of_true ⟨_, rfl, rfl⟩ (.inr ⟨next, rfl⟩)
    | badStatus unsuccessful textual => simp [Fault.report?]
    | notJson success unread malformed => simp [Fault.report?]
    | parsed success read =>
        refine iff_of_false ?_ (by simp)
        rintro ⟨fault, failed, reports⟩
        exact nomatch (report?_of_parse failed).symm.trans reports
  · cases ends with
    | failed failure => simp [Fault.report?]
    | redirected next => simp [Fault.report?]
    | badStatus unsuccessful textual => simp [Fault.report?, unsuccessful, textual]
    | notJson success unread malformed => simp [Fault.report?, success]
    | parsed success read =>
        refine iff_of_false ?_ (by simp [success])
        rintro ⟨fault, failed, reports⟩
        exact nomatch (report?_of_parse failed).symm.trans reports

theorem AccountedBy.of_escapes {fault : Fault} (escapes : Escapes network exchange fault)
    (foreign : fault.IsForeign) : AccountedBy network location exchange (.error fault) := by
  have unreported {report : FetchReport} :
      ¬ ∃ fault', (.error fault : Except Fault Tokenizer) = .error fault' ∧
        fault'.report? = some report := by
    rintro ⟨_, ⟨⟩, reports⟩
    exact nomatch foreign.report?.symm.trans reports
  have strays : ¬ Ends network location exchange (.error fault) :=
    fun ends => ends.not_escapes escapes
  refine ⟨.inr ⟨fault, rfl, escapes, foreign⟩, iff_of_false strays fun none => none fault escapes,
    iff_of_false unreported ?_, fun status body => iff_of_false unreported ?_⟩
  · cases escapes with
    | exchange => simp
    | document => simp
    | text => simp
  · cases escapes with
    | exchange => simp
    | document success => simp [success]
    | text _ unread => simp [unread]

theorem accountedBy_conclude (client : Client) (path : String)
    (foreign : ∀ fault, Escapes network exchange fault → fault.IsForeign) :
    AccountedBy network (client.location path) exchange
      ((conclude exchange).mapError (Thrown.fault (client.location path)) >>=
        client.read network path >>= fun document => Tokenizer.parse (.ofJson document)) := by
  have escaped {fault : Fault} (escapes : Escapes network exchange fault) :
      AccountedBy network (client.location path) exchange (.error fault) :=
    .of_escapes escapes (foreign fault escapes)
  cases exchange with
  | error thrown =>
      cases thrown with
      | failure failure => exact .of_ends (.failed failure)
      | foreign fault => exact escaped (.exchange fault)
  | ok progress =>
      cases progress with
      | redirected next => exact .of_ends (.redirected next)
      | final response =>
          show AccountedBy network _ _ (client.read network path response >>= _)
          rw [Client.read]
          cases success : isSuccess response.status with
          | false =>
              rw [if_neg Bool.false_ne_true]
              cases textual : network.text response with
              | error fault => exact escaped (.text success textual)
              | ok body => exact .of_ends (.badStatus success textual)
          | true =>
              rw [if_pos rfl]
              cases read : Json.readBytesWithin (Stack.levels .responseText) response.body with
              | ok document => exact .of_ends (.parsed success read)
              | error error =>
                  dsimp only
                  cases malformed : error.isMalformed with
                  | false =>
                      rw [if_neg Bool.false_ne_true]
                      exact escaped (.document success read malformed)
                  | true =>
                      rw [if_pos rfl]
                      exact .of_ends (.notJson success read malformed)

/-- Of whatever library does what is known of it: a source for which a first request can be made
sends that one and those that responses with a location redirect to, twenty at most and none after
any other reply, and what it comes to is accounted for by the last exchange alone. A response that
is final there is the one that came, without a location. -/
theorem load_accounted (follows : network.FollowsRedirects) (own : network.ThrowsOwn)
    (environment : Environment) (source : Source)
    (requested : network.first (source.client environment).base
      (source.client environment).headers source.path = .ok request) :
    let location := (source.client environment).location source.path
    let requests := (load environment network source).2
    requests.head? = some request ∧ AreRedirects network [] requests ∧
      ∃ before last, requests = before ++ [last] ∧ before.length ≤ maxRedirects ∧
        (∀ next, network.exchange before last = .ok (.redirected next) →
          before.length = maxRedirects) ∧
        (∀ response, network.exchange before last = .ok (.final response) →
          network.reply before last = .ok response ∧ response.location? = none) ∧
        AccountedBy network location (network.exchange before last)
          (load environment network source).1 := by
  intro location requests
  have exchanges : Exchanges network maxRedirects [] request _ _ := follows.exchanges requested
  rw [← requests_load environment network source] at exchanges
  obtain ⟨before, last, sent, concluded, unfollowed⟩ := exchanges.exists_last
  have bounded := exchanges.length_le
  rw [sent, List.length_append, List.length_singleton] at bounded
  refine ⟨exchanges.head?_sent, exchanges.areRedirects follows.located, before, last, sent,
    Nat.le_of_succ_le_succ bounded, unfollowed, ?final, ?accounted⟩
  case final =>
    intro response exchanged
    obtain ⟨replied, known, progressed⟩ := bind_eq_ok.1 exchanged
    obtain ⟨rfl, unlocated⟩ := follows.unlocated progressed
    exact ⟨known, unlocated⟩
  case accounted =>
    have loaded : (load environment network source).1 =
        (network.get (source.client environment).base (source.client environment).headers
          source.path []).outcome.mapError (Thrown.fault location) >>=
          (source.client environment).read network source.path >>=
            fun document => Tokenizer.parse (.ofJson document) := rfl
    rw [loaded, concluded]
    exact accountedBy_conclude _ _ fun fault escapes => escapes.isForeign own

end

/-- A network that cannot be reached. -/
def unreachable : Network :=
  .scripted [.error (.reported "ConnectError" "connection refused")]

theorem load_accounted_unreachable :
    unreachable.FollowsRedirects ∧ unreachable.ThrowsOwn ∧
    ∃ request, unreachable.first (plainSource.client {}).base (plainSource.client {}).headers
        plainSource.path = .ok request ∧
      (@load ⟨fun _ => 0⟩ {} unreachable plainSource).2 = [request] ∧
      ∃ fault, (@load ⟨fun _ => 0⟩ {} unreachable plainSource).1 = .error fault ∧
        fault.report? =
          some { url := some ((plainSource.client {}).location plainSource.path) } := by
  have follows : unreachable.FollowsRedirects := Network.followsRedirects_scripted
  have own : unreachable.ThrowsOwn :=
    Network.throwsOwn_scripted (List.forall_mem_singleton.2 (.error trivial))
  obtain ⟨request, requested, -⟩ := exists_firstRequest_plainSource
  obtain ⟨first, redirects, before, last, sent, -, -, -, -, -, failure_iff, -⟩ :=
    @load_accounted _ _ ⟨fun _ => 0⟩ follows own {} plainSource requested
  have refused (earlier : List Request) (request : Request) :
      unreachable.reply earlier request =
        .error (.reported "ConnectError" "connection refused") := by
    cases earlier with
    | nil => rfl
    | cons => rfl
  have failed : unreachable.exchange before last =
      .error (.reported "ConnectError" "connection refused") := by
    rw [Network.exchange, refused]
    rfl
  refine ⟨follows, own, request, requested, ?_, ?_⟩
  · cases before with
    | nil =>
        rw [sent] at first ⊢
        cases first
        rfl
    | cons previous before =>
        obtain ⟨next, after, more⟩ := List.exists_cons_of_ne_nil
          (List.append_ne_nil_of_right_ne_nil before (List.cons_ne_nil last []))
        rw [List.cons_append, more] at sent
        obtain ⟨response, replied, _, _⟩ := redirects [] previous next after sent
        rw [refused] at replied
        cases replied
  · exact failure_iff.2 (.inl ⟨_, failed⟩)

/-- A hub that replies with a body, whatever it is asked for. -/
def replying (body : List UInt8) : Network :=
  .scripted [.ok ⟨200, [], body⟩]

theorem outcome_replying (body : List UInt8) :
    ((replying body).get (plainSource.client {}).base (plainSource.client {}).headers
      plainSource.path []).outcome = .ok ⟨200, [], body⟩ := by
  obtain ⟨request, requested, named⟩ := exists_firstRequest_plainSource
  unfold replying
  exact outcome_scripted_plain requested named

/-! ## A body beyond the limits -/

/-- A body that is one integer, and more of its digits than are read. -/
def longBody : List UInt8 :=
  List.replicate 5000 0x31

theorem decodeFrom_ones (count position : Nat) :
    Text.decodeFrom .utf8 false 0 position (List.replicate count 0x31) =
      .ok (List.replicate count '1') := by
  induction count generalizing position with
  | zero => rfl
  | succ count ih =>
      show (Text.decodeFrom .utf8 false 0 (position + 1) (List.replicate count 0x31)).map
        ('1' :: ·) = _
      rw [ih]
      rfl

theorem readNumber_ones {count : Nat} (long : maxIntegerDigits < count) :
    Json.readNumber (List.replicate count '1') = .error (.tooManyDigits count) := by
  have whole : Json.wholePart (List.replicate count '1') = (List.replicate count '1', []) := by
    obtain ⟨fewer, rfl⟩ := Nat.exists_eq_add_one.2 (Nat.zero_lt_of_lt long)
    have ones : ∀ c ∈ List.replicate (fewer + 1) '1', Json.isDigit c = true := by
      intro c member
      rw [List.eq_of_mem_replicate member]
      rfl
    have digits := @Json.takeWhile_digits _ [] ones trivial
    rw [List.append_nil] at digits
    rw [List.replicate_succ, Json.wholePart, ← List.replicate_succ, digits.1, digits.2]
    rintro rest ⟨⟩
  have unsigned : ∀ rest, List.replicate count '1' ≠ '-' :: rest := by
    intro rest same
    have minus : '-' ∈ List.replicate count '1' := same ▸ List.mem_cons_self
    exact absurd (List.eq_of_mem_replicate minus) (by decide)
  have some : (List.replicate count '1').isEmpty = false := by
    rw [List.isEmpty_replicate]
    exact decide_eq_false (Nat.ne_of_gt (Nat.zero_lt_of_lt long))
  rw [Json.readNumber_of_not_minus unsigned, Json.readUnsigned, whole]
  simp [Json.fractionPart, Json.exponentPart, some, long]

theorem readBytesWithin_ones {count : Nat} (long : maxIntegerDigits < count) (depth : Nat) :
    Json.readBytesWithin depth (List.replicate count 0x31) = .error (.tooManyDigits count) := by
  have four : 4 ≤ count := Nat.le_trans (by decide) (Nat.le_of_lt long)
  obtain ⟨fewer, rfl⟩ := Nat.exists_eq_add_of_le' four
  have decoded : Text.decodeDetected (List.replicate (fewer + 4) 0x31) =
      .ok (List.replicate (fewer + 4) '1') :=
    Text.decodeDetected_of_decode rfl (decodeFrom_ones (fewer + 4) 0)
  have skips : Json.skipBlanks (List.replicate (fewer + 4) '1') = List.replicate (fewer + 4) '1' :=
    Json.skipBlanks_cons rfl (List.replicate (fewer + 3) '1')
  have reads (fuel : Nat) : Json.readValue (fuel + 1) depth (List.replicate (fewer + 4) '1') =
      .error (.tooManyDigits (fewer + 4)) :=
    (Json.readValue_digit fuel depth (List.replicate (fewer + 3) '1') rfl).trans
      (readNumber_ones long)
  simp only [Json.readBytesWithin, decoded, Json.readLocated, Json.readChars, skips, reads,
    error_bind]

/-- The error for a body beyond the limits of the reader escapes as it is. -/
theorem load_replying [Stack] {body : List UInt8} {error : Json.ReadError}
    (unread : Json.readBytesWithin (Stack.levels .responseText) body = .error error)
    (limited : error.isMalformed = false) :
    (load {} (replying body) plainSource).1 = .error (.unreadable error) := by
  have success : isSuccess 200 = true := rfl
  rw [load_of_response (outcome_replying body), Client.read, success, if_pos rfl]
  simp only [unread, limited, Bool.false_eq_true, if_false]
  rfl

/-- So does a bare error for such an integer, however many levels are left. -/
theorem load_escapes :
    ¬ ∃ stack : Stack,
      faultKind? (@load stack {} (replying longBody) plainSource).1 ≠ some .badValue := by
  rintro ⟨stack, reported⟩
  apply reported
  have unread := @load_replying stack longBody _ (readBytesWithin_ones (by decide) _) rfl
  rw [unread]
  rfl

end Hub

end ConstrainedDecoding
