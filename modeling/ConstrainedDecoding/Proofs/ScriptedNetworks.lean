import ConstrainedDecoding.Proofs.Exchanges
import ConstrainedDecoding.Scripted.Network

/-!
# Networks that follow a script

The library behind a scripted network does what is known of HTTP libraries: it follows redirects
(`Network.followsRedirects_scripted`), it keeps credentials (`Network.keepsCredentials_scripted`),
and what it throws is its own (`Network.throwsOwn_scripted`), whatever the script.
-/

namespace ConstrainedDecoding

variable {α β ε : Type}

/-! ## Faults of one sort -/

/-- Whatever fault a result is has a property. -/
def FailsAs (sort : ε → Prop) (result : Except ε α) : Prop :=
  ∀ fault, result = .error fault → sort fault

namespace FailsAs

variable {sort : ε → Prop} {result : Except ε α}

theorem ok (value : α) : FailsAs sort (.ok value : Except ε α) :=
  fun _ impossible => nomatch impossible

theorem error {fault : ε} (sorted : sort fault) : FailsAs sort (.error fault : Except ε α) := by
  rintro _ ⟨⟩
  exact sorted

theorem bind {next : α → Except ε β} (first : FailsAs sort result)
    (later : ∀ value, FailsAs sort (next value)) : FailsAs sort (result >>= next) := by
  intro fault failed
  rcases bind_eq_error.1 failed with failed | ⟨value, -, failed⟩
  · exact first fault failed
  · exact later value fault failed

/-- A check that fails comes before anything else. -/
theorem checked {condition : Prop} [Decidable condition] {fault : ε}
    {goesOn : Unit → Except ε α} (sorted : sort fault) (later : FailsAs sort (goesOn ())) :
    FailsAs sort (if condition then Except.error fault >>= goesOn else goesOn ()) := by
  split
  · exact error sorted
  · exact later

theorem mapError {δ : Type} {change : δ → ε} (sorted : ∀ inner, sort (change inner))
    (result : Except δ α) : FailsAs sort (result.mapError change) := by
  cases result with
  | ok value => exact ok value
  | error inner => exact error (sorted inner)

theorem mapM {step : α → Except ε β} (each : ∀ item, FailsAs sort (step item))
    (items : List α) : FailsAs sort (items.mapM step) := by
  induction items with
  | nil => exact ok []
  | cons item rest ih =>
      rw [List.mapM_cons]
      exact (each item).bind fun first => ih.bind fun others => ok (first :: others)

end FailsAs

theorem Fault.isForeign_invalidUrl (error : UrlError) : (Fault.invalidUrl error).IsForeign := by
  cases error <;> rfl

theorem Fault.isForeign_unreadableText (error : Text.CharsetError) :
    (Fault.unreadableText error).IsForeign := by
  cases error <;> rfl

namespace Http

open Fault (IsForeign)

/-- Something thrown that is a failed exchange or none of this library's own faults. -/
def Thrown.IsOwn : Thrown → Prop
  | failure _ => True
  | foreign fault => fault.IsForeign

/-! ## Texts of bodies -/

theorem failsAs_find (label : List Char) : FailsAs IsForeign (ContentType.find label) := by
  unfold ContentType.find
  split
  · exact .error rfl
  · exact .ok _

theorem failsAs_join (segments : List ContentType.Segment) :
    FailsAs IsForeign (ContentType.join segments) := by
  unfold ContentType.join
  extract_lets sorted text
  split
  · exact .error rfl
  · split
    · exact .ok _
    · split
      · exact .ok _
      · split <;> exact .ok _

theorem failsAs_parameters (value : List Char) :
    FailsAs IsForeign (ContentType.parameters value) := by
  unfold ContentType.parameters
  split
  · exact .ok _
  · refine .bind (.mapM (fun name => ?_) _) fun joined => .ok _
    exact (failsAs_join _).bind fun content => .ok _

theorem failsAs_label (content : ContentType.Content) : FailsAs IsForeign content.label := by
  unfold ContentType.Content.label
  split
  · exact .ok _
  · refine (failsAs_find _).bind fun found => ?_
    split
    · exact .ok _
    · split <;> exact .ok _

theorem failsAs_charset (response : Response) : FailsAs IsForeign response.charset := by
  unfold Response.charset ContentType.label?
  split
  · exact .ok _
  · refine .bind ((failsAs_parameters _).bind fun parameters => ?_) fun label => ?_
    · split
      · exact .ok _
      · exact (failsAs_label _).bind fun label => .ok _
    · split
      · exact .ok _
      · exact (failsAs_find _).bind fun found => .ok _

/-- A body that cannot be made a text is reported by what reads it. -/
theorem failsAs_text (response : Response) : FailsAs IsForeign response.text := by
  unfold Response.text
  split
  · exact .ok _
  · refine (failsAs_charset response).bind fun read => ?_
    exact (FailsAs.mapError Fault.isForeign_unreadableText _).bind fun reading => .ok _

/-! ## Redirects -/

theorem failsAs_invalidUrl (result : Except UrlError α) :
    FailsAs Thrown.IsOwn (result.mapError (.foreign ∘ .invalidUrl)) :=
  have own (error : UrlError) : (Thrown.foreign (.invalidUrl error)).IsOwn :=
    Fault.isForeign_invalidUrl error
  .mapError own result

theorem failsAs_readHost (url : Url) : FailsAs Thrown.IsOwn (Request.readHost url) :=
  have own (error : LabelError) : (Thrown.foreign (.unreadableHost error)).IsOwn := rfl
  .mapError own _

theorem failsAs_checkHost (url : Url) : FailsAs Thrown.IsOwn (Request.checkHost url) :=
  (failsAs_readHost url).bind fun _ => by
    split
    · exact .error rfl
    · exact .ok _

theorem failsAs_target (request : Request) (location : String) :
    FailsAs Thrown.IsOwn (request.target location) := by
  unfold Request.target
  refine .bind (.mapError (fun _ => trivial) _) fun given => ?_
  extract_lets complete resolve
  have completed (url : Url) : FailsAs Thrown.IsOwn (complete url) := by
    unfold complete
    split
    · exact failsAs_invalidUrl _
    · exact .ok _
  have resolved (url : Url) : FailsAs Thrown.IsOwn (resolve url) := by
    unfold resolve
    split
    · exact completed url
    · exact (failsAs_invalidUrl _).bind completed
  split
  · exact resolved given
  · refine (failsAs_readHost given).bind fun host => ?_
    split
    · exact (failsAs_readHost _).bind fun host => (failsAs_invalidUrl _).bind resolved
    · exact resolved given

theorem failsAs_follow (request : Request) (location : String) :
    FailsAs Thrown.IsOwn (request.follow location) := by
  unfold Request.follow
  refine (failsAs_target request location).bind fun url =>
    (failsAs_readHost url).bind fun _ => (failsAs_readHost request.url).bind fun _ => ?_
  split
  · exact (failsAs_checkHost url).bind fun _ => .ok _
  · exact .ok _

theorem failsAs_progress (request : Request) (response : Response) :
    FailsAs Thrown.IsOwn (request.progress response) := by
  unfold Request.progress
  refine .checked rfl ?_
  split
  · exact .ok _
  · exact (failsAs_follow request _).bind fun next => .ok _

theorem failsAs_unpacked (response : Response) : FailsAs Thrown.IsOwn response.unpacked := by
  have unpacks (packings : List Packing) (bytes : List UInt8) :
      FailsAs Thrown.IsOwn (packings.foldlM (fun bytes packing =>
        (packing.unpack bytes).mapError (.failure ∘ .badContent)) bytes) := by
    induction packings generalizing bytes with
    | nil => exact .ok bytes
    | cons packing rest ih =>
        rw [List.foldlM_cons]
        exact (FailsAs.mapError (fun _ => trivial) _).bind ih
  exact (unpacks _ _).bind fun body => .ok _

theorem failsAs_made {reply : Reply} (own : FailsAs Thrown.IsOwn reply) :
    FailsAs Thrown.IsOwn reply.made :=
  own.bind fun response => .checked rfl (failsAs_unpacked response)

theorem failsAs_scriptedReply {replies : List Reply}
    (own : ∀ reply ∈ replies, FailsAs Thrown.IsOwn reply) (earlier : List Request)
    (request : Request) : FailsAs Thrown.IsOwn (scriptedReply replies earlier request) := by
  refine failsAs_made ?_
  cases chosen : replies[earlier.length]?.or replies.getLast? with
  | none => exact .ok _
  | some reply =>
      refine own reply ?_
      rcases Option.or_eq_some_iff.1 chosen with here | ⟨-, last⟩
      · exact List.mem_of_getElem? here
      · exact List.mem_of_getLast? last

/-- A redirect leads to a request that has the header fields, but for the credentials where the
origin is not trusted. -/
theorem Request.handsOver_redirect (request : Request) (url : Url) :
    request.HandsOver (request.redirect url) := by
  unfold HandsOver isAuthorized
  change (redirect request url).headers.has "Authorization" =
    (request.headers.has "Authorization" && isTrusted request.url.origin url.origin)
  unfold redirect
  cases trusted : isTrusted request.url.origin url.origin with
  | true => simp
  | false => simp [Headers.has_erase]

theorem Request.handsOver_of_follow {request next : Request} {location : String}
    (followed : request.follow location = .ok next) : request.HandsOver next := by
  unfold follow at followed
  obtain ⟨url, _, followed⟩ := bind_eq_ok.1 followed
  obtain ⟨_, _, followed⟩ := bind_eq_ok.1 followed
  obtain ⟨_, _, followed⟩ := bind_eq_ok.1 followed
  extract_lets goesOn at followed
  split at followed
  · obtain ⟨_, _, followed⟩ := bind_eq_ok.1 followed
    cases followed
    exact handsOver_redirect request url
  · cases followed
    exact handsOver_redirect request url

@[simp] theorem Network.reply_scripted (replies : List Reply) :
    (Network.scripted replies).reply = scriptedReply replies := by
  simp only [Network.scripted]

@[simp] theorem Network.progress_scripted (replies : List Reply) :
    (Network.scripted replies).progress = Request.progress := by
  simp only [Network.scripted]

/-- A response is final if it has no location, and followed there else. -/
theorem of_progress_scripted {replies : List Reply} {request : Request} {response : Response}
    {progress : Progress}
    (progressed : (Network.scripted replies).progress request response = .ok progress) :
    (response.location? = none ∧ progress = .final response) ∨
      ∃ location next, response.location? = some location ∧ request.follow location = .ok next ∧
        progress = .redirected next := by
  rw [Network.progress_scripted, Request.progress] at progressed
  obtain ⟨_, known⟩ := checked_eq_ok.1 progressed
  cases located : response.location? with
  | none =>
      rw [located] at known
      cases known
      exact .inl ⟨rfl, rfl⟩
  | some location =>
      rw [located] at known
      obtain ⟨next, follows, known⟩ := bind_eq_ok.1 known
      cases known
      exact .inr ⟨location, next, rfl, follows, rfl⟩

/-! ## The first request -/

theorem Request.url_withUrlCredentials (request : Request) :
    request.withUrlCredentials.url = request.url := by
  unfold withUrlCredentials
  split
  split
  · rfl
  · rfl

theorem Request.isAuthorized_withUrlCredentials (request : Request)
    (authorized : request.isAuthorized = true) :
    request.withUrlCredentials.isAuthorized = true := by
  have same : Headers.sameName "Authorization" "Authorization" = true := by decide
  unfold withUrlCredentials
  split
  split
  · exact authorized
  · simp only [isAuthorized, Headers.has, Headers.set, List.any_append, List.any_cons, same,
      Bool.true_or, Bool.or_true]

theorem of_firstRequest {base path : String} {headers : Headers} {request : Request}
    (known : firstRequest base headers path = .ok request) :
    ∃ read bottom url, Url.ofText base = .ok read ∧ read.asBase = .ok bottom ∧
      bottom.append path = .ok url ∧ request = Request.withUrlCredentials ⟨url, headers⟩ := by
  unfold firstRequest at known
  obtain ⟨read, reads, known⟩ := bind_eq_ok.1 known
  obtain ⟨bottom, bases, known⟩ := bind_eq_ok.1 known
  obtain ⟨_, known⟩ := checked_eq_ok.1 known
  obtain ⟨url, appends, known⟩ := bind_eq_ok.1 known
  extract_lets made at known
  split at known
  · obtain ⟨_, _, known⟩ := bind_eq_ok.1 known
    exact ⟨read, bottom, url, mapError_eq_ok.1 reads, mapError_eq_ok.1 bases,
      mapError_eq_ok.1 appends, (Except.ok.inj known).symm⟩
  · exact ⟨read, bottom, url, mapError_eq_ok.1 reads, mapError_eq_ok.1 bases,
      mapError_eq_ok.1 appends, (Except.ok.inj known).symm⟩

/-! ## What is known of the library -/

/-- Sending makes a run of exchanges. -/
theorem exchanges_send (network : Network) (left : Nat) (earlier : List Request)
    (request : Request) (own : network.progress = Request.progress) :
    Exchanges network left earlier request (send network.reply left earlier request).outcome
      (send network.reply left earlier request).requests := by
  have same (earlier : List Request) (request : Request) :
      network.reply earlier request >>= request.progress = network.exchange earlier request := by
    rw [Network.exchange, own]
  induction left generalizing earlier request with
  | zero =>
      unfold send
      rw [same]
      cases exchanged : network.exchange earlier request with
      | error thrown => exact .failed exchanged
      | ok progress =>
          cases progress with
          | final response => exact .final exchanged
          | redirected next => exact .exhausted exchanged
  | succ left ih =>
      unfold send
      rw [same]
      cases exchanged : network.exchange earlier request with
      | error thrown => exact .failed exchanged
      | ok progress =>
          cases progress with
          | final response => exact .final exchanged
          | redirected next => exact .followed exchanged (ih (earlier ++ [request]) next)

namespace Network

variable {replies : List Reply}

theorem followsRedirects_scripted : (scripted replies).FollowsRedirects where
  unrequested refused := by
    simp only [scripted] at refused ⊢
    rw [refused]
  exchanges {base path headers earlier request} requested := by
    have sends : (scripted replies).get base headers path earlier =
        send (scriptedReply replies) maxRedirects earlier request := by
      simp only [scripted] at requested ⊢
      rw [requested]
    have exchanges := exchanges_send (scripted replies) maxRedirects earlier request
      (progress_scripted replies)
    rw [reply_scripted] at exchanges
    rw [sends]
    exact exchanges
  located progressed := by
    rcases of_progress_scripted progressed with ⟨_, final⟩ | ⟨location, _, asks, _, _⟩
    · cases final
    · rw [asks]
      rfl
  unlocated progressed := by
    rcases of_progress_scripted progressed with ⟨none, final⟩ | ⟨_, _, _, _, redirected⟩
    · cases final
      exact ⟨rfl, none⟩
    · cases redirected

theorem keepsCredentials_scripted : (scripted replies).KeepsCredentials where
  isSame_first {base path headers request origin rest} slash known web requested := by
    obtain ⟨read, bottom, url, reads, bases, appends, same⟩ := of_firstRequest requested
    simp only [scripted, reads, Except.toOption, Option.map_some, Option.some.injEq] at known
    subst known
    have isAt : read.IsAt read.origin := ⟨Url.isSettled_of_ofText reads, web, rfl, rfl, rfl⟩
    rw [same, Request.url_withUrlCredentials]
    exact ((isAt.asBase bases).append slash appends).same
  isAuthorized_first given requested := by
    obtain ⟨_, _, url, _, _, _, same⟩ := of_firstRequest requested
    rw [same]
    exact Request.isAuthorized_withUrlCredentials ⟨url, _⟩ given
  handsOver progressed := by
    rcases of_progress_scripted progressed with ⟨_, final⟩ | ⟨_, _, _, follows, redirected⟩
    · cases final
    · cases redirected
      exact Request.handsOver_of_follow follows

theorem throwsOwn_scripted (own : ∀ reply ∈ replies, FailsAs Thrown.IsOwn reply) :
    (scripted replies).ThrowsOwn where
  reply {earlier request fault} failed := by
    rw [reply_scripted] at failed
    exact failsAs_scriptedReply own earlier request (.foreign fault) failed
  progress {request response fault} failed := by
    rw [progress_scripted] at failed
    exact failsAs_progress request response (.foreign fault) failed
  text {response fault} failed := failsAs_text response fault failed

end Network

/-! ## Plain responses -/

/-- A response without header fields reaches the library as it is. -/
theorem made_plain (body : List UInt8) :
    Reply.made (.ok ⟨200, [], body⟩) = .ok ⟨200, [], body⟩ := by
  have whole : "".splitOn "," = [""] := by
    rw [String.splitOn, if_neg (by decide), String.splitOnAux, if_pos (by decide +kernel)]
    decide +kernel
  have packings : Response.packings ⟨200, [], body⟩ = [] := by
    show ("".splitOn ",").filterMap Packing.ofName? = []
    rw [whole]
    decide +kernel
  have unpacked : Response.unpacked ⟨200, [], body⟩ = .ok ⟨200, [], body⟩ := by
    rw [Response.unpacked, packings]
    rfl
  have ascii : Headers.isAscii [] = true := rfl
  rw [Reply.made, ok_bind, ascii]
  exact unpacked

/-- Such a response is final. -/
theorem progress_plain {request : Request} (body : List UInt8)
    (named : request.url.namesScheme = true) :
    request.progress ⟨200, [], body⟩ = .ok (.final ⟨200, [], body⟩) := by
  rw [Request.progress, named]
  rfl

/-- A network that gives such a response to the first request gives it in the end. -/
theorem outcome_scripted_plain {base path : String} {headers : Headers} {body : List UInt8}
    {request : Request} (requested : firstRequest base headers path = .ok request)
    (named : request.url.namesScheme = true) :
    ((Network.scripted [.ok ⟨200, [], body⟩]).get base headers path []).outcome =
      .ok ⟨200, [], body⟩ := by
  have replied : scriptedReply [.ok ⟨200, [], body⟩] [] request >>= request.progress =
      .ok (.final ⟨200, [], body⟩) := by
    rw [scriptedReply]
    show Reply.made (.ok ⟨200, [], body⟩) >>= request.progress = _
    rw [made_plain, ok_bind, progress_plain body named]
  simp only [Network.scripted, requested]
  unfold send
  simp only [replied]

end Http

end ConstrainedDecoding
