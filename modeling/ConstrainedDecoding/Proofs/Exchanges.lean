import ConstrainedDecoding.Http.Client
import ConstrainedDecoding.Proofs.Outcome
import ConstrainedDecoding.Proofs.UrlOrigins
import Mathlib.Data.List.Chain

/-!
# Runs of exchanges

`Exchanges` describes what is sent until a request is not followed by another one, one rule for each
way an exchange can go, so that what holds of every exchange is shown of runs by induction.

An HTTP library is known by what it documents: it follows redirects, twenty at most
(`Network.FollowsRedirects`), it leaves credentials behind where a redirect leads to an origin that
is not trusted (`Network.KeepsCredentials`), and it reports what fails by classes of its own
(`Network.ThrowsOwn`). Whatever else a library does is left open.
-/

namespace ConstrainedDecoding

/-- A fault that is none of this library's own. -/
def Fault.IsForeign (fault : Fault) : Prop :=
  fault.kind.isGuidance = false

namespace Http

/-- What a single request comes to. -/
def Network.exchange (network : Network) (earlier : List Request) (request : Request) :
    Except Thrown Progress :=
  network.reply earlier request >>= network.progress request

/-- A request with those sent after it, oldest first, and what comes of the last one. Up to `left`
redirects are followed. -/
inductive Exchanges (network : Network) : (left : Nat) → (earlier : List Request) → Request →
    Except Thrown Response → (sent : List Request) → Prop
  | failed {left earlier request thrown} :
    network.exchange earlier request = .error thrown →
    Exchanges network left earlier request (.error thrown) [request]
  | final {left earlier request response} :
    network.exchange earlier request = .ok (.final response) →
    Exchanges network left earlier request (.ok response) [request]
  | exhausted {earlier request next} :
    network.exchange earlier request = .ok (.redirected next) →
    Exchanges network 0 earlier request (.error (.failure .redirectLimit)) [request]
  | followed {left earlier request next outcome sent} :
    network.exchange earlier request = .ok (.redirected next) →
    Exchanges network left (earlier ++ [request]) next outcome sent →
    Exchanges network (left + 1) earlier request outcome (request :: sent)

/-! ## What is known of an HTTP library -/

/-- A request is followed by another one, which carries credentials if this one does and trusts its
origin. -/
def Request.HandsOver (request next : Request) : Prop :=
  next.isAuthorized = (request.isAuthorized && isTrusted request.url.origin next.url.origin)

namespace Network

/-- A library that follows redirects: where it can make a first request, it makes a run of
exchanges, and what it follows are the responses with a location. -/
structure FollowsRedirects (network : Network) : Prop where
  unrequested {base path : String} {headers : Headers} {earlier : List Request} {thrown : Thrown} :
    network.first base headers path = .error thrown →
    network.get base headers path earlier = ⟨.error thrown, []⟩
  exchanges {base path : String} {headers : Headers} {earlier : List Request} {request : Request} :
    network.first base headers path = .ok request →
    Exchanges network maxRedirects earlier request (network.get base headers path earlier).outcome
      (network.get base headers path earlier).requests
  located {request next : Request} {response : Response} :
    network.progress request response = .ok (.redirected next) → response.location?.isSome = true
  unlocated {request : Request} {response reported : Response} :
    network.progress request response = .ok (.final reported) →
    reported = response ∧ response.location? = none

/-- A library that keeps credentials: the first request has those of the client and is at the origin
of the base, and each redirect hands over. -/
structure KeepsCredentials (network : Network) : Prop where
  isSame_first {base path : String} {headers : Headers} {request : Request} {origin : Origin}
    {rest : List Char} :
    path.toList = '/' :: rest → network.origin? base = some origin →
    origin.scheme = "http" ∨ origin.scheme = "https" →
    network.first base headers path = .ok request → request.url.origin.IsSame origin
  isAuthorized_first {base path : String} {headers : Headers} {request : Request} :
    headers.has "Authorization" = true → network.first base headers path = .ok request →
    request.isAuthorized = true
  handsOver {request next : Request} {response : Response} :
    network.progress request response = .ok (.redirected next) → request.HandsOver next

/-- A library that reports by classes of its own what is no failed exchange. -/
structure ThrowsOwn (network : Network) : Prop where
  reply {earlier : List Request} {request : Request} {fault : Fault} :
    network.reply earlier request = .error (.foreign fault) → fault.IsForeign
  progress {request : Request} {response : Response} {fault : Fault} :
    network.progress request response = .error (.foreign fault) → fault.IsForeign
  text {response : Response} {fault : Fault} :
    network.text response = .error fault → fault.IsForeign

end Network

/-! ## Runs -/

variable {network : Network} {left : Nat} {earlier sent : List Request} {request : Request}
  {outcome : Except Thrown Response}

/-- The reply to each request but the last one is a response with a location, and the library goes
on to the one after it. -/
def AreRedirects (network : Network) (earlier requests : List Request) : Prop :=
  ∀ before request next after, requests = before ++ request :: next :: after →
    ∃ response, network.reply (earlier ++ before) request = .ok response ∧
      response.location?.isSome = true ∧ network.progress request response = .ok (.redirected next)

/-- What sending comes to by what the last exchange came to, which is no more followed. -/
def conclude : Except Thrown Progress → Except Thrown Response
  | .error thrown => .error thrown
  | .ok (.final response) => .ok response
  | .ok (.redirected _) => .error (.failure .redirectLimit)

theorem areRedirects_single (request : Request) : AreRedirects network earlier [request] := by
  intro before first next after same
  have count := congrArg List.length same
  simp only [List.length_cons, List.length_append, List.length_nil] at count
  omega

theorem AreRedirects.cons {next : Request} {after : List Request} {response : Response}
    (replied : network.reply earlier request = .ok response)
    (located : response.location?.isSome = true)
    (progressed : network.progress request response = .ok (.redirected next))
    (later : AreRedirects network (earlier ++ [request]) (next :: after)) :
    AreRedirects network earlier (request :: next :: after) := by
  intro before first second rest same
  cases before with
  | nil =>
      cases same
      rw [List.append_nil]
      exact ⟨response, replied, located, progressed⟩
  | cons previous before =>
      obtain ⟨rfl, shorter⟩ := List.cons_eq_cons.1 same
      have followed := later before first second rest shorter
      rw [List.append_assoc] at followed
      exact followed

namespace Exchanges

theorem head?_sent (exchanges : Exchanges network left earlier request outcome sent) :
    sent.head? = some request := by
  cases exchanges with
  | failed => rfl
  | final => rfl
  | exhausted => rfl
  | followed => rfl

/-- What holds of each request and the one that its reply leads to holds of neighbours. -/
theorem isChain {neighbours : Request → Request → Prop}
    (step : ∀ {request next response},
      network.progress request response = .ok (.redirected next) → neighbours request next)
    (exchanges : Exchanges network left earlier request outcome sent) :
    sent.IsChain neighbours := by
  induction exchanges with
  | failed => exact List.isChain_singleton _
  | final => exact List.isChain_singleton _
  | exhausted => exact List.isChain_singleton _
  | followed exchanged later ih =>
      rw [List.isChain_cons]
      refine ⟨?_, ih⟩
      intro next first
      rw [later.head?_sent] at first
      cases first
      obtain ⟨_, _, progressed⟩ := bind_eq_ok.1 exchanged
      exact step progressed

theorem length_le (exchanges : Exchanges network left earlier request outcome sent) :
    sent.length ≤ left + 1 := by
  induction exchanges with
  | failed => simp
  | final => simp
  | exhausted => simp
  | followed _ _ ih =>
      rw [List.length_cons]
      omega

/-- A run is one redirect after the other, if only responses with a location are followed. -/
theorem areRedirects
    (located : ∀ {request next response},
      network.progress request response = .ok (.redirected next) →
        response.location?.isSome = true)
    (exchanges : Exchanges network left earlier request outcome sent) :
    AreRedirects network earlier sent := by
  induction exchanges with
  | failed => exact areRedirects_single _
  | final => exact areRedirects_single _
  | exhausted => exact areRedirects_single _
  | followed exchanged later ih =>
      obtain ⟨response, replied, progressed⟩ := bind_eq_ok.1 exchanged
      obtain ⟨after, starts⟩ := List.head?_eq_some_iff.1 later.head?_sent
      rw [starts] at ih ⊢
      exact .cons replied (located progressed) progressed ih

/-- The last exchange of a run decides what comes of it. Only the redirect beyond the most is not
followed. -/
theorem exists_last (exchanges : Exchanges network left earlier request outcome sent) :
    ∃ before last, sent = before ++ [last] ∧
      outcome = conclude (network.exchange (earlier ++ before) last) ∧
      ∀ next, network.exchange (earlier ++ before) last = .ok (.redirected next) →
        before.length = left := by
  induction exchanges with
  | @failed left earlier request thrown exchanged =>
      refine ⟨[], request, rfl, ?_⟩
      rw [List.append_nil, exchanged]
      exact ⟨rfl, fun _ impossible => nomatch impossible⟩
  | @final left earlier request response exchanged =>
      refine ⟨[], request, rfl, ?_⟩
      rw [List.append_nil, exchanged]
      exact ⟨rfl, fun _ impossible => nomatch impossible⟩
  | @exhausted earlier request next exchanged =>
      refine ⟨[], request, rfl, ?_⟩
      rw [List.append_nil, exchanged]
      exact ⟨rfl, fun _ _ => rfl⟩
  | @followed left earlier request next outcome sent exchanged later ih =>
      obtain ⟨before, last, rfl, concluded, unfollowed⟩ := ih
      rw [List.append_assoc] at concluded unfollowed
      refine ⟨request :: before, last, rfl, concluded, ?_⟩
      intro further asks
      rw [List.length_cons, unfollowed further asks]

end Exchanges

end Http

end ConstrainedDecoding
