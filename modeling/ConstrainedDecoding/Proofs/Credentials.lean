import ConstrainedDecoding.Hub
import ConstrainedDecoding.Proofs.ScriptedNetworks
import Mathlib.Data.List.DropRight

/-!
# Where credentials go

The first request of a client is at the origin of its base, and a request that follows carries
credentials only if the one before it does and trusts its origin. So whatever a network replies,
credentials stay at the origin of the base, or at its secure one, and once they are left behind they
are not sent again (`Hub.credentials_stay`).
-/

namespace ConstrainedDecoding

namespace Origin

/-- An origin is the secure one of the same host as another, both on their usual ports. -/
structure IsSecured (upgraded base : Origin) : Prop where
  base_scheme : base.scheme = "http"
  base_portNumber : base.portNumber = some 80
  scheme : upgraded.scheme = "https"
  portNumber : upgraded.portNumber = some 443
  host : Host.IsSame upgraded.host base.host

/-- An origin is one to which the credentials for a base may go. -/
def IsWithin (origin base : Origin) : Prop :=
  origin.IsSame base ∨ origin.IsSecured base

/-- Trust does not lead away from a base. -/
theorem IsWithin.of_isTrusted {source destination base : Origin} (within : source.IsWithin base)
    (trusted : Http.isTrusted source destination = true) : destination.IsWithin base := by
  rcases Bool.or_eq_true_iff.1 trusted with same | upgrade
  · exact of_decide_eq_true same ▸ within
  · simp only [Http.isUpgrade, Bool.and_eq_true, decide_eq_true_eq] at upgrade
    obtain ⟨⟨⟨⟨host, scheme⟩, portNumber⟩, secure⟩, securePort⟩ := upgrade
    rcases within with same | secured
    · exact .inr ⟨same.scheme ▸ scheme, same.portNumber ▸ portNumber, secure, securePort,
        host ▸ same.host⟩
    · rw [secured.scheme] at scheme
      exact absurd scheme (by decide)

end Origin

namespace Http

/-! ## Handing over -/

/-- Among requests that hand over to one another, those with credentials stay where the first one
is. -/
theorem isWithin_of_isChain {base : Origin} {requests : List Request}
    (chain : requests.IsChain Request.HandsOver)
    (start : ∀ first, requests.head? = some first → first.isAuthorized = true →
      first.url.origin.IsWithin base) :
    ∀ request ∈ requests, request.isAuthorized = true → request.url.origin.IsWithin base := by
  induction requests with
  | nil => exact fun request member => absurd member List.not_mem_nil
  | cons first rest ih =>
      rw [List.isChain_cons] at chain
      obtain ⟨handsOver, later⟩ := chain
      have started := start first rfl
      refine List.forall_mem_cons.2 ⟨started, ih later ?_⟩
      intro second isSecond authorized
      have handed := handsOver second isSecond
      rw [Request.HandsOver, authorized] at handed
      obtain ⟨before, trusted⟩ := Bool.and_eq_true_iff.1 handed.symm
      exact (started before).of_isTrusted trusted

/-- Credentials that were left behind are not sent again. -/
theorem pairwise_of_isChain {requests : List Request}
    (chain : requests.IsChain Request.HandsOver) :
    requests.Pairwise fun earlier later =>
      later.isAuthorized = true → earlier.isAuthorized = true := by
  let keeps (earlier later : Request) : Prop :=
    later.isAuthorized = true → earlier.isAuthorized = true
  have trans : Trans keeps keeps keeps := ⟨fun first second authorized => first (second authorized)⟩
  have kept : requests.IsChain keeps := by
    refine chain.imp fun earlier later handsOver authorized => ?_
    rw [Request.HandsOver, authorized] at handsOver
    exact (Bool.and_eq_true_iff.1 handsOver.symm).1
  exact kept.pairwise

end Http

namespace Hub

open Http

variable {environment : Environment} {source : Source} {network : Network}

/-! ## What a source asks for -/

theorem trimSlashes_trimSlashes (text : String) :
    Environment.trimSlashes (Environment.trimSlashes text) = Environment.trimSlashes text := by
  unfold Environment.trimSlashes Text.trimEnd
  rw [String.toList_ofList, List.reverse_reverse, List.dropWhile_idempotent]

/-- The client of a source has the base location that is resolved for it. -/
theorem base_client (source : Source) (environment : Environment) :
    (source.client environment).base = environment.hubUrl source.base :=
  trimSlashes_trimSlashes _

theorem path_slash (source : Source) : ∃ rest, source.path.toList = '/' :: rest := by
  refine ⟨(String.ofList (Text.trimBoth (· = '/') source.model.toList)).toList ++
    "/resolve/".toList ++ source.revision.toList ++ "/tokenizer.json".toList, ?_⟩
  simp [Source.path, documentPath, String.toList_append, ToString.toString]

theorem has_credential {credential : String}
    (given : environment.hubCredential source.token = some credential) :
    (source.client environment).headers.has "Authorization" = true := by
  unfold Source.client
  rw [given]
  have same : Headers.sameName "Authorization" "Authorization" = true := by decide
  have other : ("Accept" == "Authorization") = false := by decide
  simp [Client.create, Keyed.insert, other, Headers.has, same]

section

variable [Stack]

theorem requests_load (environment : Environment) (network : Network) (source : Source) :
    (load environment network source).2 = (network.get (source.client environment).base
      (source.client environment).headers source.path []).requests :=
  List.nil_append _

/-- Of whatever library does what is known of it: the requests with credentials go to the origin of
the base, or to the secure one of its host if both are on their usual ports; a credential that is
given goes with the first request, and with each further one as long as all origins on the way are
trusted. Left behind once, it is not sent again. -/
theorem credentials_stay (follows : network.FollowsRedirects) (keeps : network.KeepsCredentials)
    (environment : Environment) (source : Source) {base : Origin}
    (known : network.origin? (environment.hubUrl source.base) = some base)
    (web : base.scheme = "http" ∨ base.scheme = "https") :
    let requests := (load environment network source).2
    (∀ request ∈ requests, request.isAuthorized = true → request.url.origin.IsWithin base) ∧
      (requests.Pairwise fun earlier later =>
        later.isAuthorized = true → earlier.isAuthorized = true) ∧
      requests.IsChain Request.HandsOver ∧
      ((environment.hubCredential source.token).isSome = true →
        ∀ first, requests.head? = some first → first.isAuthorized = true) := by
  intro requests
  have gets := requests_load environment network source
  cases requested : network.first (source.client environment).base
      (source.client environment).headers source.path with
  | error thrown =>
      have silent : requests = [] := by
        rw [follows.unrequested requested] at gets
        exact gets
      rw [silent]
      simp
  | ok first =>
      have exchanges : Exchanges network maxRedirects [] first _ _ := follows.exchanges requested
      rw [← gets] at exchanges
      have chain : requests.IsChain Request.HandsOver := exchanges.isChain keeps.handsOver
      refine ⟨isWithin_of_isChain chain ?start, pairwise_of_isChain chain, chain, ?given⟩
      case start =>
        intro request isFirst _
        rw [exchanges.head?_sent] at isFirst
        cases isFirst
        obtain ⟨rest, slash⟩ := path_slash source
        exact .inl (keeps.isSame_first slash ((base_client source environment).symm ▸ known) web
          requested)
      case given =>
        intro given request isFirst
        rw [exchanges.head?_sent] at isFirst
        cases isFirst
        obtain ⟨credential, given⟩ := Option.isSome_iff_exists.1 given
        exact keeps.isAuthorized_first (has_credential given) requested

end

/-- A source on a plain hub, with a credential. -/
def plainSource : Source :=
  { model := "m", base := some "http://hub.example", token := some "secret" }

theorem exists_firstRequest_plainSource : ∃ request,
    firstRequest (plainSource.client {}).base (plainSource.client {}).headers plainSource.path =
      .ok request ∧ request.url.namesScheme = true :=
  exists_of_any (by decide +kernel)

/-- The base location of a plain hub. -/
def plainBase : Url :=
  { scheme := "http", userInfo := "", host := "hub.example", portNumber := none, path := ""
    query := none, fragment := none }

/-- A network that leads to the secure origin, away from it and back. -/
def roundabout : Network := Network.scripted
  [.ok ⟨302, [("Location", "https://hub.example/there")], []⟩,
    .ok ⟨302, [("Location", "//elsewhere.example/there")], []⟩,
    .ok ⟨302, [("Location", "https://hub.example/back")], []⟩,
    .ok ⟨404, [], []⟩]

theorem credentials_stay_roundabout :
    roundabout.FollowsRedirects ∧ roundabout.KeepsCredentials ∧
      roundabout.origin? (({} : Environment).hubUrl plainSource.base) = some plainBase.origin ∧
      (plainBase.origin.scheme = "http" ∨ plainBase.origin.scheme = "https") ∧
      ∃ first ∈ (@load ⟨fun _ => 0⟩ {} roundabout plainSource).2, first.isAuthorized = true ∧
        first.url.origin.IsWithin plainBase.origin := by
  have known : roundabout.origin? (({} : Environment).hubUrl plainSource.base) =
      some plainBase.origin := by decide +kernel
  have web : plainBase.origin.scheme = "http" ∨ plainBase.origin.scheme = "https" := .inl rfl
  obtain ⟨first, requested, -⟩ := exists_firstRequest_plainSource
  have follows : roundabout.FollowsRedirects := Network.followsRedirects_scripted
  have keeps : roundabout.KeepsCredentials := Network.keepsCredentials_scripted
  obtain ⟨within, -, -, given⟩ :=
    @credentials_stay _ ⟨fun _ => 0⟩ follows keeps {} plainSource _ known web
  have exchanges : Exchanges roundabout maxRedirects [] first _ _ := follows.exchanges requested
  have isFirst := exchanges.head?_sent
  rw [← @requests_load ⟨fun _ => 0⟩] at isFirst
  have authorized := given rfl first isFirst
  have sent := List.mem_of_head? isFirst
  exact ⟨follows, keeps, known, web, first, sent, authorized, within first sent authorized⟩

end Hub

end ConstrainedDecoding
