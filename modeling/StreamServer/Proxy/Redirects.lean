import StreamServer.NetworkSecurity.Resolver
import StreamServer.NetworkSecurity.Runtime
import StreamServer.Proxy.Request

set_option autoImplicit false

namespace StreamServer.Proxy

open ByteText NetworkSecurity

def maxRedirects : Nat := 5

def switchingProtocols : Nat := 101
def redirectStatuses : List Nat := [301, 302, 303, 307, 308]

def ifRange : Bytes := utf8 "if-range"
def acceptEncoding : Bytes := utf8 "accept-encoding"

def automaticRequestHeaders : List Bytes :=
  [utf8 "accept", utf8 "accept-language", utf8 "range", ifRange, utf8 "user-agent"]

def proxyErrorOf : DestinationError → ProxyError
  | .unsupportedScheme | .missingHost => .invalidRequest
  | .blocked => .blocked
  | .resolutionFailed | .localNetworkUnavailable => .upstream

structure UpstreamResponse where
  status : Nat
  headers : HeaderMap
deriving DecidableEq, Repr

inductive SendOutcome where
  | cancelled
  | timedOut
  | failed
  | answered (response : UpstreamResponse)
deriving DecidableEq, Repr

def awaitResponseHeaders : SendOutcome → Except ProxyError UpstreamResponse
  | .cancelled => .error .cancelled
  | .timedOut | .failed => .error .upstream
  | .answered response => .ok response

-- What one pass through the loop gets from outside: the token, the validator as it is by then, its
-- resolver and clock, the client builder and the upstream.
structure HopEnvironment where
  cancelled : Bool
  validator : DestinationValidator
  resolution : ValidationContext
  clientBuilds : Bool
  outcome : SendOutcome
deriving DecidableEq, Repr

structure UpstreamClient where
  acceptInvalidCerts : Bool
  resolveToAddrs : Option (Bytes × List SocketAddr)
deriving DecidableEq, Repr

structure SentRequest (Url : Type) where
  client : UpstreamClient
  method : Bytes
  destination : ResolvedDestination Url
  headers : HeaderMap
deriving Repr

structure FetchedProxyResponse (Url : Type) where
  response : UpstreamResponse
  finalUrl : Url
  effectiveCustomRequestHeaders : HeaderMap
  effectiveResponseHeaders : HeaderMap
  credentialBearing : Bool
deriving DecidableEq, Repr

structure FetchState (Url : Type) where
  target : Url
  customHeaders : HeaderMap
  automaticHeaders : HeaderMap
  credentialBearing : Bool
deriving DecidableEq, Repr

structure Fetch (crate : UrlCrate) where
  settings : ProxyPolicySettings
  hopMarker : Bytes
  request : ParsedProxyRequest crate.Url
  method : Bytes
  incoming : HeaderMap
  environment : Nat → HopEnvironment

def automaticHeaders (incoming : HeaderMap) : HeaderMap :=
  automaticRequestHeaders.foldl (fun headers name =>
    match incoming.get name with
    | some value => headers.insert name value
    | none => headers) []

def outgoingHeaders (hopMarker : Bytes) (automatic custom : HeaderMap) : HeaderMap :=
  let headers := custom.foldl (fun headers entry => headers.insert entry.1 entry.2) automatic
  (headers.insert acceptEncoding (utf8 "identity")).insert proxyHopHeaderName hopMarker

/-- A value is text when it has only tabs and visible ASCII. -/
def headerToStr (value : Bytes) : Option Bytes :=
  if value.all fun byte => 32 ≤ byte && byte < 127 || byte == 9 then some value else none

def applyRedirectOriginPolicy (crate : UrlCrate) (current next : crate.Url)
    (automatic custom : HeaderMap) : crate.Url × HeaderMap × HeaderMap :=
  if crate.sameOrigin current next then (next, automatic, custom)
  else (crate.clearUserInfo next, automatic.remove ifRange, [])

namespace Fetch

variable {crate : UrlCrate} (fetch : Fetch crate)

def validate (environment : HopEnvironment) (url : crate.Url) :
    Except DestinationError (ResolvedDestination crate.Url) :=
  if environment.cancelled then .error .resolutionFailed
  else environment.validator.validate crate environment.resolution url
    ⟨fetch.settings.allowPrivateNetworkSources⟩

def prepareHop (environment : HopEnvironment) (state : FetchState crate.Url) :
    Except ProxyError (SentRequest crate.Url × FetchState crate.Url) :=
  match fetch.validate environment state.target with
  | .error error => .error (proxyErrorOf error)
  | .ok destination =>
      if !environment.clientBuilds then .error .upstream
      else .ok (
        { client :=
            { acceptInvalidCerts := fetch.settings.allowInvalidProxyTlsCertificates
              resolveToAddrs := destination.domain.map fun domain => (domain, destination.addrs) }
          method := fetch.method
          destination
          headers := outgoingHeaders fetch.hopMarker state.automaticHeaders state.customHeaders },
        { state with
          credentialBearing := state.credentialBearing ||
            (crate.hasUserInfo destination.url || !state.customHeaders.isEmpty) })

def followRedirect (crate : UrlCrate) (state : FetchState crate.Url) (current : crate.Url)
    (response : UpstreamResponse) : Except ProxyError (FetchState crate.Url) :=
  match (response.headers.get (utf8 "location")).bind headerToStr with
  | none => .error .upstream
  | some location =>
      match crate.join current location with
      | none => .error .upstream
      | some next =>
          if crate.scheme current = utf8 "https" ∧ crate.scheme next = utf8 "http" then
            .error .upstream
          else if !crate.isHttp next || (crate.host next).isNone then .error .upstream
          else
            let next := crate.clearFragment next
            if maxTargetUrl < (crate.asStr next).length then .error .upstream
            else
              let (next, automatic, custom) := applyRedirectOriginPolicy crate current next
                state.automaticHeaders state.customHeaders
              .ok ⟨next, custom, automatic, state.credentialBearing⟩

/-- The loop: the requests it sends and its result. `redirectsLeft` is `5 - redirects`. -/
def fetchFrom (redirects : Nat) (redirectsLeft : Nat) (state : FetchState crate.Url) :
    List (SentRequest crate.Url) × Except ProxyError (FetchedProxyResponse crate.Url) :=
  match fetch.prepareHop (fetch.environment redirects) state with
  | .error error => ([], .error error)
  | .ok (sent, state) =>
      match awaitResponseHeaders (fetch.environment redirects).outcome with
      | .error error => ([sent], .error error)
      | .ok response =>
          if response.status = switchingProtocols then ([sent], .error .upstream)
          else if response.status ∉ redirectStatuses then
            ([sent], .ok ⟨response, sent.destination.url, state.customHeaders,
              fetch.request.responseHeaders, state.credentialBearing⟩)
          else
            match redirectsLeft with
            | 0 => ([sent], .error .upstream)
            | left + 1 =>
                match followRedirect crate state sent.destination.url response with
                | .error error => ([sent], .error error)
                | .ok next =>
                    let (later, result) := fetchFrom (redirects + 1) left next
                    (sent :: later, result)

def initial : FetchState crate.Url where
  target := fetch.request.target
  customHeaders := fetch.request.requestHeaders
  automaticHeaders := automaticHeaders fetch.incoming
  credentialBearing := false

def fetchWithRedirects :
    List (SentRequest crate.Url) × Except ProxyError (FetchedProxyResponse crate.Url) :=
  fetch.fetchFrom 0 maxRedirects fetch.initial

end Fetch

end StreamServer.Proxy

namespace StreamServer.Proxy.Fetch

open ByteText NetworkSecurity

variable {crate : UrlCrate} {fetch : Fetch crate}

structure SameOriginSoFar (fetch : Fetch crate) (before : List (SentRequest crate.Url)) (url : crate.Url) : Prop where
  earlier : ∀ sent ∈ before, crate.OriginEq sent.destination.url fetch.request.target
  current : crate.OriginEq url fetch.request.target

-- The user-info of `url` came in a redirect by the origin of `url`: its last requests, all of that
-- origin, began without any.
def UserInfoIntroduced (before : List (SentRequest crate.Url)) (url : crate.Url) : Prop :=
  ∃ earlier source later, before = earlier ++ source :: later ∧
    crate.hasUserInfo source.destination.url = false ∧
    ∀ sent ∈ source :: later, crate.OriginEq sent.destination.url url

theorem SameOriginSoFar.congr {before : List (SentRequest crate.Url)} {url other : crate.Url}
    (same : crate.OriginEq url other) :
    fetch.SameOriginSoFar before url ↔ fetch.SameOriginSoFar before other := by
  constructor
  · rintro ⟨earlier, current⟩
    exact ⟨earlier, same.symm.trans current⟩
  · rintro ⟨earlier, current⟩
    exact ⟨earlier, same.trans current⟩

theorem sameOriginSoFar_append {before : List (SentRequest crate.Url)}
    {sent : SentRequest crate.Url} {url : crate.Url} :
    fetch.SameOriginSoFar (before ++ [sent]) url ↔
      fetch.SameOriginSoFar before sent.destination.url ∧ crate.OriginEq sent.destination.url url := by
  constructor
  · rintro ⟨earlier, current⟩
    have last := earlier sent (by simp)
    refine ⟨⟨?_, last⟩, last.trans current.symm⟩
    intro sent member
    exact earlier sent (List.mem_append_left _ member)
  · rintro ⟨⟨earlier, last⟩, same⟩
    refine ⟨?_, same.symm.trans last⟩
    intro other member
    rcases List.mem_append.mp member with member | member
    · exact earlier other member
    · rw [List.mem_singleton.mp member]
      exact last

theorem UserInfoIntroduced.congr {before : List (SentRequest crate.Url)} {url other : crate.Url}
    (same : crate.OriginEq url other) (introduced : UserInfoIntroduced before url) :
    UserInfoIntroduced before other := by
  obtain ⟨earlier, source, later, split, bare, origins⟩ := introduced
  refine ⟨earlier, source, later, split, bare, ?_⟩
  intro sent member
  exact (origins sent member).trans same

theorem UserInfoIntroduced.append {before : List (SentRequest crate.Url)}
    {sent : SentRequest crate.Url} {url : crate.Url}
    (introduced : UserInfoIntroduced before sent.destination.url)
    (same : crate.OriginEq sent.destination.url url) : UserInfoIntroduced (before ++ [sent]) url := by
  obtain ⟨earlier, source, later, rfl, bare, origins⟩ := introduced.congr same
  refine ⟨earlier, source, later ++ [sent], by simp, bare, ?_⟩
  intro other member
  rw [← List.cons_append, List.mem_append, List.mem_singleton] at member
  rcases member with member | rfl
  · exact origins other member
  · exact same

theorem userInfoIntroduced_last {before : List (SentRequest crate.Url)}
    {sent : SentRequest crate.Url} {url : crate.Url}
    (bare : crate.hasUserInfo sent.destination.url = false)
    (same : crate.OriginEq sent.destination.url url) : UserInfoIntroduced (before ++ [sent]) url := by
  refine ⟨before, sent, [], rfl, bare, ?_⟩
  intro other member
  rw [List.mem_singleton.mp member]
  exact same

section Steps

variable {environment : HopEnvironment} {state next : FetchState crate.Url}
  {sent : SentRequest crate.Url}

theorem validate_url {url : crate.Url} {destination : ResolvedDestination crate.Url}
    (ok : fetch.validate environment url = .ok destination) :
    destination.url = crate.clearFragment url := by
  unfold validate at ok
  split at ok
  next => cases ok
  next =>
    have sound := DestinationValidator.validateInner_sound (DestinationValidator.validate_ok ok)
    exact sound.canonical

theorem prepareHop_ok (ok : fetch.prepareHop environment state = .ok (sent, next)) :
    fetch.validate environment state.target = .ok sent.destination ∧
      sent.client.resolveToAddrs =
        sent.destination.domain.map (fun domain => (domain, sent.destination.addrs)) ∧
      sent.headers = outgoingHeaders fetch.hopMarker state.automaticHeaders state.customHeaders ∧
      next = { state with
        credentialBearing := state.credentialBearing ||
          (crate.hasUserInfo sent.destination.url || !state.customHeaders.isEmpty) } := by
  unfold prepareHop at ok
  split at ok
  next => cases ok
  next destination valid =>
    split at ok
    next => cases ok
    next =>
      cases ok
      exact ⟨valid, rfl, rfl, rfl⟩

theorem followRedirect_joined {current : crate.Url} {response : UpstreamResponse}
    (ok : followRedirect crate state current response = .ok next) :
    ∃ joined target automatic custom,
      (crate.scheme current = utf8 "https" → crate.scheme joined ≠ utf8 "http") ∧
      crate.isHttp joined = true ∧ (crate.host joined).isSome = true ∧
      applyRedirectOriginPolicy crate current (crate.clearFragment joined) state.automaticHeaders
        state.customHeaders = (target, automatic, custom) ∧
      next = ⟨target, custom, automatic, state.credentialBearing⟩ := by
  unfold followRedirect at ok
  split at ok
  next => cases ok
  next =>
  split at ok
  next => cases ok
  next joined _ =>
  split at ok
  next => cases ok
  next kept =>
  split at ok
  next => cases ok
  next web =>
  simp only at ok
  split at ok
  next => cases ok
  next =>
    cases ok
    rw [Bool.or_eq_true, not_or] at web
    refine ⟨joined, _, _, _, ?_, by simpa using web.1, ?_, rfl, rfl⟩
    · intro secure plain
      exact kept ⟨secure, plain⟩
    · simpa [Option.isSome_iff_ne_none] using web.2

inductive Followed (state : FetchState crate.Url) (current : crate.Url)
    (next : FetchState crate.Url) : Prop where
  | stays (same : crate.OriginEq current next.target)
      (custom : next.customHeaders = state.customHeaders)
      (automatic : next.automaticHeaders = state.automaticHeaders) : Followed state current next
  | leaves (crossed : ¬ crate.OriginEq current next.target)
      (bare : crate.hasUserInfo next.target = false) (custom : next.customHeaders = [])
      (automatic : next.automaticHeaders = state.automaticHeaders.remove ifRange) :
      Followed state current next

theorem followRedirect_ok (lawful : crate.Lawful) {current : crate.Url} {response : UpstreamResponse}
    (ok : followRedirect crate state current response = .ok next) :
    next.credentialBearing = state.credentialBearing ∧
      (crate.scheme current = utf8 "https" → crate.scheme next.target ≠ utf8 "http") ∧
      Followed state current next := by
  obtain ⟨joined, target, automatic, custom, upgraded, web, hosted, policy, rfl⟩ :=
    followRedirect_joined ok
  have cleared := lawful.clearFragmentOrigin joined
  unfold applyRedirectOriginPolicy at policy
  split at policy
  next same =>
    cases policy
    refine ⟨rfl, ?_, .stays ((UrlCrate.sameOrigin_iff _ _).mp same) rfl rfl⟩
    rw [cleared.scheme]
    exact upgraded
  next crossed =>
    cases policy
    have stripped := lawful.clearUserInfoOrigin (crate.clearFragment joined)
    refine ⟨rfl, ?_, .leaves ?_ ?_ rfl rfl⟩
    · rw [stripped.scheme, cleared.scheme]
      exact upgraded
    · intro same
      apply crossed
      rw [UrlCrate.sameOrigin_iff]
      exact same.trans stripped
    · apply lawful.clearUserInfoEmpty
      · rw [cleared.isHttp]
        exact web
      · rw [cleared.host]
        exact hosted

end Steps

theorem outgoingHeaders_ifRange (hopMarker : Bytes) (automatic : HeaderMap) :
    (outgoingHeaders hopMarker (automatic.remove ifRange) []).get ifRange = none := by
  unfold outgoingHeaders
  rw [HeaderMap.get_insert_of_ne (by decide), HeaderMap.get_insert_of_ne (by decide)]
  exact HeaderMap.get_remove automatic ifRange

theorem fetchFrom_cases (fetch : Fetch crate) (redirects left : Nat) (state : FetchState crate.Url) :
    (∃ error, fetch.fetchFrom redirects left state = ([], .error error)) ∨
    ∃ sent prepared,
      fetch.prepareHop (fetch.environment redirects) state = .ok (sent, prepared) ∧
      ((∃ error, fetch.fetchFrom redirects left state = ([sent], .error error)) ∨
        (∃ response, fetch.fetchFrom redirects left state = ([sent], .ok response) ∧
          response.credentialBearing = prepared.credentialBearing) ∨
        ∃ remaining response next, left = remaining + 1 ∧
          followRedirect crate prepared sent.destination.url response = .ok next ∧
          fetch.fetchFrom redirects left state =
            (sent :: (fetch.fetchFrom (redirects + 1) remaining next).1,
              (fetch.fetchFrom (redirects + 1) remaining next).2)) := by
  cases prepare : fetch.prepareHop (fetch.environment redirects) state with
  | error error =>
    left
    refine ⟨error, ?_⟩
    rw [fetchFrom.eq_def, prepare]
  | ok pair =>
  obtain ⟨sent, prepared⟩ := pair
  right
  refine ⟨sent, prepared, rfl, ?_⟩
  rw [fetchFrom.eq_def, prepare]
  simp only
  cases await : awaitResponseHeaders (fetch.environment redirects).outcome with
  | error error => exact .inl ⟨error, rfl⟩
  | ok response =>
  simp only
  split
  next => exact .inl ⟨_, rfl⟩
  next =>
  split
  next => exact .inr (.inl ⟨_, rfl, rfl⟩)
  next =>
  cases left with
  | zero => exact .inl ⟨_, rfl⟩
  | succ remaining =>
    cases follow : followRedirect crate prepared sent.destination.url response with
    | error error => exact .inl ⟨error, rfl⟩
    | ok next => exact .inr (.inr ⟨remaining, response, next, rfl, follow, rfl⟩)

end StreamServer.Proxy.Fetch
