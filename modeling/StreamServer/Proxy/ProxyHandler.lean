import StreamServer.Proxy.CacheControl
import StreamServer.Proxy.CustomOptions
import StreamServer.Proxy.OffThread
import StreamServer.Proxy.PlaylistGuarantees
import StreamServer.Proxy.ProxyResponse
import StreamServer.Proxy.RedirectCredentials
import StreamServer.Shared.Splices

set_option autoImplicit false

namespace StreamServer.Proxy

open ByteText NetworkSecurity Results
open List (Forall₂)

section Playlists

def contentTypeIsPlaylist (value : Bytes) : Bool :=
  let mediaType := trimAsciiOws ((value.splitOn 59).headD [])
  match mediaType.splitOn 47 with
  | [kind, subtype] =>
      !kind.isEmpty && !subtype.isEmpty && (kind ++ subtype).all isHttpToken &&
        (windows 7 subtype).any fun candidate => eqIgnoreAsciiCase candidate (utf8 "mpegurl")
  | _ => false

def contentEncodingIsIdentityOnly (headers : HeaderMap) : Bool :=
  (headers.getAll contentEncoding).all fun value =>
    (value.splitOn 44).all fun coding =>
      let coding := trimAsciiOws coding
      !coding.isEmpty && eqIgnoreAsciiCase coding (utf8 "identity")

def maxPlaylistInput : Nat := 8 * 1024 * 1024

def declaredPlaylistLengthExceedsLimit (contentLength : Option Nat) : Bool :=
  contentLength.any (maxPlaylistInput < ·)

-- `reserved` says whether the allocator gives the space, and no more than the limit.
def reservePlaylistInput (length additional : Nat) (reserved : Bool) : Except ProxyError Unit :=
  if maxPlaylistInput < length + additional ∨ reserved = false then .error .upstream else .ok ()

/-- What a turn of the collecting loop waits for: one of the deadlines counts as `expired`. -/
inductive Arrival where
  | cancelled
  | expired
  | failed
  | chunk (bytes : Bytes) (reserved : Bool)
  | finished

/-- There is no result while the upstream has not finished. -/
def collectChunks (bytes : Bytes) : List Arrival → Option (Except ProxyError Bytes)
  | [] => none
  | .cancelled :: _ => some (.error .cancelled)
  | .expired :: _ | .failed :: _ => some (.error .upstream)
  | .finished :: _ => some (.ok bytes)
  | .chunk chunk reserved :: rest =>
      if chunk = [] then collectChunks bytes rest
      else
        match reservePlaylistInput bytes.length chunk.length reserved with
        | .error error => some (.error error)
        | .ok () => collectChunks (bytes ++ chunk) rest

def collectPlaylistUntil (contentLength : Option Nat) (reserved : Bool) (arrivals : List Arrival) :
    Option (Except ProxyError Bytes) :=
  if declaredPlaylistLengthExceedsLimit contentLength then some (.error .upstream)
  else
    match contentLength with
    | some length =>
        match reservePlaylistInput 0 length reserved with
        | .error error => some (.error error)
        | .ok () => collectChunks [] arrivals
    | none => collectChunks [] arrivals

variable {crate : UrlCrate} {C P : Type}

def rewritePlaylistOffThread (job : PlaylistRewriteJob crate C P) (policyCancelled : Bool)
    (actions : List OffThreadAction) : Option (Rewritten C P) :=
  (Runs.run OffThread.step (OffThread.spawned job policyCancelled) actions).bind fun state =>
    match state.caller with
    | .returned result => some result
    | .gone (some error) => some (.error error)
    | _ => none

end Playlists

/-- A request to the proxy, with all that happens to it from outside. -/
structure ProxyCall (crate : UrlCrate) (C P : Type) where
  hopMarker : Bytes
  rawTarget : Bytes
  headers : HeaderMap
  method : Bytes
  admission : Option (ProxyPolicySettings × C)
  environment : Nat → HopEnvironment
  contentLength : Option Nat
  playlistAdmission : Option P
  reserved : Bool
  arrivals : List Arrival
  policyCancelled : Bool
  rewriting : List OffThreadAction

structure Handled (crate : UrlCrate) (C P : Type) where
  sent : List (SentRequest crate.Url)
  -- There is none while the request is at work, or when it is dropped.
  response : Option (ProxyResponse C P)

namespace ProxyCall

variable {crate : UrlCrate} {C P : Type} (http : HttpCrate) (call : ProxyCall crate C P)

def matchesInboundHopMarker : Bool :=
  (call.headers.getAll proxyHopHeaderName).any fun value =>
    (value.splitOn 44).any fun part => trimAsciiOws part == call.hopMarker

def fetch (settings : ProxyPolicySettings) (request : ParsedProxyRequest crate.Url) : Fetch crate :=
  ⟨settings, call.hopMarker, request, call.method, call.headers, call.environment⟩

def isPlaylist (fetched : FetchedProxyResponse crate.Url) : Bool :=
  (utf8 ".m3u8").isSuffixOf (crate.path fetched.finalUrl) ||
    (utf8 ".m3u").isSuffixOf (crate.path fetched.finalUrl) ||
    ((fetched.effectiveResponseHeaders.get contentType).or
      (fetched.response.headers.get contentType)).any contentTypeIsPlaylist

def transforms (fetched : FetchedProxyResponse crate.Url) : Bool :=
  isPlaylist fetched && call.method != utf8 "HEAD" && fetched.response.status == 200 &&
    !cacheControlForbidsTransform (fetched.response.headers.getAll cacheControl)

def job (fetched : FetchedProxyResponse crate.Url) (context : C) (permit : P) (body : Bytes) :
    PlaylistRewriteJob crate C P :=
  ⟨body, fetched.finalUrl, fetched.effectiveCustomRequestHeaders,
    fetched.effectiveResponseHeaders, context, permit⟩

def transformed (fetched : FetchedProxyResponse crate.Url) (context : C) : Option (Rewritten C P) :=
  if !contentEncodingIsIdentityOnly fetched.response.headers then some (.error .upstream)
  else if declaredPlaylistLengthExceedsLimit call.contentLength then some (.error .upstream)
  else
    match call.playlistAdmission with
    | none => some (.error .capacity)
    | some permit =>
        (collectPlaylistUntil call.contentLength call.reserved call.arrivals).bind fun
          | .error error => some (.error error)
          | .ok body => rewritePlaylistOffThread (job fetched context permit body)
              call.policyCancelled call.rewriting

def respond (fetched : FetchedProxyResponse crate.Url) (context : C) : Option (ProxyResponse C P) :=
  let build := buildProxyResponse fetched.response.status fetched.response.headers
    fetched.effectiveResponseHeaders
  if call.transforms fetched then
    (call.transformed fetched context).map fun
      | .error error => proxyErrorResponse error
      | .ok output => build (.buffered output.body output.context output.playlistCapacity) true
          fetched.credentialBearing
  else some (build (.streaming context) false fetched.credentialBearing)

def refuse (error : ProxyError) : Handled crate C P := ⟨[], some (proxyErrorResponse error)⟩

def handleProxySuffix (rawSuffix : Bytes) : Handled crate C P :=
  if maxProxyInput < rawSuffix.length then refuse .invalidRequest
  else if call.matchesInboundHopMarker then refuse .blocked
  else if call.method = utf8 "CONNECT" then refuse .invalidRequest
  else
    match call.admission with
    | none => refuse .capacity
    | some (settings, context) =>
        match parseProxySuffix crate http rawSuffix with
        | .error error => refuse error
        | .ok request =>
            let (sent, result) := (call.fetch settings request).fetchWithRedirects
            match result with
            | .error error => ⟨sent, some (proxyErrorResponse error)⟩
            | .ok fetched => ⟨sent, call.respond fetched context⟩

def suffix : Option Bytes :=
  if startsWith (utf8 "/proxy") call.rawTarget then
    match call.rawTarget.drop 6 with
    | [] => some []
    | first :: rest => if first = 47 ∨ first = 63 then some (first :: rest) else none
  else none

def handleProxy : Handled crate C P :=
  match call.suffix with
  | none => refuse .invalidRequest
  | some rawSuffix => call.handleProxySuffix http rawSuffix

end ProxyCall

section Handling

variable {crate : UrlCrate} {C P : Type} {http : HttpCrate} {call : ProxyCall crate C P}

namespace ProxyCall

structure Admitted (http : HttpCrate) (call : ProxyCall crate C P) (settings : ProxyPolicySettings)
    (context : C) (request : ParsedProxyRequest crate.Url) : Prop where
  admission : call.admission = some (settings, context)
  parsed : ∃ rawSuffix, call.suffix = some rawSuffix ∧
    parseProxySuffix crate http rawSuffix = .ok request
  unmarked : call.matchesInboundHopMarker = false

-- What becomes of a request: it is refused and sends nothing, or it is fetched and fails, or what
-- is fetched is answered.
inductive Handling (http : HttpCrate) (call : ProxyCall crate C P) : Handled crate C P → Prop
  | refused (error : ProxyError) : Handling http call (refuse error)
  | failed {settings : ProxyPolicySettings} {context : C} {request : ParsedProxyRequest crate.Url}
      {sent : List (SentRequest crate.Url)} {error : ProxyError}
      (admitted : Admitted http call settings context request)
      (fetched : (call.fetch settings request).fetchWithRedirects = (sent, .error error)) :
      Handling http call ⟨sent, some (proxyErrorResponse error)⟩
  | fetched {settings : ProxyPolicySettings} {context : C} {request : ParsedProxyRequest crate.Url}
      {sent : List (SentRequest crate.Url)} {response : FetchedProxyResponse crate.Url}
      (admitted : Admitted http call settings context request)
      (fetched : (call.fetch settings request).fetchWithRedirects = (sent, .ok response)) :
      Handling http call ⟨sent, call.respond response context⟩

theorem handling (http : HttpCrate) (call : ProxyCall crate C P) :
    Handling http call (call.handleProxy http) := by
  unfold handleProxy
  cases suffix : call.suffix with
  | none => exact .refused _
  | some rawSuffix =>
  simp only [handleProxySuffix]
  split
  next => exact .refused _
  next =>
  split
  next => exact .refused _
  next unmarked =>
  split
  next => exact .refused _
  next =>
  cases admission : call.admission with
  | none => exact .refused _
  | some admitted =>
  obtain ⟨settings, context⟩ := admitted
  simp only
  cases parsed : parseProxySuffix crate http rawSuffix with
  | error error => exact .refused _
  | ok request =>
  have accepted : Admitted http call settings context request :=
    ⟨admission, ⟨rawSuffix, suffix, parsed⟩, by simpa using unmarked⟩
  simp only
  cases fetched : (call.fetch settings request).fetchWithRedirects with
  | mk sent result =>
  cases result with
  | error error => exact .failed accepted fetched
  | ok response => exact .fetched accepted fetched

end ProxyCall

end Handling

namespace Fetch

variable {crate : UrlCrate} {fetch : Fetch crate}

theorem fetchFrom_ok {redirects left : Nat} {state : FetchState crate.Url}
    {all : List (SentRequest crate.Url)} {fetched : FetchedProxyResponse crate.Url}
    (ok : fetch.fetchFrom redirects left state = (all, .ok fetched)) :
    ∃ sent prepared response,
      fetch.prepareHop (fetch.environment redirects) state = .ok (sent, prepared) ∧
      (all = [sent] ∧ response.status ≠ switchingProtocols ∧ response.status ∉ redirectStatuses ∧
        fetched = ⟨response, sent.destination.url, prepared.customHeaders,
          fetch.request.responseHeaders, prepared.credentialBearing⟩ ∨
      ∃ remaining next rest, left = remaining + 1 ∧ all = sent :: rest ∧
        followRedirect crate prepared sent.destination.url response = .ok next ∧
        fetch.fetchFrom (redirects + 1) remaining next = (rest, .ok fetched)) := by
  rw [fetchFrom.eq_def] at ok
  cases prepare : fetch.prepareHop (fetch.environment redirects) state with
  | error error =>
    rw [prepare] at ok
    cases ok
  | ok pair =>
  obtain ⟨sent, prepared⟩ := pair
  rw [prepare] at ok
  simp only at ok
  cases await : awaitResponseHeaders (fetch.environment redirects).outcome with
  | error error =>
    rw [await] at ok
    cases ok
  | ok response =>
  rw [await] at ok
  simp only at ok
  refine ⟨sent, prepared, response, rfl, ?_⟩
  split at ok
  next => cases ok
  next notSwitching =>
  split at ok
  next final =>
    cases ok
    exact .inl ⟨rfl, notSwitching, final, rfl⟩
  next =>
  cases left with
  | zero => cases ok
  | succ remaining =>
    cases follow : followRedirect crate prepared sent.destination.url response with
    | error error =>
      rw [follow] at ok
      cases ok
    | ok next =>
      rw [follow] at ok
      simp only [Prod.mk.injEq] at ok
      exact .inr ⟨remaining, next, _, rfl, ok.1.symm, rfl, Prod.ext rfl ok.2⟩

/-- Where an answer is from: the last request, with the custom headers that have come that far. -/
structure AnsweredBy (fetch : Fetch crate) (before all : List (SentRequest crate.Url))
    (fetched : FetchedProxyResponse crate.Url) : Prop where
  final : fetched.response.status ≠ switchingProtocols ∧ fetched.response.status ∉ redirectStatuses
  responseHeaders : fetched.effectiveResponseHeaders = fetch.request.responseHeaders
  last : ∃ earlier last, all = earlier ++ [last] ∧ fetched.finalUrl = last.destination.url ∧
    (fetch.SameOriginSoFar (before ++ earlier) last.destination.url →
      fetched.effectiveCustomRequestHeaders = fetch.request.requestHeaders) ∧
    (¬ fetch.SameOriginSoFar (before ++ earlier) last.destination.url →
      fetched.effectiveCustomRequestHeaders = [])

theorem LoopInvariant.answered (lawful : crate.Lawful) {before all : List (SentRequest crate.Url)}
    {left : Nat} {state : FetchState crate.Url} {fetched : FetchedProxyResponse crate.Url}
    (invariant : fetch.LoopInvariant before state)
    (ok : fetch.fetchFrom before.length left state = (all, .ok fetched)) :
    fetch.AnsweredBy before all fetched := by
  induction left using Nat.strong_induction_on generalizing before state all with
  | _ left ih =>
  obtain ⟨sent, prepared, response, prepare, ⟨rfl, notSwitching, final, rfl⟩ |
    ⟨remaining, next, rest, rfl, rfl, follow, later⟩⟩ := fetchFrom_ok ok
  · obtain ⟨valid, -, -, rfl⟩ := prepareHop_ok prepare
    have origin : crate.OriginEq sent.destination.url state.target := by
      rw [validate_url valid]
      exact lawful.clearFragmentOrigin _
    refine ⟨⟨notSwitching, final⟩, rfl, [], sent, rfl, rfl, ?_, ?_⟩
    · intro same
      rw [List.append_nil, SameOriginSoFar.congr origin] at same
      exact (invariant.kept same).1
    · intro crossed
      rw [List.append_nil, SameOriginSoFar.congr origin] at crossed
      exact (invariant.dropped crossed).1
  · have further := invariant.step lawful prepare follow
    have answer := ih remaining (by omega) further (by rwa [List.length_append, List.length_singleton])
    obtain ⟨earlier, last, rfl, url, kept, dropped⟩ := answer.last
    refine ⟨answer.final, answer.responseHeaders, sent :: earlier, last, rfl, url, ?_, ?_⟩
    · rwa [List.append_assoc, List.singleton_append] at kept
    · rwa [List.append_assoc, List.singleton_append] at dropped

theorem fetchWithRedirects_marked (lawful : crate.Lawful) {all : List (SentRequest crate.Url)}
    {fetched : FetchedProxyResponse crate.Url}
    (ok : fetch.fetchWithRedirects = (all, .ok fetched)) {sent : SentRequest crate.Url}
    (member : sent ∈ all) (carries : fetch.CarriesCredentials sent) :
    fetched.credentialBearing = true := by
  have guarded : fetch.RunGuarded [] maxRedirects fetch.fetchWithRedirects :=
    LoopInvariant.initial.run lawful maxRedirects
  apply guarded.marked fetched
  · exact congrArg Prod.snd ok
  · refine ⟨sent, ?_, carries⟩
    rw [List.nil_append, ok]
    exact member

end Fetch

namespace ProxyCall

variable {crate : UrlCrate} {C P : Type} {http : HttpCrate} {call : ProxyCall crate C P}
  {fetched : FetchedProxyResponse crate.Url} {response : ProxyResponse C P}

inductive Response (call : ProxyCall crate C P) (fetched : FetchedProxyResponse crate.Url)
    (context : C) : ProxyResponse C P → Prop
  | failed (error : ProxyError) : Response call fetched context (proxyErrorResponse error)
  | rewritten {output : PlaylistRewriteOutput C P} (transforms : call.transforms fetched = true)
      (transformed : call.transformed fetched context = some (.ok output)) :
      Response call fetched context (buildProxyResponse fetched.response.status
        fetched.response.headers fetched.effectiveResponseHeaders
        (.buffered output.body output.context output.playlistCapacity) true fetched.credentialBearing)
  | streamed (untouched : call.transforms fetched = false) :
      Response call fetched context (buildProxyResponse fetched.response.status
        fetched.response.headers fetched.effectiveResponseHeaders (.streaming context) false
        fetched.credentialBearing)

theorem respond_response {context : C} (responded : call.respond fetched context = some response) :
    Response call fetched context response := by
  unfold respond at responded
  split at responded
  next transforms =>
    obtain ⟨result, transformed, rfl⟩ := Option.map_eq_some_iff.mp responded
    cases result with
    | error error => exact .failed error
    | ok output => exact .rewritten transforms transformed
  next untouched =>
    cases responded
    exact .streamed (by simpa using untouched)

theorem Admitted.plain {settings : ProxyPolicySettings} {context : C}
    {request : ParsedProxyRequest crate.Url} (admitted : Admitted http call settings context request) :
    (∀ entry ∈ request.responseHeaders, entry.1 = contentType) ∧
      request.responseHeaders.DistinctNames := by
  obtain ⟨rawSuffix, -, parsed⟩ := admitted.parsed
  have accepted := (parseProxySuffix_accepted parsed).2
  refine ⟨?_, accepted.distinct⟩
  intro entry given
  have allowed := accepted.allowed entry given
  simpa [responseHeaderForbidden, contentType] using allowed

theorem Admitted.unique {settings other : ProxyPolicySettings} {context otherContext : C}
    {request otherRequest : ParsedProxyRequest crate.Url}
    (admitted : Admitted http call settings context request)
    (again : Admitted http call other otherContext otherRequest) :
    settings = other ∧ request = otherRequest := by
  have sameAdmission := again.admission
  rw [admitted.admission] at sameAdmission
  obtain ⟨rawSuffix, suffix, parsed⟩ := admitted.parsed
  obtain ⟨otherSuffix, otherStarts, otherParsed⟩ := again.parsed
  rw [suffix] at otherStarts
  cases otherStarts
  rw [parsed] at otherParsed
  cases sameAdmission
  cases otherParsed
  exact ⟨rfl, rfl⟩

/-- The answer is the upstream's last one, as far as its headers are known to the route. -/
structure Forwarded (request : ParsedProxyRequest crate.Url)
    (fetched : FetchedProxyResponse crate.Url) (response : ProxyResponse C P) : Prop where
  status : response.status = fetched.response.status
  final : response.status ≠ switchingProtocols ∧ response.status ∉ redirectStatuses
  custom : ∀ entry ∈ request.responseHeaders, response.headers.getAll entry.1 = [entry.2]
  copied : ∀ name ∈ safeResponseHeaders, name ∉ request.responseHeaders.map Prod.fst →
    (name = cacheControl → fetched.credentialBearing = false) →
      response.headers.getAll name = fetched.response.headers.getAll name

structure AnswerGuarded (http : HttpCrate) (call : ProxyCall crate C P)
    (sent : List (SentRequest crate.Url)) (response : ProxyResponse C P) : Prop where
  contained : Contained response
  messages : ∀ text, response.body = .message text → ∃ error, response = proxyErrorResponse error
  confidential : ∀ settings context request, Admitted http call settings context request →
    (∃ other ∈ sent, (call.fetch settings request).CarriesCredentials other) →
      response.headers.getAll cacheControl = [privateNoStore]
  forwarded : ∀ context, response.body = .streaming context → ∃ settings request fetched,
    Admitted http call settings context request ∧
      (call.fetch settings request).fetchWithRedirects = (sent, .ok fetched) ∧
      Forwarded request fetched response

theorem proxyErrorResponse_guarded {sent : List (SentRequest crate.Url)} (error : ProxyError) :
    AnswerGuarded http call sent (proxyErrorResponse error) where
  contained := proxyErrorResponse_contained error
  messages _ _ := ⟨error, rfl⟩
  confidential _ _ _ _ _ := proxyErrorHeaders_private error
  forwarded _ streams := by cases streams

theorem respond_guarded (lawful : crate.Lawful) {settings : ProxyPolicySettings} {context : C}
    {request : ParsedProxyRequest crate.Url} {sent : List (SentRequest crate.Url)}
    (admitted : Admitted http call settings context request)
    (ok : (call.fetch settings request).fetchWithRedirects = (sent, .ok fetched))
    (responded : Response call fetched context response) : AnswerGuarded http call sent response := by
  have answer := Fetch.LoopInvariant.initial.answered lawful ok
  have effective : fetched.effectiveResponseHeaders = request.responseHeaders := answer.responseHeaders
  obtain ⟨plain, distinct⟩ := admitted.plain
  have marked : ∀ settings context request, Admitted http call settings context request →
      (∃ other ∈ sent, (call.fetch settings request).CarriesCredentials other) →
        fetched.credentialBearing = true := by
    rintro other otherContext otherRequest again ⟨one, member, carries⟩
    obtain ⟨rfl, rfl⟩ := admitted.unique again
    exact Fetch.fetchWithRedirects_marked lawful ok member carries
  cases responded with
  | failed error => exact proxyErrorResponse_guarded error
  | rewritten transforms transformed =>
    rw [effective]
    refine ⟨buildProxyResponse_contained plain, ?_, ?_, ?_⟩
    · intro text message
      cases message
    · intro _ _ _ _ _
      exact buildProxyResponse_private (.inl rfl)
    · intro _ streams
      cases streams
  | streamed untouched =>
    rw [effective]
    refine ⟨buildProxyResponse_contained plain, ?_, ?_, ?_⟩
    · intro text message
      cases message
    · intro other otherContext otherRequest again carries
      exact buildProxyResponse_private (.inr (marked other otherContext otherRequest again carries))
    · intro streamedContext streams
      cases streams
      refine ⟨settings, request, fetched, admitted, ok, rfl, answer.final, ?_, ?_⟩
      · intro entry given
        exact buildProxyResponse_given plain distinct given
      · intro name safe absent unmarked
        exact buildProxyResponse_copied safe absent unmarked

theorem handleProxy_guarded (lawful : crate.Lawful)
    (answered : (call.handleProxy http).response = some response) :
    AnswerGuarded http call (call.handleProxy http).sent response := by
  have handled := handling http call
  revert answered handled
  generalize call.handleProxy http = whole
  intro answered handled
  cases handled with
  | refused error =>
    cases answered
    exact proxyErrorResponse_guarded error
  | failed admitted fetched =>
    cases answered
    exact proxyErrorResponse_guarded _
  | fetched admitted fetched =>
    exact respond_guarded lawful admitted fetched (respond_response answered)

/-- The first host redirects to the second, which wants its answer stored, and a cookie set. -/
def withApiKey : ProxyCall Fetch.twoHosts Nat Nat where
  hopMarker := utf8 "marker"
  rawTarget := utf8 "/proxy/?d=http%3A%2F%2F1.1.1.1%2F&h=x-api-key%3Asecret&r=content-type%3Avideo%2Fmp4"
  headers := [(utf8 "range", utf8 "bytes=0-")]
  method := utf8 "GET"
  admission := some (⟨false, false⟩, 1)
  environment
    | 0 => Fetch.answeredBy ⟨302, [(utf8 "location", Fetch.ExampleUrl.second.text)]⟩
    | _ => Fetch.answeredBy ⟨200, [(cacheControl, utf8 "public"), (utf8 "set-cookie", utf8 "a=b"),
        (utf8 "vary", utf8 "accept"), (utf8 "vary", utf8 "origin")]⟩
  contentLength := none
  playlistAdmission := none
  reserved := true
  arrivals := []
  policyCancelled := false
  rewriting := []

theorem handleProxy_guarded_withApiKey : ∃ response,
    (withApiKey.handleProxy HttpCrate.ascii).response = some response ∧
      AnswerGuarded HttpCrate.ascii withApiKey (withApiKey.handleProxy HttpCrate.ascii).sent response := by
  have streams : (withApiKey.handleProxy HttpCrate.ascii).response.any
      (fun response => response.body == .streaming 1) = true := by
    decide +kernel
  obtain ⟨response, answered, -⟩ := (Option.any_eq_true _ _).mp streams
  exact ⟨response, answered, handleProxy_guarded Fetch.twoHosts_lawful answered⟩

end ProxyCall

section Collecting

structure Collected (arrivals : List Arrival) (body : Bytes) : Prop where
  arrived : ∃ (given : List (Bytes × Bool)) (rest : List Arrival),
    arrivals = given.map (fun chunk => .chunk chunk.1 chunk.2) ++ .finished :: rest ∧
      body = given.flatMap Prod.fst
  fits : body.length ≤ maxPlaylistInput

theorem reservePlaylistInput_ok {length additional : Nat} {reserved : Bool}
    (ok : reservePlaylistInput length additional reserved = .ok ()) :
    length + additional ≤ maxPlaylistInput := by
  unfold reservePlaylistInput at ok
  split at ok
  next => cases ok
  next fits => exact not_lt.mp (not_or.mp fits).1

theorem collectChunks_ok {bytes body : Bytes} {arrivals : List Arrival}
    (within : bytes.length ≤ maxPlaylistInput)
    (collected : collectChunks bytes arrivals = some (.ok body)) :
    ∃ (given : List (Bytes × Bool)) (rest : List Arrival),
      arrivals = given.map (fun chunk => .chunk chunk.1 chunk.2) ++ .finished :: rest ∧
      body = bytes ++ given.flatMap Prod.fst ∧ body.length ≤ maxPlaylistInput := by
  induction arrivals generalizing bytes with
  | nil => cases collected
  | cons arrival rest ih =>
    cases arrival with
    | cancelled | expired | failed => cases collected
    | finished =>
      cases collected
      exact ⟨[], rest, rfl, by simp, within⟩
    | chunk chunk reserved =>
      unfold collectChunks at collected
      split at collected
      next empty =>
        obtain ⟨given, later, rfl, rfl, fits⟩ := ih within collected
        exact ⟨(chunk, reserved) :: given, later, rfl, by simp [empty], fits⟩
      next =>
        cases reserve : reservePlaylistInput bytes.length chunk.length reserved with
        | error error =>
          rw [reserve] at collected
          cases collected
        | ok value =>
          rw [reserve] at collected
          have longer : (bytes ++ chunk).length ≤ maxPlaylistInput := by
            rw [List.length_append]
            exact reservePlaylistInput_ok reserve
          obtain ⟨given, later, rfl, rfl, fits⟩ := ih longer collected
          exact ⟨(chunk, reserved) :: given, later, rfl, by simp, fits⟩

theorem collectPlaylistUntil_ok {contentLength : Option Nat} {reserved : Bool}
    {arrivals : List Arrival} {body : Bytes}
    (collected : collectPlaylistUntil contentLength reserved arrivals = some (.ok body)) :
    Collected arrivals body := by
  have chunks : collectChunks [] arrivals = some (.ok body) := by
    unfold collectPlaylistUntil at collected
    split at collected
    next => cases collected
    next =>
    split at collected
    next length =>
      split at collected
      next => cases collected
      next => exact collected
    next => exact collected
  obtain ⟨given, rest, arrived, whole, fits⟩ := collectChunks_ok (by simp) chunks
  exact ⟨⟨given, rest, arrived, whole⟩, fits⟩

end Collecting

section Rewriting

variable {crate : UrlCrate} {C P : Type} {job : PlaylistRewriteJob crate C P}

def PlaylistRewriteJob.undisturbed (job : PlaylistRewriteJob crate C P) : PlaylistContext crate :=
  ⟨job.baseUrl, job.requestHeaders, job.responseHeaders, fun _ => false⟩

theorem PlaylistRewriteJob.outcome_ok {output : PlaylistRewriteOutput C P}
    (ok : job.outcome = .ok output) :
    IsUtf8 job.input ∧ rewritePlaylist job.undisturbed job.input = .ok output.body ∧
      output.context = job.context ∧ output.playlistCapacity = job.playlistCapacity := by
  unfold PlaylistRewriteJob.outcome PlaylistRewriteJob.run at ok
  rw [if_neg (by simp [Looks.cancelled])] at ok
  split at ok
  next => cases ok
  next valid =>
    obtain ⟨body, rewritten, ok⟩ := bind_ok ok
    cases ok
    exact ⟨not_not.mp valid, rewritten, rfl, rfl⟩

theorem rewritePlaylistOffThread_ok {policyCancelled : Bool} {actions : List OffThreadAction}
    {output : PlaylistRewriteOutput C P}
    (ok : rewritePlaylistOffThread job policyCancelled actions = some (.ok output)) :
    job.outcome = .ok output := by
  obtain ⟨state, ran, answered⟩ := Option.bind_eq_some_iff.mp ok
  split at answered
  next result returned =>
    cases answered
    rcases (OffThread.sound_of_run ran).safe.answered _ returned with own | cancelled
    · exact own.symm
    · cases cancelled.1
  next => cases answered
  next => cases answered

end Rewriting

namespace ProxyCall

variable {crate : UrlCrate} {C P : Type} {http : HttpCrate} {call : ProxyCall crate C P}
  {fetched : FetchedProxyResponse crate.Url} {response : ProxyResponse C P}

theorem transforms_status (transforms : call.transforms fetched = true) :
    fetched.response.status = 200 := by
  unfold ProxyCall.transforms at transforms
  simp only [Bool.and_eq_true, beq_iff_eq] at transforms
  exact transforms.1.2

theorem transformed_ok {context : C} {output : PlaylistRewriteOutput C P}
    (ok : call.transformed fetched context = some (.ok output)) :
    contentEncodingIsIdentityOnly fetched.response.headers = true ∧
      ∃ permit body, call.playlistAdmission = some permit ∧ Collected call.arrivals body ∧
        (job fetched context permit body).outcome = .ok output := by
  unfold transformed at ok
  split at ok
  next => cases ok
  next identity =>
  split at ok
  next => cases ok
  next =>
  cases admission : call.playlistAdmission with
  | none =>
    rw [admission] at ok
    cases ok
  | some permit =>
  rw [admission] at ok
  obtain ⟨result, collected, rewritten⟩ := Option.bind_eq_some_iff.mp ok
  cases result with
  | error error => cases rewritten
  | ok body =>
    exact ⟨by simpa using identity, permit, body, rfl, collectPlaylistUntil_ok collected,
      rewritePlaylistOffThread_ok rewritten⟩

-- A playlist in its rewritten form: made from all that the upstream sent, read as it says, with the
-- references rewritten as seen from the last URL. Custom headers are handed on only if no hop has
-- left the first origin.
structure PlaylistAnswered (call : ProxyCall crate C P) (settings : ProxyPolicySettings)
    (request : ParsedProxyRequest crate.Url) (sent : List (SentRequest crate.Url))
    (response : ProxyResponse C P) (bytes : Bytes) (permit : P)
    (fetched : FetchedProxyResponse crate.Url) (body : Bytes) : Prop where
  transforms : call.transforms fetched = true
  identity : contentEncodingIsIdentityOnly fetched.response.headers = true
  permitted : call.playlistAdmission = some permit
  collected : Collected call.arrivals body
  text : IsUtf8 body
  lines : Forall₂ (LineRewritten ⟨fetched.finalUrl, fetched.effectiveCustomRequestHeaders,
    request.responseHeaders, fun _ => false⟩) (lines body) (lines bytes)
  fits : bytes.length ≤ maxPlaylistOutput
  status : response.status = 200
  undescribed : ∀ name ∈ rewrittenAway, response.headers.getAll name = []
  unranged : response.headers.getAll acceptRanges = [utf8 "none"]
  unstored : response.headers.getAll cacheControl = [privateNoStore]
  source : ∃ earlier last, sent = earlier ++ [last] ∧ fetched.finalUrl = last.destination.url ∧
    ((call.fetch settings request).SameOriginSoFar earlier last.destination.url →
      fetched.effectiveCustomRequestHeaders = request.requestHeaders) ∧
    (¬ (call.fetch settings request).SameOriginSoFar earlier last.destination.url →
      fetched.effectiveCustomRequestHeaders = [])

structure PlaylistsRewritten (http : HttpCrate) (call : ProxyCall crate C P)
    (sent : List (SentRequest crate.Url)) (response : ProxyResponse C P) : Prop where
  rewritten : ∀ bytes context permit, response.body = .buffered bytes context permit →
    ∃ settings request fetched body, Admitted http call settings context request ∧
      (call.fetch settings request).fetchWithRedirects = (sent, .ok fetched) ∧
      PlaylistAnswered call settings request sent response bytes permit fetched body
  -- A playlist that is to be rewritten is never passed on as it is.
  untouched : ∀ context, response.body = .streaming context → ∀ settings other request fetched,
    Admitted http call settings other request →
      (call.fetch settings request).fetchWithRedirects = (sent, .ok fetched) →
        call.transforms fetched = false

theorem respond_playlists (lawful : crate.Lawful) (printable : crate.Printable)
    {settings : ProxyPolicySettings} {context : C} {request : ParsedProxyRequest crate.Url}
    {sent : List (SentRequest crate.Url)} (admitted : Admitted http call settings context request)
    (ok : (call.fetch settings request).fetchWithRedirects = (sent, .ok fetched))
    (responded : Response call fetched context response) :
    PlaylistsRewritten http call sent response := by
  cases responded with
  | failed error =>
    constructor
    · intro _ _ _ same
      cases same
    · intro _ same
      cases same
  | streamed untouched =>
    constructor
    · intro _ _ _ same
      cases same
    · intro _ _ other otherContext otherRequest otherFetched again otherOk
      obtain ⟨rfl, rfl⟩ := admitted.unique again
      rw [ok] at otherOk
      cases otherOk
      exact untouched
  | @rewritten output transforms transformed =>
    have answer := Fetch.LoopInvariant.initial.answered lawful ok
    have effective : fetched.effectiveResponseHeaders = request.responseHeaders :=
      answer.responseHeaders
    obtain ⟨identity, permit, body, permitted, collected, outcome⟩ := transformed_ok transformed
    obtain ⟨text, made, sameContext, samePermit⟩ := PlaylistRewriteJob.outcome_ok outcome
    obtain ⟨written, fits⟩ := rewritePlaylist_sound made
    constructor
    · intro bytes held heldPermit same
      cases same
      rw [sameContext, samePermit]
      refine ⟨settings, request, fetched, body, admitted, ok, ?_⟩
      exact {
        transforms, identity, permitted, collected, text, fits
        lines := by
          rw [← effective]
          exact (lines_rewritten printable written).2
        status := transforms_status transforms
        undescribed := buildProxyResponse_described.1
        unranged := buildProxyResponse_described.2
        unstored := buildProxyResponse_private (.inl rfl)
        source := answer.last }
    · intro _ same
      cases same

theorem proxyErrorResponse_playlists {sent : List (SentRequest crate.Url)} (error : ProxyError) :
    PlaylistsRewritten http call sent (proxyErrorResponse error) where
  rewritten _ _ _ same := by cases same
  untouched _ same := by cases same

theorem handleProxy_playlists (lawful : crate.Lawful) (printable : crate.Printable)
    (answered : (call.handleProxy http).response = some response) :
    PlaylistsRewritten http call (call.handleProxy http).sent response := by
  have handled := handling http call
  revert answered handled
  generalize call.handleProxy http = whole
  intro answered handled
  cases handled with
  | refused error =>
    cases answered
    exact proxyErrorResponse_playlists error
  | failed admitted fetched =>
    cases answered
    exact proxyErrorResponse_playlists _
  | fetched admitted fetched =>
    exact respond_playlists lawful printable admitted fetched (respond_response answered)

def oneHost : UrlCrate :=
  .oneOrigin (utf8 "http://1.1.1.1") (.ipv4 (Ipv4Addr.new 1 1 1 1))

def ofPlaylist : ProxyCall oneHost Nat Nat where
  hopMarker := utf8 "marker"
  rawTarget := utf8 "/proxy/?d=http%3A%2F%2F1.1.1.1%2Fa.m3u8"
  headers := []
  method := utf8 "GET"
  admission := some (⟨false, false⟩, 1)
  environment _ := Fetch.answeredBy ⟨200, [(utf8 "etag", utf8 "1")]⟩
  contentLength := some 15
  playlistAdmission := some 2
  reserved := true
  arrivals := [.chunk (utf8 "#EXTM3U\n") true, .chunk (utf8 "a.m3u8\n") true, .finished]
  policyCancelled := false
  rewriting := [.listen, .claim, .look, .finish ⟨none, false⟩, .store, .notifies, .poll]

theorem handleProxy_playlists_ofPlaylist : ∃ response,
    (ofPlaylist.handleProxy HttpCrate.ascii).response = some response ∧
      PlaylistsRewritten HttpCrate.ascii ofPlaylist (ofPlaylist.handleProxy HttpCrate.ascii).sent
        response := by
  have rewrites : (ofPlaylist.handleProxy HttpCrate.ascii).response.any
      (fun response => response.body == .buffered
        (utf8 "#EXTM3U\n/proxy/?d=http%3A%2F%2F1.1.1.1%2Fa.m3u8\n") 1 2) = true := by
    decide +kernel
  obtain ⟨response, answered, -⟩ := (Option.any_eq_true _ _).mp rewrites
  have lawful : oneHost.Lawful := UrlCrate.oneOrigin_lawful (isUtf8_utf8 _) _
  have printable : oneHost.Printable := UrlCrate.oneOrigin_printable _ _
  exact ⟨response, answered, handleProxy_playlists lawful printable answered⟩

section Loops

/-- A value among others that a relay may have joined with it, with blanks at the commas. -/
structure Joined (value joined : Bytes) : Prop where
  parts : ∃ left right leading trailing, joined = left ++ (leading ++ value ++ trailing) ++ right ∧
    Blank leading ∧ Blank trailing ∧ (left = [] ∨ ∃ others, left = others ++ [44]) ∧
    (right = [] ∨ ∃ others, right = 44 :: others)

/-- The hop header of a request that has been sent comes in with another one. -/
structure ComesBack (sent : SentRequest crate.Url) (call : ProxyCall crate C P) : Prop where
  relayed : ∀ value ∈ sent.headers.getAll proxyHopHeaderName,
    ∃ joined ∈ call.headers.getAll proxyHopHeaderName, Joined value joined

theorem mem_splitOn_between {separator : UInt8} {left right text : Bytes}
    (before : left = [] ∨ ∃ others, left = others ++ [separator])
    (after : right = [] ∨ ∃ others, right = separator :: others) (absent : separator ∉ text) :
    text ∈ (left ++ text ++ right).splitOn separator := by
  have last : text ∈ (text ++ right).splitOn separator := by
    rcases after with rfl | ⟨others, rfl⟩
    · rw [List.append_nil, List.splitOn_eq_singleton absent]
      exact List.mem_singleton_self text
    · rw [List.splitOn_append_cons_self_of_not_mem absent]
      exact List.mem_cons_self
  rcases before with rfl | ⟨others, rfl⟩
  · exact last
  · rw [List.append_assoc, List.append_assoc, List.singleton_append, List.splitOn_append_cons_self]
    exact List.mem_append_right _ last

/-- A marker is a UUID in its usual form. -/
structure MarkerText (marker : Bytes) : Prop where
  nonempty : marker ≠ []
  plain : ∀ byte ∈ marker, isCustomNameByte byte = true

theorem customNameByte_plain {byte : UInt8} (plain : isCustomNameByte byte = true) :
    byte ≠ 44 ∧ isOws byte = false := by
  revert byte
  apply forall_byte
  decide +kernel

theorem notMem_comma {text : Bytes} (blank : Blank text) : 44 ∉ text := by
  intro member
  cases blank 44 member

theorem Joined.matched {marker joined : Bytes} (text : MarkerText marker)
    (found : Joined marker joined) :
    ((joined.splitOn 44).any fun part => trimAsciiOws part == marker) = true := by
  obtain ⟨left, right, leading, trailing, rfl, before, after, opens, closes⟩ := found.parts
  have absent : 44 ∉ leading ++ marker ++ trailing := by
    simp only [List.mem_append, not_or]
    refine ⟨⟨notMem_comma before, ?_⟩, notMem_comma after⟩
    intro member
    exact (customNameByte_plain (text.plain 44 member)).1 rfl
  have tight : Trimming.Tight isOws marker :=
    ⟨fun byte first => (customNameByte_plain (text.plain byte (List.mem_of_mem_head? first))).2,
      fun byte last => (customNameByte_plain (text.plain byte (List.mem_of_mem_getLast? last))).2⟩
  rw [List.any_eq_true]
  refine ⟨leading ++ marker ++ trailing, mem_splitOn_between opens closes absent, ?_⟩
  rw [trimAsciiOws, Trimming.trim_surrounded tight text.nonempty before after]
  exact beq_self_eq_true marker

theorem handled_sent (http : HttpCrate) (call : ProxyCall crate C P) :
    (call.handleProxy http).sent = [] ∨ ∃ settings request,
      (call.handleProxy http).sent = (call.fetch settings request).fetchWithRedirects.1 := by
  have handled := handling http call
  revert handled
  generalize call.handleProxy http = whole
  intro handled
  cases handled with
  | refused error => exact .inl rfl
  | @failed settings context request all error admitted fetched =>
    right
    exact ⟨settings, request, (congrArg Prod.fst fetched).symm⟩
  | @fetched settings context request all response admitted fetched =>
    right
    exact ⟨settings, request, (congrArg Prod.fst fetched).symm⟩

theorem fetched_marked (lawful : crate.Lawful) {fetch : Fetch crate} {sent : SentRequest crate.Url}
    (member : sent ∈ fetch.fetchWithRedirects.1) :
    fetch.hopMarker ∈ sent.headers.getAll proxyHopHeaderName := by
  have guarded : fetch.RunGuarded [] maxRedirects fetch.fetchWithRedirects :=
    Fetch.LoopInvariant.initial.run lawful maxRedirects
  obtain ⟨earlier, later, split⟩ := List.append_of_mem member
  have hop := guarded.hops earlier sent later split
  rw [HeaderMap.mem_getAll]
  by_cases same : fetch.SameOriginSoFar ([] ++ earlier) sent.destination.url
  · rw [hop.headers same]
    exact HeaderMap.mem_insert_self _ _ _
  · rw [hop.strippedHeaders same]
    exact HeaderMap.mem_insert_self _ _ _

theorem handled_of_marked (http : HttpCrate) (marked : call.matchesInboundHopMarker = true) :
    call.handleProxy http = refuse .blocked ∨ call.handleProxy http = refuse .invalidRequest := by
  unfold handleProxy
  cases call.suffix with
  | none => exact .inr rfl
  | some rawSuffix =>
    simp only [handleProxySuffix]
    split
    next => exact .inr rfl
    next => exact .inl rfl

theorem sent_limited (lawful : crate.Lawful) (call : ProxyCall crate C P) :
    (call.handleProxy http).sent.length ≤ maxRedirects + 1 := by
  rcases handled_sent http call with none | ⟨settings, request, fetched⟩
  · rw [none]
    exact Nat.zero_le _
  · rw [fetched]
    exact (Fetch.LoopInvariant.initial.run lawful maxRedirects).limited

theorem handleProxy_cutsLoops (lawful : crate.Lawful) :
    (∀ call : ProxyCall crate C P, (call.handleProxy http).sent.length ≤ maxRedirects + 1) ∧
      ∀ first second : ProxyCall crate C P, MarkerText first.hopMarker →
        second.hopMarker = first.hopMarker → ∀ sent ∈ (first.handleProxy http).sent,
          ComesBack sent second → second.handleProxy http = refuse .blocked ∨
            second.handleProxy http = refuse .invalidRequest := by
  refine ⟨sent_limited lawful, ?_⟩
  intro first second text same sent member back
  rcases handled_sent http first with none | ⟨settings, request, fetched⟩
  · rw [none] at member
    cases member
  rw [fetched] at member
  refine handled_of_marked http ?_
  obtain ⟨joined, given, found⟩ := back.relayed _ (fetched_marked lawful member)
  unfold matchesInboundHopMarker
  rw [List.any_eq_true]
  refine ⟨joined, given, ?_⟩
  rw [same]
  exact found.matched text

/-- The marker comes back between the values of two other proxies. -/
def backAgain : ProxyCall oneHost Nat Nat :=
  { ofPlaylist with headers := [(proxyHopHeaderName, utf8 "one, marker ,two")] }

theorem handleProxy_cutsLoops_backAgain :
    (ofPlaylist.handleProxy HttpCrate.ascii).sent.length ≤ maxRedirects + 1 ∧
      (backAgain.handleProxy HttpCrate.ascii = refuse .blocked ∨
        backAgain.handleProxy HttpCrate.ascii = refuse .invalidRequest) := by
  have lawful : oneHost.Lawful := UrlCrate.oneOrigin_lawful (isUtf8_utf8 _) _
  have text : MarkerText ofPlaylist.hopMarker := ⟨by decide +kernel, by decide +kernel⟩
  have sends : (ofPlaylist.handleProxy HttpCrate.ascii).sent.map
      (fun sent => sent.headers.getAll proxyHopHeaderName) = [[utf8 "marker"]] := by
    decide +kernel
  obtain ⟨sent, whole, values⟩ := List.map_eq_singleton_iff.mp sends
  have member : sent ∈ (ofPlaylist.handleProxy HttpCrate.ascii).sent := by
    rw [whole]
    exact List.mem_singleton_self sent
  have back : ComesBack sent backAgain := by
    constructor
    intro value marker
    rw [values, List.mem_singleton] at marker
    subst marker
    have space : Blank (utf8 " ") := by
      unfold Blank
      decide +kernel
    refine ⟨utf8 "one, marker ,two", by decide, utf8 "one,", utf8 ",two", utf8 " ", utf8 " ", by decide,
      space, space, .inr ⟨utf8 "one", by decide⟩, .inr ⟨utf8 "two", by decide⟩⟩
  have same : backAgain.hopMarker = ofPlaylist.hopMarker := rfl
  obtain ⟨limited, cuts⟩ := @handleProxy_cutsLoops oneHost Nat Nat HttpCrate.ascii lawful
  exact ⟨limited ofPlaylist, cuts ofPlaylist backAgain text same sent member back⟩

end Loops

end ProxyCall

end StreamServer.Proxy
