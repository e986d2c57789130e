import StreamServer.Proxy.Request

set_option autoImplicit false

namespace StreamServer.Proxy

open ByteText

section Responses

inductive ResponseBody (C P : Type) where
  | message (text : Bytes)
  | buffered (bytes : Bytes) (context : C) (playlistCapacity : P)
  | streaming (context : C)
deriving DecidableEq

structure ProxyResponse (C P : Type) where
  status : Nat
  headers : HeaderMap
  body : ResponseBody C P
deriving DecidableEq

def contentType : Bytes := utf8 "content-type"
def cacheControl : Bytes := utf8 "cache-control"
def contentEncoding : Bytes := utf8 "content-encoding"
def acceptRanges : Bytes := utf8 "accept-ranges"
def retryAfter : Bytes := utf8 "retry-after"

def privateNoStore : Bytes := utf8 "private, no-store"

def safeResponseHeaders : List Bytes :=
  [acceptRanges, contentType, utf8 "content-length", utf8 "content-range", utf8 "last-modified",
    utf8 "etag", utf8 "server", utf8 "date", contentEncoding, cacheControl, utf8 "expires",
    utf8 "pragma", utf8 "vary"]

/-- What describes the bytes that a rewritten playlist no longer has. -/
def rewrittenAway : List Bytes :=
  [utf8 "content-length", utf8 "content-range", contentEncoding, utf8 "etag", utf8 "last-modified"]

def corsHeaders : HeaderMap :=
  [(utf8 "access-control-allow-origin", utf8 "*"),
    (utf8 "access-control-allow-methods", utf8 "GET, POST, OPTIONS"),
    (utf8 "access-control-allow-headers", utf8 "*")]

def routeOwnedHeaders : HeaderMap :=
  [(utf8 "content-security-policy",
      utf8 ("default-src 'none'; base-uri 'none'; form-action 'none'; " ++
        "frame-ancestors 'none'; sandbox")),
    (utf8 "x-content-type-options", utf8 "nosniff"),
    (utf8 "referrer-policy", utf8 "no-referrer"),
    (utf8 "x-frame-options", utf8 "DENY")]

def applyRouteOwnedHeaders (headers : HeaderMap) : HeaderMap := headers.putAll routeOwnedHeaders

def copiedHeaders (upstream : HeaderMap) : HeaderMap :=
  safeResponseHeaders.flatMap fun name => (upstream.getAll name).map fun value => (name, value)

def describeRewritten (headers : HeaderMap) : HeaderMap :=
  ((rewrittenAway.foldl HeaderMap.remove headers).put acceptRanges (utf8 "none")).put
    cacheControl privateNoStore

variable {C P : Type}

def buildProxyResponse (status : Nat) (upstream custom : HeaderMap) (body : ResponseBody C P)
    (rewritten credentialBearing : Bool) : ProxyResponse C P :=
  let headers := (copiedHeaders upstream).putAll custom
  let headers :=
    if rewritten then describeRewritten headers
    else if credentialBearing then headers.put cacheControl privateNoStore
    else headers
  ⟨status, applyRouteOwnedHeaders (headers.putAll corsHeaders), body⟩

def ProxyError.answer : ProxyError → Nat × Bytes
  | .invalidRequest => (400, utf8 "Invalid proxy request")
  | .blocked => (403, utf8 "Proxy destination is blocked")
  | .capacity => (503, utf8 "Proxy capacity is exhausted")
  | .upstream | .cancelled => (502, utf8 "Proxy upstream request failed")

def proxyErrorHeaders (error : ProxyError) : HeaderMap :=
  let headers := [(contentType, utf8 "text/plain; charset=utf-8")]
  let headers := if error = .capacity then HeaderMap.put headers retryAfter (utf8 "1") else headers
  applyRouteOwnedHeaders (headers.put cacheControl privateNoStore)

def proxyErrorResponse (error : ProxyError) : ProxyResponse C P :=
  let (status, message) := error.answer
  ⟨status, proxyErrorHeaders error, .message message⟩

end Responses

section Headers

variable {upstream custom headers : HeaderMap} {name value : Bytes} {entry : Bytes × Bytes}

theorem getAll_copies (upstream : HeaderMap) {names : List Bytes} (distinct : names.Nodup)
    (listed : name ∈ names) :
    HeaderMap.getAll (names.flatMap fun name => (upstream.getAll name).map fun value => (name, value))
      name = upstream.getAll name := by
  induction names with
  | nil => cases listed
  | cons first rest ih =>
    obtain ⟨fresh, others⟩ := List.nodup_cons.mp distinct
    rw [List.flatMap_cons, HeaderMap.getAll_append]
    rcases List.mem_cons.mp listed with rfl | later
    · have none : HeaderMap.getAll (rest.flatMap fun name =>
          (upstream.getAll name).map fun value => (name, value)) name = [] := by
        apply HeaderMap.getAll_of_notMem
        intro member
        obtain ⟨entry, copied, same⟩ := List.mem_map.mp member
        obtain ⟨other, otherListed, made⟩ := List.mem_flatMap.mp copied
        obtain ⟨value, -, rfl⟩ := List.mem_map.mp made
        exact fresh (same ▸ otherListed)
      rw [none, List.append_nil]
      simp [HeaderMap.getAll, List.filter_map, Function.comp_def]
    · have different : first ≠ name := by
        rintro rfl
        exact fresh later
      rw [ih others later]
      simp [HeaderMap.getAll, List.filter_map, Function.comp_def, different]

theorem getAll_copiedHeaders (safe : name ∈ safeResponseHeaders) (upstream : HeaderMap) :
    (copiedHeaders upstream).getAll name = upstream.getAll name :=
  getAll_copies upstream (by decide +kernel) safe

theorem name_of_mem_copiedHeaders (member : entry ∈ copiedHeaders upstream) :
    entry.1 ∈ safeResponseHeaders := by
  obtain ⟨name, safe, made⟩ := List.mem_flatMap.mp member
  obtain ⟨value, -, rfl⟩ := List.mem_map.mp made
  exact safe

theorem getAll_routeOwned (owned : entry ∈ routeOwnedHeaders) (headers : HeaderMap) :
    (applyRouteOwnedHeaders headers).getAll entry.1 = [entry.2] :=
  HeaderMap.getAll_putAll (by decide +kernel) owned headers

theorem getAll_finished (unset : name ∉ (corsHeaders ++ routeOwnedHeaders).map Prod.fst)
    (headers : HeaderMap) :
    (applyRouteOwnedHeaders (headers.putAll corsHeaders)).getAll name = headers.getAll name := by
  rw [List.map_append, List.mem_append, not_or] at unset
  rw [applyRouteOwnedHeaders, HeaderMap.getAll_putAll_of_notMem unset.2,
    HeaderMap.getAll_putAll_of_notMem unset.1]

theorem safe_unset (safe : name ∈ safeResponseHeaders) :
    name ∉ (corsHeaders ++ routeOwnedHeaders).map Prod.fst := by
  revert name
  decide +kernel

def allowedNames : List Bytes :=
  safeResponseHeaders ++ (corsHeaders ++ routeOwnedHeaders).map Prod.fst ++ [retryAfter]

theorem safe_allowed (safe : name ∈ safeResponseHeaders) : name ∈ allowedNames := by
  unfold allowedNames
  rw [List.append_assoc]
  exact List.mem_append_left _ safe

theorem set_allowed (member : entry ∈ corsHeaders ++ routeOwnedHeaders) : entry.1 ∈ allowedNames := by
  unfold allowedNames
  exact List.mem_append_left _ (List.mem_append_right _ (List.mem_map_of_mem member))

theorem foldl_remove (names : List Bytes) (headers : HeaderMap) :
    names.foldl HeaderMap.remove headers = headers.filter fun entry => entry.1 ∉ names := by
  induction names generalizing headers with
  | nil => simp
  | cons name rest ih =>
    rw [List.foldl_cons, ih, HeaderMap.remove, List.filter_filter]
    apply List.filter_congr
    intro entry _
    simp only [List.mem_cons, not_or, Bool.decide_and, Bool.and_comm, ne_eq]

theorem mem_describeRewritten (member : entry ∈ describeRewritten headers) :
    entry ∈ headers ∨ entry.1 ∈ safeResponseHeaders := by
  rcases HeaderMap.mem_put member with member | rfl
  · rcases HeaderMap.mem_put member with member | rfl
    · left
      rw [foldl_remove] at member
      exact List.mem_of_mem_filter member
    · right
      decide
  · right
    decide

theorem getAll_describeRewritten (removed : name ∈ rewrittenAway) (headers : HeaderMap) :
    (describeRewritten headers).getAll name = [] := by
  have plain : name ≠ cacheControl ∧ name ≠ acceptRanges := by
    revert name
    decide +kernel
  rw [describeRewritten, HeaderMap.getAll_put_of_ne plain.1, HeaderMap.getAll_put_of_ne plain.2,
    foldl_remove]
  apply HeaderMap.getAll_of_notMem
  intro member
  obtain ⟨entry, kept, rfl⟩ := List.mem_map.mp member
  exact of_decide_eq_true (List.mem_filter.mp kept).2 removed

end Headers

section Answers

variable {C P : Type} {status : Nat} {upstream custom : HeaderMap} {body : ResponseBody C P}
  {rewritten credentialBearing : Bool}

structure Contained (response : ProxyResponse C P) : Prop where
  routeOwned : ∀ entry ∈ routeOwnedHeaders, response.headers.getAll entry.1 = [entry.2]
  allowed : ∀ entry ∈ response.headers, entry.1 ∈ allowedNames

theorem buildProxyResponse_contained (plain : ∀ entry ∈ custom, entry.1 = contentType) :
    Contained (buildProxyResponse status upstream custom body rewritten credentialBearing) where
  routeOwned entry owned := getAll_routeOwned owned _
  allowed entry member := by
    rcases HeaderMap.mem_putAll member with member | owned
    · rcases HeaderMap.mem_putAll member with member | cors
      · apply safe_allowed
        have own : ∀ entry ∈ (copiedHeaders upstream).putAll custom, entry.1 ∈ safeResponseHeaders := by
          intro entry member
          rcases HeaderMap.mem_putAll member with copied | given
          · exact name_of_mem_copiedHeaders copied
          · rw [plain entry given]
            decide
        split at member
        next =>
          rcases mem_describeRewritten member with kept | safe
          · exact own entry kept
          · exact safe
        next =>
          split at member
          next =>
            rcases HeaderMap.mem_put member with kept | rfl
            · exact own entry kept
            · decide
          next => exact own entry member
      · exact set_allowed (List.mem_append_left _ cors)
    · exact set_allowed (List.mem_append_right _ owned)

theorem proxyErrorResponse_contained (error : ProxyError) :
    Contained (proxyErrorResponse error : ProxyResponse C P) where
  routeOwned := by
    have owned : ∀ entry ∈ routeOwnedHeaders, (proxyErrorHeaders error).getAll entry.1 = [entry.2] := by
      cases error <;> decide +kernel
    exact owned
  allowed := by
    have allowed : ∀ entry ∈ proxyErrorHeaders error, entry.1 ∈ allowedNames := by
      cases error <;> decide +kernel
    exact allowed

theorem proxyErrorHeaders_private (error : ProxyError) :
    (proxyErrorHeaders error).getAll cacheControl = [privateNoStore] := by
  cases error <;> decide +kernel

theorem buildProxyResponse_private (marked : rewritten = true ∨ credentialBearing = true) :
    (buildProxyResponse status upstream custom body rewritten credentialBearing).headers.getAll
      cacheControl = [privateNoStore] := by
  unfold buildProxyResponse
  rw [getAll_finished (by decide +kernel)]
  split
  next => exact HeaderMap.getAll_put _ _ _
  next plain =>
    rw [if_pos (marked.resolve_left plain)]
    exact HeaderMap.getAll_put _ _ _

theorem buildProxyResponse_given (plain : ∀ entry ∈ custom, entry.1 = contentType)
    (distinct : custom.DistinctNames) {entry : Bytes × Bytes} (given : entry ∈ custom) :
    (buildProxyResponse status upstream custom body false credentialBearing).headers.getAll entry.1 =
      [entry.2] := by
  have named := plain entry given
  have kept := HeaderMap.getAll_putAll distinct given (copiedHeaders upstream)
  unfold buildProxyResponse
  rw [getAll_finished (by rw [named]; decide +kernel), if_neg Bool.false_ne_true]
  split
  next => rwa [HeaderMap.getAll_put_of_ne (by rw [named]; decide)]
  next => exact kept

theorem buildProxyResponse_copied {name : Bytes} (safe : name ∈ safeResponseHeaders)
    (absent : name ∉ custom.map Prod.fst)
    (unmarked : name = cacheControl → credentialBearing = false) :
    (buildProxyResponse status upstream custom body false credentialBearing).headers.getAll name =
      upstream.getAll name := by
  have copied : ((copiedHeaders upstream).putAll custom).getAll name = upstream.getAll name := by
    rw [HeaderMap.getAll_putAll_of_notMem absent, getAll_copiedHeaders safe]
  unfold buildProxyResponse
  rw [getAll_finished (safe_unset safe), if_neg Bool.false_ne_true]
  split
  next marked =>
    have other : name ≠ cacheControl := by
      intro same
      rw [unmarked same] at marked
      cases marked
    rwa [HeaderMap.getAll_put_of_ne other]
  next => exact copied

theorem buildProxyResponse_described :
    (∀ name ∈ rewrittenAway,
      (buildProxyResponse status upstream custom body true credentialBearing).headers.getAll name = []) ∧
      (buildProxyResponse status upstream custom body true credentialBearing).headers.getAll
        acceptRanges = [utf8 "none"] := by
  unfold buildProxyResponse
  simp only [if_true]
  constructor
  · intro name removed
    have unset : name ∉ (corsHeaders ++ routeOwnedHeaders).map Prod.fst := by
      revert name
      decide +kernel
    rw [getAll_finished unset, getAll_describeRewritten removed]
  · rw [getAll_finished (by decide +kernel), describeRewritten,
      HeaderMap.getAll_put_of_ne (by decide), HeaderMap.getAll_put]

end Answers

end StreamServer.Proxy
