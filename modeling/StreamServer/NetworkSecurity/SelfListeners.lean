import StreamServer.NetworkSecurity.Classification

set_option autoImplicit false

namespace StreamServer.NetworkSecurity

open SortDedup

section Forms

def ReadsAs (nat64 : List Nat64Prefix) : IpAddr → Ipv4Addr → Prop
  | .v4 ip, embedded => embedded = ip
  | .v6 ip, embedded => Embeds nat64 ip embedded

inductive Form (nat64 : List Nat64Prefix) (ip : IpAddr) : IpAddr → Prop where
  | native : Form nat64 ip ip
  | embedded {embedded : Ipv4Addr} (read : ReadsAs nat64 ip embedded) : Form nat64 ip (.v4 embedded)

-- A link-local address is one address for each scope; a listener without a scope has all of them.
def ScopeCovers : SocketAddr → SocketAddr → Prop
  | .v6 listener _ _ listenerScope, .v6 _ _ _ targetScope =>
      Ipv6Addr.isUnicastLinkLocal listener = true → listenerScope = 0 ∨ listenerScope = targetScope
  | _, _ => True

def NamesListener (nat64 : List Nat64Prefix) (listener target : SocketAddr) : Prop :=
  listener.ip = target.ip ∧ ScopeCovers listener target ∨
    ∃ embedded, ReadsAs nat64 listener.ip embedded ∧ ReadsAs nat64 target.ip embedded

def MappedWildcard : IpAddr → Prop
  | .v4 _ => False
  | .v6 ip => ip.toIpv4Mapped = some 0

-- `0.0.0.0` accepts connections to IPv4 addresses, also when it is written as an IPv6 address; `::`
-- accepts all.
def WildcardCovers : IpAddr → IpAddr → Prop
  | .v4 wildcard, .v4 _ => wildcard = 0
  | .v4 _, .v6 _ => False
  | .v6 wildcard, .v4 _ => wildcard = 0 ∨ MappedWildcard (.v6 wildcard)
  | .v6 wildcard, .v6 _ => wildcard = 0

def IsOwnAddress (networks : LocalNetworks) (ip : IpAddr) : Prop :=
  ip.isLoopback = true ∨ networks.containsAddress ip = true

structure Reaches (networks : LocalNetworks) (nat64 : List Nat64Prefix)
    (target listener : SocketAddr) : Prop where
  samePort : listener.port = target.port
  found : NamesListener nat64 listener target ∨
    ∃ form, Form nat64 target.ip form ∧ WildcardCovers listener.ip form ∧ IsOwnAddress networks form

end Forms

section Candidates

variable {nat64 : List Nat64Prefix} {socket target listener candidate : SocketAddr}

@[simp] theorem normalizeSocket_ip (socket : SocketAddr) : (normalizeSocket socket).ip = socket.ip := by
  cases socket <;> rfl

theorem mem_socketCandidates : candidate ∈ listenerSocketCandidates socket nat64 ↔
    candidate = normalizeSocket socket ∨
      ∃ ip embedded, socket.ip = .v6 ip ∧ Embeds nat64 ip embedded ∧
        candidate = .v4 embedded socket.port := by
  cases socket with
  | v4 ip port => simp [listenerSocketCandidates, normalizeSocket, SocketAddr.ip]
  | v6 ip port flowinfo scopeId =>
    simp only [listenerSocketCandidates, normalizeSocket, mem_sortDedup, List.mem_cons, List.mem_map,
      mem_candidates_iff, SocketAddr.ip, SocketAddr.port, IpAddr.v6.injEq]
    refine or_congr_right ⟨?_, ?_⟩
    · rintro ⟨embedded, read, rfl⟩
      exact ⟨ip, embedded, rfl, read, rfl⟩
    · rintro ⟨_, embedded, rfl, read, rfl⟩
      exact ⟨embedded, read, rfl⟩

theorem form_iff_candidate {form : IpAddr} : Form nat64 socket.ip form ↔
    ∃ candidate ∈ listenerSocketCandidates socket nat64, candidate.ip = form := by
  simp only [mem_socketCandidates]
  constructor
  · rintro (_ | ⟨read⟩)
    · exact ⟨_, .inl rfl, normalizeSocket_ip socket⟩
    · cases socket with
      | v4 ip port =>
        obtain rfl : _ = ip := read
        exact ⟨_, .inl rfl, rfl⟩
      | v6 ip port flowinfo scopeId => exact ⟨_, .inr ⟨ip, _, rfl, read, rfl⟩, rfl⟩
  · rintro ⟨_, rfl | ⟨ip, embedded, shape, read, rfl⟩, rfl⟩
    · rw [normalizeSocket_ip]
      exact .native
    · rw [shape]
      exact .embedded read

theorem v4_mem_candidates {embedded : Ipv4Addr} :
    .v4 embedded socket.port ∈ listenerSocketCandidates socket nat64 ↔
      ReadsAs nat64 socket.ip embedded := by
  rw [mem_socketCandidates]
  cases socket with
  | v4 ip port => simp [normalizeSocket, SocketAddr.ip, SocketAddr.port, ReadsAs]
  | v6 ip port flowinfo scopeId => simp [normalizeSocket, SocketAddr.ip, SocketAddr.port, ReadsAs]

theorem endpointMatches_normalized (samePort : listener.port = target.port) :
    listenerEndpointMatches (normalizeSocket listener) (normalizeSocket target) = true ↔
      listener.ip = target.ip ∧ ScopeCovers listener target := by
  cases listener with
  | v4 listener port =>
    cases target with
    | v4 target targetPort =>
      obtain rfl : port = targetPort := samePort
      simp [listenerEndpointMatches, normalizeSocket, SocketAddr.port, SocketAddr.ip, ScopeCovers]
    | v6 target targetPort flowinfo scopeId =>
      simp [listenerEndpointMatches, normalizeSocket, SocketAddr.ip]
  | v6 listener port flowinfo scopeId =>
    cases target with
    | v4 target targetPort => simp [listenerEndpointMatches, normalizeSocket, SocketAddr.ip]
    | v6 target targetPort targetFlowinfo targetScope =>
      obtain rfl : port = targetPort := samePort
      by_cases same : listener = target
      · subst same
        by_cases linkLocal : Ipv6Addr.isUnicastLinkLocal listener = true
        · simp [listenerEndpointMatches, normalizeSocket, SocketAddr.port, SocketAddr.ip, ScopeCovers,
            linkLocal]
        · simp [listenerEndpointMatches, normalizeSocket, SocketAddr.port, SocketAddr.ip, ScopeCovers,
            linkLocal]
      · simp [listenerEndpointMatches, normalizeSocket, SocketAddr.port, SocketAddr.ip, same]

theorem namesListener_iff (samePort : listener.port = target.port) :
    (∃ own ∈ listenerSocketCandidates listener nat64,
      ∃ candidate ∈ listenerSocketCandidates target nat64,
        listenerEndpointMatches own candidate = true) ↔ NamesListener nat64 listener target := by
  constructor
  · rintro ⟨own, ownMember, candidate, member, matching⟩
    cases own with
    | v4 embedded port =>
      rw [listenerEndpointMatches_v4] at matching
      subst matching
      have ports : port = listener.port := by
        rcases mem_socketCandidates.mp ownMember with same | ⟨_, _, _, _, same⟩
        · rw [← normalizeSocket_port listener, ← same, SocketAddr.port]
        · exact congrArg SocketAddr.port same
      subst ports
      refine .inr ⟨embedded, v4_mem_candidates.mp ownMember, v4_mem_candidates.mp ?_⟩
      rwa [← samePort]
    | v6 ip port flowinfo scopeId =>
      -- Only the native forms are IPv6 addresses.
      have native : SocketAddr.v6 ip port flowinfo scopeId = normalizeSocket listener := by
        rcases mem_socketCandidates.mp ownMember with same | ⟨_, _, _, _, same⟩
        · exact same
        · cases same
      cases candidate with
      | v4 embedded port => simp [listenerEndpointMatches] at matching
      | v6 targetIp targetPort targetFlowinfo targetScope =>
        have targetNative : SocketAddr.v6 targetIp targetPort targetFlowinfo targetScope =
            normalizeSocket target := by
          rcases mem_socketCandidates.mp member with same | ⟨_, _, _, _, same⟩
          · exact same
          · cases same
        rw [native, targetNative, endpointMatches_normalized samePort] at matching
        exact .inl matching
  · rintro (native | ⟨embedded, read, targetRead⟩)
    · exact ⟨_, mem_socketCandidates.mpr (.inl rfl), _, mem_socketCandidates.mpr (.inl rfl),
        (endpointMatches_normalized samePort).mpr native⟩
    · refine ⟨_, v4_mem_candidates.mpr read, _, v4_mem_candidates.mpr targetRead, ?_⟩
      rw [listenerEndpointMatches_v4, samePort]

end Candidates

section Blocked

variable {networks : LocalNetworks} {nat64 : List Nat64Prefix}

theorem combineClasses_blocked {left right : DestinationClass} :
    combineClasses left right = .alwaysBlocked ↔ left = .alwaysBlocked ∨ right = .alwaysBlocked := by
  cases left <;> cases right <;> simp [combineClasses]

theorem foldl_combineClasses_blocked {classes : List DestinationClass} {start : DestinationClass} :
    classes.foldl combineClasses start = .alwaysBlocked ↔
      start = .alwaysBlocked ∨ .alwaysBlocked ∈ classes := by
  induction classes generalizing start with
  | nil => simp
  | cons first rest ih =>
    rw [List.foldl_cons, ih, combineClasses_blocked, List.mem_cons, or_assoc,
      eq_comm (a := DestinationClass.alwaysBlocked) (b := first)]

theorem classifyIp_of_reads {ip : IpAddr} {embedded : Ipv4Addr} (read : ReadsAs nat64 ip embedded)
    (blocked : classifyV4 embedded networks = .alwaysBlocked) :
    classifyIp ip networks nat64 = .alwaysBlocked := by
  cases ip with
  | v4 ip =>
    obtain rfl : embedded = ip := read
    exact blocked
  | v6 ip =>
    have member := mem_candidates_iff.mpr read
    unfold classifyIp
    simp only
    unfold classifyV6
    split
    next mapped readMapped => rwa [embeds_of_mapped readMapped read]
    next =>
    split
    next => rfl
    split
    next => rfl
    have folded : ((embeddedIpv4Candidates ip nat64).map (classifyV4 · networks)).foldl
        combineClasses .publicSource = .alwaysBlocked :=
      foldl_combineClasses_blocked.mpr (.inr (List.mem_map.mpr ⟨embedded, member, blocked⟩))
    simp only [List.ne_nil_of_mem member, ne_eq, not_false_eq_true, if_true, folded]
    split
    next => rfl
    next => rfl

theorem classifyV4_unspecified : classifyV4 0 networks = .alwaysBlocked :=
  if_pos (by decide)

theorem classifyV6_unspecified : classifyV6 0 networks nat64 = .alwaysBlocked := by
  have mapped : Ipv6Addr.toIpv4Mapped 0 = none := by decide
  have blocked : contains alwaysBlockedV6Nets (.v6 0) = true := by decide
  unfold classifyV6
  simp only [mapped, blocked, Bool.or_true, if_true, ite_self]

theorem classifyIp_of_unspecified {ip : IpAddr} (unspecified : ip.isUnspecified = true) :
    classifyIp ip networks nat64 = .alwaysBlocked := by
  cases ip with
  | v4 ip =>
    obtain rfl : ip = 0 := by simpa [IpAddr.isUnspecified] using unspecified
    exact classifyV4_unspecified
  | v6 ip =>
    obtain rfl : ip = 0 := by simpa [IpAddr.isUnspecified] using unspecified
    change classifyV6 0 networks nat64 = _
    exact classifyV6_unspecified

theorem not_embeds_unspecified {embedded : Ipv4Addr} : ¬ Embeds nat64 0 embedded := by
  have outside : ¬ Embeddable 0 := by
    intro inside
    have leading := inside.leading
    simp at leading
  rw [← mem_candidates_iff, embeddedIpv4Candidates_of_not_embeddable outside, mem_candidates_iff]
  rintro (read | read | ⟨_, impossible, -, -⟩)
  · rw [show Ipv6Addr.toIpv4Mapped 0 = none by decide] at read
    cases read
  · rw [show extractRfc6052 0 wellKnownNat64 = none by decide] at read
    cases read
  · cases impossible

theorem reads_of_wildcard {ip : IpAddr} {embedded : Ipv4Addr}
    (wildcard : ip.isUnspecified = true ∨ MappedWildcard ip) (read : ReadsAs nat64 ip embedded) :
    embedded = 0 := by
  cases ip with
  | v4 ip =>
    rcases wildcard with unspecified | mapped
    · obtain rfl : ip = 0 := by simpa [IpAddr.isUnspecified] using unspecified
      exact read
    · cases mapped
  | v6 ip =>
    rcases wildcard with unspecified | mapped
    · obtain rfl : ip = 0 := by simpa [IpAddr.isUnspecified] using unspecified
      exact absurd read not_embeds_unspecified
    · exact (embeds_of_mapped mapped read).symm

theorem reads_of_mapped {ip : IpAddr} (mapped : MappedWildcard ip) : ReadsAs nat64 ip 0 := by
  cases ip with
  | v4 ip => cases mapped
  | v6 ip => exact .mapped mapped

theorem blocked_of_names {listener target : SocketAddr}
    (wildcard : listener.ip.isUnspecified = true ∨ MappedWildcard listener.ip)
    (names : NamesListener nat64 listener target) :
    classifyIp target.ip networks nat64 = .alwaysBlocked := by
  rcases names with ⟨same, -⟩ | ⟨embedded, read, targetRead⟩
  · rw [same] at wildcard
    rcases wildcard with unspecified | mapped
    · exact classifyIp_of_unspecified unspecified
    · exact classifyIp_of_reads (reads_of_mapped mapped) classifyV4_unspecified
  · obtain rfl := reads_of_wildcard wildcard read
    exact classifyIp_of_reads targetRead classifyV4_unspecified

end Blocked

section Listeners

variable {listeners : List SocketAddr} {networks : LocalNetworks} {nat64 : List Nat64Prefix}
  {target listener : SocketAddr}

def ReachesWildcard (networks : LocalNetworks) (nat64 : List Nat64Prefix)
    (target listener : SocketAddr) : Prop :=
  ∃ form, Form nat64 target.ip form ∧ WildcardCovers listener.ip form ∧ IsOwnAddress networks form

theorem wildcardMatch_iff (unspecified : listener.ip.isUnspecified = true) :
    ((listenerSocketCandidates target nat64).any fun candidate =>
      match normalizeSocket listener with
      | .v4 _ _ =>
          (candidate matches .v4 _ _) &&
            (candidate.ip.isLoopback || networks.containsAddress candidate.ip)
      | .v6 _ _ _ _ => candidate.ip.isLoopback || networks.containsAddress candidate.ip) = true ↔
      ReachesWildcard networks nat64 target listener := by
  simp only [List.any_eq_true, ReachesWildcard, form_iff_candidate, IsOwnAddress]
  constructor
  · rintro ⟨candidate, member, own⟩
    refine ⟨candidate.ip, ⟨candidate, member, rfl⟩, ?_⟩
    cases listener with
    | v4 wildcard port =>
      obtain rfl : wildcard = 0 := by simpa [IpAddr.isUnspecified, SocketAddr.ip] using unspecified
      cases candidate with
      | v4 ip port => exact ⟨rfl, by simpa [normalizeSocket] using own⟩
      | v6 ip port flowinfo scopeId => simp [normalizeSocket] at own
    | v6 wildcard port flowinfo scopeId =>
      obtain rfl : wildcard = 0 := by simpa [IpAddr.isUnspecified, SocketAddr.ip] using unspecified
      refine ⟨?_, by simpa [normalizeSocket] using own⟩
      cases candidate with
      | v4 ip port => exact .inl rfl
      | v6 ip port flowinfo scopeId => exact rfl
  · rintro ⟨_, ⟨candidate, member, rfl⟩, covers, own⟩
    refine ⟨candidate, member, ?_⟩
    cases listener with
    | v4 wildcard port =>
      cases candidate with
      | v4 ip port => simpa [normalizeSocket] using own
      | v6 ip port flowinfo scopeId => cases covers
    | v6 wildcard port flowinfo scopeId => simpa [normalizeSocket] using own

theorem matchesListener_iff :
    (DestinationValidator.new listeners).matchesListener target networks nat64 = true ↔
      ∃ listener ∈ listeners, listener.port = target.port ∧
        if listener.ip.isUnspecified = true then ReachesWildcard networks nat64 target listener
        else NamesListener nat64 listener target := by
  unfold DestinationValidator.matchesListener DestinationValidator.new
  simp only [List.any_map, List.any_eq_true, listenerSocketCandidates_normalized,
    normalizeSocket_port, Function.comp_apply, normalizeSocket_ip]
  refine exists_congr fun listener => and_congr_right fun _ => ?_
  by_cases samePort : listener.port = target.port
  case neg => simp [samePort]
  by_cases unspecified : listener.ip.isUnspecified = true
  · simp only [samePort, ne_eq, not_true_eq_false, if_false, unspecified, if_true, true_and]
    exact wildcardMatch_iff unspecified
  · simp only [samePort, ne_eq, not_true_eq_false, if_false, unspecified, true_and,
      Bool.false_eq_true]
    rw [← namesListener_iff samePort, List.any_eq_true]
    simp only [List.any_eq_true]

end Listeners

/-- What the checks other than the one against the listeners ask of a target. -/
structure Admissible (networks : LocalNetworks) (nat64 : List Nat64Prefix) (policy : OutboundPolicy)
    (target : SocketAddr) : Prop where
  onLink : target.isUnscopedLinkLocal = false
  permitted : classifyIp target.ip networks nat64 = .publicSource ∨
    classifyIp target.ip networks nat64 = .privateSource ∧ policy.allowPrivateNetworkSources = true

section Requests

variable {listeners : List SocketAddr} {networks : LocalNetworks} {nat64 : List Nat64Prefix}
  {policy : OutboundPolicy} {target listener : SocketAddr}

theorem Admissible.not_blocked (admissible : Admissible networks nat64 policy target) :
    classifyIp target.ip networks nat64 ≠ .alwaysBlocked := by
  intro blocked
  rcases admissible.permitted with permitted | ⟨permitted, -⟩ <;> rw [blocked] at permitted <;>
    cases permitted

theorem validateAddresses_blocked_iff {validator : DestinationValidator} {addresses : List SocketAddr} :
    validator.validateAddresses addresses networks nat64 policy = .error .blocked ↔
      ∃ address ∈ addresses, ¬ AddressAdmitted validator networks nat64 policy address := by
  simp only [← DestinationValidator.addressAllowed_iff]
  unfold DestinationValidator.validateAddresses
  split
  next all => simpa using all
  next some => simpa using some

theorem matches_of_reaches (admissible : Admissible networks nat64 policy target)
    (member : listener ∈ listeners) (reaches : Reaches networks nat64 target listener)
    (plain : ¬ MappedWildcard listener.ip) :
    (DestinationValidator.new listeners).matchesListener target networks nat64 = true := by
  refine matchesListener_iff.mpr ⟨listener, member, reaches.samePort, ?_⟩
  split
  next unspecified =>
    refine reaches.found.resolve_left fun names => ?_
    exact admissible.not_blocked (blocked_of_names (.inl unspecified) names)
  next named =>
    refine reaches.found.resolve_right ?_
    rintro ⟨form, -, covers, -⟩
    cases shape : listener.ip with
    | v4 ip => 
      rw [shape] at covers named
      cases form with
      | v4 _ => exact named (beq_iff_eq.mpr covers)
      | v6 _ => cases covers
    | v6 ip =>
      rw [shape] at covers named plain
      cases form with
      | v4 _ => exact covers.elim (fun zero => named (beq_iff_eq.mpr zero)) plain
      | v6 _ => exact named (beq_iff_eq.mpr covers)

theorem reaches_of_matches (admissible : Admissible networks nat64 policy target)
    (matching : (DestinationValidator.new listeners).matchesListener target networks nat64 = true) :
    ∃ listener ∈ listeners, ¬ MappedWildcard listener.ip ∧ Reaches networks nat64 target listener := by
  obtain ⟨listener, member, samePort, found⟩ := matchesListener_iff.mp matching
  refine ⟨listener, member, ?_⟩
  split at found
  next unspecified =>
    refine ⟨fun mapped => ?_, samePort, .inr found⟩
    cases shape : listener.ip with
    | v4 ip =>
      rw [shape] at mapped
      cases mapped
    | v6 ip =>
      rw [shape] at mapped unspecified
      obtain rfl : ip = 0 := by simpa [IpAddr.isUnspecified] using unspecified
      exact absurd mapped (by unfold MappedWildcard; decide)
  next =>
    refine ⟨fun mapped => ?_, samePort, .inl found⟩
    exact admissible.not_blocked (blocked_of_names (.inr mapped) found)

theorem refuses_own_listeners_iff (listeners : List SocketAddr) (networks : LocalNetworks)
    (nat64 : List Nat64Prefix) (policy : OutboundPolicy) (target : SocketAddr) :
    ((∃ listener ∈ listeners, Reaches networks nat64 target listener) →
      ∀ addresses, target ∈ addresses →
        (DestinationValidator.new listeners).validateAddresses addresses networks nat64 policy =
          .error .blocked) ↔
    ((∃ listener ∈ listeners, MappedWildcard listener.ip ∧ Reaches networks nat64 target listener) →
      (∃ listener ∈ listeners, ¬ MappedWildcard listener.ip ∧
        Reaches networks nat64 target listener) ∨
      ¬ Admissible networks nat64 policy target) := by
  constructor
  · rintro refuses ⟨listener, member, mapped, reaches⟩
    by_contra missed
    rw [not_or, not_not] at missed
    obtain ⟨others, admissible⟩ := missed
    have blocked := refuses ⟨listener, member, reaches⟩ [target] (by simp)
    obtain ⟨address, found, refused⟩ := validateAddresses_blocked_iff.mp blocked
    obtain rfl := List.mem_singleton.mp found
    refine refused ⟨admissible.onLink, ?_, admissible.permitted⟩
    rw [Bool.eq_false_iff]
    exact fun matching => others (reaches_of_matches admissible matching)
  · rintro condition ⟨listener, member, reaches⟩ addresses included
    refine validateAddresses_blocked_iff.mpr ⟨target, included, fun admitted => ?_⟩
    have admissible : Admissible networks nat64 policy target := ⟨admitted.onLink, admitted.permitted⟩
    have caught : ∃ listener ∈ listeners, ¬ MappedWildcard listener.ip ∧
        Reaches networks nat64 target listener := by
      by_cases mapped : MappedWildcard listener.ip
      · exact (condition ⟨listener, member, mapped, reaches⟩).resolve_right (not_not.mpr admissible)
      · exact ⟨listener, member, mapped, reaches⟩
    obtain ⟨other, otherMember, plain, otherReaches⟩ := caught
    have matching := matches_of_reaches admissible otherMember otherReaches plain
    rw [admitted.foreign] at matching
    cases matching

def mappedWildcard (port : BitVec 16) : SocketAddr := .v6 (.new 0 0 0 0 0 0xffff 0 0) port 0 0

-- A server on `[::ffff:0.0.0.0]:11470` lets a request to `127.0.0.1:11470` through.
theorem loopback_reaches_mapped_wildcard :
    Reaches ⟨[]⟩ [] (.v4 (.new 127 0 0 1) 11470) (mappedWildcard 11470) ∧
      (DestinationValidator.new [mappedWildcard 11470]).validateAddresses
        [.v4 (.new 127 0 0 1) 11470] ⟨[]⟩ [] ⟨true⟩ = .ok () := by
  refine ⟨⟨rfl, .inr ⟨.v4 (.new 127 0 0 1), .native, ?_, .inl (by decide)⟩⟩, by decide +kernel⟩
  exact .inr (by unfold MappedWildcard; decide)

end Requests

end StreamServer.NetworkSecurity
