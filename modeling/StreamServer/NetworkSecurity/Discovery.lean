import StreamServer.NetworkSecurity.Resolver

set_option autoImplicit false

namespace StreamServer.NetworkSecurity

open SortDedup

section Prefixes

variable {ip : Ipv6Addr} {pref : Nat64Prefix} {embedded : Ipv4Addr}

theorem shiftRight_eq_of_masked {ip network : Ipv6Addr} {length bits : Nat} (covers : bits ≤ length)
    (masked : ip &&& prefixMask length = network &&& prefixMask length) :
    ip >>> (128 - bits) = network >>> (128 - bits) := by
  refine BitVec.eq_of_getLsbD_eq fun index bounded => ?_
  rw [BitVec.getLsbD_ushiftRight, BitVec.getLsbD_ushiftRight]
  by_cases inside : 128 - bits + index < 128
  · have kept : (prefixMask length).getLsbD (128 - bits + index) = true := by
      simp only [prefixMask, BitVec.getLsbD_shiftLeft, BitVec.getLsbD_allOnes]
      simp only [Bool.and_eq_true, decide_eq_true_eq, Bool.not_eq_true', decide_eq_false_iff_not]
      omega
    have bit := congrArg (·.getLsbD (128 - bits + index)) masked
    simpa [kept] using bit
  · rw [BitVec.getLsbD_of_ge _ _ (by omega), BitVec.getLsbD_of_ge _ _ (by omega)]

theorem extractRfc6052_some (extracted : extractRfc6052 ip pref = some embedded) :
    pref.length ∈ validLengths ∧
      ip &&& prefixMask pref.length = pref.network &&& prefixMask pref.length := by
  unfold extractRfc6052 at extracted
  split at extracted
  next => cases extracted
  next valid =>
    have valid : pref.length ∈ validLengths := not_not.mp valid
    have nonzero : pref.length ≠ 0 := by
      rintro zero
      rw [zero] at valid
      revert valid
      decide
    simp only [if_neg nonzero] at extracted
    split at extracted
    next => cases extracted
    next masked => exact ⟨valid, not_not.mp masked⟩

def Embeddable (ip : Ipv6Addr) : Prop :=
  globalUnicastV6Net.contains (.v6 ip) = true ∨ ip.segment 0 &&& 0xfe00 = 0xfc00 ∨
    isRfc8215Address ip = true

theorem embeddable_of_usable (usable : nat64PrefixIsUsable pref = true)
    (extracted : extractRfc6052 ip pref = some embedded) : pref = wellKnownNat64 ∨ Embeddable ip := by
  obtain ⟨valid, masked⟩ := extractRfc6052_some extracted
  unfold nat64PrefixIsUsable at usable
  split at usable
  next => cases usable
  next =>
  split at usable
  next bounded =>
    split at usable
    next => cases usable
    next canonical =>
    split at usable
    next => cases usable
    next =>
    split at usable
    next same => exact .inl same
    next =>
      right
      have long : 32 ≤ pref.length := by
        revert valid
        simp only [validLengths, List.mem_cons, List.not_mem_nil, or_false]
        omega
      simp only [Bool.or_eq_true, Bool.and_eq_true, beq_iff_eq] at usable
      rcases usable with (inside | inside) | ⟨length, inside⟩
      · left
        simp only [globalUnicastV6Net, IpNet.contains, beq_iff_eq] at inside ⊢
        rw [← inside]
        exact shiftRight_eq_of_masked (by omega : 3 ≤ pref.length) masked
      · refine .inr (.inl ?_)
        rw [← inside]
        simp only [Ipv6Addr.segment]
        rw [show (16 * (7 - 0)) = 128 - 16 from rfl,
          shiftRight_eq_of_masked (by omega : 16 ≤ pref.length) masked]
      · refine .inr (.inr ?_)
        rw [not_not.mp canonical] at inside
        simp only [isRfc8215Address, rfc8215Net, IpNet.contains, beq_iff_eq] at inside ⊢
        rw [← inside]
        exact shiftRight_eq_of_masked (by omega : 48 ≤ pref.length) masked
  next => cases usable

theorem shiftRight_of_segment {bits : Nat} {value : BitVec 16} (short : bits ≤ 16)
    (masked : ip.segment 0 &&& (BitVec.allOnes 16 <<< (16 - bits)) = value) :
    ip >>> (128 - bits) = (value >>> (16 - bits)).setWidth 128 := by
  refine BitVec.eq_of_getLsbD_eq fun index bounded => ?_
  have bit := congrArg (·.getLsbD (16 - bits + index)) masked
  simp only [Ipv6Addr.segment, BitVec.getLsbD_and, BitVec.getLsbD_setWidth,
    BitVec.getLsbD_ushiftRight, BitVec.getLsbD_shiftLeft, BitVec.getLsbD_allOnes] at bit ⊢
  rw [← bit]
  by_cases inside : index < bits
  · have place : 16 * (7 - 0) + (16 - bits + index) = 128 - bits + index := by omega
    rw [place]
    simp only [bounded, show 16 - bits + index < 16 by omega,
      show ¬ 16 - bits + index < 16 - bits by omega, show 16 - bits + index - (16 - bits) < 16 by omega]
    simp
  · rw [BitVec.getLsbD_of_ge _ _ (by omega)]
    simp [show ¬ 16 - bits + index < 16 by omega]

-- In numbers, so that the leading bits of different lengths can be compared.
theorem Embeddable.leading (inside : Embeddable ip) :
    ip.toNat / 2 ^ 125 = 1 ∨ ip.toNat / 2 ^ 121 = 0x7e ∨ ip.toNat / 2 ^ 80 = 0x64ff9b0001 := by
  simp only [← Nat.shiftRight_eq_div_pow, ← BitVec.toNat_ushiftRight]
  rcases inside with inside | inside | inside
  · simp only [globalUnicastV6Net, IpNet.contains, beq_iff_eq] at inside
    exact .inl (congrArg BitVec.toNat inside)
  · exact .inr (.inl (congrArg BitVec.toNat (shiftRight_of_segment (by decide : 7 ≤ 16) inside)))
  · simp only [isRfc8215Address, rfc8215Net, IpNet.contains, beq_iff_eq] at inside
    exact .inr (.inr (congrArg BitVec.toNat inside))

theorem not_embeddable_of_mapped (mapped : ip.toIpv4Mapped = some embedded) : ¬ Embeddable ip := by
  unfold Ipv6Addr.toIpv4Mapped at mapped
  split at mapped
  next settled =>
    have number := congrArg BitVec.toNat settled
    rw [BitVec.toNat_ushiftRight, Nat.shiftRight_eq_div_pow] at number
    intro inside
    have leading := inside.leading
    simp at number
    omega
  next => cases mapped

theorem not_embeddable_of_wellKnown (extracted : extractRfc6052 ip wellKnownNat64 = some embedded) :
    ¬ Embeddable ip := by
  have settled := shiftRight_eq_of_masked (le_refl 96) (extractRfc6052_some extracted).2
  have number := congrArg BitVec.toNat settled
  rw [BitVec.toNat_ushiftRight, Nat.shiftRight_eq_div_pow] at number
  intro inside
  have leading := inside.leading
  have known : (wellKnownNat64.network >>> (128 - 96)).toNat = 0x64ff9b * 2 ^ 64 := by decide
  omega

theorem not_embeddable_of_loopback (loopback : ip.isLoopback = true) : ¬ Embeddable ip := by
  simp only [Ipv6Addr.isLoopback, beq_iff_eq] at loopback
  intro inside
  have leading := inside.leading
  subst loopback
  revert leading
  decide

theorem not_embeddable_of_linkLocal (linkLocal : ip.isUnicastLinkLocal = true) : ¬ Embeddable ip := by
  simp only [Ipv6Addr.isUnicastLinkLocal, beq_iff_eq] at linkLocal
  have settled := shiftRight_of_segment (by decide : 10 ≤ 16) linkLocal
  have number := congrArg BitVec.toNat settled
  rw [BitVec.toNat_ushiftRight, Nat.shiftRight_eq_div_pow] at number
  intro inside
  have leading := inside.leading
  have known : (((0xfe80 : BitVec 16) >>> (16 - 10)).setWidth 128).toNat = 0x3fa := by decide
  omega

theorem mem_embeddedIpv4Candidates (nat64 : List Nat64Prefix) :
    embedded ∈ embeddedIpv4Candidates ip nat64 ↔ embedded ∈ embeddedIpv4Candidates ip [] ∨
      ∃ pref ∈ nat64, nat64PrefixIsUsable pref = true ∧ extractRfc6052 ip pref = some embedded := by
  simp [embeddedIpv4Candidates, nat64PrefixAddressSpaceIsValid, and_assoc, or_assoc]

theorem embeddedIpv4Candidates_of_not_embeddable (outside : ¬ Embeddable ip)
    (nat64 : List Nat64Prefix) : embeddedIpv4Candidates ip nat64 = embeddedIpv4Candidates ip [] := by
  have members (embedded : Ipv4Addr) :
      embedded ∈ embeddedIpv4Candidates ip nat64 ↔ embedded ∈ embeddedIpv4Candidates ip [] := by
    rw [mem_embeddedIpv4Candidates]
    refine or_iff_left_of_imp ?_
    rintro ⟨pref, -, usable, extracted⟩
    obtain rfl := (embeddable_of_usable usable extracted).resolve_right outside
    simp [embeddedIpv4Candidates, extracted]
  unfold embeddedIpv4Candidates at members ⊢
  simp only [mem_sortDedup] at members
  exact sortDedup_congr _ (fun _ _ => BitVec.eq_of_toNat_eq) _ _ members

end Prefixes

theorem classifyIp_of_not_embeddable {ip : Ipv6Addr} (outside : ¬ Embeddable ip)
    (networks : LocalNetworks) (nat64 : List Nat64Prefix) :
    classifyIp (.v6 ip) networks nat64 = classifyIp (.v6 ip) networks [] := by
  simp only [classifyIp, classifyV6]
  rw [embeddedIpv4Candidates_of_not_embeddable outside]

def SocketAddr.Settled (address : SocketAddr) : Prop :=
  ∀ ip, address.ip = .v6 ip → ¬ Embeddable ip

namespace SocketAddr.Settled

variable {address : SocketAddr} (settled : address.Settled) (nat64 : List Nat64Prefix)

include settled

theorem candidates : listenerSocketCandidates address nat64 = listenerSocketCandidates address [] := by
  cases address with
  | v4 ip port => rfl
  | v6 ip port flowinfo scopeId =>
    unfold listenerSocketCandidates
    simp only [normalizeSocket]
    rw [embeddedIpv4Candidates_of_not_embeddable (settled ip rfl)]

theorem classify (networks : LocalNetworks) :
    classifyIp address.ip networks nat64 = classifyIp address.ip networks [] := by
  cases address with
  | v4 ip port => rfl
  | v6 ip port flowinfo scopeId => exact classifyIp_of_not_embeddable (settled ip rfl) networks nat64

end SocketAddr.Settled

theorem settled_of_accepted {validator : DestinationValidator} {address : SocketAddr}
    {networks : LocalNetworks} {policy : OutboundPolicy}
    (skipped : needsDiscovery [address] networks policy = false)
    (admitted : AddressAdmitted validator networks [] policy address) : address.Settled := by
  intro ip shape
  have permitted := admitted.permitted
  simp only [needsDiscovery, List.any_cons, List.any_nil, Bool.or_false, shape] at skipped
  rw [shape] at permitted
  split at skipped
  next embeds =>
    obtain ⟨embedded, first⟩ := Option.isSome_iff_exists.mp embeds
    have member := List.mem_of_mem_head? first
    simp only [embeddedIpv4Candidates, List.filter_nil, List.filterMap_nil, List.append_nil,
      mem_sortDedup, List.mem_append, Option.mem_toList] at member
    rcases member with mapped | extracted
    · exact not_embeddable_of_mapped mapped
    · exact not_embeddable_of_wellKnown extracted
  next =>
  split at skipped
  next => cases skipped
  next =>
    rcases permitted with permitted | ⟨permitted, optedIn⟩
    · rw [permitted] at skipped
      cases skipped
    · rw [permitted, optedIn] at skipped
      by_cases loopback : ip.isLoopback = true
      · exact not_embeddable_of_loopback loopback
      · have linkLocal : ip.isUnicastLinkLocal = true := by simpa [loopback] using skipped
        exact not_embeddable_of_linkLocal linkLocal

-- The listener is on the target's port and a discovered prefix reads its address as an IPv4 address
-- that the target has too.
structure Shadows (nat64 : List Nat64Prefix) (target listener : SocketAddr) : Prop where
  samePort : listener.port = target.port
  named : listener.ip.isUnspecified = false
  embedded : ∃ ip embedded, listener.ip = .v6 ip ∧
    (∃ pref ∈ nat64, nat64PrefixIsUsable pref = true ∧ extractRfc6052 ip pref = some embedded) ∧
    .v4 embedded target.port ∈ listenerSocketCandidates target []

theorem mem_listenerSocketCandidates (socket candidate : SocketAddr) (nat64 : List Nat64Prefix) :
    candidate ∈ listenerSocketCandidates socket nat64 ↔
      candidate ∈ listenerSocketCandidates socket [] ∨
        ∃ ip embedded, socket.ip = .v6 ip ∧
          (∃ pref ∈ nat64, nat64PrefixIsUsable pref = true ∧
            extractRfc6052 ip pref = some embedded) ∧
          candidate = .v4 embedded socket.port := by
  cases socket with
  | v4 ip port => simp [listenerSocketCandidates, normalizeSocket, SocketAddr.ip]
  | v6 ip port flowinfo scopeId =>
    simp only [listenerSocketCandidates, normalizeSocket, mem_sortDedup, List.mem_cons, List.mem_map,
      mem_embeddedIpv4Candidates nat64, SocketAddr.ip, SocketAddr.port, IpAddr.v6.injEq]
    constructor
    · rintro (same | ⟨embedded, found | found, rfl⟩)
      · exact .inl (.inl same)
      · exact .inl (.inr ⟨embedded, found, rfl⟩)
      · exact .inr ⟨ip, embedded, rfl, found, rfl⟩
    · rintro ((same | ⟨embedded, found, rfl⟩) | ⟨_, embedded, rfl, found, rfl⟩)
      · exact .inl same
      · exact .inr ⟨embedded, .inl found, rfl⟩
      · exact .inr ⟨embedded, .inr found, rfl⟩

theorem listenerSocketCandidates_normalized (socket : SocketAddr) (nat64 : List Nat64Prefix) :
    listenerSocketCandidates (normalizeSocket socket) nat64 =
      listenerSocketCandidates socket nat64 := by
  cases socket with
  | v4 ip port => rfl
  | v6 ip port flowinfo scopeId =>
    by_cases linkLocal : Ipv6Addr.isUnicastLinkLocal ip = true
    · simp [listenerSocketCandidates, normalizeSocket, linkLocal]
    · simp [listenerSocketCandidates, normalizeSocket, linkLocal]

@[simp] theorem normalizeSocket_port (socket : SocketAddr) :
    (normalizeSocket socket).port = socket.port := by
  cases socket <;> rfl

theorem listenerEndpointMatches_v4 (embedded : Ipv4Addr) (port : BitVec 16) (target : SocketAddr) :
    listenerEndpointMatches (.v4 embedded port) target = true ↔ target = .v4 embedded port := by
  cases target with
  | v4 ip targetPort =>
    by_cases same : port = targetPort
    · subst same
      simp [listenerEndpointMatches, SocketAddr.port, eq_comm (a := ip)]
    · simp [listenerEndpointMatches, SocketAddr.port, same, Ne.symm same]
  | v6 ip targetPort flowinfo scopeId => simp [listenerEndpointMatches]

namespace DestinationValidator

theorem matchesListener_settled (validator : DestinationValidator) {target : SocketAddr}
    (settled : target.Settled) (networks : LocalNetworks) (nat64 : List Nat64Prefix) :
    validator.matchesListener target networks nat64 = true ↔
      validator.matchesListener target networks [] = true ∨
        ∃ listener ∈ validator.listeners, Shadows nat64 target listener := by
  unfold matchesListener
  simp only [listenerSocketCandidates_normalized, normalizeSocket_port, settled.candidates nat64,
    List.any_eq_true, ← exists_or, ← and_or_left]
  refine exists_congr fun listener => and_congr_right fun _ => ?_
  by_cases samePort : listener.port = target.port
  case neg => simp [samePort, show ¬ Shadows nat64 target listener from fun h => samePort h.samePort]
  by_cases unspecified : listener.ip.isUnspecified = true
  case pos =>
    simp [samePort, unspecified,
      show ¬ Shadows nat64 target listener from fun h => by simp [h.named] at unspecified]
  simp only [samePort, ne_eq, not_true_eq_false, if_false, unspecified, Bool.false_eq_true]
  rw [List.any_eq_true, List.any_eq_true]
  simp only [List.any_eq_true]
  constructor
  · rintro ⟨candidate, found, targetCandidate, foundTarget, matching⟩
    rcases (mem_listenerSocketCandidates _ _ _).mp found with found | ⟨ip, embedded, shape, read, rfl⟩
    · exact .inl ⟨candidate, found, targetCandidate, foundTarget, matching⟩
    · rw [listenerEndpointMatches_v4, samePort] at matching
      subst matching
      exact .inr ⟨samePort, by simpa using unspecified, ip, embedded, shape, read, foundTarget⟩
  · rintro (⟨candidate, found, rest⟩ | ⟨-, -, ip, embedded, shape, read, foundTarget⟩)
    · exact ⟨candidate, (mem_listenerSocketCandidates _ _ _).mpr (.inl found), rest⟩
    · refine ⟨.v4 embedded target.port, (mem_listenerSocketCandidates _ _ _).mpr
        (.inr ⟨ip, embedded, shape, read, by rw [samePort]⟩), _, foundTarget, ?_⟩
      rw [listenerEndpointMatches_v4]

theorem needsDiscovery_singleton {addresses : List SocketAddr} {networks : LocalNetworks}
    {policy : OutboundPolicy} (skipped : needsDiscovery addresses networks policy = false) :
    ∀ address ∈ addresses, needsDiscovery [address] networks policy = false := by
  intro address member
  unfold needsDiscovery at skipped ⊢
  rw [List.any_eq_false] at skipped
  simpa using skipped address member

theorem skipped_discovery_accepts_iff (validator : DestinationValidator)
    (addresses : List SocketAddr) (networks : LocalNetworks) (policy : OutboundPolicy)
    (nat64 : List Nat64Prefix) (skipped : needsDiscovery addresses networks policy = false)
    (accepted : validator.validateAddresses addresses networks [] policy = .ok ()) :
    validator.validateAddresses addresses networks nat64 policy = .ok () ↔
      ∀ address ∈ addresses, ∀ listener ∈ validator.listeners, ¬ Shadows nat64 address listener := by
  rw [validateAddresses_ok_iff] at accepted ⊢
  refine forall₂_congr fun address member => ?_
  have admitted := accepted address member
  have settled := settled_of_accepted (needsDiscovery_singleton skipped address member) admitted
  have listeners := validator.matchesListener_settled settled networks nat64
  rw [admitted.foreign] at listeners
  constructor
  · intro passed listener registered shadows
    have blocked := listeners.mpr (.inr ⟨listener, registered, shadows⟩)
    rw [passed.foreign] at blocked
    cases blocked
  · intro unshadowed
    refine ⟨admitted.onLink, ?_, ?_⟩
    · rw [Bool.eq_false_iff]
      intro blocked
      obtain impossible | ⟨listener, registered, shadows⟩ := listeners.mp blocked
      · cases impossible
      · exact unshadowed listener registered shadows
    · rw [settled.classify]
      exact admitted.permitted

def networkSpecificNat64 : Nat64Prefix := ⟨.new 0x2001 0x4860 0x64 0 0 0 0 0, 96⟩

theorem mapped_target_beside_listeners :
    needsDiscovery [.v6 (.new 0 0 0 0 0 0xffff 0x5db8 0xd822) 80 0 0] ⟨[]⟩ ⟨false⟩ = false ∧
      ((DestinationValidator.new [.v6 (.new 0x2001 0x4860 0x64 0 0 0 0x5db8 0xd823) 80 0 0]
        ).validateAddresses [.v6 (.new 0 0 0 0 0 0xffff 0x5db8 0xd822) 80 0 0] ⟨[]⟩
          [networkSpecificNat64] ⟨false⟩ = .ok () ↔
        ∀ address ∈ [SocketAddr.v6 (.new 0 0 0 0 0 0xffff 0x5db8 0xd822) 80 0 0],
          ∀ listener ∈ (DestinationValidator.new
            [.v6 (.new 0x2001 0x4860 0x64 0 0 0 0x5db8 0xd823) 80 0 0]).listeners,
            ¬ Shadows [networkSpecificNat64] address listener) :=
  ⟨by decide, skipped_discovery_accepts_iff _ _ _ _ _ (by decide) rfl⟩

-- The server listens on an address that a usable prefix reads as 93.184.216.34, and discovery is
-- skipped for a source with that address.
theorem listener_under_discovered_prefix_is_missed :
    needsDiscovery [.v4 (.new 93 184 216 34) 80] ⟨[]⟩ ⟨false⟩ = false ∧
      (DestinationValidator.new [.v6 (.new 0x2001 0x4860 0x64 0 0 0 0x5db8 0xd822) 80 0 0]
        ).validateAddresses [.v4 (.new 93 184 216 34) 80] ⟨[]⟩ [] ⟨false⟩ = .ok () ∧
      nat64PrefixIsUsable networkSpecificNat64 = true ∧
      (DestinationValidator.new [.v6 (.new 0x2001 0x4860 0x64 0 0 0 0x5db8 0xd822) 80 0 0]
        ).validateAddresses [.v4 (.new 93 184 216 34) 80] ⟨[]⟩ [networkSpecificNat64] ⟨false⟩ =
          .error .blocked :=
  ⟨by decide, rfl, by decide, rfl⟩

end DestinationValidator

end StreamServer.NetworkSecurity
