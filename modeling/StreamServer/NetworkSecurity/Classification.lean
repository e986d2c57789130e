import StreamServer.NetworkSecurity.Discovery

set_option autoImplicit false

namespace StreamServer.NetworkSecurity

open SortDedup

-- An IPv4 address that is read out of an IPv6 address: mapped, under the well-known NAT64 prefix,
-- or under a usable prefix of the list.
inductive Embeds (prefixes : List Nat64Prefix) (ip : Ipv6Addr) (embedded : Ipv4Addr) : Prop where
  | mapped (read : ip.toIpv4Mapped = some embedded)
  | wellKnown (read : extractRfc6052 ip wellKnownNat64 = some embedded)
  | listed (pref : Nat64Prefix) (member : pref ∈ prefixes) (usable : nat64PrefixIsUsable pref = true)
      (read : extractRfc6052 ip pref = some embedded)

def isObsoleteWrapper (ip : Ipv6Addr) : Bool :=
  (extractIpv4Compatible ip).isSome || (extractIpv4Translatable ip).isSome ||
    (extract6to4 ip).isSome || (extractTeredoClient ip).isSome

theorem mem_candidates_iff {prefixes : List Nat64Prefix} {ip : Ipv6Addr} {embedded : Ipv4Addr} :
    embedded ∈ embeddedIpv4Candidates ip prefixes ↔ Embeds prefixes ip embedded := by
  simp only [embeddedIpv4Candidates, mem_sortDedup, List.mem_append, Option.mem_toList,
    List.mem_filterMap, List.mem_filter, nat64PrefixAddressSpaceIsValid]
  constructor
  · rintro ((read | read) | ⟨pref, ⟨member, usable⟩, read⟩)
    · exact .mapped read
    · exact .wellKnown read
    · exact .listed pref member usable read
  · rintro (read | read | ⟨pref, member, usable, read⟩)
    · exact .inl (.inl read)
    · exact .inl (.inr read)
    · exact .inr ⟨pref, ⟨member, usable⟩, read⟩

theorem Embeds.congr {prefixes others : List Nat64Prefix}
    (same : ∀ pref, pref ∈ others ↔ pref ∈ prefixes) {ip : Ipv6Addr} {embedded : Ipv4Addr} :
    Embeds others ip embedded ↔ Embeds prefixes ip embedded := by
  constructor
  · rintro (read | read | ⟨pref, member, usable, read⟩)
    · exact .mapped read
    · exact .wellKnown read
    · exact .listed pref ((same pref).mp member) usable read
  · rintro (read | read | ⟨pref, member, usable, read⟩)
    · exact .mapped read
    · exact .wellKnown read
    · exact .listed pref ((same pref).mpr member) usable read

theorem embeddedIpv4Candidates_congr {prefixes others : List Nat64Prefix}
    (same : ∀ pref, pref ∈ others ↔ pref ∈ prefixes) (ip : Ipv6Addr) :
    embeddedIpv4Candidates ip others = embeddedIpv4Candidates ip prefixes := by
  have members (embedded : Ipv4Addr) : embedded ∈ embeddedIpv4Candidates ip others ↔
      embedded ∈ embeddedIpv4Candidates ip prefixes := by
    rw [mem_candidates_iff, mem_candidates_iff, Embeds.congr same]
  unfold embeddedIpv4Candidates at members ⊢
  simp only [mem_sortDedup] at members
  exact sortDedup_congr _ (fun _ _ => BitVec.eq_of_toNat_eq) _ _ members

theorem combineClasses_public {left right : DestinationClass} :
    combineClasses left right = .publicSource ↔ left = .publicSource ∧ right = .publicSource := by
  cases left <;> cases right <;> simp [combineClasses]

theorem foldl_combineClasses_public {classes : List DestinationClass} {start : DestinationClass} :
    classes.foldl combineClasses start = .publicSource ↔
      start = .publicSource ∧ ∀ destinationClass ∈ classes, destinationClass = .publicSource := by
  induction classes generalizing start with
  | nil => simp
  | cons first rest ih => simp [ih, combineClasses_public, and_assoc]

section Leading

variable {ip : Ipv6Addr}

def IpNet.avoids (leading : BitVec 128) : IpNet → Bool
  | .v4 _ _ => true
  | .v6 addr prefixLen =>
      if 32 ≤ 128 - prefixLen.val then
        leading >>> (128 - prefixLen.val - 32) != addr >>> (128 - prefixLen.val)
      else addr >>> 32 != leading

theorem not_contains_of_avoids {leading : BitVec 128} {network : IpNet}
    (avoids : network.avoids leading = true) (settled : ip >>> 32 = leading) :
    network.contains (.v6 ip) = false := by
  cases network with
  | v4 addr prefixLen => rfl
  | v6 addr prefixLen =>
    rw [Bool.eq_false_iff]
    intro inside
    simp only [IpNet.contains, beq_iff_eq] at inside
    simp only [IpNet.avoids] at avoids
    by_cases long : 32 ≤ 128 - prefixLen.val
    · have split : 32 + (128 - prefixLen.val - 32) = 128 - prefixLen.val := by omega
      rw [if_pos long, bne_iff_ne, ← settled, ← BitVec.shiftRight_add, split] at avoids
      exact avoids inside
    · have split : 128 - prefixLen.val + (32 - (128 - prefixLen.val)) = 32 := by omega
      rw [if_neg long, bne_iff_ne, ← settled, ← split, BitVec.shiftRight_add, BitVec.shiftRight_add,
        inside] at avoids
      exact avoids rfl

theorem contains_of_leading {leading : BitVec 128} {networks : List IpNet}
    (avoid : networks.all (IpNet.avoids leading) = true) (settled : ip >>> 32 = leading) :
    contains networks (.v6 ip) = false := by
  unfold contains
  rw [List.any_eq_false]
  intro network member
  simp [not_contains_of_avoids (List.all_eq_true.mp avoid network member) settled]

theorem octet_of_mapped (mapped : ip >>> 32 = 0xffff) {index : Nat} (early : index ≤ 11) :
    ip.octet index = ((0xffff : BitVec 128) >>> (8 * (15 - index) - 32)).setWidth 8 := by
  have split : 8 * (15 - index) = 32 + (8 * (15 - index) - 32) := by omega
  unfold Ipv6Addr.octet
  conv => lhs; rw [split, BitVec.shiftRight_add, mapped]

theorem not_wrapper_of_mapped (mapped : ip >>> 32 = 0xffff) : isObsoleteWrapper ip = false := by
  have octets : ip.octets.take 12 = [0, 0, 0, 0, 0, 0, 0, 0, 0, 0, 0xff, 0xff] := by
    have early : ip.octets.take 12 = (List.range 12).map ip.octet := by
      unfold Ipv6Addr.octets
      rw [← List.map_take]
      rfl
    rw [early, List.map_congr_left fun index member =>
      octet_of_mapped mapped (Nat.le_of_lt_succ (List.mem_range.mp member))]
    decide
  have first (count : Nat) (few : count ≤ 12) : ip.octets.take count =
      [0, 0, 0, 0, 0, 0, 0, 0, 0, 0, 0xff, 0xff].take count := by
    rw [← octets, List.take_take, Nat.min_eq_left few]
  have middle : (ip.octets.drop 8).take 4 = [0, 0, 0xff, 0xff] := by
    have inside : (ip.octets.drop 8).take 4 = (ip.octets.take 12).drop 8 := by rw [List.drop_take]
    rw [inside, octets]
    rfl
  unfold isObsoleteWrapper extractIpv4Compatible extractIpv4Translatable extract6to4
    extractTeredoClient
  rw [octets, middle, first 8 (by decide), first 2 (by decide), first 4 (by decide)]
  simp

theorem shift_of_mapped {embedded : Ipv4Addr} (read : ip.toIpv4Mapped = some embedded) :
    ip >>> 32 = 0xffff := by
  unfold Ipv6Addr.toIpv4Mapped at read
  split at read
  next mapped => exact mapped
  next => cases read

theorem shift_of_wellKnown {embedded : Ipv4Addr}
    (read : extractRfc6052 ip wellKnownNat64 = some embedded) :
    ip >>> 32 = wellKnownNat64.network >>> 32 :=
  shiftRight_eq_of_masked (le_refl 96) (extractRfc6052_some read).2

end Leading

-- What a public class says of an IPv6 address. An address under a listed prefix is judged by the
-- IPv4 addresses read out of it, also where the prefix is in private space.
structure PublicV6 (networks : LocalNetworks) (prefixes : List Nat64Prefix) (ip : Ipv6Addr) :
    Prop where
  metadata : contains metadataV6Nets (.v6 ip) = false
  alwaysBlocked : contains alwaysBlockedV6Nets (.v6 ip) = false
  wrapper : isObsoleteWrapper ip = false
  privateV6 : contains privateV6Nets (.v6 ip) = true →
    ∃ pref ∈ prefixes, nat64PrefixIsUsable pref = true ∧ (extractRfc6052 ip pref).isSome = true
  embedded : ∀ embedded, Embeds prefixes ip embedded → classifyV4 embedded networks = .publicSource

structure PublicV4 (ip : Ipv4Addr) : Prop where
  metadata : contains metadataV4Nets (.v4 ip) = false
  alwaysBlocked : contains alwaysBlockedV4Nets (.v4 ip) = false
  privateV4 : contains privateV4Nets (.v4 ip) = false

def PublicAddress (networks : LocalNetworks) (prefixes : List Nat64Prefix) : IpAddr → Prop
  | .v4 ip => PublicV4 ip
  | .v6 ip => PublicV6 networks prefixes ip

section Public

variable {networks : LocalNetworks} {prefixes : List Nat64Prefix}

theorem classifyV4_public {ip : Ipv4Addr} (classified : classifyV4 ip networks = .publicSource) :
    PublicV4 ip := by
  unfold classifyV4 at classified
  split at classified
  next => cases classified
  next blocked =>
    split at classified
    next => cases classified
    next near =>
      simp only [Bool.or_eq_true, not_or, Bool.not_eq_true] at blocked near
      exact ⟨blocked.1, blocked.2, near.2⟩

theorem embeds_of_mapped {ip : Ipv6Addr} {mapped embedded : Ipv4Addr}
    (read : ip.toIpv4Mapped = some mapped) (embeds : Embeds prefixes ip embedded) :
    mapped = embedded := by
  have alone := embeddedIpv4Candidates_of_not_embeddable (not_embeddable_of_mapped read) prefixes
  have member := mem_candidates_iff.mpr embeds
  rw [alone, mem_candidates_iff] at member
  rcases member with read' | read' | ⟨_, impossible, -, -⟩
  · exact Option.some.inj (read.symm.trans read')
  · exact absurd ((shift_of_mapped read).symm.trans (shift_of_wellKnown read')) (by decide)
  · cases impossible

theorem publicV6_of_mapped {ip : Ipv6Addr} {mapped : Ipv4Addr}
    (read : ip.toIpv4Mapped = some mapped) (classified : classifyV4 mapped networks = .publicSource) :
    PublicV6 networks prefixes ip := by
  have shifted := shift_of_mapped read
  have outside : contains privateV6Nets (.v6 ip) = false :=
    contains_of_leading (by decide) shifted
  refine ⟨contains_of_leading (by decide) shifted, contains_of_leading (by decide) shifted,
    not_wrapper_of_mapped shifted, fun inside => ?_, fun embedded embeds => ?_⟩
  · rw [outside] at inside
    cases inside
  · rwa [← embeds_of_mapped read embeds]

theorem classifyV6_public {ip : Ipv6Addr}
    (classified : classifyV6 ip networks prefixes = .publicSource) :
    PublicV6 networks prefixes ip := by
  unfold classifyV6 at classified
  split at classified
  next mapped read => exact publicV6_of_mapped read classified
  next =>
  split at classified
  next => cases classified
  next wrapper =>
  split at classified
  next => cases classified
  next blocked =>
  have wrapper : isObsoleteWrapper ip = false := by simpa [isObsoleteWrapper, and_assoc] using wrapper
  simp only [Bool.or_eq_true, not_or, Bool.not_eq_true] at blocked
  simp only at classified
  split at classified
  next embeds =>
    obtain ⟨first, member⟩ := List.exists_mem_of_ne_nil _ embeds
    refine ⟨blocked.1, blocked.2, wrapper, fun inside => ?_, ?_⟩
    · rcases mem_candidates_iff.mp member with read | read | ⟨pref, member, usable, read⟩
      · rw [contains_of_leading (by decide) (shift_of_mapped read)] at inside
        cases inside
      · rw [contains_of_leading (by decide) (shift_of_wellKnown read)] at inside
        cases inside
      · exact ⟨pref, member, usable, by rw [read]; rfl⟩
    intro embedded read
    have folded : ((embeddedIpv4Candidates ip prefixes).map (classifyV4 · networks)).foldl
        combineClasses .publicSource = .publicSource := by
      split at classified
      next => exact (combineClasses_public.mp classified).1
      next => exact classified
    exact (foldl_combineClasses_public.mp folded).2 _
      (List.mem_map_of_mem (mem_candidates_iff.mpr read))
  next none =>
    split at classified
    next => cases classified
    next near =>
      simp only [Bool.or_eq_true, not_or, Bool.not_eq_true] at near
      refine ⟨blocked.1, blocked.2, wrapper, fun inside => ?_, fun embedded read => ?_⟩
      · rw [near.2] at inside
        cases inside
      · have member := mem_candidates_iff.mpr read
        rw [not_not.mp none] at member
        cases member

theorem classifyIp_guarantees (ip : IpAddr) (networks : LocalNetworks) (prefixes : List Nat64Prefix) :
    (∀ others : List Nat64Prefix, (∀ pref, pref ∈ others ↔ pref ∈ prefixes) →
      classifyIp ip networks others = classifyIp ip networks prefixes) ∧
    (classifyIp ip networks prefixes = .publicSource → PublicAddress networks prefixes ip) := by
  cases ip with
  | v4 ip => exact ⟨fun _ _ => rfl, classifyV4_public⟩
  | v6 ip =>
    refine ⟨fun others same => ?_, classifyV6_public⟩
    simp only [classifyIp, classifyV6]
    rw [embeddedIpv4Candidates_congr same]

def localNat64 : Nat64Prefix := ⟨.new 0xfd12 0x3456 0x789a 0 0 0 0 0, 96⟩

theorem repeated_prefix_changes_nothing :
    classifyIp (.v6 (.new 0xfd12 0x3456 0x789a 0 0 0 0x808 0x808)) ⟨[]⟩
        [localNat64, wellKnownNat64, localNat64] =
      classifyIp (.v6 (.new 0xfd12 0x3456 0x789a 0 0 0 0x808 0x808)) ⟨[]⟩
        [wellKnownNat64, localNat64] ∧
    PublicAddress ⟨[]⟩ [wellKnownNat64, localNat64]
      (.v6 (.new 0xfd12 0x3456 0x789a 0 0 0 0x808 0x808)) :=
  ⟨(classifyIp_guarantees _ _ _).1 _ (by simp [or_comm]),
    (classifyIp_guarantees _ _ _).2 (by decide +kernel)⟩

theorem private_address_is_public :
    contains privateV6Nets (.v6 (.new 0xfd12 0x3456 0x789a 0 0 0 0x808 0x808)) = true ∧
      nat64PrefixIsUsable localNat64 = true ∧
      classifyIp (.v6 (.new 0xfd12 0x3456 0x789a 0 0 0 0x808 0x808)) ⟨[]⟩ [localNat64] =
        .publicSource :=
  ⟨by decide, by decide +kernel, by decide +kernel⟩

end Public

end StreamServer.NetworkSecurity
