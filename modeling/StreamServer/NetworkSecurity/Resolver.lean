import Mathlib.Data.BitVec
import Mathlib.Data.List.Lex
import StreamServer.Shared.Lists
import StreamServer.Shared.UrlCrate

set_option autoImplicit false

namespace StreamServer.NetworkSecurity

open SortDedup

abbrev Ipv4Addr := BitVec 32
abbrev Ipv6Addr := BitVec 128

def Ipv4Addr.new (a b c d : BitVec 8) : Ipv4Addr := a ++ b ++ c ++ d

def Ipv6Addr.new (a b c d e f g h : BitVec 16) : Ipv6Addr := a ++ b ++ c ++ d ++ e ++ f ++ g ++ h

def Ipv6Addr.octet (ip : Ipv6Addr) (index : Nat) : BitVec 8 := (ip >>> (8 * (15 - index))).setWidth 8

def Ipv6Addr.octets (ip : Ipv6Addr) : List (BitVec 8) := (List.range 16).map ip.octet

def Ipv6Addr.segment (ip : Ipv6Addr) (index : Nat) : BitVec 16 :=
  (ip >>> (16 * (7 - index))).setWidth 16

inductive IpAddr where
  | v4 (ip : Ipv4Addr)
  | v6 (ip : Ipv6Addr)
deriving DecidableEq, Repr

def Ipv4Addr.isLoopback (ip : Ipv4Addr) : Bool := ip >>> 24 == 127

def Ipv6Addr.isLoopback (ip : Ipv6Addr) : Bool := ip == 1

def IpAddr.isLoopback : IpAddr → Bool
  | .v4 ip => Ipv4Addr.isLoopback ip
  | .v6 ip => Ipv6Addr.isLoopback ip

def IpAddr.isUnspecified : IpAddr → Bool
  | .v4 ip => ip == 0
  | .v6 ip => ip == 0

def Ipv6Addr.isUnicastLinkLocal (ip : Ipv6Addr) : Bool := ip.segment 0 &&& 0xffc0 == 0xfe80

def Ipv6Addr.toIpv4Mapped (ip : Ipv6Addr) : Option Ipv4Addr :=
  if ip >>> 32 = 0xffff then some (ip.setWidth 32) else none

/-- The prefix lengths carry the bound that `IpNet::new` checks. -/
inductive IpNet where
  | v4 (addr : Ipv4Addr) (prefixLen : Fin 33)
  | v6 (addr : Ipv6Addr) (prefixLen : Fin 129)
deriving DecidableEq, Repr

def IpNet.contains : IpNet → IpAddr → Bool
  | .v4 addr prefixLen, .v4 ip => ip >>> (32 - prefixLen.val) == addr >>> (32 - prefixLen.val)
  | .v6 addr prefixLen, .v6 ip => ip >>> (128 - prefixLen.val) == addr >>> (128 - prefixLen.val)
  | _, _ => false

def IpNet.addr : IpNet → IpAddr
  | .v4 addr _ => .v4 addr
  | .v6 addr _ => .v6 addr

inductive DestinationClass where
  | publicSource
  | privateSource
  | alwaysBlocked
deriving DecidableEq, Repr

structure LocalNetworkEntry where
  network : IpNet
  name : String
  index : Option UInt32
  adapterId : Option String
deriving DecidableEq, Repr

structure LocalNetworks where
  interfaces : List LocalNetworkEntry
deriving DecidableEq, Repr

def LocalNetworks.contains (networks : LocalNetworks) (ip : IpAddr) : Bool :=
  networks.interfaces.any fun interface => interface.network.contains ip

def LocalNetworks.containsAddress (networks : LocalNetworks) (ip : IpAddr) : Bool :=
  networks.interfaces.any fun interface => interface.network.addr == ip

structure Nat64Prefix where
  network : Ipv6Addr
  length : Nat
deriving DecidableEq, Repr

def wellKnownNat64 : Nat64Prefix := ⟨.new 0x64 0xff9b 0 0 0 0 0 0, 96⟩

def privateV4Nets : List IpNet :=
  [.v4 (.new 10 0 0 0) 8, .v4 (.new 100 64 0 0) 10, .v4 (.new 127 0 0 0) 8,
    .v4 (.new 169 254 0 0) 16, .v4 (.new 172 16 0 0) 12, .v4 (.new 192 168 0 0) 16]

def alwaysBlockedV4Nets : List IpNet :=
  [.v4 (.new 0 0 0 0) 8, .v4 (.new 192 0 0 0) 24, .v4 (.new 192 0 2 0) 24,
    .v4 (.new 192 31 196 0) 24, .v4 (.new 192 52 193 0) 24, .v4 (.new 192 88 99 0) 24,
    .v4 (.new 192 175 48 0) 24, .v4 (.new 198 18 0 0) 15, .v4 (.new 198 51 100 0) 24,
    .v4 (.new 203 0 113 0) 24, .v4 (.new 224 0 0 0) 4, .v4 (.new 240 0 0 0) 4]

def metadataV4Nets : List IpNet :=
  [.v4 (.new 168 63 129 16) 32, .v4 (.new 169 254 0 23) 32, .v4 (.new 169 254 10 10) 32,
    .v4 (.new 169 254 42 42) 32, .v4 (.new 169 254 169 253) 32, .v4 (.new 169 254 169 254) 32,
    .v4 (.new 169 254 170 2) 32, .v4 (.new 169 254 170 23) 32, .v4 (.new 100 100 100 200) 32,
    .v4 (.new 192 0 0 192) 32]

def privateV6Nets : List IpNet :=
  [.v6 (.new 0 0 0 0 0 0 0 1) 128, .v6 (.new 0xfc00 0 0 0 0 0 0 0) 7,
    .v6 (.new 0xfe80 0 0 0 0 0 0 0) 10]

def alwaysBlockedV6Nets : List IpNet :=
  [.v6 (.new 0 0 0 0 0 0 0 0) 128, .v6 (.new 0x100 0 0 0 0 0 0 0) 64,
    .v6 (.new 0x100 0 0 1 0 0 0 0) 64, .v6 (.new 0x2001 0 0 0 0 0 0 0) 23,
    .v6 (.new 0x2001 0xdb8 0 0 0 0 0 0) 32, .v6 (.new 0x2620 0x4f 0x8000 0 0 0 0 0) 48,
    .v6 (.new 0x3ffe 0 0 0 0 0 0 0) 16, .v6 (.new 0x3fff 0 0 0 0 0 0 0) 20,
    .v6 (.new 0x5f00 0 0 0 0 0 0 0) 16, .v6 (.new 0xff00 0 0 0 0 0 0 0) 8]

def metadataV6Nets : List IpNet :=
  [.v6 (.new 0xfd00 0x42 0 0 0 0 0 0x42) 128, .v6 (.new 0xfd00 0xec2 0 0 0 0 0 0x23) 128,
    .v6 (.new 0xfd00 0xec2 0 0 0 0 0 0x254) 128, .v6 (.new 0xfd20 0xce 0 0 0 0 0 0x254) 128]

def globalUnicastV6Net : IpNet := .v6 (.new 0x2000 0 0 0 0 0 0 0) 3

def rfc8215Net : IpNet := .v6 (.new 0x64 0xff9b 1 0 0 0 0 0) 48

def contains (nets : List IpNet) (ip : IpAddr) : Bool :=
  nets.any fun network => network.contains ip

def classifyV4 (ip : Ipv4Addr) (networks : LocalNetworks) : DestinationClass :=
  if contains metadataV4Nets (.v4 ip) || contains alwaysBlockedV4Nets (.v4 ip) then .alwaysBlocked
  else if networks.contains (.v4 ip) || contains privateV4Nets (.v4 ip) then .privateSource
  else .publicSource

def extract6to4 (ip : Ipv6Addr) : Option Ipv4Addr :=
  if ip.octets.take 2 = [0x20, 0x02] then
    some (.new (ip.octet 2) (ip.octet 3) (ip.octet 4) (ip.octet 5))
  else none

def extractTeredoClient (ip : Ipv6Addr) : Option Ipv4Addr :=
  if ip.octets.take 4 = [0x20, 0x01, 0x00, 0x00] then
    some (.new (~~~ip.octet 12) (~~~ip.octet 13) (~~~ip.octet 14) (~~~ip.octet 15))
  else none

def extractIpv4Compatible (ip : Ipv6Addr) : Option Ipv4Addr :=
  if (ip.octets.take 12).all (· == 0) then
    let embedded := Ipv4Addr.new (ip.octet 12) (ip.octet 13) (ip.octet 14) (ip.octet 15)
    if embedded ≠ 0 ∧ embedded ≠ .new 0 0 0 1 then some embedded else none
  else none

def extractIpv4Translatable (ip : Ipv6Addr) : Option Ipv4Addr :=
  if (ip.octets.take 8).all (· == 0) ∧
      (ip.octets.drop 8).take 4 = [0xff, 0xff, 0x00, 0x00] then
    some (.new (ip.octet 12) (ip.octet 13) (ip.octet 14) (ip.octet 15))
  else none

def validLengths : List Nat := [32, 40, 48, 56, 64, 96]

def prefixMask (length : Nat) : BitVec 128 := BitVec.allOnes 128 <<< (128 - length)

def extractRfc6052 (ip : Ipv6Addr) (pref : Nat64Prefix) : Option Ipv4Addr :=
  if pref.length ∉ validLengths then none
  else
    let mask := if pref.length = 0 then 0 else prefixMask pref.length
    if ip &&& mask ≠ pref.network &&& mask then none
    else
      let embedded : Option Ipv4Addr :=
        match pref.length with
        | 32 => some (.new (ip.octet 4) (ip.octet 5) (ip.octet 6) (ip.octet 7))
        | 40 => some (.new (ip.octet 5) (ip.octet 6) (ip.octet 7) (ip.octet 9))
        | 48 => some (.new (ip.octet 6) (ip.octet 7) (ip.octet 9) (ip.octet 10))
        | 56 => some (.new (ip.octet 7) (ip.octet 9) (ip.octet 10) (ip.octet 11))
        | 64 => some (.new (ip.octet 9) (ip.octet 10) (ip.octet 11) (ip.octet 12))
        | 96 => some (.new (ip.octet 12) (ip.octet 13) (ip.octet 14) (ip.octet 15))
        | _ => none
      if ip.octet 8 ≠ 0 then none else embedded

/-- Two networks overlap as soon as either holds the other's first address. -/
def overlapsBlocked (network : Ipv6Addr) (length : Fin 129) : Bool :=
  (alwaysBlockedV6Nets ++ metadataV6Nets).any fun blocked =>
    match blocked with
    | .v6 addr prefixLen =>
        (IpNet.v6 network length).contains (.v6 (addr &&& prefixMask prefixLen.val)) ||
          (IpNet.v6 addr prefixLen).contains (.v6 (network &&& prefixMask length.val))
    | .v4 _ _ => false

def nat64PrefixIsUsable (pref : Nat64Prefix) : Bool :=
  if pref.length ∉ validLengths ∨ pref.network.octet 8 ≠ 0 then false
  else if bounded : pref.length < 129 then
    if pref.network &&& prefixMask pref.length ≠ pref.network then false
    else if overlapsBlocked pref.network ⟨pref.length, bounded⟩ then false
    else if pref = wellKnownNat64 then true
    else
      globalUnicastV6Net.contains (.v6 pref.network) ||
        pref.network.segment 0 &&& 0xfe00 == 0xfc00 ||
        (pref.length == 56 || pref.length == 64 || pref.length == 96) &&
          rfc8215Net.contains (.v6 (pref.network &&& prefixMask pref.length))
  else false

def nat64PrefixAddressSpaceIsValid (pref : Nat64Prefix) : Bool := nat64PrefixIsUsable pref

def isRfc8215Address (ip : Ipv6Addr) : Bool := rfc8215Net.contains (.v6 ip)

def embeddedIpv4Candidates (ip : Ipv6Addr) (prefixes : List Nat64Prefix) : List Ipv4Addr :=
  sortDedup BitVec.toNat
    (ip.toIpv4Mapped.toList ++ (extractRfc6052 ip wellKnownNat64).toList ++
      (prefixes.filter nat64PrefixAddressSpaceIsValid).filterMap (extractRfc6052 ip))

def normalizedEmbeddedIpv4 (ip : Ipv6Addr) (nat64 : List Nat64Prefix) : Option Ipv4Addr :=
  (embeddedIpv4Candidates ip nat64).head?

def combineClasses : DestinationClass → DestinationClass → DestinationClass
  | .alwaysBlocked, _ | _, .alwaysBlocked => .alwaysBlocked
  | .privateSource, _ | _, .privateSource => .privateSource
  | .publicSource, .publicSource => .publicSource

def classifyV6 (ip : Ipv6Addr) (networks : LocalNetworks) (nat64 : List Nat64Prefix) :
    DestinationClass :=
  match ip.toIpv4Mapped with
  | some embedded => classifyV4 embedded networks
  | none =>
    if (extractIpv4Compatible ip).isSome || (extractIpv4Translatable ip).isSome ||
        (extract6to4 ip).isSome || (extractTeredoClient ip).isSome then .alwaysBlocked
    else if contains metadataV6Nets (.v6 ip) || contains alwaysBlockedV6Nets (.v6 ip) then
      .alwaysBlocked
    else
      let embedded := embeddedIpv4Candidates ip nat64
      if embedded ≠ [] then
        let combined := (embedded.map (classifyV4 · networks)).foldl combineClasses .publicSource
        if networks.containsAddress (.v6 ip) then combineClasses combined .privateSource else combined
      else if networks.contains (.v6 ip) || contains privateV6Nets (.v6 ip) then .privateSource
      else if globalUnicastV6Net.contains (.v6 ip) then .publicSource
      else .alwaysBlocked

def classifyIp (ip : IpAddr) (networks : LocalNetworks) (nat64 : List Nat64Prefix) :
    DestinationClass :=
  match ip with
  | .v4 ip => classifyV4 ip networks
  | .v6 ip => classifyV6 ip networks nat64

def maxDnsAnswers : Nat := 32

/-- Instants are in milliseconds. -/
def nat64CacheTtl : Nat := 5 * 60 * 1000

inductive SocketAddr where
  | v4 (ip : Ipv4Addr) (port : BitVec 16)
  | v6 (ip : Ipv6Addr) (port : BitVec 16) (flowinfo scopeId : BitVec 32)
deriving DecidableEq, Repr

namespace SocketAddr

def new (ip : IpAddr) (port : BitVec 16) : SocketAddr :=
  match ip with
  | .v4 ip => .v4 ip port
  | .v6 ip => .v6 ip port 0 0

def ip : SocketAddr → IpAddr
  | .v4 ip _ => .v4 ip
  | .v6 ip _ _ _ => .v6 ip

def port : SocketAddr → BitVec 16
  | .v4 _ port | .v6 _ port _ _ => port

def setPort (address : SocketAddr) (port : BitVec 16) : SocketAddr :=
  match address with
  | .v4 ip _ => .v4 ip port
  | .v6 ip _ flowinfo scopeId => .v6 ip port flowinfo scopeId

/-- The derived order: IPv4 before IPv6, then field by field. -/
def sortKey : SocketAddr → List Nat
  | .v4 ip port => [0, ip.toNat, port.toNat]
  | .v6 ip port flowinfo scopeId => [1, ip.toNat, port.toNat, flowinfo.toNat, scopeId.toNat]

theorem sortKey_injective : Function.Injective sortKey := by
  intro left right same
  cases left <;> cases right <;>
    simp_all [sortKey, BitVec.toNat_inj]

def isUnscopedLinkLocal : SocketAddr → Bool
  | .v4 _ _ => false
  | .v6 ip _ _ scopeId => Ipv6Addr.isUnicastLinkLocal ip && scopeId == 0

end SocketAddr

def normalizeSocket : SocketAddr → SocketAddr
  | .v4 ip port => .v4 ip port
  | .v6 ip port _ scopeId => .v6 ip port 0 (if Ipv6Addr.isUnicastLinkLocal ip then scopeId else 0)

def listenerSocketCandidates (socket : SocketAddr) (nat64 : List Nat64Prefix) : List SocketAddr :=
  let socket := normalizeSocket socket
  let embedded := match socket with
    | .v4 _ _ => []
    | .v6 ip port _ _ => (embeddedIpv4Candidates ip nat64).map (SocketAddr.v4 · port)
  sortDedup SocketAddr.sortKey (socket :: embedded)

def listenerEndpointMatches (listener target : SocketAddr) : Bool :=
  if listener.port ≠ target.port then false
  else
    match listener, target with
    | .v4 listener _, .v4 target _ => listener == target
    | .v6 listener _ _ listenerScope, .v6 target _ _ targetScope =>
        listener == target &&
          (!Ipv6Addr.isUnicastLinkLocal listener || listenerScope == 0 ||
            listenerScope == targetScope)
    | _, _ => false

inductive DestinationError where
  | unsupportedScheme
  | missingHost
  | resolutionFailed
  | blocked
  | localNetworkUnavailable
deriving DecidableEq, Repr

def ipv4Only : List Ipv4Addr := [.new 192 0 0 170, .new 192 0 0 171]

def candidatePrefixes (answers : List Ipv6Addr) : List Nat64Prefix :=
  (validLengths.flatMap fun length => answers.map fun address =>
    ⟨address &&& prefixMask length, length⟩).filter fun pref =>
      nat64PrefixIsUsable pref &&
        ipv4Only.all fun known => answers.any fun answer => extractRfc6052 answer pref == some known

def nat64PrefixKey (pref : Nat64Prefix) : List Nat := [pref.length, pref.network.toNat]

def discoverNat64Prefixes (answers : List SocketAddr) :
    Except DestinationError (List Nat64Prefix) :=
  let ipv4 := answers.filterMap fun answer => match answer.ip with | .v4 ip => some ip | .v6 _ => none
  let ipv6 := answers.filterMap fun answer => match answer.ip with | .v6 ip => some ip | .v4 _ => none
  if answers = [] ∨ ipv4.any (· ∉ ipv4Only) then .error .resolutionFailed
  -- Either both of the well-known addresses are among the answers or neither is.
  else if ¬ (ipv4 = [] ∨ ipv4Only.all (· ∈ ipv4)) then .error .resolutionFailed
  else if ipv6 = [] then .ok []
  else
    let prefixes := sortBy nat64PrefixKey (candidatePrefixes ipv6).eraseDups
    let accountedFor := ipv6.all fun answer => prefixes.any fun pref =>
      (extractRfc6052 answer pref).any (· ∈ ipv4Only)
    if prefixes = [] ∨ !accountedFor then .error .resolutionFailed
    else .ok (prefixes.filter (· ≠ wellKnownNat64))

structure OutboundPolicy where
  allowPrivateNetworkSources : Bool
deriving DecidableEq, Repr

structure CachedNat64Prefixes where
  expiresAt : Nat
  prefixes : List Nat64Prefix
  failed : Bool
  localNetworks : LocalNetworks
deriving DecidableEq, Repr

structure DestinationValidator where
  listeners : List SocketAddr
  nat64Cache : Option CachedNat64Prefixes
deriving DecidableEq, Repr

-- What one validation gets from its resolver, its local network provider, its clock and its
-- timeout. `refreshed` is the cache as found once the refresh lock is held.
structure ValidationContext where
  timedOut : Bool
  localNetworks : Option LocalNetworks
  resolved : Option (List SocketAddr)
  now : Nat
  refreshed : Option CachedNat64Prefixes
  refreshedNow : Nat
  ipv4OnlyAnswers : Option (List SocketAddr)
  storedNow : Nat
deriving DecidableEq, Repr

structure ResolvedDestination (Url : Type) where
  url : Url
  domain : Option Bytes
  addrs : List SocketAddr
deriving Repr

def DestinationValidator.new (listeners : List SocketAddr) : DestinationValidator :=
  ⟨listeners.map normalizeSocket, none⟩

def cachedNat64Prefixes (cache : Option CachedNat64Prefixes) (now : Nat) (networks : LocalNetworks) :
    Option (Except DestinationError (List Nat64Prefix)) :=
  (cache.filter fun cached => now < cached.expiresAt && cached.localNetworks == networks).map
    fun cached => if cached.failed then .error .resolutionFailed else .ok cached.prefixes

def needsDiscovery (addresses : List SocketAddr) (networks : LocalNetworks)
    (policy : OutboundPolicy) : Bool :=
  addresses.any fun address =>
    match address.ip with
    | .v4 _ => false
    | .v6 ip =>
        if (normalizedEmbeddedIpv4 ip []).isSome then false
        else if isRfc8215Address ip then true
        else
          match classifyIp (.v6 ip) networks [] with
          | .publicSource => true
          | .privateSource =>
              policy.allowPrivateNetworkSources && !Ipv6Addr.isLoopback ip &&
                !Ipv6Addr.isUnicastLinkLocal ip
          | .alwaysBlocked => false

namespace DestinationValidator

def matchesListener (validator : DestinationValidator) (target : SocketAddr)
    (networks : LocalNetworks) (nat64 : List Nat64Prefix) : Bool :=
  let target := normalizeSocket target
  let targetCandidates := listenerSocketCandidates target nat64
  validator.listeners.any fun listener =>
    if listener.port ≠ target.port then false
    else if listener.ip.isUnspecified then
      targetCandidates.any fun candidate =>
        match listener with
        | .v4 _ _ =>
            (candidate matches .v4 _ _) &&
              (candidate.ip.isLoopback || networks.containsAddress candidate.ip)
        | .v6 _ _ _ _ => candidate.ip.isLoopback || networks.containsAddress candidate.ip
    else
      (listenerSocketCandidates listener nat64).any fun listenerCandidate =>
        targetCandidates.any fun targetCandidate =>
          listenerEndpointMatches listenerCandidate targetCandidate

def addressAllowed (validator : DestinationValidator) (networks : LocalNetworks)
    (nat64 : List Nat64Prefix) (policy : OutboundPolicy) (address : SocketAddr) : Bool :=
  if address.isUnscopedLinkLocal then false
  else if validator.matchesListener address networks nat64 then false
  else
    match classifyIp address.ip networks nat64 with
    | .publicSource => true
    | .privateSource => policy.allowPrivateNetworkSources
    | .alwaysBlocked => false

def validateAddresses (validator : DestinationValidator) (addresses : List SocketAddr)
    (networks : LocalNetworks) (nat64 : List Nat64Prefix) (policy : OutboundPolicy) :
    Except DestinationError Unit :=
  if addresses.all (validator.addressAllowed networks nat64 policy) then .ok () else .error .blocked

def nat64PrefixesFor (validator : DestinationValidator) (context : ValidationContext)
    (addresses : List SocketAddr) (networks : LocalNetworks) (policy : OutboundPolicy) :
    Except DestinationError (List Nat64Prefix) × Option CachedNat64Prefixes :=
  if !needsDiscovery addresses networks policy then (.ok [], validator.nat64Cache)
  else
    match cachedNat64Prefixes validator.nat64Cache context.now networks with
    | some prefixes => (prefixes, validator.nat64Cache)
    | none =>
        match cachedNat64Prefixes context.refreshed context.refreshedNow networks with
        | some prefixes => (prefixes, context.refreshed)
        | none =>
            let discovered := match context.ipv4OnlyAnswers with
              | some answers =>
                  if answers.length ≤ maxDnsAnswers then discoverNat64Prefixes answers
                  else .error .resolutionFailed
              | none => .error .resolutionFailed
            let cached : CachedNat64Prefixes := match discovered with
              | .ok prefixes => ⟨context.storedNow + nat64CacheTtl, prefixes, false, networks⟩
              | .error _ => ⟨context.storedNow + nat64CacheTtl, [], true, networks⟩
            (discovered, some cached)

def checkAddresses (validator : DestinationValidator) (context : ValidationContext)
    (addresses : List SocketAddr) (networks : LocalNetworks) (policy : OutboundPolicy) :
    Except DestinationError Unit := do
  let nat64 ← (validator.nat64PrefixesFor context addresses networks policy).1
  validator.validateAddresses addresses networks nat64 policy

def validateInner (crate : UrlCrate) (validator : DestinationValidator)
    (context : ValidationContext) (url : crate.Url) (policy : OutboundPolicy) :
    Except DestinationError (ResolvedDestination crate.Url) :=
  if !crate.isHttp url then .error .unsupportedScheme
  else
    match crate.host url, crate.portOrKnownDefault url with
    | none, _ | _, none => .error .missingHost
    | some host, some port =>
        let canonicalUrl := crate.clearFragment url
        match host with
        | .domain domain =>
            match context.localNetworks, context.resolved with
            | none, _ => .error .localNetworkUnavailable
            | some _, none => .error .resolutionFailed
            | some networks, some resolved =>
                if resolved = [] ∨ maxDnsAnswers < resolved.length then .error .resolutionFailed
                else
                  let addresses := sortDedup SocketAddr.sortKey
                    (resolved.map fun address => normalizeSocket (address.setPort port))
                  (validator.checkAddresses context addresses networks policy).map fun _ =>
                    ⟨canonicalUrl, some domain, addresses⟩
        | .ipv4 ip =>
            match context.localNetworks with
            | none => .error .localNetworkUnavailable
            | some networks =>
                (validator.checkAddresses context [.new (.v4 ip) port] networks policy).map fun _ =>
                  ⟨canonicalUrl, none, [.new (.v4 ip) port]⟩
        | .ipv6 ip =>
            match context.localNetworks with
            | none => .error .localNetworkUnavailable
            | some networks =>
                (validator.checkAddresses context [.new (.v6 ip) port] networks policy).map fun _ =>
                  ⟨canonicalUrl, none, [.new (.v6 ip) port]⟩

def validate (crate : UrlCrate) (validator : DestinationValidator) (context : ValidationContext)
    (url : crate.Url) (policy : OutboundPolicy) :
    Except DestinationError (ResolvedDestination crate.Url) :=
  if context.timedOut then .error .resolutionFailed
  else validator.validateInner crate context url policy

end DestinationValidator

def answersFor (crate : UrlCrate) (context : ValidationContext) (url : crate.Url)
    (port : BitVec 16) : Option (List SocketAddr) :=
  match crate.host url with
  | some (.domain _) => context.resolved
  | some (.ipv4 ip) => some [.new (.v4 ip) port]
  | some (.ipv6 ip) => some [.new (.v6 ip) port]
  | none => none

structure PinnedExactly (pinned answers : List SocketAddr) (port : BitVec 16) : Prop where
  nonempty : pinned ≠ []
  nodup : pinned.Nodup
  members : ∀ address, address ∈ pinned ↔
    ∃ answer ∈ answers, address = normalizeSocket (answer.setPort port)

structure AddressAdmitted (validator : DestinationValidator) (networks : LocalNetworks)
    (nat64 : List Nat64Prefix) (policy : OutboundPolicy) (address : SocketAddr) : Prop where
  onLink : address.isUnscopedLinkLocal = false
  foreign : validator.matchesListener address networks nat64 = false
  permitted : classifyIp address.ip networks nat64 = .publicSource ∨
    classifyIp address.ip networks nat64 = .privateSource ∧ policy.allowPrivateNetworkSources = true

namespace DestinationValidator

variable (validator : DestinationValidator) (networks : LocalNetworks) (nat64 : List Nat64Prefix)
  (policy : OutboundPolicy)

theorem addressAllowed_iff (address : SocketAddr) :
    validator.addressAllowed networks nat64 policy address = true ↔
      AddressAdmitted validator networks nat64 policy address := by
  unfold addressAllowed
  constructor
  · intro allowed
    split at allowed
    next => cases allowed
    next onLink =>
      split at allowed
      next => cases allowed
      next foreign =>
        refine ⟨by simpa using onLink, by simpa using foreign, ?_⟩
        split at allowed
        next admitted => exact .inl admitted
        next admitted => exact .inr ⟨admitted, allowed⟩
        next => cases allowed
  · rintro ⟨onLink, foreign, permitted | ⟨permitted, optedIn⟩⟩
    · simp [onLink, foreign, permitted]
    · simp [onLink, foreign, permitted, optedIn]

theorem validateAddresses_ok_iff (addresses : List SocketAddr) :
    validator.validateAddresses addresses networks nat64 policy = .ok () ↔
      ∀ address ∈ addresses, AddressAdmitted validator networks nat64 policy address := by
  unfold validateAddresses
  simp only [← addressAllowed_iff]
  split
  next all => simpa using all
  next some => simpa using some

variable {validator networks policy}

theorem checkAddresses_ok {context : ValidationContext} {addresses : List SocketAddr}
    (ok : validator.checkAddresses context addresses networks policy = .ok ()) :
    ∃ nat64, (validator.nat64PrefixesFor context addresses networks policy).1 = .ok nat64 ∧
      ∀ address ∈ addresses, AddressAdmitted validator networks nat64 policy address := by
  unfold checkAddresses at ok
  cases prefixes : (validator.nat64PrefixesFor context addresses networks policy).1 with
  | error error =>
    rw [prefixes] at ok
    cases ok
  | ok nat64 =>
    rw [prefixes] at ok
    exact ⟨nat64, rfl, (validateAddresses_ok_iff validator networks nat64 policy addresses).mp ok⟩

theorem pinnedExactly_resolved {resolved : List SocketAddr} (answered : resolved ≠ [])
    (port : BitVec 16) :
    PinnedExactly (sortDedup SocketAddr.sortKey
      (resolved.map fun address => normalizeSocket (address.setPort port))) resolved port where
  nonempty := by
    rw [Ne, sortDedup_eq_nil]
    simpa using answered
  nodup := sortDedup_nodup _ SocketAddr.sortKey_injective _
  members address := by
    rw [mem_sortDedup, List.mem_map]
    simp only [eq_comm]

theorem pinnedExactly_literal (ip : IpAddr) (port : BitVec 16) :
    PinnedExactly [.new ip port] [.new ip port] port where
  nonempty := by simp
  nodup := List.nodup_singleton _
  members address := by
    have normal : normalizeSocket ((SocketAddr.new ip port).setPort port) = .new ip port := by
      cases ip <;> simp [SocketAddr.new, SocketAddr.setPort, normalizeSocket]
    simp [normal]

structure Sound (crate : UrlCrate) (validator : DestinationValidator) (context : ValidationContext)
    (url : crate.Url) (policy : OutboundPolicy) (destination : ResolvedDestination crate.Url) :
    Prop where
  canonical : destination.url = crate.clearFragment url
  checked : ∃ port answers networks nat64, crate.portOrKnownDefault url = some port ∧
    answersFor crate context url port = some answers ∧
    context.localNetworks = some networks ∧
    (validator.nat64PrefixesFor context destination.addrs networks policy).1 = .ok nat64 ∧
    PinnedExactly destination.addrs answers port ∧
    ∀ address ∈ destination.addrs, AddressAdmitted validator networks nat64 policy address

theorem checked_sound {crate : UrlCrate} {context : ValidationContext} {url : crate.Url}
    {destination : ResolvedDestination crate.Url} {port : BitVec 16} {answers addresses : List SocketAddr}
    {domain : Option Bytes} (ported : crate.portOrKnownDefault url = some port)
    (answered : answersFor crate context url port = some answers)
    (current : context.localNetworks = some networks) (pinned : PinnedExactly addresses answers port)
    (passed : (validator.checkAddresses context addresses networks policy).map
      (fun _ => (⟨crate.clearFragment url, domain, addresses⟩ : ResolvedDestination crate.Url)) =
        .ok destination) : Sound crate validator context url policy destination := by
  cases result : validator.checkAddresses context addresses networks policy with
  | error error =>
    rw [result] at passed
    cases passed
  | ok _ =>
    rw [result] at passed
    cases passed
    obtain ⟨nat64, discovered, admitted⟩ := checkAddresses_ok result
    exact ⟨rfl,
      port, answers, networks, nat64, ported, answered, current, discovered, pinned, admitted⟩

theorem validateInner_sound {crate : UrlCrate} {context : ValidationContext} {url : crate.Url}
    {destination : ResolvedDestination crate.Url}
    (ok : validator.validateInner crate context url policy = .ok destination) :
    Sound crate validator context url policy destination := by
  unfold validateInner at ok
  split at ok
  next => cases ok
  next =>
  split at ok
  next => cases ok
  next => cases ok
  next host port hosted ported =>
  simp only at ok
  split at ok
  next domain =>
    split at ok
    next => cases ok
    next => cases ok
    next networks resolved current answered =>
      split at ok
      next => cases ok
      next counted =>
        rw [not_or] at counted
        apply checked_sound ported _ current (pinnedExactly_resolved counted.1 port) ok
        simp [answersFor, hosted, answered]
  next ip =>
    split at ok
    next => cases ok
    next networks current =>
      apply checked_sound ported _ current (pinnedExactly_literal (.v4 ip) port) ok
      simp [answersFor, hosted]
  next ip =>
    split at ok
    next => cases ok
    next networks current =>
      apply checked_sound ported _ current (pinnedExactly_literal (.v6 ip) port) ok
      simp [answersFor, hosted]

theorem validate_ok {crate : UrlCrate} {context : ValidationContext} {url : crate.Url}
    {destination : ResolvedDestination crate.Url}
    (ok : validator.validate crate context url policy = .ok destination) :
    validator.validateInner crate context url policy = .ok destination := by
  unfold validate at ok
  split at ok
  next => cases ok
  next => exact ok

theorem validate_sound (crate : UrlCrate) (context : ValidationContext) (url : crate.Url)
    (destination : ResolvedDestination crate.Url)
    (ok : validator.validate crate context url policy = .ok destination) :
    Sound crate validator context url policy destination :=
  validateInner_sound (validate_ok ok)

theorem validate_two_answers :
    Sound .exampleHost (.new [.v4 (.new 127 0 0 1) 11470])
      ⟨false, some ⟨[]⟩, some [.v6 (.new 0x2606 0x2800 0x220 1 0x248 0x1893 0x25c8 0x1946) 0 0 0,
        .v4 (.new 93 184 216 34) 0, .v4 (.new 93 184 216 34) 0], 0, none, 0,
        some [.v4 (.new 192 0 0 170) 0, .v4 (.new 192 0 0 171) 0], 0⟩ () ⟨false⟩
      ⟨(), some (utf8 "example.com"), [.v4 (.new 93 184 216 34) 80,
        .v6 (.new 0x2606 0x2800 0x220 1 0x248 0x1893 0x25c8 0x1946) 80 0 0]⟩ :=
  validate_sound .exampleHost _ _ _ rfl

end DestinationValidator

end StreamServer.NetworkSecurity
