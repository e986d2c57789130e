import Mathlib.Data.List.Lemmas
import StreamServer.NetworkSecurity.Discovery

set_option autoImplicit false

namespace StreamServer.NetworkSecurity

open SortDedup

section Octets

def Ipv4Addr.octet (ip : Ipv4Addr) (index : Nat) : BitVec 8 :=
  (ip >>> (8 * (3 - index))).setWidth 8

theorem Ipv4Addr.new_octets (ip : Ipv4Addr) :
    Ipv4Addr.new (ip.octet 0) (ip.octet 1) (ip.octet 2) (ip.octet 3) = ip := by
  refine BitVec.eq_of_getLsbD_eq fun bit bounded => ?_
  unfold Ipv4Addr.new Ipv4Addr.octet
  simp only [BitVec.getLsbD_append, BitVec.getLsbD_setWidth, BitVec.getLsbD_ushiftRight]
  rcases (by omega : bit < 8 ∨ (8 ≤ bit ∧ bit < 16) ∨ (16 ≤ bit ∧ bit < 24) ∨ 24 ≤ bit)
    with place | place | place | place
  · simp [place]
  · simp [show ¬ bit < 8 by omega, show bit - 8 < 8 by omega, show 8 + (bit - 8) = bit by omega]
  · simp [show ¬ bit < 8 by omega, show ¬ bit - 8 < 8 by omega, show bit - 8 - 8 < 8 by omega,
      show 16 + (bit - 8 - 8) = bit by omega]
  · simp [show ¬ bit < 8 by omega, show ¬ bit - 8 < 8 by omega, show ¬ bit - 8 - 8 < 8 by omega,
      show bit - 8 - 8 - 8 < 8 by omega, show 24 + (bit - 8 - 8 - 8) = bit by omega]

def octetsUpTo (octet : Nat → BitVec 8) : Nat → BitVec 128
  | 0 => 0
  | count + 1 => octetsUpTo octet count <<< 8 ||| (octet count).setWidth 128

def Ipv6Addr.ofOctets (octet : Nat → BitVec 8) : Ipv6Addr := octetsUpTo octet 16

theorem getLsbD_octetsUpTo (octet : Nat → BitVec 8) {count : Nat} (few : count ≤ 16) {bit : Nat}
    (inside : bit < 8 * count) :
    (octetsUpTo octet count).getLsbD bit = (octet (count - 1 - bit / 8)).getLsbD (bit % 8) := by
  induction count generalizing bit with
  | zero => omega
  | succ count ih =>
    simp only [octetsUpTo, BitVec.getLsbD_or, BitVec.getLsbD_shiftLeft, BitVec.getLsbD_setWidth]
    have word : bit < 128 := by omega
    by_cases last : bit < 8
    · have place : count + 1 - 1 - bit / 8 = count := by omega
      have same : bit % 8 = bit := Nat.mod_eq_of_lt last
      rw [place, same]
      simp [last, word]
    · have place : count - 1 - (bit - 8) / 8 = count + 1 - 1 - bit / 8 := by omega
      have same : (bit - 8) % 8 = bit % 8 := by omega
      rw [ih (by omega) (by omega), place, same, BitVec.getLsbD_of_ge (octet count) bit (by omega)]
      simp [last, word]

theorem Ipv6Addr.getLsbD_octet (ip : Ipv6Addr) {index bit : Nat} (bounded : bit < 8) :
    (ip.octet index).getLsbD bit = ip.getLsbD (8 * (15 - index) + bit) := by
  simp [Ipv6Addr.octet, bounded]

theorem Ipv6Addr.octet_ofOctets (octet : Nat → BitVec 8) {index : Nat} (inside : index < 16) :
    (Ipv6Addr.ofOctets octet).octet index = octet index := by
  refine BitVec.eq_of_getLsbD_eq fun bit bounded => ?_
  have place : 8 * (15 - index) + bit < 128 := by omega
  have whole : 15 - (8 * (15 - index) + bit) / 8 = index := by omega
  have part : (8 * (15 - index) + bit) % 8 = bit := by omega
  rw [Ipv6Addr.getLsbD_octet _ bounded, Ipv6Addr.ofOctets,
    getLsbD_octetsUpTo octet (Nat.le_refl 16) place, whole, part]

-- A mask of whole octets compares these octets.
theorem masked_eq_of_octets {left right : Ipv6Addr} {count : Nat} (few : count ≤ 16)
    (same : ∀ index, index < count → left.octet index = right.octet index) :
    left &&& prefixMask (8 * count) = right &&& prefixMask (8 * count) := by
  refine BitVec.eq_of_getLsbD_eq fun bit bounded => ?_
  simp only [BitVec.getLsbD_and, prefixMask, BitVec.getLsbD_shiftLeft, BitVec.getLsbD_allOnes]
  by_cases masked : bit < 128 - 8 * count
  · simp [masked]
  · have octet := congrArg (·.getLsbD (bit % 8)) (same (15 - bit / 8) (by omega))
    have place : 8 * (15 - (15 - bit / 8)) + bit % 8 = bit := by omega
    simp only [Ipv6Addr.getLsbD_octet _ (Nat.mod_lt bit (by decide : 8 > 0)), place] at octet
    rw [octet]

end Octets

section Embedding

/-- Where RFC 6052 puts the IPv4 octets: behind the prefix, octet 8 left out. -/
def embeddedPlaces (length : Nat) : List Nat :=
  ((List.range' (length / 8) (16 - length / 8)).filter (· ≠ 8)).take 4

def embedRfc6052 (pref : Nat64Prefix) (ip : Ipv4Addr) : Ipv6Addr :=
  .ofOctets fun place =>
    match (embeddedPlaces pref.length).idxOf? place with
    | some index => ip.octet index
    | none => if place < pref.length / 8 then pref.network.octet place else 0

theorem validLengths_cases {length : Nat} (valid : length ∈ validLengths) :
    length = 32 ∨ length = 40 ∨ length = 48 ∨ length = 56 ∨ length = 64 ∨ length = 96 := by
  simpa [validLengths] using valid

variable {pref : Nat64Prefix} (ip : Ipv4Addr) {place : Nat}

theorem octet_of_embedded (inside : place < 16) {index : Nat}
    (found : (embeddedPlaces pref.length).idxOf? place = some index) :
    (embedRfc6052 pref ip).octet place = ip.octet index := by
  rw [embedRfc6052, Ipv6Addr.octet_ofOctets _ inside, found]

theorem octet_of_prefix (inside : place < 16) (leading : place < pref.length / 8) :
    (embedRfc6052 pref ip).octet place = pref.network.octet place := by
  have outside : (embeddedPlaces pref.length).idxOf? place = none := by
    rw [List.idxOf?_eq_none_iff]
    intro member
    have range := List.mem_of_mem_filter (List.mem_of_mem_take member)
    rw [List.mem_range'_1] at range
    omega
  rw [embedRfc6052, Ipv6Addr.octet_ofOctets _ inside, outside]
  exact if_pos leading

theorem octet_reserved (reserved : pref.network.octet 8 = 0) :
    (embedRfc6052 pref ip).octet 8 = 0 := by
  have outside : (embeddedPlaces pref.length).idxOf? 8 = none := by
    rw [List.idxOf?_eq_none_iff]
    intro member
    have kept := List.of_mem_filter (List.mem_of_mem_take member)
    simp at kept
  rw [embedRfc6052, Ipv6Addr.octet_ofOctets _ (by decide), outside]
  simp [reserved]

theorem embedRfc6052_masked (valid : pref.length ∈ validLengths) :
    embedRfc6052 pref ip &&& prefixMask pref.length = pref.network &&& prefixMask pref.length := by
  have whole : 8 * (pref.length / 8) = pref.length := by
    rcases validLengths_cases valid with same | same | same | same | same | same <;> rw [same]
  have few : pref.length / 8 ≤ 16 := by
    rcases validLengths_cases valid with same | same | same | same | same | same <;> omega
  have masked : embedRfc6052 pref ip &&& prefixMask (8 * (pref.length / 8)) =
      pref.network &&& prefixMask (8 * (pref.length / 8)) :=
    masked_eq_of_octets few fun index leading => octet_of_prefix ip (by omega) leading
  rwa [whole] at masked

theorem new_of_places {first second third fourth : Nat}
    (places : embeddedPlaces pref.length = [first, second, third, fourth]) :
    Ipv4Addr.new ((embedRfc6052 pref ip).octet first) ((embedRfc6052 pref ip).octet second)
      ((embedRfc6052 pref ip).octet third) ((embedRfc6052 pref ip).octet fourth) = ip := by
  have distinct : [first, second, third, fourth].Nodup := by
    rw [← places]
    exact ((List.nodup_range' ..).filter _).sublist (List.take_sublist _ _)
  have inside (place : Nat) (member : place ∈ [first, second, third, fourth]) : place < 16 := by
    rw [← places] at member
    have range := List.mem_of_mem_filter (List.mem_of_mem_take member)
    rw [List.mem_range'_1] at range
    omega
  have octet (place index : Nat) (member : place ∈ [first, second, third, fourth])
      (found : [first, second, third, fourth].idxOf? place = some index) :
      (embedRfc6052 pref ip).octet place = ip.octet index :=
    octet_of_embedded ip (inside place member) (places ▸ found)
  simp only [List.nodup_cons, List.mem_cons, List.not_mem_nil, or_false, not_or] at distinct
  obtain ⟨⟨second', third', fourth'⟩, ⟨third'', fourth''⟩, last, -⟩ := distinct
  rw [octet first 0 (by simp) (by simp [List.idxOf?_cons]),
    octet second 1 (by simp) (by simp [List.idxOf?_cons, second']),
    octet third 2 (by simp) (by simp [List.idxOf?_cons, third', third'']),
    octet fourth 3 (by simp) (by simp [List.idxOf?_cons, fourth', fourth'', last]),
    Ipv4Addr.new_octets]

theorem extractRfc6052_embedRfc6052 (valid : pref.length ∈ validLengths)
    (reserved : pref.network.octet 8 = 0) :
    extractRfc6052 (embedRfc6052 pref ip) pref = some ip := by
  have masked := embedRfc6052_masked ip valid
  have reserved := octet_reserved ip reserved
  have read {first second third fourth : Nat}
      (places : embeddedPlaces pref.length = [first, second, third, fourth]) :=
    new_of_places ip places
  obtain ⟨network, length⟩ := pref
  have nonzero : length ≠ 0 := by
    rcases validLengths_cases valid with same | same | same | same | same | same <;>
      simp only at same <;> omega
  unfold extractRfc6052
  simp only [valid, not_true_eq_false, if_false, nonzero, masked, ne_eq, reserved]
  rcases validLengths_cases valid with rfl | rfl | rfl | rfl | rfl | rfl <;>
    simp only [Option.some.injEq]
  · exact read (show embeddedPlaces 32 = [4, 5, 6, 7] by decide)
  · exact read (show embeddedPlaces 40 = [5, 6, 7, 9] by decide)
  · exact read (show embeddedPlaces 48 = [6, 7, 9, 10] by decide)
  · exact read (show embeddedPlaces 56 = [7, 9, 10, 11] by decide)
  · exact read (show embeddedPlaces 64 = [9, 10, 11, 12] by decide)
  · exact read (show embeddedPlaces 96 = [12, 13, 14, 15] by decide)

end Embedding

section Discovery

variable {answers : List SocketAddr} {prefixes : List Nat64Prefix} {pref : Nat64Prefix}

def ipv6Answers (answers : List SocketAddr) : List Ipv6Addr :=
  answers.filterMap fun answer => match answer.ip with | .v6 ip => some ip | .v4 _ => none

def ipv4Answers (answers : List SocketAddr) : List Ipv4Addr :=
  answers.filterMap fun answer => match answer.ip with | .v4 ip => some ip | .v6 _ => none

theorem mem_ipv6Answers {ip : Ipv6Addr} :
    ip ∈ ipv6Answers answers ↔ .v6 ip ∈ answers.map SocketAddr.ip := by
  simp only [ipv6Answers, List.mem_filterMap, List.mem_map]
  refine exists_congr fun answer => and_congr_right fun _ => ?_
  cases answer.ip <;> simp

theorem mem_ipv4Answers {ip : Ipv4Addr} :
    ip ∈ ipv4Answers answers ↔ .v4 ip ∈ answers.map SocketAddr.ip := by
  simp only [ipv4Answers, List.mem_filterMap, List.mem_map]
  refine exists_congr fun answer => and_congr_right fun _ => ?_
  cases answer.ip <;> simp

/-- The prefix reads one of the two well-known IPv4 addresses out of the answer. -/
def Explains (pref : Nat64Prefix) (answer : Ipv6Addr) : Prop :=
  ∃ known ∈ ipv4Only, extractRfc6052 answer pref = some known

def foundPrefixes (answers : List SocketAddr) : List Nat64Prefix :=
  sortBy nat64PrefixKey (candidatePrefixes (ipv6Answers answers)).eraseDups

theorem mem_foundPrefixes : pref ∈ foundPrefixes answers ↔
    (pref.length ∈ validLengths ∧
      ∃ answer ∈ ipv6Answers answers, answer &&& prefixMask pref.length = pref.network) ∧
    nat64PrefixIsUsable pref = true ∧
    ∀ known ∈ ipv4Only, ∃ answer ∈ ipv6Answers answers, extractRfc6052 answer pref = some known := by
  obtain ⟨network, length⟩ := pref
  simp only [foundPrefixes, candidatePrefixes, mem_sortBy, List.mem_eraseDups, List.mem_filter,
    List.mem_flatMap, List.mem_map, Nat64Prefix.mk.injEq, Bool.and_eq_true, List.all_eq_true,
    List.any_eq_true, beq_iff_eq]
  refine and_congr_left fun _ => ⟨?_, ?_⟩
  · rintro ⟨_, valid, answer, member, rfl, rfl⟩
    exact ⟨valid, answer, member, rfl⟩
  · rintro ⟨valid, answer, member, rfl⟩
    exact ⟨length, valid, answer, member, rfl, rfl⟩

theorem discoverNat64Prefixes_eq (answers : List SocketAddr) :
    discoverNat64Prefixes answers =
      if answers = [] ∨ (ipv4Answers answers).any (· ∉ ipv4Only) then .error .resolutionFailed
      else if ¬ (ipv4Answers answers = [] ∨ ipv4Only.all (· ∈ ipv4Answers answers)) then
        .error .resolutionFailed
      else if ipv6Answers answers = [] then .ok []
      else if foundPrefixes answers = [] ∨ !(ipv6Answers answers).all fun answer =>
          (foundPrefixes answers).any fun pref =>
            (extractRfc6052 answer pref).any (· ∈ ipv4Only) then .error .resolutionFailed
      else .ok ((foundPrefixes answers).filter (· ≠ wellKnownNat64)) :=
  rfl

theorem explained_iff {answer : Ipv6Addr} :
    (extractRfc6052 answer pref).any (· ∈ ipv4Only) = true ↔ Explains pref answer := by
  simp only [Option.any_eq_true, decide_eq_true_eq, Explains]
  exact exists_congr fun known => and_comm

theorem accounted_iff : ((ipv6Answers answers).all fun answer =>
      (foundPrefixes answers).any fun pref => (extractRfc6052 answer pref).any (· ∈ ipv4Only)) = true ↔
    ∀ answer ∈ ipv6Answers answers, ∃ pref ∈ foundPrefixes answers, Explains pref answer := by
  simp only [List.all_eq_true, List.any_eq_true, explained_iff]

structure Discovered (answers : List SocketAddr) (prefixes : List Nat64Prefix) : Prop where
  usable : ∀ pref ∈ prefixes, nat64PrefixIsUsable pref = true
  extracts : ∀ pref ∈ prefixes, ∀ known ∈ ipv4Only,
    ∃ ip, .v6 ip ∈ answers.map SocketAddr.ip ∧ extractRfc6052 ip pref = some known
  explained : ∀ ip, .v6 ip ∈ answers.map SocketAddr.ip →
    ∃ pref, (pref ∈ prefixes ∨ pref = wellKnownNat64) ∧ Explains pref ip
  removed : wellKnownNat64 ∉ prefixes

theorem discovered_of_ok (discovered : discoverNat64Prefixes answers = .ok prefixes) :
    Discovered answers prefixes := by
  rw [discoverNat64Prefixes_eq] at discovered
  split at discovered
  next => cases discovered
  split at discovered
  next => cases discovered
  split at discovered
  next none =>
    cases discovered
    refine ⟨by simp, by simp, fun ip member => ?_, by simp⟩
    rw [← mem_ipv6Answers, none] at member
    cases member
  split at discovered
  next => cases discovered
  next settled =>
    cases discovered
    have found {pref : Nat64Prefix}
        (member : pref ∈ (foundPrefixes answers).filter (· ≠ wellKnownNat64)) :=
      (mem_foundPrefixes.mp (List.mem_of_mem_filter member)).2
    have accounted := accounted_iff.mp (by simpa using (not_or.mp settled).2)
    refine ⟨fun pref member => (found member).1, fun pref member known isKnown => ?_,
      fun ip member => ?_, by simp⟩
    · obtain ⟨ip, answered, extracted⟩ := (found member).2 known isKnown
      exact ⟨ip, mem_ipv6Answers.mp answered, extracted⟩
    · obtain ⟨pref, member, explains⟩ := accounted ip (mem_ipv6Answers.mpr member)
      refine ⟨pref, ?_, explains⟩
      by_cases same : pref = wellKnownNat64
      · exact .inr same
      · exact .inl (List.mem_filter.mpr ⟨member, by simpa using same⟩)

def EmbedsKnown (pref : Nat64Prefix) (answers : List SocketAddr) : Prop :=
  ∀ ip, ip ∈ answers.map SocketAddr.ip ↔ ∃ known ∈ ipv4Only, ip = .v6 (embedRfc6052 pref known)

structure Canonical (pref : Nat64Prefix) : Prop where
  valid : pref.length ∈ validLengths
  reserved : pref.network.octet 8 = 0
  masked : pref.network &&& prefixMask pref.length = pref.network

theorem canonical_of_usable (usable : nat64PrefixIsUsable pref = true) : Canonical pref := by
  unfold nat64PrefixIsUsable at usable
  split at usable
  next => cases usable
  next shape =>
  split at usable
  next =>
    split at usable
    next => cases usable
    next masked =>
      rw [not_or, not_not, ne_eq, not_not] at shape
      exact ⟨shape.1, shape.2, not_not.mp masked⟩
  next => cases usable

theorem discovers_embedded (usable : nat64PrefixIsUsable pref = true)
    (embeds : EmbedsKnown pref answers) :
    ∃ found, discoverNat64Prefixes answers = .ok found ∧ (pref ≠ wellKnownNat64 → pref ∈ found) := by
  have canonical := canonical_of_usable usable
  have reads (known : Ipv4Addr) := extractRfc6052_embedRfc6052 known canonical.valid canonical.reserved
  have answer (known : Ipv4Addr) (isKnown : known ∈ ipv4Only) :
      embedRfc6052 pref known ∈ ipv6Answers answers :=
    mem_ipv6Answers.mpr ((embeds _).mpr ⟨known, isKnown, rfl⟩)
  have first := answer (.new 192 0 0 170) (by decide)
  have noIpv4 : ipv4Answers answers = [] := by
    refine List.eq_nil_iff_forall_not_mem.mpr fun ip member => ?_
    obtain ⟨known, -, same⟩ := (embeds _).mp (mem_ipv4Answers.mp member)
    cases same
  have member : pref ∈ foundPrefixes answers := by
    refine mem_foundPrefixes.mpr ⟨⟨canonical.valid, _, first, ?_⟩, usable, fun known isKnown =>
      ⟨_, answer known isKnown, reads known⟩⟩
    rw [embedRfc6052_masked _ canonical.valid, canonical.masked]
  have accounted := accounted_iff.mpr fun ip answered => by
    obtain ⟨known, isKnown, same⟩ := (embeds _).mp (mem_ipv6Answers.mp answered)
    cases same
    exact ⟨pref, member, known, isKnown, reads known⟩
  have some : answers ≠ [] := by
    rintro rfl
    cases first
  refine ⟨(foundPrefixes answers).filter (· ≠ wellKnownNat64), ?_, fun other =>
    List.mem_filter.mpr ⟨member, by simpa using other⟩⟩
  rw [discoverNat64Prefixes_eq, accounted]
  simp [some, noIpv4, List.ne_nil_of_mem first, List.ne_nil_of_mem member]

theorem discoverNat64Prefixes_guarantees (answers : List SocketAddr) (prefixes : List Nat64Prefix)
    (pref : Nat64Prefix) :
    (discoverNat64Prefixes answers = .ok prefixes → Discovered answers prefixes) ∧
    (nat64PrefixIsUsable pref = true →
      (∀ ip, extractRfc6052 (embedRfc6052 pref ip) pref = some ip) ∧
      (EmbedsKnown pref answers → ∃ found, discoverNat64Prefixes answers = .ok found ∧
        (pref ≠ wellKnownNat64 → pref ∈ found))) := by
  refine ⟨discovered_of_ok, fun usable => ⟨fun ip => ?_, discovers_embedded usable⟩⟩
  have canonical := canonical_of_usable usable
  exact extractRfc6052_embedRfc6052 ip canonical.valid canonical.reserved

def knownAnswers (pref : Nat64Prefix) : List SocketAddr :=
  ipv4Only.map fun known => .new (.v6 (embedRfc6052 pref known)) 0

theorem embedsKnown_knownAnswers (pref : Nat64Prefix) : EmbedsKnown pref (knownAnswers pref) := by
  intro ip
  simp [knownAnswers, SocketAddr.new, SocketAddr.ip, eq_comm]

def globalNat64 : Nat64Prefix := ⟨.new 0x2001 0x4860 0x64 0 0 0 0 0, 96⟩

theorem global_prefix_is_discovered :
    ∃ found, discoverNat64Prefixes (knownAnswers globalNat64) = .ok found ∧ globalNat64 ∈ found := by
  obtain ⟨found, discovered, member⟩ :=
    ((discoverNat64Prefixes_guarantees (knownAnswers globalNat64) [] globalNat64).2 (by decide)).2
      (embedsKnown_knownAnswers globalNat64)
  exact ⟨found, discovered, member (by decide)⟩

theorem wellKnown_prefix_is_not_returned :
    ¬ ∀ pref answers, nat64PrefixIsUsable pref = true → EmbedsKnown pref answers →
      ∃ found, discoverNat64Prefixes answers = .ok found ∧ pref ∈ found := by
  intro every
  obtain ⟨found, discovered, member⟩ :=
    every wellKnownNat64 _ (by decide) (embedsKnown_knownAnswers wellKnownNat64)
  exact (discovered_of_ok discovered).removed member

end Discovery

end StreamServer.NetworkSecurity
