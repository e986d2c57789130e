import StreamServer.NetworkSecurity.Resolver
import StreamServer.Shared.Lists
import StreamServer.Shared.Runs

set_option autoImplicit false

namespace StreamServer.NetworkSecurity

open SortDedup

namespace Nat64Cache

-- One answered query for the well-known name: who asked, for which networks, when and with what
-- result.
structure Discovery where
  task : Nat
  networks : LocalNetworks
  moment : Nat
  result : Except DestinationError (List Nat64Prefix)

-- Where a validation is suspended. Both parts of the first wait come back in any order, `none`
-- standing for an error. `obtained` is when it got hold of its prefixes.
inductive Place where
  | resolving (networks : Option (Option LocalNetworks))
      (addresses : Option (Except DestinationError (List SocketAddr)))
  | waiting (networks : LocalNetworks) (addresses : List SocketAddr)
  | discovering (networks : LocalNetworks) (addresses : List SocketAddr)
  | storing (networks : LocalNetworks) (addresses : List SocketAddr)
      (discovered : Except DestinationError (List Nat64Prefix)) (expiresAt obtained : Nat)
  | checked (networks : LocalNetworks) (addresses : List SocketAddr) (obtained : Nat)
      (nat64 : Except DestinationError (List Nat64Prefix))
  | failed (error : DestinationError)

structure Validation where
  policy : OutboundPolicy
  port : BitVec 16
  place : Place

-- The validator as its tasks share it. `source` is the discovery the cached entry was stored for
-- and `discoveries` all there were, the last one first.
structure State where
  clock : Nat
  network : LocalNetworks
  cache : Option CachedNat64Prefixes
  refresher : Option Nat
  validations : List Validation
  source : Option Discovery
  discoveries : List Discovery

def State.initial (clock : Nat) (network : LocalNetworks) : State :=
  ⟨clock, network, none, none, [], none, []⟩

inductive Action where
  | advance (duration : Nat)
  | change (networks : LocalNetworks)
  | start (policy : OutboundPolicy) (port : BitVec 16) (literal : Option IpAddr)
  | snapshot (task : Nat) (available : Bool)
  | resolve (task : Nat) (answers : Option (List SocketAddr))
  | look (task : Nat)
  | acquire (task : Nat)
  | answer (task : Nat) (answers : Option (List SocketAddr))
  | store (task : Nat)
  | timeout (task : Nat)

def resolvedAddresses (port : BitVec 16) :
    Option (List SocketAddr) → Except DestinationError (List SocketAddr)
  | none => .error .resolutionFailed
  | some resolved =>
      if resolved = [] ∨ maxDnsAnswers < resolved.length then .error .resolutionFailed
      else .ok (sortDedup SocketAddr.sortKey
        (resolved.map fun address => normalizeSocket (address.setPort port)))

def discovered : Option (List SocketAddr) → Except DestinationError (List Nat64Prefix)
  | some answers =>
      if answers.length ≤ maxDnsAnswers then discoverNat64Prefixes answers
      else .error .resolutionFailed
  | none => .error .resolutionFailed

/-- An instant the clock cannot represent is replaced by the present one. -/
def expiry (instantLimit now : Nat) : Nat :=
  if now + nat64CacheTtl ≤ instantLimit then now + nat64CacheTtl else now

def cachedEntry (networks : LocalNetworks) (result : Except DestinationError (List Nat64Prefix))
    (expiresAt : Nat) : CachedNat64Prefixes :=
  match result with
  | .ok prefixes => ⟨expiresAt, prefixes, false, networks⟩
  | .error _ => ⟨expiresAt, [], true, networks⟩

def lookPlace (state : State) (policy : OutboundPolicy) :
    Option LocalNetworks → Except DestinationError (List SocketAddr) → Place
  | none, _ => .failed .localNetworkUnavailable
  | some _, .error error => .failed error
  | some networks, .ok addresses =>
      if !needsDiscovery addresses networks policy then .checked networks addresses state.clock (.ok [])
      else
        match cachedNat64Prefixes state.cache state.clock networks with
        | some prefixes => .checked networks addresses state.clock prefixes
        | none => .waiting networks addresses

def Place.finished : Place → Bool
  | .checked _ _ _ _ | .failed _ => true
  | _ => false

def State.move (state : State) (task : Nat) (validation : Validation) (place : Place) : State :=
  { state with validations := state.validations.set task { validation with place := place } }

-- One poll of one task, up to where it suspends again, or one change of its surroundings. The
-- cache's own lock is released in the poll that takes it; the refresh lock is held across polls.
def step (instantLimit : Nat) (state : State) : Action → Option State
  | .advance duration => some { state with clock := state.clock + duration }
  | .change networks => some { state with network := networks }
  | .start policy port literal =>
      some { state with validations := state.validations ++
        [⟨policy, port, .resolving none (literal.map fun ip => .ok [.new ip port])⟩] }
  | .snapshot task available =>
      state.validations[task]?.bind fun validation =>
        match validation.place with
        | .resolving none addresses => some (state.move task validation
            (.resolving (some (if available then some state.network else none)) addresses))
        | _ => none
  | .resolve task answers =>
      state.validations[task]?.bind fun validation =>
        match validation.place with
        | .resolving networks none => some (state.move task validation
            (.resolving networks (some (resolvedAddresses validation.port answers))))
        | _ => none
  | .look task =>
      state.validations[task]?.bind fun validation =>
        match validation.place with
        | .resolving (some networks) (some addresses) =>
            some (state.move task validation (lookPlace state validation.policy networks addresses))
        | _ => none
  | .acquire task =>
      state.validations[task]?.bind fun validation =>
        match validation.place, state.refresher with
        | .waiting networks addresses, none =>
            match cachedNat64Prefixes state.cache state.clock networks with
            | some prefixes =>
                some (state.move task validation (.checked networks addresses state.clock prefixes))
            | none => some { state.move task validation (.discovering networks addresses) with
                refresher := some task }
        | _, _ => none
  | .answer task answers =>
      state.validations[task]?.bind fun validation =>
        match validation.place with
        | .discovering networks addresses =>
            some { state.move task validation (.storing networks addresses (discovered answers)
                (expiry instantLimit state.clock) state.clock) with
              discoveries := ⟨task, networks, state.clock, discovered answers⟩ :: state.discoveries }
        | _ => none
  | .store task =>
      state.validations[task]?.bind fun validation =>
        match validation.place with
        | .storing networks addresses result expiresAt obtained =>
            some { state.move task validation (.checked networks addresses obtained result) with
              cache := some (cachedEntry networks result expiresAt)
              refresher := none
              source := some ⟨task, networks, obtained, result⟩ }
        | _ => none
  | .timeout task =>
      state.validations[task]?.bind fun validation =>
        if validation.place.finished then none
        else some { state.move task validation (.failed .resolutionFailed) with
          refresher := if state.refresher = some task then none else state.refresher }

def Validation.outcome (validator : DestinationValidator) (validation : Validation) :
    Option (Except DestinationError Unit) :=
  match validation.place with
  | .checked networks addresses _ nat64 => some (nat64.bind fun prefixes =>
      validator.validateAddresses addresses networks prefixes validation.policy)
  | .failed error => some (.error error)
  | _ => none

end Nat64Cache

end StreamServer.NetworkSecurity

namespace StreamServer.NetworkSecurity.Nat64Cache

structure Records (cached : CachedNat64Prefixes) (discovery : Discovery) : Prop where
  networks : cached.localNetworks = discovery.networks
  lifetime : cached.expiresAt ≤ discovery.moment + nat64CacheTtl
  result : discovery.result =
    if cached.failed then .error .resolutionFailed else .ok cached.prefixes

-- The prefixes were discovered for these networks, and not longer ago than the cache's lifetime.
structure Backed (discoveries : List Discovery) (networks : LocalNetworks) (obtained : Nat)
    (nat64 : Except DestinationError (List Nat64Prefix)) : Prop where
  found : ∃ discovery ∈ discoveries, discovery.networks = networks ∧ discovery.result = nat64 ∧
    discovery.moment ≤ obtained ∧ obtained ≤ discovery.moment + nat64CacheTtl

def Place.Justified (discoveries : List Discovery) (task : Nat) (policy : OutboundPolicy) :
    Place → Prop
  | .resolving _ _ | .failed _ => True
  | .waiting networks addresses | .discovering networks addresses =>
      needsDiscovery addresses networks policy = true
  | .storing networks addresses result expiresAt obtained =>
      needsDiscovery addresses networks policy = true ∧
        ⟨task, networks, obtained, result⟩ ∈ discoveries ∧ expiresAt ≤ obtained + nat64CacheTtl
  | .checked networks addresses obtained nat64 =>
      if needsDiscovery addresses networks policy = true then
        Backed discoveries networks obtained nat64
      else nat64 = .ok []

def Place.Doomed : Place → Prop
  | .storing _ _ (.error _) _ _ | .checked _ _ _ (.error _) | .failed _ => True
  | _ => False

structure Coherent (state : State) : Prop where
  cached : ∀ entry, state.cache = some entry →
    ∃ discovery ∈ state.discoveries, state.source = some discovery ∧ Records entry discovery
  past : ∀ discovery ∈ state.discoveries, discovery.moment ≤ state.clock
  justified : ∀ (task : Nat) (validation : Validation),
    state.validations[task]? = some validation →
    validation.place.Justified state.discoveries task validation.policy
  failing : ∀ discovery ∈ state.discoveries, ∀ error, discovery.result = .error error →
    error = .resolutionFailed ∧
      ∃ validation, state.validations[discovery.task]? = some validation ∧ validation.place.Doomed

section Pieces

variable {discoveries more : List Discovery}

theorem Backed.mono {networks : LocalNetworks} {obtained : Nat}
    {nat64 : Except DestinationError (List Nat64Prefix)}
    (grows : ∀ discovery ∈ discoveries, discovery ∈ more)
    (backed : Backed discoveries networks obtained nat64) : Backed more networks obtained nat64 := by
  obtain ⟨discovery, member, rest⟩ := backed.found
  exact ⟨discovery, grows discovery member, rest⟩

theorem Place.Justified.mono {task : Nat} {policy : OutboundPolicy} {place : Place}
    (grows : ∀ discovery ∈ discoveries, discovery ∈ more)
    (justified : place.Justified discoveries task policy) : place.Justified more task policy := by
  cases place with
  | resolving => trivial
  | failed => trivial
  | waiting => exact justified
  | discovering => exact justified
  | storing => exact ⟨justified.1, grows _ justified.2.1, justified.2.2⟩
  | checked networks addresses obtained nat64 =>
    simp only [Place.Justified] at justified ⊢
    split at justified
    next needed =>
      rw [if_pos needed]
      exact justified.mono grows
    next unneeded => rwa [if_neg unneeded]

theorem expiry_le (instantLimit now : Nat) : expiry instantLimit now ≤ now + nat64CacheTtl := by
  unfold expiry
  split <;> omega

theorem discoverNat64Prefixes_error {answers : List SocketAddr} {error : DestinationError}
    (failed : discoverNat64Prefixes answers = .error error) : error = .resolutionFailed := by
  unfold discoverNat64Prefixes at failed
  simp only at failed
  split at failed
  next => cases failed; rfl
  split at failed
  next => cases failed; rfl
  split at failed
  next => cases failed
  split at failed
  next => cases failed; rfl
  next => cases failed

theorem discovered_error {answers : Option (List SocketAddr)} {error : DestinationError}
    (failed : discovered answers = .error error) : error = .resolutionFailed := by
  unfold discovered at failed
  split at failed
  next =>
    split at failed
    next => exact discoverNat64Prefixes_error failed
    next => cases failed; rfl
  next => cases failed; rfl

theorem records_cachedEntry {task : Nat} {networks : LocalNetworks} {obtained expiresAt : Nat}
    {result : Except DestinationError (List Nat64Prefix)}
    (fails : ∀ error, result = .error error → error = .resolutionFailed)
    (lifetime : expiresAt ≤ obtained + nat64CacheTtl) :
    Records (cachedEntry networks result expiresAt) ⟨task, networks, obtained, result⟩ := by
  cases result with
  | ok prefixes => exact ⟨rfl, lifetime, rfl⟩
  | error error =>
    obtain rfl := fails error rfl
    exact ⟨rfl, lifetime, rfl⟩

theorem Coherent.served {state : State} (coherent : Coherent state) {networks : LocalNetworks}
    {nat64 : Except DestinationError (List Nat64Prefix)}
    (served : cachedNat64Prefixes state.cache state.clock networks = some nat64) :
    Backed state.discoveries networks state.clock nat64 := by
  unfold cachedNat64Prefixes at served
  obtain ⟨entry, kept, rfl⟩ := Option.map_eq_some_iff.mp served
  obtain ⟨present, current⟩ := Option.filter_eq_some_iff.mp kept
  rw [Bool.and_eq_true, decide_eq_true_eq, beq_iff_eq] at current
  obtain ⟨discovery, member, -, records⟩ := coherent.cached entry present
  refine ⟨discovery, member, records.networks.symm.trans current.2, records.result,
    coherent.past discovery member, ?_⟩
  have lifetime := records.lifetime
  omega

end Pieces

theorem Coherent.moved {state next : State} {task : Nat} {old new : Validation}
    (coherent : Coherent state) (present : state.validations[task]? = some old)
    (validations : next.validations = state.validations.set task new)
    (clock : next.clock = state.clock) (added : List Discovery)
    (discoveries : next.discoveries = added ++ state.discoveries)
    (own : ∀ discovery ∈ added, discovery.task = task ∧ discovery.moment = state.clock ∧
      ∀ error, discovery.result = .error error → error = .resolutionFailed ∧ new.place.Doomed)
    (cached : ∀ entry, next.cache = some entry →
      ∃ discovery ∈ state.discoveries, next.source = some discovery ∧ Records entry discovery)
    (justified : new.place.Justified next.discoveries task new.policy)
    (doomed : old.place.Doomed → new.place.Doomed) :
    Coherent next where
  cached entry found := by
    obtain ⟨discovery, member, rest⟩ := cached entry found
    rw [discoveries]
    exact ⟨discovery, List.mem_append_right _ member, rest⟩
  past discovery member := by
    rw [discoveries, List.mem_append] at member
    rw [clock]
    rcases member with member | member
    · exact Nat.le_of_eq (own discovery member).2.1
    · exact coherent.past discovery member
  justified place validation found := by
    rw [validations] at found
    rcases Lists.getElem?_set_cases found with ⟨_, found⟩ | ⟨rfl, rfl⟩
    · refine (coherent.justified place validation found).mono fun discovery member => ?_
      rw [discoveries]
      exact List.mem_append_right _ member
    · exact justified
  failing discovery member error failed := by
    have moved : next.validations[task]? = some new := by
      rw [validations]
      exact List.getElem?_set_self (List.getElem?_eq_some_iff.mp present).1
    rw [discoveries, List.mem_append] at member
    rcases member with member | member
    · obtain ⟨rfl, -, failing⟩ := own discovery member
      exact ⟨(failing error failed).1, new, moved, (failing error failed).2⟩
    · obtain ⟨same, validation, found, lost⟩ := coherent.failing discovery member error failed
      refine ⟨same, ?_⟩
      by_cases here : discovery.task = task
      · rw [here] at found ⊢
        cases present.symm.trans found
        exact ⟨new, moved, doomed lost⟩
      · rw [validations, List.getElem?_set_ne (Ne.symm here)]
        exact ⟨validation, found, lost⟩

theorem Coherent.moves {state next : State} {task : Nat} {old : Validation} {place : Place}
    (coherent : Coherent state) (present : state.validations[task]? = some old)
    (moved : next = { state.move task old place with refresher := next.refresher })
    (justified : place.Justified state.discoveries task old.policy)
    (doomed : old.place.Doomed → place.Doomed) : Coherent next := by
  rw [moved]
  exact coherent.moved present rfl rfl [] rfl (by simp) coherent.cached justified doomed

theorem justified_lookPlace {state : State} (coherent : Coherent state) (task : Nat)
    (policy : OutboundPolicy) (networks : Option LocalNetworks)
    (addresses : Except DestinationError (List SocketAddr)) :
    (lookPlace state policy networks addresses).Justified state.discoveries task policy := by
  cases networks with
  | none => trivial
  | some networks =>
    cases addresses with
    | error error => trivial
    | ok addresses =>
      unfold lookPlace
      by_cases needed : needsDiscovery addresses networks policy = true
      case neg => simp [Place.Justified, needed]
      simp only [needed, Bool.not_true, Bool.false_eq_true, if_false]
      cases served : cachedNat64Prefixes state.cache state.clock networks with
      | none => exact needed
      | some nat64 =>
        simp only [Place.Justified, needed, if_true]
        exact coherent.served served

theorem step_coherent {instantLimit : Nat} (state : State) (action : Action) (next : State)
    (coherent : Coherent state) (taken : step instantLimit state action = some next) :
    Coherent next := by
  cases action with
  | advance duration =>
    cases taken
    exact ⟨coherent.cached, fun discovery member =>
      Nat.le_add_right_of_le (coherent.past discovery member), coherent.justified, coherent.failing⟩
  | change networks =>
    cases taken
    exact ⟨coherent.cached, coherent.past, coherent.justified, coherent.failing⟩
  | start policy port literal =>
    cases taken
    refine ⟨coherent.cached, coherent.past, fun task validation found => ?_,
      fun discovery member error failed => ?_⟩
    · rcases Lists.getElem?_append_cases found with found | ⟨-, rfl⟩
      · exact coherent.justified task validation found
      · trivial
    · obtain ⟨same, validation, found, lost⟩ := coherent.failing discovery member error failed
      exact ⟨same, validation,
        List.getElem?_append_left (List.getElem?_eq_some_iff.mp found).1 ▸ found, lost⟩
  | snapshot task available =>
    obtain ⟨validation, present, taken⟩ := Option.bind_eq_some_iff.mp taken
    split at taken
    next place =>
      cases taken
      exact coherent.moves present rfl trivial (by simp [Place.Doomed, place])
    next => cases taken
  | resolve task answers =>
    obtain ⟨validation, present, taken⟩ := Option.bind_eq_some_iff.mp taken
    split at taken
    next place =>
      cases taken
      exact coherent.moves present rfl trivial (by simp [Place.Doomed, place])
    next => cases taken
  | look task =>
    obtain ⟨validation, present, taken⟩ := Option.bind_eq_some_iff.mp taken
    split at taken
    next place =>
      cases taken
      exact coherent.moves present rfl (justified_lookPlace coherent task _ _ _)
        (by simp [Place.Doomed, place])
    next => cases taken
  | acquire task =>
    obtain ⟨validation, present, taken⟩ := Option.bind_eq_some_iff.mp taken
    have justified := coherent.justified task validation present
    split at taken
    next networks addresses place free =>
      simp only [Place.Justified, place] at justified
      split at taken
      next nat64 served =>
        cases taken
        refine coherent.moves present rfl ?_ (by simp [Place.Doomed, place])
        simp only [Place.Justified, justified, if_true]
        exact coherent.served served
      next =>
        cases taken
        exact coherent.moves present rfl justified (by simp [Place.Doomed, place])
    next => cases taken
  | answer task answers =>
    obtain ⟨validation, present, taken⟩ := Option.bind_eq_some_iff.mp taken
    have justified := coherent.justified task validation present
    split at taken
    next networks addresses place =>
      simp only [Place.Justified, place] at justified
      cases taken
      refine coherent.moved present rfl rfl [⟨task, networks, state.clock, discovered answers⟩] rfl ?_
        coherent.cached ⟨justified, List.mem_cons_self, expiry_le _ _⟩
        (by simp [Place.Doomed, place])
      intro discovery member
      obtain rfl := List.mem_singleton.mp member
      refine ⟨rfl, rfl, fun error failed => ⟨discovered_error failed, ?_⟩⟩
      simp only at failed
      simp [Place.Doomed, failed]
    next => cases taken
  | store task =>
    obtain ⟨validation, present, taken⟩ := Option.bind_eq_some_iff.mp taken
    have justified := coherent.justified task validation present
    split at taken
    next networks addresses result expiresAt obtained place =>
      simp only [Place.Justified, place] at justified
      obtain ⟨needed, member, lifetime⟩ := justified
      cases taken
      refine coherent.moved present rfl rfl [] rfl (by simp) ?_ ?_ ?_
      · intro entry stored
        cases stored
        refine ⟨_, member, rfl, records_cachedEntry (fun error failed => ?_) lifetime⟩
        exact (coherent.failing _ member error failed).1
      · simp only [Place.Justified, needed, if_true]
        exact ⟨_, member, rfl, rfl, Nat.le_refl _, Nat.le_add_right ..⟩
      · intro lost
        cases result with
        | ok prefixes => simp [Place.Doomed, place] at lost
        | error error => trivial
    next => cases taken
  | timeout task =>
    obtain ⟨validation, present, taken⟩ := Option.bind_eq_some_iff.mp taken
    split at taken
    next => cases taken
    next =>
      cases taken
      exact coherent.moves present rfl trivial fun _ => trivial

theorem initial_coherent (clock : Nat) (network : LocalNetworks) :
    Coherent (State.initial clock network) where
  cached entry found := by cases found
  past discovery member := by cases member
  justified task validation found := by cases found
  failing discovery member := by cases member

structure OwnNetwork (validator : DestinationValidator) (state : State) : Prop where
  used : ∀ (task : Nat) (validation : Validation) networks addresses obtained prefixes,
    state.validations[task]? = some validation →
    validation.place = .checked networks addresses obtained (.ok prefixes) →
    if needsDiscovery addresses networks validation.policy = true then
      Backed state.discoveries networks obtained (.ok prefixes)
    else prefixes = []
  failing : ∀ discovery ∈ state.discoveries, ∀ error, discovery.result = .error error →
    ∃ validation, state.validations[discovery.task]? = some validation ∧
      ∀ outcome, validation.outcome validator = some outcome → ∃ error, outcome = .error error
  cached : ∀ entry, state.cache = some entry →
    ∃ discovery ∈ state.discoveries, state.source = some discovery ∧ Records entry discovery
  refused : ∀ entry networks nat64, state.cache = some entry → entry.failed = true →
    cachedNat64Prefixes state.cache state.clock networks = some nat64 →
    nat64 = .error .resolutionFailed

theorem outcome_of_doomed {validator : DestinationValidator} {validation : Validation}
    {outcome : Except DestinationError Unit} (doomed : validation.place.Doomed)
    (came : validation.outcome validator = some outcome) : ∃ error, outcome = .error error := by
  obtain ⟨policy, port, place⟩ := validation
  cases place with
  | resolving => cases doomed
  | waiting => cases doomed
  | discovering => cases doomed
  | storing => cases came
  | failed error =>
    cases came
    exact ⟨error, rfl⟩
  | checked networks addresses obtained nat64 =>
    cases nat64 with
    | ok prefixes => cases doomed
    | error error =>
      cases came
      exact ⟨error, rfl⟩

theorem Coherent.ownNetwork {state : State} (coherent : Coherent state)
    (validator : DestinationValidator) : OwnNetwork validator state where
  used task validation networks addresses obtained prefixes present place := by
    have justified := coherent.justified task validation present
    simp only [place, Place.Justified] at justified
    split
    next needed => rwa [if_pos needed] at justified
    next unneeded =>
      rw [if_neg unneeded] at justified
      exact Except.ok.inj justified
  failing discovery member error failed := by
    obtain ⟨-, validation, present, doomed⟩ := coherent.failing discovery member error failed
    exact ⟨validation, present, fun outcome => outcome_of_doomed doomed⟩
  cached := coherent.cached
  refused entry networks nat64 present failed served := by
    obtain ⟨other, kept, rfl⟩ := Option.map_eq_some_iff.mp served
    cases present.symm.trans (Option.filter_eq_some_iff.mp kept).1
    exact if_pos failed

theorem run_ownNetwork (validator : DestinationValidator) (instantLimit clock : Nat)
    (network : LocalNetworks) (actions : List Action) (state : State)
    (ran : Runs.run (step instantLimit) (State.initial clock network) actions = some state) :
    OwnNetwork validator state :=
  (Runs.invariant_of_run step_coherent (initial_coherent clock network) ran).ownNetwork validator

section Witness

-- Two validations of one IPv6 literal, with a discovery that fails and a change of network between
-- them.
def changingNetwork : List Action :=
  [.start ⟨true⟩ 80 (some (.v6 (.new 0x2001 0x4860 0x64 0 0 0 0xa9fe 0xa9fe))),
    .start ⟨true⟩ 80 (some (.v6 (.new 0x2001 0x4860 0x64 0 0 0 0xa9fe 0xa9fe))),
    .snapshot 0 true, .look 0, .snapshot 1 true, .look 1, .acquire 0, .answer 0 none, .change ⟨[]⟩,
    .advance 1000, .store 0, .acquire 1]

def homeNetwork : LocalNetworks := ⟨[⟨.v4 (.new 192 168 1 0) ⟨24, by decide⟩, "eth0", none, none⟩]⟩

theorem failed_discovery_fails_both :
    ∃ state, Runs.run (step (10 ^ 9)) (State.initial 0 homeNetwork) changingNetwork = some state ∧
      OwnNetwork (DestinationValidator.new []) state ∧
      state.validations.map (Validation.outcome (DestinationValidator.new [])) =
        [some (.error .resolutionFailed), some (.error .resolutionFailed)] := by
  have finishes : ((Runs.run (step (10 ^ 9)) (State.initial 0 homeNetwork)
      changingNetwork).map fun state =>
        state.validations.map (Validation.outcome (DestinationValidator.new []))) =
      some [some (.error .resolutionFailed), some (.error .resolutionFailed)] := by
    decide +kernel
  obtain ⟨state, ran, outcomes⟩ := Option.map_eq_some_iff.mp finishes
  exact ⟨state, ran, run_ownNetwork (DestinationValidator.new []) (10 ^ 9) 0 homeNetwork
    changingNetwork state ran, outcomes⟩

end Witness

end StreamServer.NetworkSecurity.Nat64Cache
