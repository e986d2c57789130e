import Mathlib.Data.List.Dedup
import StreamServer.Shared.Runs
import StreamServer.Transcoding.ProbeFlights

set_option autoImplicit false

namespace StreamServer.Transcoding

namespace ProbeCache

variable {K D : Type} [DecidableEq K] {before after : ProbeCache K D} {place : Nat} {key : K}
  {old stage : Stage D}

section Steps

variable {limits : CacheLimits} {estimatedWeight : D → Nat}

theorem Flown.entered (flown : before.Flown) (found : before.calls[place]? = some ⟨key, .entering⟩)
    (limits : CacheLimits) (now : Nat) : (before.entered limits place key now).Flown := by
  unfold ProbeCache.entered
  obtain ⟨entry, _, _, same⟩ | ⟨flight, flying, same⟩ | ⟨_, same⟩ | ⟨free, _, same⟩ :=
    enter_cases limits now before.flights.length key before.state
  · simp only [same]
    refine flown.followed found rfl rfl rfl (fun _ _ shows => shows) rfl rfl ?_ ?_ ?_
    · rintro own ⟨⟩
    · rintro own result ⟨⟩
    · rintro own ⟨⟩
  · simp only [same]
    refine flown.followed found rfl rfl (removeCacheEntry_inFlight ..) (fun _ _ shows => shows) rfl rfl
      ?_ ?_ ?_
    · rintro own ⟨⟩
      obtain ⟨record, _, present, sameKey, _⟩ := flown.listed key flight flying
      exact ⟨record, present, sameKey⟩
    · rintro own result ⟨⟩
    · rintro own ⟨⟩
  · simp only [same]
    refine flown.followed found rfl rfl (removeCacheEntry_inFlight ..) (fun _ _ shows => shows) rfl rfl
      ?_ ?_ ?_
    · rintro own ⟨⟩
    · rintro own result ⟨⟩
    · rintro own ⟨⟩
  · simp only [same]
    exact flown.led_anew found free rfl rfl rfl

theorem Flown.checked (flown : before.Flown) {own : Nat} {notified : Bool}
    (found : before.calls[place]? = some ⟨key, .checking own notified⟩)
    {record : ProbeFlight K D} (present : before.flights[own]? = some record) :
    (∀ result, record.result = some result →
      (before.move place key (.answered (some own) result)).Flown) ∧
    (record.result = none → (before.move place key (.parked own notified)).Flown) := by
  obtain ⟨joined, isJoined, sameKey⟩ := flown.joined place key _ own found rfl
  cases isJoined.symm.trans present
  obtain ⟨leading, atLeader, shows⟩ := flown.led own record present
  constructor
  · intro result done
    refine flown.followed found rfl rfl rfl (fun _ _ shows => shows) rfl rfl ?_ ?_ ?_
    · rintro other ⟨⟩
    · rintro other result ⟨⟩
      exact ⟨record, present, sameKey, done⟩
    · rintro other ⟨⟩
  · intro vacant
    refine flown.followed found rfl rfl rfl (fun _ _ shows => shows) rfl rfl ?_ ?_ ?_
    · rintro other ⟨⟩
      exact ⟨record, present, sameKey⟩
    · rintro other result ⟨⟩
    · rintro other ⟨⟩
      -- Its slot is empty, so the leader is still before it.
      refine ⟨record, leading, present, fun leader => ?_, atLeader, ?_⟩
      · rw [leader, found] at atLeader
        cases atLeader
        exact shows
      · rw [vacant] at shows
        cases leading with
        | probing | probed | cancelling => exact congrArg some shows.1
        | published | stored | releasing | notifying => cases shows.2
        | answered other =>
          cases other with
          | none => cases shows
          | some => cases shows.2
        | gone => cases shows
        | _ => cases shows

theorem Flown.waits (flown : before.Flown) (found : before.calls[place]? = some ⟨key, old⟩)
    (outside : ∀ own slot, ¬ old.Shows own slot) (oldNotifies : old.notifies = none)
    (notifies : stage.notifies = none) (awaits : ∀ own, stage.awaits = some own → old.awaits = some own)
    (answers : ∀ own result, stage ≠ .answered (some own) result)
    (asleep : ∀ own, stage ≠ .parked own false) : (before.move place key stage).Flown :=
  flown.followed found rfl rfl rfl outside oldNotifies notifies
    (fun own waits => flown.joined place key old own found (awaits own waits))
    (fun own result same => absurd same (answers own result)) (fun own same => absurd same (asleep own))

theorem Flown.leads (flown : before.Flown) (found : before.calls[place]? = some ⟨key, old⟩) {own : Nat}
    (oldLeads : old.leads = some own) (leads : stage.leads = some own)
    (shows : ∀ other slot, old.Shows other slot → stage.Shows other slot) :
    (before.move place key stage).Flown := by
  have oldNotifies := Stage.notifies_of_leads oldLeads
  have notifies := Stage.notifies_of_leads leads
  refine flown.moved (Quiet.moves ⟨found, rfl, rfl, rfl, shows, leads.trans oldLeads.symm,
    fun other mine => oldNotifies.trans (notifies.symm.trans mine),
    fun other mine => .inl (notifies.trans (oldNotifies.symm.trans mine)), ?_, ?_, ?_⟩ flown)
  · intro other awaits
    cases stage <;> first | cases leads; done | cases awaits
  · rintro other result rfl
    cases leads
  · rintro other rfl
    cases leads

theorem recordUse_flown (flown : before.Flown) (key : K) (result : ProbeResult D) :
    (before.recordUse key result).Flown := by
  cases result with
  | error => exact flown
  | ok =>
    exact ⟨flown.led, flown.leader, flown.listed, flown.flying, flown.joined, flown.answered,
      flown.asleep⟩

omit [DecidableEq K] in
theorem recordUse_same (cache : ProbeCache K D) (key : K) (result : ProbeResult D) :
    (cache.recordUse key result).calls = cache.calls ∧
      (cache.recordUse key result).flights = cache.flights ∧
      (cache.recordUse key result).state = cache.state := by
  cases result <;> exact ⟨rfl, rfl, rfl⟩

theorem release_inFlight {state : ProbeCacheState K D} {flight : Nat}
    (listed : state.inFlight.lookup key = some flight) :
    (release key flight state).inFlight = state.inFlight.erase key := by
  unfold release
  rw [if_pos listed]

theorem Flown.advanced (flown : before.Flown) {now : Nat}
    (found : before.calls[place]? = some ⟨key, old⟩)
    (taken : before.advance limits estimatedWeight place now key old = some after) : after.Flown := by
  cases old with
  | entering =>
    cases taken
    exact flown.entered found limits now
  | joining own =>
    cases taken
    refine flown.waits found (fun _ _ shows => shows) rfl rfl (fun _ same => same) ?_ ?_
    · rintro _ _ ⟨⟩
    · rintro _ ⟨⟩
  | checking own notified =>
    obtain ⟨record, present, rfl⟩ := Option.map_eq_some_iff.mp taken
    obtain ⟨done, vacant⟩ := flown.checked found present
    split
    next result isDone => exact done result isDone
    next isVacant => exact vacant isVacant
  | parked own notified =>
    cases notified with
    | false => cases taken
    | true =>
      cases taken
      refine flown.waits found (fun _ _ shows => shows) rfl rfl (fun _ same => same) ?_ ?_
      · rintro _ _ ⟨⟩
      · rintro _ ⟨⟩
  | probing => cases taken
  | probed own result =>
    cases taken
    exact flown.filled found rfl rfl rfl (fun _ _ => rfl) rfl rfl (fun _ _ shows => shows.2) ⟨rfl, rfl⟩ rfl
  | published own result =>
    cases taken
    have recorded := recordUse_flown flown key result
    have foundAfter : (before.recordUse key result).calls[place]? =
        some ⟨key, .published own result⟩ := by
      rw [(recordUse_same before key result).1, found]
    exact recorded.unlisted foundAfter rfl rfl (store_inFlight ..) rfl rfl rfl
      (fun _ _ shows => shows) rfl
  | stored own result =>
    cases taken
    exact flown.finished found rfl rfl rfl rfl rfl rfl (fun _ _ shows => shows)
      (by rintro other answer ⟨⟩; exact ⟨rfl, rfl⟩)
  | cancelling own =>
    cases taken
    refine flown.filled found rfl rfl rfl (fun flight vacant => ?_) rfl rfl (fun _ _ shows => shows.2)
      ⟨rfl, rfl⟩ rfl
    rw [vacant]
    rfl
  | releasing own =>
    cases taken
    exact flown.unlisted found rfl rfl (release_inFlight (flown.flying place _ _ own found rfl)) rfl rfl
      rfl (fun _ _ shows => shows) rfl
  | notifying own =>
    cases taken
    exact flown.finished found rfl rfl rfl rfl rfl rfl (fun _ _ shows => shows.2)
      (by rintro other answer ⟨⟩)
  | answered => cases taken
  | gone => cases taken

theorem Flown.called (flown : before.Flown) (key : K) :
    ({ before with calls := before.calls ++ [⟨key, .entering⟩] } : ProbeCache K D).Flown := by
  have older : ∀ {place : Nat} {call : ProbeCall K D}, before.calls[place]? = some call →
      (before.calls ++ [⟨key, .entering⟩])[place]? = some call := by
    intro place call found
    rw [List.getElem?_append_left (List.getElem?_eq_some_iff.mp found).1, found]
  constructor
  · intro own flight present
    obtain ⟨stage, atLeader, shows⟩ := flown.led own flight present
    exact ⟨stage, older atLeader, shows⟩
  · intro place otherKey stage own found notifies
    obtain earlier | ⟨_, same⟩ := Lists.getElem?_append_cases found
    · exact flown.leader place otherKey stage own earlier notifies
    · cases same
      cases notifies
  · intro otherKey own looked
    obtain ⟨flight, stage, present, sameKey, atLeader, leads⟩ := flown.listed otherKey own looked
    exact ⟨flight, stage, present, sameKey, older atLeader, leads⟩
  · intro place otherKey stage own found leads
    obtain earlier | ⟨_, same⟩ := Lists.getElem?_append_cases found
    · exact flown.flying place otherKey stage own earlier leads
    · cases same
      cases leads
  · intro place otherKey stage own found awaits
    obtain earlier | ⟨_, same⟩ := Lists.getElem?_append_cases found
    · exact flown.joined place otherKey stage own earlier awaits
    · cases same
      cases awaits
  · intro place otherKey own result found
    obtain earlier | ⟨_, same⟩ := Lists.getElem?_append_cases found
    · exact flown.answered place otherKey own result earlier
    · cases same
  · intro place otherKey own found
    obtain earlier | ⟨_, same⟩ := Lists.getElem?_append_cases found
    · obtain ⟨flight, stage, present, atLeader, notifies⟩ := flown.asleep place otherKey own earlier
      exact ⟨flight, stage, present, older atLeader, notifies⟩
    · cases same

theorem step_cases {action : ProbeAction K D}
    (taken : before.step limits estimatedWeight action = some after) :
    (∃ key, action = .call key ∧ after = { before with calls := before.calls ++ [⟨key, .entering⟩] }) ∨
    (∃ place now key stage, action = .advance place now ∧ before.calls[place]? = some ⟨key, stage⟩ ∧
      before.advance limits estimatedWeight place now key stage = some after) ∨
    (∃ place key own result, action = .finish place result ∧
      before.calls[place]? = some ⟨key, .probing own⟩ ∧
      after = before.move place key (.probed own result)) ∨
    (∃ place key own, action = .drop place ∧ before.calls[place]? = some ⟨key, .probing own⟩ ∧
      after = before.move place key (.cancelling own)) ∨
    ∃ place key stage, action = .drop place ∧ before.calls[place]? = some ⟨key, stage⟩ ∧
      (stage = .entering ∨ ∃ own notified, stage = .parked own notified) ∧
      after = before.move place key .gone := by
  cases action with
  | call key =>
    cases taken
    exact .inl ⟨key, rfl, rfl⟩
  | advance place now =>
    obtain ⟨⟨key, stage⟩, found, taken⟩ := Option.bind_eq_some_iff.mp taken
    exact .inr (.inl ⟨place, now, key, stage, rfl, found, taken⟩)
  | finish place result =>
    simp only [ProbeCache.step] at taken
    split at taken
    next key own found =>
      cases taken
      exact .inr (.inr (.inl ⟨place, key, own, result, rfl, found, rfl⟩))
    next => cases taken
  | drop place =>
    simp only [ProbeCache.step] at taken
    split at taken
    next key found =>
      cases taken
      exact .inr (.inr (.inr (.inr ⟨place, key, _, rfl, found, .inl rfl, rfl⟩)))
    next key own notified found =>
      cases taken
      exact .inr (.inr (.inr (.inr ⟨place, key, _, rfl, found, .inr ⟨own, notified, rfl⟩, rfl⟩)))
    next key own found =>
      cases taken
      exact .inr (.inr (.inr (.inl ⟨place, key, own, rfl, found, rfl⟩)))
    next => cases taken

theorem Flown.step (flown : before.Flown) {action : ProbeAction K D}
    (taken : before.step limits estimatedWeight action = some after) : after.Flown := by
  obtain ⟨key, _, rfl⟩ | ⟨place, now, key, stage, _, found, advances⟩ |
    ⟨place, key, own, result, _, found, rfl⟩ | ⟨place, key, own, _, found, rfl⟩ |
    ⟨place, key, stage, _, found, outside, rfl⟩ := step_cases taken
  · exact flown.called key
  · exact flown.advanced found advances
  · exact flown.leads found rfl rfl fun _ _ shows => shows
  · exact flown.leads found rfl rfl fun _ _ shows => shows
  · obtain rfl | ⟨own, notified, rfl⟩ := outside
    all_goals
      refine flown.waits found (fun _ _ shows => shows) rfl rfl ?_ ?_ ?_
      · rintro _ ⟨⟩
      · rintro _ _ ⟨⟩
      · rintro _ ⟨⟩

end Steps

section Entries

variable {limits : CacheLimits} {estimatedWeight : D → Nat}

structure Kept (limits : CacheLimits) (cache : ProbeCache K D) : Prop where
  sound : cache.state.Sound limits cache.uses
  landed : ∀ key entry, cache.state.entries.lookup key = some entry →
    cache.state.inFlight.lookup key = none
  probed : ∀ key entry, cache.state.entries.lookup key = some entry →
    ∃ (own : Nat) (flight : ProbeFlight K D), cache.flights[own]? = some flight ∧
      flight.key = key ∧ flight.result = some (.ok entry.value)

theorem kept_empty (limits : CacheLimits) : (empty : ProbeCache K D).Kept limits where
  sound := sound_empty limits
  landed key entry found := by cases found
  probed key entry found := by cases found

def Keeps (before after : ProbeCache K D) : Prop :=
  ∀ (own : Nat) (flight : ProbeFlight K D) (result : ProbeResult D),
    before.flights[own]? = some flight → flight.result = some result →
      after.flights[own]? = some flight

theorem Kept.fewer (kept : before.Kept limits) (sound : after.state.Sound limits after.uses)
    (fewer : ∀ key entry, after.state.entries.lookup key = some entry →
      before.state.entries.lookup key = some entry ∧ after.state.inFlight.lookup key = none)
    (keeps : before.Keeps after) : after.Kept limits where
  sound := sound
  landed key entry found := (fewer key entry found).2
  probed key entry found := by
    obtain ⟨own, flight, present, sameKey, done⟩ := kept.probed key entry (fewer key entry found).1
    exact ⟨own, flight, keeps own flight _ present done, sameKey, done⟩

theorem Kept.same (kept : before.Kept limits) (state : after.state = before.state)
    (uses : after.uses = before.uses) (keeps : before.Keeps after) : after.Kept limits := by
  refine kept.fewer ?_ ?_ keeps
  · rw [state, uses]
    exact kept.sound
  · rw [state]
    exact fun key entry found => ⟨found, kept.landed key entry found⟩

theorem Kept.removed (kept : before.Kept limits) (key : K)
    (state : after.state = removeCacheEntry before.state key) (uses : after.uses = before.uses)
    (flights : after.flights = before.flights) : after.Kept limits := by
  refine kept.fewer ?_ (fun other entry found => ?_) fun own flight result present _ =>
    flights ▸ present
  · rw [state, uses]
    exact removeCacheEntry_sound kept.sound key
  · rw [state] at found ⊢
    have earlier := removeCacheEntry_kept found
    rw [removeCacheEntry_inFlight]
    exact ⟨earlier, kept.landed other entry earlier⟩

theorem Flown.fill_keeps (flown : before.Flown) (found : before.calls[place]? = some ⟨key, old⟩)
    {own : Nat} (leads : old.leads = some own) (empty : ∀ other slot, old.Shows other slot → slot = none)
    (fill : ProbeFlight K D → ProbeFlight K D) (flights : after.flights = before.flights.modify own fill) :
    before.Keeps after := by
  intro other record result present done
  rw [flights, List.getElem?_modify, present]
  by_cases same : own = other
  · subst same
    obtain ⟨flight, isFlight, leader⟩ := flown.leader place _ _ own found (Stage.notifies_of_leads leads)
    cases isFlight.symm.trans present
    have vacant := empty own _ (flown.own_flight found present leader).2
    cases vacant.symm.trans done
  · simp [same]

theorem Kept.entered (kept : before.Kept limits) (found : before.calls[place]? = some ⟨key, .entering⟩)
    (now : Nat) : (before.entered limits place key now).Kept limits := by
  unfold ProbeCache.entered
  obtain ⟨entry, cached, _, same⟩ | ⟨flight, flying, same⟩ | ⟨_, same⟩ | ⟨free, room, same⟩ :=
    enter_cases limits now before.flights.length key before.state
  · simp only [same]
    exact ⟨touch_sound kept.sound cached, kept.landed, kept.probed⟩
  · simp only [same]
    exact kept.removed key rfl rfl rfl
  · simp only [same]
    exact kept.removed key rfl rfl rfl
  · simp only [same]
    refine kept.fewer (lead_sound kept.sound free room before.flights.length)
      (fun other entry found => ?_) fun own flight result present _ => ?_
    · have earlier := removeCacheEntry_kept found
      refine ⟨earlier, ?_⟩
      show (before.state.inFlight.insert key before.flights.length).lookup other = none
      rw [AList.lookup_insert_ne, kept.landed other entry earlier]
      rintro rfl
      have absent := removeCacheEntry_absent before.state other
      cases absent.symm.trans found
    · show (before.flights ++ [_])[own]? = some flight
      rw [List.getElem?_append_left (List.getElem?_eq_some_iff.mp present).1, present]

theorem Kept.stored (kept : before.Kept limits) (flown : before.Flown) {own now : Nat}
    {result : ProbeResult D} (found : before.calls[place]? = some ⟨key, .published own result⟩)
    (state : after.state = store limits estimatedWeight now key result before.state)
    (uses : after.uses = (before.recordUse key result).uses) (flights : after.flights = before.flights) :
    after.Kept limits := by
  have listed := flown.flying place _ _ own found rfl
  have absent : before.state.entries.lookup key = none := by
    cases cached : before.state.entries.lookup key with
    | none => rfl
    | some entry => cases listed.symm.trans (kept.landed key entry cached)
  obtain ⟨flight, present, leader⟩ := flown.leader place _ _ own found rfl
  obtain ⟨sameKey, _, done⟩ := flown.own_flight found present leader
  refine ⟨?_, fun other entry cached => ?_, fun other entry cached => ?_⟩
  · rw [state, uses]
    cases result with
    | error error => exact store_error_sound kept.sound estimatedWeight now key error
    | ok value => exact store_ok_sound kept.sound absent estimatedWeight now value
  · rw [state] at cached ⊢
    rw [store_inFlight]
    by_cases same : other = key
    · rw [same, AList.lookup_erase]
    · rw [AList.lookup_erase_ne same]
      obtain earlier | ⟨isKey, _⟩ := store_cached cached
      · exact kept.landed other entry earlier
      · exact absurd isKey same
  · rw [state] at cached
    rw [flights]
    obtain earlier | ⟨rfl, rfl⟩ := store_cached cached
    · exact kept.probed other entry earlier
    · exact ⟨own, flight, present, sameKey, done⟩

theorem Kept.advanced (kept : before.Kept limits) (flown : before.Flown) {now : Nat}
    (found : before.calls[place]? = some ⟨key, old⟩)
    (taken : before.advance limits estimatedWeight place now key old = some after) :
    after.Kept limits := by
  have quiet : before.Keeps before := fun _ _ _ present _ => present
  cases old with
  | entering =>
    cases taken
    exact kept.entered found now
  | joining =>
    cases taken
    exact kept.same rfl rfl quiet
  | checking =>
    obtain ⟨record, _, rfl⟩ := Option.map_eq_some_iff.mp taken
    split
    next => exact kept.same rfl rfl quiet
    next => exact kept.same rfl rfl quiet
  | parked own notified =>
    cases notified with
    | false => cases taken
    | true =>
      cases taken
      exact kept.same rfl rfl quiet
  | probing => cases taken
  | probed own result =>
    cases taken
    exact kept.same rfl rfl (flown.fill_keeps found rfl (fun _ _ shows => shows.2) _ rfl)
  | published own result =>
    cases taken
    obtain ⟨_, flights, state⟩ := recordUse_same before key result
    have stored : store limits estimatedWeight now key result (before.recordUse key result).state =
        store limits estimatedWeight now key result before.state := by rw [state]
    exact kept.stored flown found stored rfl flights
  | stored =>
    cases taken
    exact kept.same rfl rfl quiet
  | cancelling own =>
    cases taken
    exact kept.same rfl rfl (flown.fill_keeps found rfl (fun _ _ shows => shows.2) _ rfl)
  | releasing own =>
    cases taken
    have listed := flown.flying place _ _ own found rfl
    refine kept.fewer (release_sound kept.sound key own) (fun other entry cached => ?_) quiet
    simp only [move, release, if_pos listed] at cached ⊢
    have free := kept.landed other entry cached
    refine ⟨cached, ?_⟩
    rw [AList.lookup_erase_ne, free]
    rintro rfl
    cases listed.symm.trans free
  | notifying =>
    cases taken
    exact kept.same rfl rfl quiet
  | answered => cases taken
  | gone => cases taken

theorem Kept.step (kept : before.Kept limits) (flown : before.Flown) {action : ProbeAction K D}
    (taken : before.step limits estimatedWeight action = some after) : after.Kept limits := by
  have quiet : before.Keeps before := fun _ _ _ present _ => present
  obtain ⟨key, _, rfl⟩ | ⟨place, now, key, stage, _, found, advances⟩ |
    ⟨place, key, own, result, _, found, rfl⟩ | ⟨place, key, own, _, found, rfl⟩ |
    ⟨place, key, stage, _, found, outside, rfl⟩ := step_cases taken
  · exact kept.same rfl rfl quiet
  · exact kept.advanced flown found advances
  · exact kept.same rfl rfl quiet
  · exact kept.same rfl rfl quiet
  · exact kept.same rfl rfl quiet

end Entries

section Runs

variable {limits : CacheLimits} {estimatedWeight : D → Nat} {cache next : ProbeCache K D}

structure Consistent (limits : CacheLimits) (cache : ProbeCache K D) : Prop where
  weight : cache.state.weight = LastUse.total CacheEntry.weight cache.state.entries
  light : cache.state.weight ≤ limits.maxWeight
  queue : cache.state.lru =
    cache.uses.dedup.filter fun key => (cache.state.entries.lookup key).isSome
  nodup : cache.state.lru.Nodup
  keys : ∀ key, key ∈ cache.state.lru ↔ key ∈ cache.state.entries
  entries : cache.state.entries.entries.length ≤ limits.maxEntries
  inFlight : cache.state.inFlight.entries.length ≤ limits.maxInFlight
  single : ∀ (first second : Nat) (key : K) (own other : Nat),
    cache.calls[first]? = some ⟨key, .probing own⟩ →
    cache.calls[second]? = some ⟨key, .probing other⟩ → first = second
  -- Only what a probe of the key has returned is cached.
  successes : ∀ key entry, cache.state.entries.lookup key = some entry →
    ∃ (own : Nat) (flight : ProbeFlight K D), cache.flights[own]? = some flight ∧
      flight.key = key ∧ flight.result = some (.ok entry.value)
  -- A leader that has taken its flight out, or was dropped and has, finds it under no key.
  landed : ∀ (own : Nat) (flight : ProbeFlight K D) (stage : Stage D),
    cache.flights[own]? = some flight → cache.calls[flight.leader]? = some ⟨flight.key, stage⟩ →
    stage.leads ≠ some own → ∀ key, cache.state.inFlight.lookup key ≠ some own
  -- An answer from a flight is its leader's, or the leader was dropped.
  received : ∀ (place : Nat) (key : K) (own : Nat) (result : ProbeResult D),
    cache.calls[place]? = some ⟨key, .answered (some own) result⟩ →
    ∃ flight stage, cache.flights[own]? = some flight ∧
      cache.calls[flight.leader]? = some ⟨key, stage⟩ ∧
      (stage = .published own result ∨ stage = .stored own result ∨
        stage = .answered (some own) result ∨
        result = .error .cancelled ∧
          (stage = .releasing own ∨ stage = .notifying own ∨ stage = .gone))

def KeepsFlights (cache : ProbeCache K D) (action : ProbeAction K D) (next : ProbeCache K D) : Prop :=
  ∀ key own, cache.state.inFlight.lookup key = some own →
    next.state.inFlight.lookup key = some own ∨
      ∃ flight now, cache.flights[own]? = some flight ∧ action = .advance flight.leader now

-- A waiter's leader is on its way to notify it, or the waiter gets the result in its next steps.
def Receives (limits : CacheLimits) (estimatedWeight : D → Nat) (cache : ProbeCache K D) : Prop :=
  ∀ (place : Nat) (key : K) (stage : Stage D) (own : Nat),
    cache.calls[place]? = some ⟨key, stage⟩ → stage.awaits = some own →
    ∃ flight leading, cache.flights[own]? = some flight ∧
      cache.calls[flight.leader]? = some ⟨key, leading⟩ ∧
      (leading.notifies = some own ∨
        ∃ result turns final, flight.result = some result ∧ turns ≤ 3 ∧
          (∀ now, Runs.run (ProbeCache.step limits estimatedWeight) cache
            (List.replicate turns (.advance place now)) = some final) ∧
          final.calls[place]? = some ⟨key, .answered (some own) result⟩)

theorem invariant_of_run {actions : List (ProbeAction K D)}
    (ran : Runs.run (ProbeCache.step limits estimatedWeight) empty actions = some cache) :
    cache.Flown ∧ cache.Kept limits := by
  have preserved : ∀ (before : ProbeCache K D) action after,
      before.Flown ∧ before.Kept limits → before.step limits estimatedWeight action = some after →
      after.Flown ∧ after.Kept limits :=
    fun _ _ _ both taken => ⟨both.1.step taken, both.2.step both.1 taken⟩
  exact Runs.invariant_of_run preserved ⟨flown_empty, kept_empty limits⟩ ran

theorem Flown.single (flown : cache.Flown) {first second own other : Nat}
    (atFirst : cache.calls[first]? = some ⟨key, .probing own⟩)
    (atSecond : cache.calls[second]? = some ⟨key, .probing other⟩) : first = second := by
  have same := (flown.flying first _ _ own atFirst rfl).symm.trans
    (flown.flying second _ _ other atSecond rfl)
  cases same
  obtain ⟨flight, present, leader⟩ := flown.leader first _ _ own atFirst rfl
  obtain ⟨again, isAgain, leaderAgain⟩ := flown.leader second _ _ own atSecond rfl
  cases present.symm.trans isAgain
  exact leader.symm.trans leaderAgain

theorem Flown.landed (flown : cache.Flown) {own : Nat} {flight : ProbeFlight K D}
    (present : cache.flights[own]? = some flight)
    (atLeader : cache.calls[flight.leader]? = some ⟨flight.key, stage⟩)
    (landed : stage.leads ≠ some own) (key : K) : cache.state.inFlight.lookup key ≠ some own := by
  intro looked
  obtain ⟨listed, leading, isListed, _, found, leads⟩ := flown.listed key own looked
  cases isListed.symm.trans present
  cases found.symm.trans atLeader
  exact landed leads

theorem Flown.received (flown : cache.Flown) {own : Nat} {result : ProbeResult D}
    (found : cache.calls[place]? = some ⟨key, .answered (some own) result⟩) :
    ∃ flight stage, cache.flights[own]? = some flight ∧
      cache.calls[flight.leader]? = some ⟨key, stage⟩ ∧
      (stage = .published own result ∨ stage = .stored own result ∨
        stage = .answered (some own) result ∨
        result = .error .cancelled ∧
          (stage = .releasing own ∨ stage = .notifying own ∨ stage = .gone)) := by
  obtain ⟨flight, present, rfl, done⟩ := flown.answered place key own result found
  obtain ⟨stage, atLeader, shows⟩ := flown.led own flight present
  rw [done] at shows
  refine ⟨flight, stage, present, atLeader, ?_⟩
  cases stage with
  | published other answer =>
    obtain ⟨rfl, ⟨⟩⟩ := shows
    exact .inl rfl
  | stored other answer =>
    obtain ⟨rfl, ⟨⟩⟩ := shows
    exact .inr (.inl rfl)
  | answered other answer =>
    cases other with
    | none => cases shows
    | some other =>
      obtain ⟨rfl, ⟨⟩⟩ := shows
      exact .inr (.inr (.inl rfl))
  | releasing other =>
    obtain ⟨rfl, ⟨⟩⟩ := shows
    exact .inr (.inr (.inr ⟨rfl, .inl rfl⟩))
  | notifying other =>
    obtain ⟨rfl, ⟨⟩⟩ := shows
    exact .inr (.inr (.inr ⟨rfl, .inr (.inl rfl)⟩))
  | gone =>
    cases shows
    exact .inr (.inr (.inr ⟨rfl, .inr (.inr rfl)⟩))
  | probing | probed | cancelling => cases shows.2
  | entering | joining | checking | parked => cases shows

theorem consistent_of_invariant (flown : cache.Flown) (kept : cache.Kept limits) :
    Consistent limits cache where
  weight := kept.sound.exact.weight
  light := kept.sound.within.weight
  queue := kept.sound.exact.lists.ordered
  nodup := kept.sound.exact.lists.nodup
  keys _ := kept.sound.exact.lists.mem_iff
  entries := kept.sound.within.entries
  inFlight := kept.sound.inFlight
  single _ _ _ _ _ atFirst atSecond := flown.single atFirst atSecond
  successes := kept.probed
  landed _ _ _ present atLeader landed := flown.landed present atLeader landed
  received _ _ _ _ found := flown.received found

theorem Flown.advance_keepsFlights (flown : cache.Flown) {now : Nat}
    (found : cache.calls[place]? = some ⟨key, stage⟩)
    (taken : cache.advance limits estimatedWeight place now key stage = some next) :
    cache.KeepsFlights (.advance place now) next := by
  intro other own looked
  have mine : other = key → stage.leads.isSome →
      ∃ flight moment, cache.flights[own]? = some flight ∧
        (ProbeAction.advance place now : ProbeAction K D) = .advance flight.leader moment := by
    rintro rfl leads
    obtain ⟨led, isLed⟩ := Option.isSome_iff_exists.mp leads
    have same := (flown.flying place _ _ led found isLed).symm.trans looked
    cases same
    obtain ⟨flight, present, leader⟩ := flown.leader place _ _ own found (Stage.notifies_of_leads isLed)
    exact ⟨flight, now, present, by rw [leader]⟩
  cases stage with
  | entering =>
    cases taken
    refine .inl ?_
    unfold ProbeCache.entered
    obtain ⟨_, _, _, same⟩ | ⟨_, _, same⟩ | ⟨_, same⟩ | ⟨free, _, same⟩ :=
      enter_cases limits now cache.flights.length key cache.state
    · simp only [same]
      exact looked
    · simp only [same]
      exact (congrArg _ (removeCacheEntry_inFlight cache.state key)).trans looked
    · simp only [same]
      exact (congrArg _ (removeCacheEntry_inFlight cache.state key)).trans looked
    · simp only [same]
      have different : other ≠ key := by
        rintro rfl
        cases looked.symm.trans free
      exact (AList.lookup_insert_ne different).trans looked
  | published flight result =>
    cases taken
    by_cases same : other = key
    · exact .inr (mine same rfl)
    · refine .inl ?_
      obtain ⟨_, _, state⟩ := recordUse_same cache key result
      show (store limits estimatedWeight now key result (cache.recordUse key result).state).inFlight.lookup
        other = some own
      rw [store_inFlight, AList.lookup_erase_ne same, state, looked]
  | releasing flight =>
    cases taken
    by_cases same : other = key
    · exact .inr (mine same rfl)
    · refine .inl ?_
      show (release key flight cache.state).inFlight.lookup other = some own
      rw [release_inFlight (flown.flying place _ _ flight found rfl), AList.lookup_erase_ne same, looked]
  | checking =>
    obtain ⟨record, _, rfl⟩ := Option.map_eq_some_iff.mp taken
    split
    next => exact .inl looked
    next => exact .inl looked
  | parked own notified =>
    cases notified with
    | false => cases taken
    | true =>
      cases taken
      exact .inl looked
  | probing => cases taken
  | answered => cases taken
  | gone => cases taken
  | _ =>
    cases taken
    exact .inl looked

theorem Flown.keepsFlights (flown : cache.Flown) {action : ProbeAction K D}
    (taken : cache.step limits estimatedWeight action = some next) : cache.KeepsFlights action next := by
  obtain ⟨key, _, rfl⟩ | ⟨place, now, key, stage, rfl, found, advances⟩ |
    ⟨place, key, own, result, _, found, rfl⟩ | ⟨place, key, own, _, found, rfl⟩ |
    ⟨place, key, stage, _, found, outside, rfl⟩ := step_cases taken
  · exact fun _ _ looked => .inl looked
  · exact flown.advance_keepsFlights found advances
  · exact fun _ _ looked => .inl looked
  · exact fun _ _ looked => .inl looked
  · exact fun _ _ looked => .inl looked

omit [DecidableEq K] in
theorem move_at (found : cache.calls[place]? = some ⟨key, old⟩) (stage : Stage D) :
    (cache.move place key stage).calls[place]? = some ⟨key, stage⟩ :=
  List.getElem?_set_self (List.getElem?_eq_some_iff.mp found).1

theorem step_advance (limits : CacheLimits) (estimatedWeight : D → Nat) (now : Nat)
    (found : cache.calls[place]? = some ⟨key, stage⟩) :
    cache.step limits estimatedWeight (.advance place now) =
      cache.advance limits estimatedWeight place now key stage := by
  simp only [ProbeCache.step, found, Option.bind_some]

theorem answers_checking {own : Nat} {flight : ProbeFlight K D} {result : ProbeResult D}
    {notified : Bool} (found : cache.calls[place]? = some ⟨key, .checking own notified⟩)
    (present : cache.flights[own]? = some flight) (done : flight.result = some result) (now : Nat) :
    Runs.run (ProbeCache.step limits estimatedWeight) cache (List.replicate 1 (.advance place now)) =
      some (cache.move place key (.answered (some own) result)) := by
  rw [List.replicate_one, Runs.run, step_advance limits estimatedWeight now found]
  simp only [ProbeCache.advance, present, Option.map_some, done, Option.bind_some, Runs.run]

theorem answers_joining {own : Nat} {flight : ProbeFlight K D} {result : ProbeResult D}
    (found : cache.calls[place]? = some ⟨key, .joining own⟩)
    (present : cache.flights[own]? = some flight) (done : flight.result = some result) (now : Nat) :
    Runs.run (ProbeCache.step limits estimatedWeight) cache (List.replicate 2 (.advance place now)) =
      some ((cache.move place key (.checking own false)).move place key (.answered (some own) result)) := by
  rw [List.replicate_succ, Runs.run, step_advance limits estimatedWeight now found]
  exact answers_checking (move_at found (.checking own false)) present done now

theorem answers_parked {own : Nat} {flight : ProbeFlight K D} {result : ProbeResult D}
    (found : cache.calls[place]? = some ⟨key, .parked own true⟩)
    (present : cache.flights[own]? = some flight) (done : flight.result = some result) (now : Nat) :
    Runs.run (ProbeCache.step limits estimatedWeight) cache (List.replicate 3 (.advance place now)) =
      some (((cache.move place key (.joining own)).move place key (.checking own false)).move place key
        (.answered (some own) result)) := by
  rw [List.replicate_succ, Runs.run, step_advance limits estimatedWeight now found]
  exact answers_joining (move_at found (.joining own)) present done now

theorem Flown.receives (flown : cache.Flown) (limits : CacheLimits) (estimatedWeight : D → Nat) :
    cache.Receives limits estimatedWeight := by
  intro place key stage own found awaits
  obtain ⟨flight, present, rfl⟩ := flown.joined place key stage own found awaits
  obtain ⟨leading, atLeader, shows⟩ := flown.led own flight present
  refine ⟨flight, leading, present, atLeader, ?_⟩
  by_cases notifies : leading.notifies = some own
  · exact .inl notifies
  refine .inr ?_
  obtain ⟨result, done⟩ : ∃ result, flight.result = some result := by
    cases leading with
    | gone => exact ⟨_, shows⟩
    | answered other answer =>
      cases other with
      | none => cases shows
      | some other => exact ⟨_, shows.2⟩
    | entering | joining | checking | parked => cases shows
    | _ => exact absurd (congrArg some shows.1) notifies
  cases stage with
  | joining other =>
    cases awaits
    exact ⟨result, 2, _, done, by decide, answers_joining found present done,
      move_at (move_at found _) _⟩
  | checking other notified =>
    cases awaits
    exact ⟨result, 1, _, done, by decide, answers_checking found present done, move_at found _⟩
  | parked other notified =>
    cases awaits
    cases notified with
    | true =>
      exact ⟨result, 3, _, done, by decide, answers_parked found present done,
        move_at (move_at (move_at found _) _) _⟩
    | false =>
      obtain ⟨again, stage, isAgain, atAgain, still⟩ := flown.asleep place _ own found
      cases isAgain.symm.trans present
      cases atAgain.symm.trans atLeader
      exact absurd still notifies
  | _ => cases awaits

theorem probeCache_consistent (limits : CacheLimits) (estimatedWeight : D → Nat)
    (actions : List (ProbeAction K D)) (cache : ProbeCache K D)
    (ran : Runs.run (ProbeCache.step limits estimatedWeight) empty actions = some cache) :
    Consistent limits cache ∧ cache.Receives limits estimatedWeight ∧
      ∀ action next, cache.step limits estimatedWeight action = some next →
        cache.KeepsFlights action next := by
  obtain ⟨flown, kept⟩ := invariant_of_run ran
  exact ⟨consistent_of_invariant flown kept, flown.receives limits estimatedWeight,
    fun action next taken => flown.keepsFlights taken⟩

/-- One leads and one waits; the result is cached, and the waiter is about to wake up to it. -/
def sharedProbe : List (ProbeAction Nat Nat) :=
  [.call 1, .call 1, .advance 0 0, .advance 1 0, .advance 1 0, .advance 1 0, .finish 0 (.ok 7),
    .advance 0 5, .advance 0 5, .advance 0 5]

theorem probeCache_shared :
    ∃ cache : ProbeCache Nat Nat,
      Runs.run (ProbeCache.step .default id) empty sharedProbe = some cache ∧
      cache.state.lru = [1] ∧ cache.calls[1]? = some ⟨1, .parked 0 true⟩ ∧
      Consistent .default cache ∧ cache.Receives .default id ∧
      ∀ action next, cache.step .default id action = some next → cache.KeepsFlights action next := by
  refine ⟨_, rfl, rfl, rfl, ?_⟩
  exact probeCache_consistent .default id sharedProbe _ rfl

end Runs

end ProbeCache

end StreamServer.Transcoding
