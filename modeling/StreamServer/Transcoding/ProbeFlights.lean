import StreamServer.Transcoding.ProbeEntries

set_option autoImplicit false

namespace StreamServer.Transcoding

variable {K D : Type}

namespace Stage

def leads : Stage D → Option Nat
  | .probing flight | .probed flight _ | .published flight _ | .cancelling flight
  | .releasing flight => some flight
  | _ => none

def notifies : Stage D → Option Nat
  | .probing flight | .probed flight _ | .published flight _ | .stored flight _
  | .cancelling flight | .releasing flight | .notifying flight => some flight
  | _ => none

def awaits : Stage D → Option Nat
  | .joining flight | .checking flight _ | .parked flight _ => some flight
  | _ => none

def Shows (flight : Nat) (slot : Option (ProbeResult D)) : Stage D → Prop
  | .probing own | .probed own _ | .cancelling own => own = flight ∧ slot = none
  | .published own result | .stored own result | .answered (some own) result =>
      own = flight ∧ slot = some result
  | .releasing own | .notifying own => own = flight ∧ slot = some (.error .cancelled)
  | .gone => slot = some (.error .cancelled)
  | _ => False

theorem notifies_of_leads {stage : Stage D} {flight : Nat} (leads : stage.leads = some flight) :
    stage.notifies = some flight := by
  cases stage <;> first | exact leads | cases leads

theorem shows_own {stage : Stage D} {flight own : Nat} {slot : Option (ProbeResult D)}
    (shows : stage.Shows flight slot) (notifies : stage.notifies = some own) : own = flight := by
  cases stage <;> first | (cases notifies; exact shows.1) | cases notifies

theorem shows_unique {stage : Stage D} {flight : Nat} {slot other : Option (ProbeResult D)}
    (shows : stage.Shows flight slot) (again : stage.Shows flight other) : slot = other := by
  cases stage with
  | gone => exact shows.trans again.symm
  | answered own result =>
    cases own with
    | none => cases shows
    | some own => exact shows.2.trans again.2.symm
  | _ => first | cases shows; done | exact shows.2.trans again.2.symm

end Stage

namespace ProbeCache

structure Flown (cache : ProbeCache K D) [DecidableEq K] : Prop where
  led : ∀ (place : Nat) (flight : ProbeFlight K D), cache.flights[place]? = some flight →
    ∃ stage, cache.calls[flight.leader]? = some ⟨flight.key, stage⟩ ∧ stage.Shows place flight.result
  leader : ∀ (place : Nat) (key : K) (stage : Stage D) (own : Nat),
    cache.calls[place]? = some ⟨key, stage⟩ → stage.notifies = some own →
    ∃ flight, cache.flights[own]? = some flight ∧ flight.leader = place
  listed : ∀ key own, cache.state.inFlight.lookup key = some own →
    ∃ flight stage, cache.flights[own]? = some flight ∧ flight.key = key ∧
      cache.calls[flight.leader]? = some ⟨key, stage⟩ ∧ stage.leads = some own
  flying : ∀ (place : Nat) (key : K) (stage : Stage D) (own : Nat),
    cache.calls[place]? = some ⟨key, stage⟩ → stage.leads = some own →
    cache.state.inFlight.lookup key = some own
  joined : ∀ (place : Nat) (key : K) (stage : Stage D) (own : Nat),
    cache.calls[place]? = some ⟨key, stage⟩ → stage.awaits = some own →
    ∃ flight, cache.flights[own]? = some flight ∧ flight.key = key
  answered : ∀ (place : Nat) (key : K) (own : Nat) (result : ProbeResult D),
    cache.calls[place]? = some ⟨key, .answered (some own) result⟩ →
    ∃ flight, cache.flights[own]? = some flight ∧ flight.key = key ∧ flight.result = some result
  asleep : ∀ (place : Nat) (key : K) (own : Nat), cache.calls[place]? = some ⟨key, .parked own false⟩ →
    ∃ flight stage, cache.flights[own]? = some flight ∧
      cache.calls[flight.leader]? = some ⟨flight.key, stage⟩ ∧ stage.notifies = some own

variable [DecidableEq K] {before after : ProbeCache K D} {place : Nat} {key : K} {old stage : Stage D}

theorem flown_empty : (empty : ProbeCache K D).Flown := by
  constructor <;> intros <;> simp_all [empty, ProbeCacheState.empty]

structure Moves (before after : ProbeCache K D) (place : Nat) (key : K) (old stage : Stage D) :
    Prop where
  found : before.calls[place]? = some ⟨key, old⟩
  calls : after.calls = before.calls.set place ⟨key, stage⟩
  grows : ∀ (own : Nat) (flight : ProbeFlight K D), before.flights[own]? = some flight →
    ∃ later, after.flights[own]? = some later ∧ later.key = flight.key ∧
      later.leader = flight.leader ∧ ∀ result, flight.result = some result → later.result = some result
  flights : ∀ (own : Nat) (flight : ProbeFlight K D), after.flights[own]? = some flight →
    flight.leader = place ∧ flight.key = key ∧ stage.Shows own flight.result ∨
      flight.leader ≠ place ∧ before.flights[own]? = some flight
  listing : ∀ other own, after.state.inFlight.lookup other = some own ↔
    stage.leads = some own ∧ other = key ∨
      stage.leads ≠ some own ∧ old.leads ≠ some own ∧ before.state.inFlight.lookup other = some own
  leader : ∀ own, stage.notifies = some own →
    ∃ flight, after.flights[own]? = some flight ∧ flight.leader = place
  notifies : ∀ own, old.notifies = some own → stage.notifies = some own ∨
    ∀ (place : Nat) (key : K), before.calls[place]? ≠ some ⟨key, .parked own false⟩
  joined : ∀ own, stage.awaits = some own →
    ∃ flight, after.flights[own]? = some flight ∧ flight.key = key
  answers : ∀ own result, stage = .answered (some own) result →
    ∃ flight, after.flights[own]? = some flight ∧ flight.key = key ∧ flight.result = some result
  asleep : ∀ own, stage = .parked own false → ∃ flight stage, before.flights[own]? = some flight ∧
    flight.leader ≠ place ∧ before.calls[flight.leader]? = some ⟨flight.key, stage⟩ ∧
      stage.notifies = some own

theorem Moves.at (moves : Moves before after place key old stage) :
    after.calls[place]? = some ⟨key, stage⟩ := by
  rw [moves.calls]
  exact List.getElem?_set_self (List.getElem?_eq_some_iff.mp moves.found).1

theorem Moves.elsewhere (moves : Moves before after place key old stage) {other : Nat}
    (different : other ≠ place) : after.calls[other]? = before.calls[other]? := by
  rw [moves.calls, List.getElem?_set_ne (Ne.symm different)]

theorem Moves.cases (moves : Moves before after place key old stage) {other : Nat} {call : ProbeCall K D}
    (found : after.calls[other]? = some call) :
    other ≠ place ∧ before.calls[other]? = some call ∨ other = place ∧ call = ⟨key, stage⟩ :=
  Lists.getElem?_set_cases (moves.calls ▸ found)

theorem Flown.moved (flown : before.Flown) (moves : Moves before after place key old stage) :
    after.Flown where
  led own flight present := by
    obtain ⟨rfl, rfl, shows⟩ | ⟨different, earlier⟩ := moves.flights own flight present
    · exact ⟨stage, moves.at, shows⟩
    · rw [moves.elsewhere different]
      exact flown.led own flight earlier
  leader other otherKey otherStage own found notifies := by
    obtain ⟨_, earlier⟩ | ⟨rfl, same⟩ := moves.cases found
    · obtain ⟨flight, present, leader⟩ := flown.leader other _ _ own earlier notifies
      obtain ⟨later, after, _, sameLeader, _⟩ := moves.grows own flight present
      exact ⟨later, after, sameLeader.trans leader⟩
    · cases same
      exact moves.leader own notifies
  listed other own looked := by
    obtain ⟨leads, rfl⟩ | ⟨_, notOld, earlier⟩ := (moves.listing other own).mp looked
    · obtain ⟨flight, present, leader⟩ := moves.leader own (Stage.notifies_of_leads leads)
      obtain ⟨_, sameKey, _⟩ | ⟨different, _⟩ := moves.flights own flight present
      · exact ⟨flight, stage, present, sameKey, leader ▸ moves.at, leads⟩
      · exact absurd leader different
    · obtain ⟨flight, leading, present, sameKey, atLeader, leads⟩ := flown.listed other own earlier
      obtain ⟨later, after, laterKey, laterLeader, _⟩ := moves.grows own flight present
      refine ⟨later, leading, after, laterKey.trans sameKey, ?_, leads⟩
      rw [laterLeader, moves.elsewhere, atLeader]
      intro same
      rw [same, moves.found] at atLeader
      cases atLeader
      exact notOld leads
  flying other otherKey otherStage own found leads := by
    obtain ⟨different, earlier⟩ | ⟨rfl, same⟩ := moves.cases found
    · obtain ⟨flight, present, leader⟩ :=
        flown.leader other _ _ own earlier (Stage.notifies_of_leads leads)
      refine (moves.listing otherKey own).mpr
        (.inr ⟨fun newLeads => ?_, fun oldLeads => ?_, flown.flying other _ _ own earlier leads⟩)
      · obtain ⟨mine, isMine, atPlace⟩ := moves.leader own (Stage.notifies_of_leads newLeads)
        obtain ⟨later, after, _, laterLeader, _⟩ := moves.grows own flight present
        cases isMine.symm.trans after
        exact different (leader.symm.trans (laterLeader.symm.trans atPlace))
      · obtain ⟨mine, isMine, atPlace⟩ :=
          flown.leader place _ _ own moves.found (Stage.notifies_of_leads oldLeads)
        cases isMine.symm.trans present
        exact different (leader.symm.trans atPlace)
    · cases same
      exact (moves.listing key own).mpr (.inl ⟨leads, rfl⟩)
  joined other otherKey otherStage own found awaits := by
    obtain ⟨_, earlier⟩ | ⟨rfl, same⟩ := moves.cases found
    · obtain ⟨flight, present, sameKey⟩ := flown.joined other _ _ own earlier awaits
      obtain ⟨later, after, laterKey, _, _⟩ := moves.grows own flight present
      exact ⟨later, after, laterKey.trans sameKey⟩
    · cases same
      exact moves.joined own awaits
  answered other otherKey own result found := by
    obtain ⟨_, earlier⟩ | ⟨rfl, same⟩ := moves.cases found
    · obtain ⟨flight, present, sameKey, done⟩ := flown.answered other _ own result earlier
      obtain ⟨later, after, laterKey, _, kept⟩ := moves.grows own flight present
      exact ⟨later, after, laterKey.trans sameKey, kept result done⟩
    · cases same
      exact moves.answers own result rfl
  asleep other otherKey own found := by
    obtain ⟨_, earlier⟩ | ⟨rfl, same⟩ := moves.cases found
    · obtain ⟨flight, leading, present, atLeader, notifies⟩ := flown.asleep other _ own earlier
      obtain ⟨later, after, laterKey, laterLeader, _⟩ := moves.grows own flight present
      rw [← laterKey, ← laterLeader] at atLeader
      by_cases same : later.leader = place
      · rw [same, moves.found] at atLeader
        cases atLeader
        refine ⟨later, stage, after, same ▸ moves.at, ?_⟩
        exact (moves.notifies own notifies).resolve_right fun nobody => nobody other _ earlier
      · exact ⟨later, leading, after, (moves.elsewhere same).trans atLeader, notifies⟩
    · cases same
      obtain ⟨flight, leading, present, different, atLeader, notifies⟩ := moves.asleep own rfl
      obtain ⟨later, after, laterKey, laterLeader, _⟩ := moves.grows own flight present
      rw [← laterLeader] at different
      rw [← laterKey, ← laterLeader] at atLeader
      exact ⟨later, leading, after, (moves.elsewhere different).trans atLeader, notifies⟩

section Quiet

theorem Flown.lookup_iff (flown : before.Flown) (found : before.calls[place]? = some ⟨key, old⟩)
    {own : Nat} (leads : old.leads = some own) (other : K) :
    before.state.inFlight.lookup other = some own ↔ other = key := by
  constructor
  · intro looked
    obtain ⟨flight, leading, present, _, atLeader, _⟩ := flown.listed other own looked
    obtain ⟨mine, isMine, atPlace⟩ := flown.leader place _ _ own found (Stage.notifies_of_leads leads)
    cases isMine.symm.trans present
    rw [atPlace, found] at atLeader
    cases atLeader
    rfl
  · rintro rfl
    exact flown.flying place _ _ own found leads

theorem Flown.own_flight (flown : before.Flown) (found : before.calls[place]? = some ⟨key, old⟩)
    {own : Nat} {flight : ProbeFlight K D} (present : before.flights[own]? = some flight)
    (leader : flight.leader = place) : flight.key = key ∧ old.Shows own flight.result := by
  obtain ⟨leading, atLeader, shows⟩ := flown.led own flight present
  rw [leader, found] at atLeader
  cases atLeader
  exact ⟨rfl, shows⟩

structure Quiet (before after : ProbeCache K D) (place : Nat) (key : K) (old stage : Stage D) :
    Prop where
  found : before.calls[place]? = some ⟨key, old⟩
  calls : after.calls = before.calls.set place ⟨key, stage⟩
  flights : after.flights = before.flights
  inFlight : after.state.inFlight = before.state.inFlight
  shows : ∀ own slot, old.Shows own slot → stage.Shows own slot
  leads : stage.leads = old.leads
  leader : ∀ own, stage.notifies = some own → old.notifies = some own
  notifies : ∀ own, old.notifies = some own → stage.notifies = some own ∨
    ∀ (place : Nat) (key : K), before.calls[place]? ≠ some ⟨key, .parked own false⟩
  joined : ∀ own, stage.awaits = some own →
    ∃ flight, before.flights[own]? = some flight ∧ flight.key = key
  answers : ∀ own result, stage = .answered (some own) result →
    ∃ flight, before.flights[own]? = some flight ∧ flight.key = key ∧ flight.result = some result
  asleep : ∀ own, stage = .parked own false → ∃ flight stage, before.flights[own]? = some flight ∧
    flight.leader ≠ place ∧ before.calls[flight.leader]? = some ⟨flight.key, stage⟩ ∧
      stage.notifies = some own

theorem Quiet.moves (quiet : Quiet before after place key old stage) (flown : before.Flown) :
    Moves before after place key old stage where
  found := quiet.found
  calls := quiet.calls
  grows own flight present := ⟨flight, quiet.flights ▸ present, rfl, rfl, fun _ done => done⟩
  flights own flight present := by
    rw [quiet.flights] at present
    by_cases leader : flight.leader = place
    · obtain ⟨sameKey, shows⟩ := flown.own_flight quiet.found present leader
      exact .inl ⟨leader, sameKey, quiet.shows own _ shows⟩
    · exact .inr ⟨leader, present⟩
  listing other own := by
    rw [quiet.inFlight, quiet.leads]
    by_cases leads : old.leads = some own
    · simp [leads, flown.lookup_iff quiet.found leads other]
    · simp [leads]
  leader own notifies := by
    rw [quiet.flights]
    exact flown.leader place _ _ own quiet.found (quiet.leader own notifies)
  notifies := quiet.notifies
  joined := by
    rw [quiet.flights]
    exact quiet.joined
  answers := by
    rw [quiet.flights]
    exact quiet.answers
  asleep := quiet.asleep

theorem Flown.followed (flown : before.Flown) (found : before.calls[place]? = some ⟨key, old⟩)
    (calls : after.calls = before.calls.set place ⟨key, stage⟩) (flights : after.flights = before.flights)
    (inFlight : after.state.inFlight = before.state.inFlight)
    (outside : ∀ own slot, ¬ old.Shows own slot) (oldNotifies : old.notifies = none)
    (notifies : stage.notifies = none)
    (joined : ∀ own, stage.awaits = some own →
      ∃ flight, before.flights[own]? = some flight ∧ flight.key = key)
    (answers : ∀ own result, stage = .answered (some own) result →
      ∃ flight, before.flights[own]? = some flight ∧ flight.key = key ∧ flight.result = some result)
    (asleep : ∀ own, stage = .parked own false → ∃ flight stage, before.flights[own]? = some flight ∧
      flight.leader ≠ place ∧ before.calls[flight.leader]? = some ⟨flight.key, stage⟩ ∧
        stage.notifies = some own) : after.Flown := by
  have noLeads : ∀ {stage : Stage D}, stage.notifies = none → stage.leads = none := by
    intro stage none
    rw [Option.eq_none_iff_forall_ne_some]
    intro own leads
    rw [Stage.notifies_of_leads leads] at none
    cases none
  refine flown.moved (Quiet.moves ⟨found, calls, flights, inFlight, fun own slot shows =>
    absurd shows (outside own slot), (noLeads notifies).trans (noLeads oldNotifies).symm, ?_, ?_, joined,
    answers, asleep⟩ flown)
  · intro own mine
    rw [notifies] at mine
    cases mine
  · intro own mine
    rw [oldNotifies] at mine
    cases mine

end Quiet

section Notified

omit [DecidableEq K]

theorem notify_cases (flight : Nat) (call : ProbeCall K D) :
    call.notify flight = call ∨
      (∃ notified, call.stage = .checking flight notified ∧
        call.notify flight = ⟨call.key, .checking flight true⟩) ∨
      ∃ notified, call.stage = .parked flight notified ∧
        call.notify flight = ⟨call.key, .parked flight true⟩ := by
  obtain ⟨key, stage⟩ := call
  cases stage with
  | checking other notified =>
    by_cases same : other = flight
    · subst same
      exact .inr (.inl ⟨notified, rfl, if_pos rfl⟩)
    · exact .inl (if_neg same)
  | parked other notified =>
    by_cases same : other = flight
    · subst same
      exact .inr (.inr ⟨notified, rfl, if_pos rfl⟩)
    · exact .inl (if_neg same)
  | _ => exact .inl rfl

theorem notify_same (flight : Nat) (call : ProbeCall K D) :
    (call.notify flight).key = call.key ∧ (call.notify flight).stage.notifies = call.stage.notifies ∧
      (call.notify flight).stage.leads = call.stage.leads ∧
      (call.notify flight).stage.awaits = call.stage.awaits ∧
      ∀ own slot, (call.notify flight).stage.Shows own slot ↔ call.stage.Shows own slot := by
  obtain same | ⟨_, same, notified⟩ | ⟨_, same, notified⟩ := notify_cases flight call
  · simp [same]
  · rw [notified, same]
    exact ⟨rfl, rfl, rfl, rfl, fun _ _ => Iff.rfl⟩
  · rw [notified, same]
    exact ⟨rfl, rfl, rfl, rfl, fun _ _ => Iff.rfl⟩

theorem notify_answered {flight : Nat} {call : ProbeCall K D} {key : K} {own : Option Nat}
    {result : ProbeResult D} (answered : call.notify flight = ⟨key, .answered own result⟩) :
    call = ⟨key, .answered own result⟩ := by
  obtain same | ⟨_, _, notified⟩ | ⟨_, _, notified⟩ := notify_cases flight call
  · exact same.symm.trans answered
  · cases notified.symm.trans answered
  · cases notified.symm.trans answered

theorem notify_asleep {flight own : Nat} {call : ProbeCall K D} {key : K}
    (asleep : call.notify flight = ⟨key, .parked own false⟩) :
    call = ⟨key, .parked own false⟩ ∧ own ≠ flight := by
  obtain same | ⟨_, _, notified⟩ | ⟨_, _, notified⟩ := notify_cases flight call
  · have unmoved := same.symm.trans asleep
    refine ⟨unmoved, ?_⟩
    rintro rfl
    rw [unmoved] at asleep
    have woken : (⟨key, .parked own true⟩ : ProbeCall K D) = ⟨key, .parked own false⟩ :=
      (if_pos rfl : (⟨key, .parked own false⟩ : ProbeCall K D).notify own = _).symm.trans asleep
    cases woken
  · cases notified.symm.trans asleep
  · cases notified.symm.trans asleep

end Notified

section Waking

variable {own : Nat}

omit [DecidableEq K] in
theorem notifyWaiters_found {cache : ProbeCache K D} {flight place : Nat} {key : K} {stage : Stage D}
    (found : (cache.notifyWaiters flight).calls[place]? = some ⟨key, stage⟩) :
    ∃ earlier, cache.calls[place]? = some ⟨key, earlier⟩ ∧
      (⟨key, earlier⟩ : ProbeCall K D).notify flight = ⟨key, stage⟩ := by
  simp only [notifyWaiters, List.getElem?_map, Option.map_eq_some_iff] at found
  obtain ⟨⟨callKey, earlier⟩, present, notified⟩ := found
  have sameKey : callKey = key := (notify_same flight ⟨callKey, earlier⟩).1.symm.trans (by rw [notified])
  subst sameKey
  exact ⟨earlier, present, notified⟩

omit [DecidableEq K] in
theorem notifyWaiters_at {cache : ProbeCache K D} {place : Nat} {key : K} {stage : Stage D}
    (found : cache.calls[place]? = some ⟨key, stage⟩) (flight : Nat) :
    ∃ later, (cache.notifyWaiters flight).calls[place]? = some ⟨key, later⟩ ∧
      later.notifies = stage.notifies ∧ later.leads = stage.leads ∧
      ∀ own slot, later.Shows own slot ↔ stage.Shows own slot := by
  obtain ⟨sameKey, notifies, leads, _, shows⟩ := notify_same flight (⟨key, stage⟩ : ProbeCall K D)
  refine ⟨((⟨key, stage⟩ : ProbeCall K D).notify flight).stage, ?_, notifies, leads, shows⟩
  simp only [notifyWaiters, List.getElem?_map, found, Option.map_some, Option.some.injEq]
  exact congrArg (ProbeCall.mk · _) sameKey

theorem Flown.notified (flown : before.Flown) (flight : Nat) : (before.notifyWaiters flight).Flown where
  led own record present := by
    obtain ⟨stage, atLeader, shows⟩ := flown.led own record present
    obtain ⟨later, found, _, _, same⟩ := notifyWaiters_at atLeader flight
    exact ⟨later, found, (same own _).mpr shows⟩
  leader place key stage own found notifies := by
    obtain ⟨earlier, present, notified⟩ := notifyWaiters_found found
    obtain ⟨_, same, _⟩ := notify_same flight (⟨key, earlier⟩ : ProbeCall K D)
    rw [notified] at same
    exact flown.leader place key earlier own present (same.symm.trans notifies)
  listed key own looked := by
    obtain ⟨record, stage, present, sameKey, atLeader, leads⟩ := flown.listed key own looked
    obtain ⟨later, found, _, same, _⟩ := notifyWaiters_at atLeader flight
    exact ⟨record, later, present, sameKey, found, same.trans leads⟩
  flying place key stage own found leads := by
    obtain ⟨earlier, present, notified⟩ := notifyWaiters_found found
    obtain ⟨_, _, same, _⟩ := notify_same flight (⟨key, earlier⟩ : ProbeCall K D)
    rw [notified] at same
    exact flown.flying place key earlier own present (same.symm.trans leads)
  joined place key stage own found awaits := by
    obtain ⟨earlier, present, notified⟩ := notifyWaiters_found found
    obtain ⟨_, _, _, same, _⟩ := notify_same flight (⟨key, earlier⟩ : ProbeCall K D)
    rw [notified] at same
    exact flown.joined place key earlier own present (same.symm.trans awaits)
  answered place key own result found := by
    obtain ⟨earlier, present, notified⟩ := notifyWaiters_found found
    rw [notify_answered notified] at present
    exact flown.answered place key own result present
  asleep place key own found := by
    obtain ⟨earlier, present, notified⟩ := notifyWaiters_found found
    rw [(notify_asleep notified).1] at present
    obtain ⟨record, stage, flying, atLeader, notifies⟩ := flown.asleep place key own present
    obtain ⟨later, still, same, _⟩ := notifyWaiters_at atLeader flight
    exact ⟨record, later, flying, still, same.trans notifies⟩

theorem Flown.finished (flown : before.Flown) (found : before.calls[place]? = some ⟨key, old⟩)
    (oldNotifies : old.notifies = some own) (unlisted : old.leads = none)
    (unchanged : (⟨key, old⟩ : ProbeCall K D).notify own = ⟨key, old⟩)
    (notifies : stage.notifies = none) (leads : stage.leads = none) (awaits : stage.awaits = none)
    (shows : ∀ other slot, old.Shows other slot → stage.Shows other slot)
    (answers : ∀ other result, stage = .answered (some other) result →
      old.Shows other (some result)) :
    ((before.notifyWaiters own).move place key stage).Flown := by
  have notified := flown.notified own
  have foundAfter : (before.notifyWaiters own).calls[place]? = some ⟨key, old⟩ := by
    simp only [notifyWaiters, List.getElem?_map, found, Option.map_some, unchanged]
  refine notified.moved (Quiet.moves ⟨foundAfter, rfl, rfl, rfl, shows, leads.trans unlisted.symm, ?_,
    ?_, ?_, ?_, ?_⟩ notified)
  · intro other mine
    rw [notifies] at mine
    cases mine
  · intro other mine
    refine .inr fun sleeper sleeperKey asleep => ?_
    rw [oldNotifies] at mine
    cases mine
    obtain ⟨_, _, woken⟩ := notifyWaiters_found asleep
    exact (notify_asleep woken).2 rfl
  · intro other mine
    rw [awaits] at mine
    cases mine
  · intro other result same
    have oldShows := answers other result same
    obtain rfl := Stage.shows_own oldShows oldNotifies
    obtain ⟨record, present, leader⟩ := notified.leader place _ _ own foundAfter oldNotifies
    obtain ⟨sameKey, ownShows⟩ := notified.own_flight foundAfter present leader
    exact ⟨record, present, sameKey, Stage.shows_unique ownShows oldShows⟩
  · intro other same
    rw [same] at awaits
    cases awaits

end Waking

section Leading

variable {own : Nat}

theorem Flown.led_anew (flown : before.Flown) (found : before.calls[place]? = some ⟨key, .entering⟩)
    (free : before.state.inFlight.lookup key = none)
    (calls : after.calls = before.calls.set place ⟨key, .probing before.flights.length⟩)
    (flights : after.flights = before.flights ++ [⟨key, place, none⟩])
    (inFlight : after.state.inFlight = before.state.inFlight.insert key before.flights.length) :
    after.Flown := by
  have fresh : after.flights[before.flights.length]? = some ⟨key, place, none⟩ := by
    rw [flights, List.getElem?_concat_length]
  have older : ∀ (own : Nat) (flight : ProbeFlight K D), before.flights[own]? = some flight →
      after.flights[own]? = some flight := by
    intro own flight present
    rw [flights, List.getElem?_append_left (List.getElem?_eq_some_iff.mp present).1, present]
  refine flown.moved ⟨found, calls, ?_, ?_, ?_, ?_, ?_, ?_, ?_, ?_⟩
  · intro own flight present
    exact ⟨flight, older own flight present, rfl, rfl, fun _ done => done⟩
  · intro own flight present
    rw [flights] at present
    obtain earlier | ⟨rfl, rfl⟩ := Lists.getElem?_append_cases present
    · refine .inr ⟨fun leader => ?_, earlier⟩
      obtain ⟨_, shows⟩ := flown.own_flight found earlier leader
      exact shows
    · exact .inl ⟨rfl, rfl, rfl, rfl⟩
  · intro other own
    rw [inFlight]
    by_cases same : other = key
    · subst same
      rw [AList.lookup_insert, free]
      simp [Stage.leads]
    · rw [AList.lookup_insert_ne same]
      simp only [Stage.leads, same, and_false, false_or]
      refine ⟨fun looked => ⟨?_, (Option.some_ne_none own).symm, looked⟩, fun all => all.2.2⟩
      rintro ⟨⟩
      obtain ⟨flight, _, present, _⟩ := flown.listed other _ looked
      exact absurd (List.getElem?_eq_some_iff.mp present).1 (Nat.lt_irrefl _)
  · intro own notifies
    cases notifies
    exact ⟨_, fresh, rfl⟩
  · intro own notifies
    cases notifies
  · intro own awaits
    cases awaits
  · intro own result same
    cases same
  · intro own same
    cases same

theorem Flown.filled (flown : before.Flown) (found : before.calls[place]? = some ⟨key, old⟩)
    {result : ProbeResult D} (calls : after.calls = before.calls.set place ⟨key, stage⟩)
    (inFlight : after.state.inFlight = before.state.inFlight)
    {fill : ProbeFlight K D → ProbeFlight K D} (flights : after.flights = before.flights.modify own fill)
    (fills : ∀ flight : ProbeFlight K D, flight.result = none →
      fill flight = { flight with result := some result })
    (oldLeads : old.leads = some own) (leads : stage.leads = some own)
    (empty : ∀ other slot, old.Shows other slot → slot = none)
    (shows : stage.Shows own (some result)) (awaits : stage.awaits = none) : after.Flown := by
  have oldNotifies := Stage.notifies_of_leads oldLeads
  have notifies := Stage.notifies_of_leads leads
  obtain ⟨flight, present, leader⟩ := flown.leader place _ _ own found oldNotifies
  obtain ⟨sameKey, oldShows⟩ := flown.own_flight found present leader
  have vacant := empty own _ oldShows
  have filled : after.flights[own]? = some { flight with result := some result } := by
    rw [flights, List.getElem?_modify, present]
    simp [fills flight vacant]
  have others : ∀ other, other ≠ own → after.flights[other]? = before.flights[other]? := by
    intro other different
    rw [flights, List.getElem?_modify]
    simp [Ne.symm different]
  have notAnswered : ∀ other result, stage ≠ .answered (some other) result := by
    rintro other result rfl
    cases leads
  refine flown.moved ⟨found, calls, ?_, ?_, ?_, ?_, ?_, ?_, ?_, ?_⟩
  · intro other record earlier
    by_cases same : other = own
    · subst same
      cases present.symm.trans earlier
      refine ⟨_, filled, rfl, rfl, fun result done => ?_⟩
      rw [vacant] at done
      cases done
    · exact ⟨record, (others other same).trans earlier, rfl, rfl, fun _ done => done⟩
  · intro other record later
    by_cases same : other = own
    · subst same
      cases filled.symm.trans later
      exact .inl ⟨leader, sameKey, shows⟩
    · rw [others other same] at later
      refine .inr ⟨fun mine => same ?_, later⟩
      exact (Stage.shows_own (flown.own_flight found later mine).2 oldNotifies).symm
  · intro other place
    rw [inFlight]
    by_cases same : place = own
    · subst same
      simp [leads, flown.lookup_iff found oldLeads other]
    · simp [leads, oldLeads, Ne.symm same]
  · intro other mine
    rw [notifies] at mine
    cases mine
    exact ⟨_, filled, leader⟩
  · intro other mine
    exact .inl (notifies.trans (oldNotifies.symm.trans mine))
  · intro other mine
    rw [awaits] at mine
    cases mine
  · intro other result same
    exact absurd same (notAnswered other result)
  · intro other same
    rw [same] at awaits
    cases awaits

theorem Flown.unlisted (flown : before.Flown) (found : before.calls[place]? = some ⟨key, old⟩)
    (calls : after.calls = before.calls.set place ⟨key, stage⟩) (flights : after.flights = before.flights)
    (inFlight : after.state.inFlight = before.state.inFlight.erase key)
    (oldLeads : old.leads = some own) (leads : stage.leads = none) (notifies : stage.notifies = some own)
    (shows : ∀ other slot, old.Shows other slot → stage.Shows other slot)
    (awaits : stage.awaits = none) : after.Flown := by
  have oldNotifies := Stage.notifies_of_leads oldLeads
  refine flown.moved ⟨found, calls, ?_, ?_, ?_, ?_, ?_, ?_, ?_, ?_⟩
  · intro other record present
    exact ⟨record, flights ▸ present, rfl, rfl, fun _ done => done⟩
  · intro other record present
    rw [flights] at present
    by_cases leader : record.leader = place
    · obtain ⟨sameKey, oldShows⟩ := flown.own_flight found present leader
      exact .inl ⟨leader, sameKey, shows other _ oldShows⟩
    · exact .inr ⟨leader, present⟩
  · intro other flight
    rw [inFlight]
    by_cases same : other = key
    · subst same
      rw [AList.lookup_erase]
      simp only [leads, reduceCtorEq, false_and, ne_eq, not_false_eq_true, true_and, false_or,
        false_iff, not_and]
      intro different looked
      rw [flown.flying place _ _ own found oldLeads] at looked
      exact different (oldLeads.trans looked)
    · rw [AList.lookup_erase_ne same]
      simp only [leads, reduceCtorEq, false_and, ne_eq, not_false_eq_true, true_and, false_or]
      refine ⟨fun looked => ⟨fun mine => ?_, looked⟩, fun both => both.2⟩
      exact same ((flown.lookup_iff found mine other).mp looked)
  · intro other mine
    rw [notifies] at mine
    cases mine
    rw [flights]
    exact flown.leader place _ _ own found oldNotifies
  · intro other mine
    exact .inl (notifies.trans (oldNotifies.symm.trans mine))
  · intro other mine
    rw [awaits] at mine
    cases mine
  · rintro other result rfl
    cases notifies
  · rintro other rfl
    cases awaits

end Leading

end ProbeCache

end StreamServer.Transcoding
