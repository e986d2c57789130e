import StreamServer.Capability.FlightMoves
import StreamServer.Shared.FlightLedger

set_option autoImplicit false

namespace StreamServer.Capability

open FlightLedger

def FlightPhase.stage : FlightPhase → Stage
  | .registered | .unspawned | .acquiring | .refused _ => .waiting
  | .acquiringGlobal => .waitingGlobal
  | .granted => .granted
  | .holding | .matched | .verifying | .verified _ | .stopping | .computed _ => .running
  | .finished _ | .sent => .closing
  | .leaving => .leaving
  | .gone => .gone
  | .abandoned counted => .abandoned counted

def Flight.entry (flight : Flight) : Entry CapabilityKey :=
  ⟨flight.key, flight.semaphore, flight.phase.stage⟩

theorem handles_pos {phase : FlightPhase} (attached : phase.stage.attached = true) :
    0 < phase.handles := by
  cases phase <;> first | exact Nat.zero_lt_succ _ | cases attached

namespace Registry

def ledger (registry : Registry) : Ledger CapabilityKey DeviceId where
  listed := registry.flightState.flights
  queued := registry.flightState.queued
  groups := registry.flightState.deviceSemaphores
  semaphores := registry.semaphores
  globalPermits := registry.globalPermits
  entries := registry.tasks.map Flight.entry

abbrev Accounted (registry : Registry) : Prop :=
  Exact CapabilityKey.device maxInFlightKeys maxActiveGlobal registry.ledger

theorem accounted_initial (mode : VerifierMode) : (initial mode).Accounted :=
  exact_initial _ _ _

theorem entries_getElem? {registry : Registry} {place : Nat} {flight : Flight}
    (found : registry.tasks[place]? = some flight) :
    registry.ledger.entries[place]? = some flight.entry := by
  simp only [ledger, List.getElem?_map, found, Option.map_some]

theorem entries_setTask (registry : Registry) (place : Nat) (flight : Flight) :
    (registry.setTask place flight).ledger.entries =
      registry.ledger.entries.set place flight.entry :=
  List.map_set

section Moving

variable {registry middle : Registry} {place : Nat} {flight after : Flight}

structure Counts (registry middle : Registry) (flight after : Flight) : Prop where
  key : after.key = flight.key
  semaphore : after.semaphore = flight.semaphore
  tasks : middle.tasks = registry.tasks
  flights : middle.flightState.flights = registry.flightState.flights
  deviceSemaphores : middle.flightState.deviceSemaphores = registry.flightState.deviceSemaphores
  listed : after.phase.stage.listed = flight.phase.stage.listed
  attached : after.phase.stage.attached = true → flight.phase.stage.attached = true
  queued : middle.flightState.queued + flight.phase.stage.queued.toNat =
    registry.flightState.queued + after.phase.stage.queued.toNat
  length : middle.semaphores.length = registry.semaphores.length
  own : ∀ free, middle.semaphores[flight.semaphore]? = some free →
    ∃ earlier, registry.semaphores[flight.semaphore]? = some earlier ∧
      free + after.phase.stage.holdsGroup.toNat = earlier + flight.phase.stage.holdsGroup.toNat
  others : ∀ semaphore, semaphore ≠ flight.semaphore →
    middle.semaphores[semaphore]? = registry.semaphores[semaphore]?
  global : middle.globalPermits + after.phase.stage.holdsGlobal.toNat =
    registry.globalPermits + flight.phase.stage.holdsGlobal.toNat

theorem Counts.accounted (found : registry.tasks[place]? = some flight)
    (counts : Counts registry middle flight after) (accounted : registry.Accounted) :
    (middle.setTask place after).Accounted := by
  have entry : after.entry = { flight.entry with stage := after.phase.stage } := by
    simp only [Flight.entry, counts.key, counts.semaphore]
  have entries : (middle.setTask place after).ledger.entries =
      registry.ledger.entries.set place { flight.entry with stage := after.phase.stage } := by
    rw [entries_setTask, entry]
    simp only [ledger, counts.tasks]
  have moves : Moves registry.ledger (middle.setTask place after).ledger place flight.entry
      after.phase.stage :=
    ⟨entries_getElem? found, entries, counts.flights, counts.deviceSemaphores, counts.listed,
      counts.attached, counts.queued, counts.length, counts.own, counts.others, counts.global⟩
  exact accounted.moved moves

theorem accounted_setTask (registry : Registry) (after : Flight)
    (found : registry.tasks[place]? = some flight)
    (key : after.key = flight.key) (semaphore : after.semaphore = flight.semaphore)
    (stage : after.phase.stage = flight.phase.stage) (accounted : registry.Accounted) :
    (registry.setTask place after).Accounted :=
  Counts.accounted found
    ⟨key, semaphore, rfl, rfl, rfl, by rw [stage], by rw [stage]; exact id, by rw [stage], rfl,
      fun free same => ⟨free, same, by rw [stage]⟩, fun _ _ => rfl, by rw [stage]⟩ accounted

end Moving

theorem accounted_congr {before after : Registry} (same : after.ledger = before.ledger)
    (accounted : before.Accounted) : after.Accounted := by
  unfold Accounted
  rw [same]
  exact accounted

theorem abandoned_accounted {registry : Registry} {flight : Nat} {held : Flight} {counted : Bool}
    (present : registry.tasks[flight]? = some held)
    (phase : held.phase = if counted then .unspawned else .sent) (accounted : registry.Accounted) :
    (registry.setTask flight (held.inPhase (.abandoned counted))).Accounted := by
  refine Counts.accounted present ⟨rfl, rfl, rfl, rfl, rfl, ?_, ?_, ?_, rfl, ?_, fun _ _ => rfl, ?_⟩
    accounted
  · rw [phase]; cases counted <;> rfl
  · intro attached; cases attached
  · rw [phase]; cases counted <;> rfl
  · exact fun free same => ⟨free, same, by rw [phase]; cases counted <;> rfl⟩
  · rw [phase]; cases counted <;> rfl

theorem callerStep_accounted {registry next : Registry} {place : Nat} {caller : Caller}
    {step : CallerStep} (taken : registry.callerStep place caller step = some next)
    (accounted : registry.Accounted) : next.Accounted := by
  cases callerStep_move taken with
  | opened epoch semaphore _ unlisted room mapped =>
    have opens : Opens CapabilityKey.device maxInFlightKeys registry.ledger
        (registry.openFlight caller.key caller.target epoch semaphore).ledger caller.key
        semaphore := by
      refine ⟨unlisted, room, .inl ⟨mapped, rfl, rfl⟩, ?_, rfl, rfl, List.map_append⟩
      simp only [ledger, openFlight, List.length_map]
    exact accounted.opened opens
  | openedFirst epoch _ unlisted room unmapped =>
    have opens : Opens CapabilityKey.device maxInFlightKeys registry.ledger
        ((registry.newSemaphore caller.key.device).openFlight caller.key caller.target
          epoch registry.semaphores.length).ledger caller.key
        registry.semaphores.length := by
      refine ⟨unlisted, room, .inr ⟨unmapped, rfl, rfl, rfl⟩, ?_, rfl, rfl, List.map_append⟩
      simp only [ledger, openFlight, newSemaphore, List.length_map]
    exact accounted.opened opens
  | gateClosed flight held _ present phase =>
    exact accounted_setTask registry _ present rfl rfl (by rw [phase]; rfl) accounted
  | spawned flight held _ present phase =>
    exact accounted_setTask registry { held with spawned := true, phase := .acquiring } present rfl
      rfl (by rw [phase]; rfl) accounted
  | leftUnspawned flight held _ present phase =>
    exact abandoned_accounted present phase accounted
  | leftSent flight held _ present phase => exact abandoned_accounted present phase accounted
  | looked | turnedAway | joined | received | receivedShutdown | givenUp | concluded | dropped =>
    exact accounted

section Tasks

variable {registry next : Registry} {place : Nat} {flight : Flight}

theorem takeDevice_accounted {free : Nat} (found : registry.tasks[place]? = some flight)
    (phase : flight.phase = .acquiring)
    (available : registry.semaphores[flight.semaphore]? = some (free + 1))
    (accounted : registry.Accounted) :
    ({ registry with semaphores := registry.semaphores.set flight.semaphore free }.setTask place
      (flight.inPhase .acquiringGlobal)).Accounted := by
  have inside := (List.getElem?_eq_some_iff.mp available).1
  refine Counts.accounted found ⟨rfl, rfl, rfl, rfl, rfl, ?_, ?_, ?_, ?_, ?_, ?_, ?_⟩ accounted
  · rw [phase]; rfl
  · rw [phase]; exact id
  · rw [phase]; rfl
  · exact List.length_set
  · intro left same
    simp only [List.getElem?_set_self inside] at same
    cases same
    exact ⟨_, available, by rw [phase]; rfl⟩
  · exact fun other different => List.getElem?_set_ne (Ne.symm different)
  · rw [phase]; rfl

theorem takeGlobal_accounted (found : registry.tasks[place]? = some flight)
    (phase : flight.phase = .acquiringGlobal) (available : 0 < registry.globalPermits)
    (accounted : registry.Accounted) :
    ({ registry with globalPermits := registry.globalPermits - 1 }.setTask place
      (flight.inPhase .granted)).Accounted := by
  refine Counts.accounted found ⟨rfl, rfl, rfl, rfl, rfl, ?_, ?_, ?_, rfl, ?_, fun _ _ => rfl, ?_⟩
    accounted
  · rw [phase]; rfl
  · rw [phase]; exact id
  · rw [phase]; rfl
  · exact fun free same => ⟨free, same, by rw [phase]; rfl⟩
  · rw [phase]
    simp only [Flight.inPhase, FlightPhase.stage, Stage.holdsGlobal, Bool.toNat_true,
      Bool.toNat_false]
    omega

theorem releaseSemaphore_getElem? (registry : Registry) (semaphore other : Nat) :
    (registry.releaseSemaphore semaphore).semaphores[other]? =
      (registry.semaphores[other]?).map fun free => if semaphore = other then free + 1 else free := by
  simp only [releaseSemaphore, List.getElem?_modify]
  rfl

theorem released_own {free : Nat} {after : FlightPhase}
    (held : flight.phase.stage.holdsGroup = true) (freed : after.stage.holdsGroup = false)
    (same : (registry.releaseSemaphore flight.semaphore).semaphores[flight.semaphore]? = some free) :
    ∃ earlier, registry.semaphores[flight.semaphore]? = some earlier ∧
      free + after.stage.holdsGroup.toNat = earlier + flight.phase.stage.holdsGroup.toNat := by
  rw [releaseSemaphore_getElem?] at same
  obtain ⟨earlier, before, rfl⟩ := Option.map_eq_some_iff.mp same
  refine ⟨earlier, before, ?_⟩
  rw [held, freed, if_pos rfl]
  rfl

theorem released_others {semaphore : Nat} (different : semaphore ≠ flight.semaphore) :
    (registry.releaseSemaphore flight.semaphore).semaphores[semaphore]? =
      registry.semaphores[semaphore]? := by
  rw [releaseSemaphore_getElem?]
  simp only [if_neg (Ne.symm different), Option.map_id']

theorem releaseDevice_accounted {reason : RegistryReason}
    (found : registry.tasks[place]? = some flight) (phase : flight.phase = .acquiringGlobal)
    (accounted : registry.Accounted) :
    ((registry.releaseSemaphore flight.semaphore).setTask place
      (flight.inPhase (.refused reason))).Accounted := by
  refine Counts.accounted found ⟨rfl, rfl, rfl, rfl, rfl, ?_, ?_, ?_, ?_, ?_, ?_, ?_⟩ accounted
  · rw [phase]; rfl
  · rw [phase]; exact id
  · rw [phase]; rfl
  · exact List.length_modify _ _ _
  · exact fun free => released_own (by rw [phase]; rfl) rfl
  · exact fun other => released_others
  · rw [phase]; rfl

theorem release_accounted {result : EnsureEvidenceResult}
    (found : registry.tasks[place]? = some flight) (phase : flight.phase = .computed result)
    (accounted : registry.Accounted) :
    ({ registry.releaseSemaphore flight.semaphore with
      globalPermits := registry.globalPermits + 1 }.setTask place
        (flight.inPhase (.finished result))).Accounted := by
  refine Counts.accounted found ⟨rfl, rfl, rfl, rfl, rfl, ?_, ?_, ?_, ?_, ?_, ?_, ?_⟩ accounted
  · rw [phase]; rfl
  · rw [phase]; exact id
  · rw [phase]; rfl
  · exact List.length_modify _ _ _
  · exact fun free => released_own (by rw [phase]; rfl) rfl
  · exact fun other => released_others
  · rw [phase]; rfl

theorem dequeued_queued {phase after : FlightPhase} (dequeued : phase.dequeued = some after) :
    phase.stage.queued = true ∧ after.stage.queued = false ∧
      after.stage.listed = phase.stage.listed ∧ after.stage.attached = phase.stage.attached ∧
      after.stage.holdsGroup = phase.stage.holdsGroup ∧
      after.stage.holdsGlobal = phase.stage.holdsGlobal := by
  cases phase <;> first | (cases dequeued; exact ⟨rfl, rfl, rfl, rfl, rfl, rfl⟩) | cases dequeued

theorem queued_pos {after : FlightPhase} (found : registry.tasks[place]? = some flight)
    (dequeued : flight.phase.dequeued = some after) (accounted : registry.Accounted) :
    0 < registry.flightState.queued :=
  accounted.queued_pos (entries_getElem? found) (dequeued_queued dequeued).1

theorem leaveQueue_accounted {after : FlightPhase} (found : registry.tasks[place]? = some flight)
    (dequeued : flight.phase.dequeued = some after) (accounted : registry.Accounted) :
    (registry.decrementQueued.setTask place (flight.inPhase after)).Accounted := by
  have positive := queued_pos found dequeued accounted
  obtain ⟨queued, left, listed, attached, group, global⟩ := dequeued_queued dequeued
  unfold decrementQueued
  rw [if_neg (Nat.ne_of_gt positive)]
  refine Counts.accounted found ⟨rfl, rfl, rfl, rfl, rfl, listed, ?_, ?_, rfl, ?_, fun _ _ => rfl, ?_⟩
    accounted
  · exact fun holds => attached ▸ holds
  · simp only [Flight.inPhase, queued, left, Bool.toNat_true, Bool.toNat_false]
    omega
  · exact fun free same => ⟨free, same, by simp only [Flight.inPhase, group]⟩
  · simp only [Flight.inPhase, global]

theorem mergeVerification_ledger (registry : Registry) (flight : Flight)
    (verified : VerificationResult) (now : Option StateNow) (preferred : CapabilityKey) :
    (registry.mergeVerification flight.key flight.epoch verified now preferred).2.tasks =
        registry.tasks ∧
      (registry.mergeVerification flight.key flight.epoch verified now preferred).2.ledger =
        registry.ledger := by
  have moved := mergeVerification_move registry flight.key flight.epoch verified now preferred
  generalize registry.mergeVerification flight.key flight.epoch verified now preferred = ended at *
  cases moved <;> exact ⟨rfl, rfl⟩

-- The last handles besides the map's are of the flight that is removed.
theorem strongCount_alone {other : Nat} {twin : Flight}
    (found : registry.tasks[place]? = some flight) (apart : other ≠ place)
    (beside : registry.tasks[other]? = some twin) (attached : twin.phase.stage.attached = true)
    (own : 0 < flight.phase.handles)
    (mapped : registry.flightState.deviceSemaphores.lookup flight.key.device =
      some flight.semaphore) (last : registry.strongCount flight.semaphore = 2) :
    twin.semaphore ≠ flight.semaphore := by
  intro same
  have inMap : 0 < registry.flightState.deviceSemaphores.entries.countP fun entry =>
      decide (entry.2 = flight.semaphore) :=
    List.countP_pos_iff.mpr ⟨⟨flight.key.device, flight.semaphore⟩,
      AList.mem_lookup_iff.mp mapped, decide_eq_true rfl⟩
  have handles := Lists.add_le_sum_map (fun item : Flight =>
    if item.semaphore = flight.semaphore then item.phase.handles else 0) (Ne.symm apart) found beside
  simp only [same, if_true] at handles
  have more := handles_pos attached
  unfold strongCount at last
  omega

theorem remove_accounted (found : registry.tasks[place]? = some flight)
    (phase : flight.phase = .sent) (accounted : registry.Accounted) :
    ((registry.removeFlight place flight).setTask place (flight.inPhase .leaving)).Accounted := by
  have listed : flight.entry.stage.listed = true := by
    simp only [Flight.entry, phase]
    rfl
  have looked := accounted.kept place flight.entry (entries_getElem? found) listed
  have mapped := accounted.grouped place flight.entry (entries_getElem? found) listed (by
    simp only [Flight.entry, phase]
    rfl)
  have groups : ((registry.removeFlight place flight).setTask place
        (flight.inPhase .leaving)).ledger.groups = registry.ledger.groups ∨
      ((registry.removeFlight place flight).setTask place (flight.inPhase .leaving)).ledger.groups =
          registry.ledger.groups.erase flight.entry.key.device ∧
        ∀ (other : Nat) (holder : Entry CapabilityKey), other ≠ place →
          registry.ledger.entries[other]? = some holder → holder.stage.attached = true →
            holder.semaphore ≠ flight.entry.semaphore := by
    by_cases last : registry.semaphores[flight.semaphore]? = some 1 ∧
        registry.strongCount flight.semaphore = 2
    · refine .inr ⟨if_pos last, ?_⟩
      intro other holder apart atPlace attached
      simp only [ledger, List.getElem?_map] at atPlace
      obtain ⟨twin, beside, rfl⟩ := Option.map_eq_some_iff.mp atPlace
      have own : 0 < flight.phase.handles := by
        rw [phase]
        exact Nat.one_pos
      exact strongCount_alone found apart beside attached own mapped last.2
    · exact .inl (if_neg last)
  have closes : Closes CapabilityKey.device registry.ledger
      ((registry.removeFlight place flight).setTask place (flight.inPhase .leaving)).ledger place
      flight.entry := by
    refine ⟨entries_getElem? found, ?_, ?_, if_pos looked, rfl, rfl, rfl, groups⟩
    · simp only [Flight.entry, phase]
      rfl
    · rw [entries_setTask]
      rfl
  exact accounted.closed closes

theorem exit_accounted (found : registry.tasks[place]? = some flight)
    (phase : flight.phase = .leaving) (accounted : registry.Accounted) :
    (registry.setTask place (flight.inPhase .gone)).Accounted := by
  refine Counts.accounted found ⟨rfl, rfl, rfl, rfl, rfl, ?_, ?_, ?_, rfl, ?_, fun _ _ => rfl, ?_⟩
    accounted
  · rw [phase]; rfl
  · intro attached; cases attached
  · rw [phase]; rfl
  · exact fun free same => ⟨free, same, by rw [phase]; rfl⟩
  · rw [phase]; rfl

theorem taskStep_accounted {step : TaskStep} (found : registry.tasks[place]? = some flight)
    (taken : registry.taskStep place flight step = some next) (accounted : registry.Accounted) :
    next.Accounted := by
  cases taskStep_move taken with
  | cancelled => exact accounted_setTask _ _ found rfl rfl rfl accounted
  | tookDevice free phase available => exact takeDevice_accounted found phase available accounted
  | tookGlobal phase available => exact takeGlobal_accounted found phase available accounted
  | refused why phase => exact accounted_setTask _ _ found rfl rfl (by rw [phase]; rfl) accounted
  | refusedHolding why phase => exact releaseDevice_accounted found phase accounted
  | leftQueue after dequeued => exact leaveQueue_accounted found dequeued accounted
  | deferred phase | matched phase | outdated phase | unconfirmed phase | interrupted _ _ phase
  | calledOff phase | stopped phase | panicked phase | verified _ phase | misdirected _ phase
  | sent _ phase =>
    exact accounted_setTask registry _ found rfl rfl (by rw [phase]; rfl) accounted
  | exhausted phase =>
    exact accounted_setTask registry.exhaust _ found rfl rfl (by rw [phase]; rfl) accounted
  | confirmed phase =>
    exact accounted_setTask registry.incrementInvocations _ found rfl rfl (by rw [phase]; rfl)
      accounted
  | merged now preferred result phase =>
    have same := mergeVerification_ledger registry flight result now preferred
    have present : (registry.mergeVerification flight.key flight.epoch result now
        preferred).2.tasks[place]? = some flight := by
      rw [same.1]
      exact found
    exact accounted_setTask _ _ present rfl rfl (by rw [phase]; rfl)
      (accounted_congr same.2 accounted)
  | released result phase => exact release_accounted found phase accounted
  | removed phase => exact remove_accounted found phase accounted
  | exited phase => exact exit_accounted found phase accounted

end Tasks

end Registry

end StreamServer.Capability
