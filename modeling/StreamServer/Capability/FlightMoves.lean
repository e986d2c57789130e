import StreamServer.Capability.FlightSteps

set_option autoImplicit false

namespace StreamServer.Capability

namespace Registry

variable {registry next : Registry} {place : Nat} {flight : Flight}

/-- What one step of a caller does, a constructor for each of its ends. -/
inductive CallerMove (registry : Registry) (place : Nat) (caller : Caller) :
    CallerStep → Registry → Prop where
  | looked (playbackActive : Bool) (now : Option StateNow) (phase : caller.phase = .called) :
      CallerMove registry place caller (.look playbackActive now)
        (registry.setCaller place (registry.lookedUp caller playbackActive now))
  | turnedAway (epoch : Nat) (reason : RegistryReason) (phase : caller.phase = .admitted epoch) :
      CallerMove registry place caller .join (registry.setCaller place (caller.returning reason))
  | joined (epoch flight : Nat) (held : Flight) (phase : caller.phase = .admitted epoch)
      (listed : registry.flightState.flights.lookup caller.key = some flight)
      (present : registry.tasks[flight]? = some held) (sameTarget : held.target = caller.target) :
      CallerMove registry place caller .join
        (registry.setCaller place (caller.inPhase (.waiting flight)))
  | opened (epoch semaphore : Nat) (phase : caller.phase = .admitted epoch)
      (unlisted : registry.flightState.flights.lookup caller.key = none)
      (room : registry.flightState.flights.entries.length < maxInFlightKeys)
      (mapped : registry.flightState.deviceSemaphores.lookup caller.key.device = some semaphore) :
      CallerMove registry place caller .join
        ((registry.openFlight caller.key caller.target epoch semaphore).setCaller place
          (caller.inPhase (.owning registry.tasks.length)))
  | openedFirst (epoch : Nat) (phase : caller.phase = .admitted epoch)
      (unlisted : registry.flightState.flights.lookup caller.key = none)
      (room : registry.flightState.flights.entries.length < maxInFlightKeys)
      (unmapped : registry.flightState.deviceSemaphores.lookup caller.key.device = none) :
      CallerMove registry place caller .join
        (((registry.newSemaphore caller.key.device).openFlight caller.key caller.target epoch
          registry.semaphores.length).setCaller place
            (caller.inPhase (.owning registry.tasks.length)))
  | gateClosed (flight : Nat) (held : Flight) (owns : caller.phase = .owning flight)
      (present : registry.tasks[flight]? = some held) (phase : held.phase = .registered)
      (shutdown : registry.shutdown = true) :
      CallerMove registry place caller .gate (registry.setTask flight (held.inPhase .unspawned))
  | spawned (flight : Nat) (held : Flight) (owns : caller.phase = .owning flight)
      (present : registry.tasks[flight]? = some held) (phase : held.phase = .registered)
      (running : registry.shutdown = false) :
      CallerMove registry place caller .gate
        ((registry.setTask flight { held with spawned := true, phase := .acquiring }).setCaller place
          (caller.inPhase (.waiting flight)))
  | received (flight : Nat) (held : Flight) (result : EnsureEvidenceResult)
      (waits : caller.phase = .waiting flight) (present : registry.tasks[flight]? = some held)
      (shown : held.shown = some result) :
      CallerMove registry place caller .receive
        (registry.setCaller place (caller.inPhase (.received flight result)))
  | receivedShutdown (flight : Nat) (waits : caller.phase = .waiting flight)
      (shutdown : registry.shutdown = true) :
      CallerMove registry place caller .receiveShutdown
        (registry.setCaller place
          (caller.inPhase (.received flight (.nonPassing .serverShutdown))))
  | givenUp (flight : Nat) (held : Flight) (owns : caller.phase = .owning flight)
      (present : registry.tasks[flight]? = some held) (gone : held.phase = .gone) :
      CallerMove registry place caller .conclude
        (registry.setCaller place (caller.returning .serverShutdown))
  | concluded (flight : Nat) (result : EnsureEvidenceResult)
      (received : caller.phase = .received flight result) :
      CallerMove registry place caller .conclude
        (registry.setCaller place (caller.inPhase (.returned result)))
  | leftUnspawned (flight : Nat) (held : Flight) (owns : caller.phase = .owning flight)
      (present : registry.tasks[flight]? = some held) (phase : held.phase = .unspawned) :
      CallerMove registry place caller .depart
        ((registry.setTask flight (held.inPhase (.abandoned true))).setCaller place
          (caller.inPhase .dropped))
  | leftSent (flight : Nat) (held : Flight) (owns : caller.phase = .owning flight)
      (present : registry.tasks[flight]? = some held) (phase : held.phase = .sent) :
      CallerMove registry place caller .depart
        ((registry.setTask flight (held.inPhase (.abandoned false))).setCaller place
          (caller.inPhase .dropped))
  | dropped (unowning : ∀ flight, caller.phase ≠ .owning flight) :
      CallerMove registry place caller .depart (registry.setCaller place (caller.inPhase .dropped))

section Callers

variable {caller : Caller}

theorem lookedUp_phase (playbackActive : Bool) (now : Option StateNow) :
    (∃ epoch, registry.lookedUp caller playbackActive now = caller.inPhase (.admitted epoch)) ∨
      ∃ result, registry.lookedUp caller playbackActive now = caller.inPhase (.returned result) := by
  unfold lookedUp
  split
  · exact .inr ⟨_, rfl⟩
  split
  · exact .inr ⟨_, rfl⟩
  split
  · exact .inr ⟨_, rfl⟩
  split
  · exact .inr ⟨_, rfl⟩
  split
  · exact .inr ⟨_, rfl⟩
  split
  · exact .inr ⟨_, rfl⟩
  dsimp only
  split
  · exact .inl ⟨_, rfl⟩
  split
  · exact .inr ⟨_, rfl⟩
  split
  · exact .inr ⟨_, rfl⟩
  · exact .inl ⟨_, rfl⟩

theorem joined_move {epoch : Nat} (phase : caller.phase = .admitted epoch) :
    CallerMove registry place caller .join (registry.joined place caller epoch) := by
  have turnedAway : ∀ reason, CallerMove registry place caller .join
      (registry.setCaller place (caller.returning reason)) := fun reason =>
    .turnedAway epoch reason phase
  unfold joined
  split
  · exact turnedAway _
  split
  · exact turnedAway _
  split
  · exact turnedAway _
  split
  · exact turnedAway _
  split
  next flight listed =>
    split
    next found =>
      obtain ⟨held, present, same⟩ := (Option.any_eq_true _ _).mp found
      exact .joined epoch flight held phase listed present (of_decide_eq_true same)
    next => exact turnedAway _
  next unlisted =>
    split
    next => exact turnedAway _
    next room =>
      rw [not_or, not_le, not_le] at room
      dsimp only
      split
      next semaphore mapped => exact .opened epoch semaphore phase unlisted room.1 mapped
      next unmapped => exact .openedFirst epoch phase unlisted room.1 unmapped

theorem leftBehind_move {after : Registry} (left : registry.leftBehind caller = some after) :
    CallerMove registry place caller .depart (after.setCaller place (caller.inPhase .dropped)) := by
  unfold leftBehind at left
  split at left
  next flight owns =>
    split at left
    · cases left
    next held present =>
      split at left
      next phase =>
        cases left
        exact .leftUnspawned flight held owns present phase
      next phase =>
        cases left
        exact .leftSent flight held owns present phase
      next => cases left
  next => cases left
  next => cases left
  next unowning _ _ =>
    cases left
    exact .dropped unowning

theorem callerStep_move {step : CallerStep}
    (taken : registry.callerStep place caller step = some next) :
    CallerMove registry place caller step next := by
  cases step with
  | look playbackActive now =>
    simp only [callerStep] at taken
    split at taken
    next phase =>
      cases taken
      exact .looked playbackActive now phase
    next => cases taken
  | join =>
    simp only [callerStep] at taken
    split at taken
    next epoch phase =>
      cases taken
      exact joined_move phase
    next => cases taken
  | gate =>
    simp only [callerStep] at taken
    split at taken
    next flight owns =>
      split at taken
      · cases taken
      next held present =>
        split at taken
        next phase =>
          cases taken
          unfold gated
          split
          next shutdown => exact .gateClosed flight held owns present phase shutdown
          next running =>
            exact .spawned flight held owns present phase (Bool.eq_false_iff.mpr running)
        next => cases taken
    next => cases taken
  | receive =>
    simp only [callerStep] at taken
    split at taken
    next flight waits =>
      split at taken
      · cases taken
      next result looked =>
        cases taken
        obtain ⟨held, present, shown⟩ := Option.bind_eq_some_iff.mp looked
        exact .received flight held result waits present shown
    next => cases taken
  | receiveShutdown =>
    simp only [callerStep] at taken
    split at taken
    next flight waits =>
      split at taken
      next shutdown =>
        cases taken
        exact .receivedShutdown flight waits shutdown
      next => cases taken
    next => cases taken
  | conclude =>
    simp only [callerStep] at taken
    split at taken
    next flight owns =>
      split at taken
      · cases taken
      next held present =>
        split at taken
        next gone =>
          cases taken
          exact .givenUp flight held owns present gone
        next => cases taken
    next flight result received =>
      cases taken
      exact .concluded flight result received
    next => cases taken
  | depart =>
    simp only [callerStep] at taken
    split at taken
    · cases taken
    next after left =>
      cases taken
      exact leftBehind_move left

end Callers

/-- What the merge of a verification does, a constructor for each of its ends. -/
inductive MergeMove (registry : Registry) (key : CapabilityKey) (epoch : Nat)
    (verified : VerificationResult) (clock : Option StateNow) (preferred : CapabilityKey) :
    EnsureEvidenceResult × Registry → Prop where
  | refused (reason : RegistryReason) :
      MergeMove registry key epoch verified clock preferred (.nonPassing reason, registry)
  | unmerged (now : StateNow) (result : EnsureEvidenceResult)
      (ends : mergedEvidence registry.snapshot key preferred verified now = .error result) :
      MergeMove registry key epoch verified clock preferred (result, registry)
  | exhausted :
      MergeMove registry key epoch verified clock preferred
        (.nonPassing .capacityExhausted, registry.exhaust)
  | published (now : StateNow) (evidence : EvidenceMap) (revision : Nat)
      (snapshot : CapabilitySnapshot) (read : clock = some now)
      (current : registry.snapshot.identityEpoch = epoch)
      (admitted : registry.snapshot.admits key = true)
      (merged : mergedEvidence registry.snapshot key preferred verified now = .ok evidence)
      (counted : nextCounter registry.snapshot.publicationRevision = some revision)
      (built : ({ registry.snapshot with
        identityEpoch := epoch, publicationRevision := revision,
        evidence } : CapabilitySnapshot).fromParts now = .ok snapshot) :
      MergeMove registry key epoch verified clock preferred
        (.fromOutcome verified.outcome,
          { registry with publication := { registry.publication with snapshot } })

theorem mergeVerification_move (registry : Registry) (key : CapabilityKey) (epoch : Nat)
    (verified : VerificationResult) (clock : Option StateNow) (preferred : CapabilityKey) :
    MergeMove registry key epoch verified clock preferred
      (registry.mergeVerification key epoch verified clock preferred) := by
  unfold mergeVerification
  split
  · exact .refused _
  split
  · exact .refused _
  next now =>
    split
    · exact .refused _
    next current =>
      rw [not_or, not_not, Bool.not_eq_false] at current
      split
      next result ends => exact .unmerged now result ends
      next evidence merged =>
        split
        · exact .exhausted
        next revision counted =>
          split
          · exact .refused _
          next snapshot built =>
            exact .published now evidence revision snapshot rfl current.1 current.2 merged counted
              built

/-- What one step of a flight's task does, a constructor for each of its ends. -/
inductive TaskMove (registry : Registry) (place : Nat) (flight : Flight) :
    TaskStep → Registry → Prop where
  | cancelled (asked : place ∈ registry.cancelling) :
      TaskMove registry place flight .cancel
        ({ registry with cancelling := registry.cancelling.erase place }.setTask place
          { flight with cancelled := true })
  | tookDevice (free : Nat) (phase : flight.phase = .acquiring)
      (available : registry.semaphores[flight.semaphore]? = some (free + 1)) :
      TaskMove registry place flight .takeDevice
        ({ registry with semaphores := registry.semaphores.set flight.semaphore free }.setTask place
          (flight.inPhase .acquiringGlobal))
  | tookGlobal (phase : flight.phase = .acquiringGlobal) (available : 0 < registry.globalPermits) :
      TaskMove registry place flight .takeGlobal
        ({ registry with globalPermits := registry.globalPermits - 1 }.setTask place
          (flight.inPhase .granted))
  | refused (why : GivingUp) (phase : flight.phase = .acquiring)
      (due : why.due registry flight = true) :
      TaskMove registry place flight (.giveUp why)
        (registry.setTask place (flight.inPhase (.refused why.reason)))
  | refusedHolding (why : GivingUp) (phase : flight.phase = .acquiringGlobal)
      (due : why.due registry flight = true) :
      TaskMove registry place flight (.giveUp why)
        ((registry.releaseSemaphore flight.semaphore).setTask place
          (flight.inPhase (.refused why.reason)))
  | leftQueue (after : FlightPhase) (dequeued : flight.phase.dequeued = some after) :
      TaskMove registry place flight .leaveQueue
        (registry.decrementQueued.setTask place (flight.inPhase after))
  | deferred (phase : flight.phase = .holding) :
      TaskMove registry place flight (.check true)
        (registry.setTask place
          (flight.inPhase (.computed (.nonPassing .verificationDeferredForPlayback))))
  | matched (phase : flight.phase = .holding)
      (current : registry.flightIsCurrent flight.epoch = true) :
      TaskMove registry place flight (.check false)
        (registry.setTask place (flight.inPhase .matched))
  | outdated (phase : flight.phase = .holding)
      (old : registry.flightIsCurrent flight.epoch = false) :
      TaskMove registry place flight (.check false)
        (registry.setTask place (flight.inPhase .stopping))
  | exhausted (phase : flight.phase = .matched)
      (overflows : nextCounter registry.verifierInvocations = none) :
      TaskMove registry place flight .confirm
        (registry.exhaust.setTask place
          (flight.inPhase (.computed (.nonPassing .capacityExhausted))))
  | confirmed (phase : flight.phase = .matched)
      (epoch : registry.snapshot.identityEpoch = flight.epoch)
      (admitted : registry.snapshot.admits flight.key = true) :
      TaskMove registry place flight .confirm
        (registry.incrementInvocations.setTask place (flight.inPhase .verifying))
  | unconfirmed (phase : flight.phase = .matched) :
      TaskMove registry place flight .confirm
        (registry.setTask place (flight.inPhase .stopping))
  | interrupted (why : GivingUp) (reason : RegistryReason) (phase : flight.phase = .verifying)
      (due : why.due registry flight = true) :
      TaskMove registry place flight (.interrupt why)
        (registry.setTask place (flight.inPhase (.computed (.nonPassing reason))))
  | calledOff (phase : flight.phase = .verifying) (cancelled : flight.cancelled = true) :
      TaskMove registry place flight (.interrupt .cancelled)
        (registry.setTask place (flight.inPhase .stopping))
  | stopped (phase : flight.phase = .stopping) :
      TaskMove registry place flight .stop
        (registry.setTask place (flight.inPhase (.computed registry.cancellationResult)))
  | panicked (phase : flight.phase = .verifying) :
      TaskMove registry place flight (.answer none)
        (registry.setTask place (flight.inPhase (.computed (.nonPassing .serverShutdown))))
  | verified (result : VerificationResult) (phase : flight.phase = .verifying)
      (onTarget : result.target = flight.target) :
      TaskMove registry place flight (.answer (some result))
        (registry.setTask place (flight.inPhase (.verified result)))
  | misdirected (result : VerificationResult) (phase : flight.phase = .verifying) :
      TaskMove registry place flight (.answer (some result))
        (registry.setTask place
          (flight.inPhase (.computed (.nonPassing .verificationPrerequisiteMissing))))
  | merged (now : Option StateNow) (preferred : CapabilityKey) (result : VerificationResult)
      (phase : flight.phase = .verified result) :
      TaskMove registry place flight (.merge now preferred)
        ((registry.mergeVerification flight.key flight.epoch result now preferred).2.setTask place
          (flight.inPhase (.computed
            (registry.mergeVerification flight.key flight.epoch result now preferred).1)))
  | released (result : EnsureEvidenceResult) (phase : flight.phase = .computed result) :
      TaskMove registry place flight .release
        ({ registry.releaseSemaphore flight.semaphore with
            globalPermits := registry.globalPermits + 1 }.setTask place
          (flight.inPhase (.finished result)))
  | sent (result : EnsureEvidenceResult) (phase : flight.phase = .finished result) :
      TaskMove registry place flight .send
        (registry.setTask place { flight with shown := some result, phase := .sent })
  | removed (phase : flight.phase = .sent) :
      TaskMove registry place flight .remove
        ((registry.removeFlight place flight).setTask place (flight.inPhase .leaving))
  | exited (phase : flight.phase = .leaving) :
      TaskMove registry place flight .exit (registry.setTask place (flight.inPhase .gone))

theorem taskStep_move {step : TaskStep} (taken : registry.taskStep place flight step = some next) :
    TaskMove registry place flight step next := by
  cases step with
  | cancel =>
    simp only [taskStep] at taken
    split at taken
    next asked =>
      cases taken
      exact .cancelled asked
    next => cases taken
  | takeDevice =>
    simp only [taskStep] at taken
    split at taken
    next phase =>
      obtain ⟨middle, took, rfl⟩ := Option.map_eq_some_iff.mp taken
      unfold takeSemaphore at took
      split at took
      next free available =>
        cases took
        exact .tookDevice free phase available
      next => cases took
    next => cases taken
  | takeGlobal =>
    simp only [taskStep] at taken
    split at taken
    next ready =>
      cases taken
      exact .tookGlobal ready.1 ready.2
    next => cases taken
  | giveUp why =>
    simp only [taskStep] at taken
    split at taken
    next due =>
      split at taken
      next phase =>
        cases taken
        exact .refused why phase due
      next phase =>
        cases taken
        exact .refusedHolding why phase due
      next => cases taken
    next => cases taken
  | leaveQueue =>
    simp only [taskStep] at taken
    obtain ⟨after, dequeued, rfl⟩ := Option.map_eq_some_iff.mp taken
    exact .leftQueue after dequeued
  | check playbackActive =>
    simp only [taskStep] at taken
    split at taken
    next phase =>
      cases taken
      cases playbackActive with
      | true => exact .deferred phase
      | false =>
        simp only [Bool.false_eq_true, if_false]
        split
        next current => exact .matched phase current
        next old => exact .outdated phase (Bool.eq_false_iff.mpr old)
    next => cases taken
  | confirm =>
    simp only [taskStep] at taken
    split at taken
    next phase =>
      split at taken
      next current =>
        split at taken
        next overflows =>
          cases taken
          exact .exhausted phase overflows
        next =>
          cases taken
          exact .confirmed phase current.1 current.2
      next =>
        cases taken
        exact .unconfirmed phase
    next => cases taken
  | interrupt why =>
    simp only [taskStep] at taken
    split at taken
    next ready =>
      obtain ⟨after, interrupted, rfl⟩ := Option.map_eq_some_iff.mp taken
      cases why with
      | shutdown | capacityExhausted =>
        cases interrupted
        exact .interrupted _ _ ready.1 ready.2
      | cancelled =>
        cases interrupted
        exact .calledOff ready.1 ready.2
      | timeout => cases interrupted
    next => cases taken
  | stop =>
    simp only [taskStep] at taken
    split at taken
    next phase =>
      cases taken
      exact .stopped phase
    next => cases taken
  | answer verified =>
    simp only [taskStep] at taken
    split at taken
    next phase =>
      cases taken
      cases verified with
      | none => exact .panicked phase
      | some result =>
        simp only [answered]
        split
        next onTarget => exact .verified result phase onTarget
        next => exact .misdirected result phase
    next => cases taken
  | merge now preferred =>
    simp only [taskStep] at taken
    split at taken
    next result phase =>
      cases taken
      exact .merged now preferred result phase
    next => cases taken
  | release =>
    simp only [taskStep] at taken
    split at taken
    next result phase =>
      cases taken
      exact .released result phase
    next => cases taken
  | send =>
    simp only [taskStep] at taken
    split at taken
    next result phase =>
      cases taken
      exact .sent result phase
    next => cases taken
  | remove =>
    simp only [taskStep] at taken
    split at taken
    next phase =>
      cases taken
      exact .removed phase
    next => cases taken
  | exit =>
    simp only [taskStep] at taken
    split at taken
    next phase =>
      cases taken
      exact .exited phase
    next => cases taken

end Registry

end StreamServer.Capability
