import StreamServer.Capability.RefreshSteps

set_option autoImplicit false

namespace StreamServer.Capability

-- Handles of the device's semaphore that a flight keeps: its own, and that of the acquisition or
-- of the permit.
def FlightPhase.handles : FlightPhase → Nat
  | .acquiring | .acquiringGlobal | .granted | .holding | .matched | .verifying | .verified _
  | .stopping | .computed _ => 2
  | .registered | .unspawned | .refused _ | .finished _ | .sent | .leaving => 1
  | .gone | .abandoned _ => 0

def FlightPhase.dequeued : FlightPhase → Option FlightPhase
  | .granted => some .holding
  | .refused reason => some (.finished (.nonPassing reason))
  | .unspawned => some (.finished (.nonPassing .serverShutdown))
  | _ => none

def Flight.inPhase (flight : Flight) (phase : FlightPhase) : Flight := { flight with phase }

def Caller.inPhase (caller : Caller) (phase : CallerPhase) : Caller := { caller with phase }

def Caller.returning (caller : Caller) (reason : RegistryReason) : Caller :=
  caller.inPhase (.returned (.nonPassing reason))

def currentOutcome : EvidenceTarget → EvidenceOutcome
  | .realtime => .realtimePassed
  | .correctness | .segmented => .correctnessPassed

/-- The oldest entry; `preferred` stands for the order of the keys, which decides between equals. -/
def oldestKey (evidence : EvidenceMap) (preferred : CapabilityKey) : Option CapabilityKey :=
  let oldest := evidence.entries.filter fun entry => evidence.entries.all fun other =>
    entry.2.lastObservedAt.getD 0 ≤ other.2.lastObservedAt.getD 0
  ((oldest.find? fun entry => entry.1 = preferred).or oldest.head?).map Sigma.fst

namespace Registry

def setCaller (registry : Registry) (place : Nat) (caller : Caller) : Registry :=
  { registry with callers := registry.callers.set place caller }

def setTask (registry : Registry) (place : Nat) (flight : Flight) : Registry :=
  { registry with tasks := registry.tasks.set place flight }

def lookedUp (registry : Registry) (caller : Caller) (playbackActive : Bool)
    (now : Option StateNow) : Caller :=
  if registry.shutdown then caller.returning .serverShutdown
  else if registry.capacityExhausted then caller.returning .capacityExhausted
  else if registry.mode = .observationalOnly then caller.returning .verificationNotImplemented
  else if playbackActive then caller.returning .verificationDeferredForPlayback
  else if !registry.snapshot.admits caller.key then
    caller.returning .verificationPrerequisiteMissing
  else
    match now with
    | none => caller.returning .capacityExhausted
    | some now =>
        let admitted := caller.inPhase (.admitted registry.snapshot.identityEpoch)
        match registry.snapshot.evidence.lookup caller.key with
        | none => admitted
        | some existing =>
            let (state, projected) := existing.project now ⟨false, false⟩
            if state = some .circuitOpen ∨ state = some .failed then
              caller.inPhase (.returned .evidenceNonPassing)
            else if projected.targetIsCurrent caller.target now then
              caller.inPhase (.returned (.fromOutcome (currentOutcome caller.target)))
            else admitted

def openFlight (registry : Registry) (key : CapabilityKey) (target : EvidenceTarget)
    (epoch semaphore : Nat) : Registry :=
  { registry with
    flightState := { registry.flightState with
      queued := registry.flightState.queued + 1
      flights := registry.flightState.flights.insert key registry.tasks.length }
    tasks := registry.tasks ++ [⟨key, target, epoch, semaphore, false, false, none, .registered⟩] }

def newSemaphore (registry : Registry) (device : DeviceId) : Registry :=
  { registry with
    flightState := { registry.flightState with
      deviceSemaphores :=
        registry.flightState.deviceSemaphores.insert device registry.semaphores.length }
    semaphores := registry.semaphores ++ [1] }

def joined (registry : Registry) (place : Nat) (caller : Caller) (epoch : Nat) : Registry :=
  if registry.shutdown then registry.setCaller place (caller.returning .serverShutdown)
  else if registry.capacityExhausted then
    registry.setCaller place (caller.returning .capacityExhausted)
  else
    match registry.flightState.terminalReason with
    | some reason => registry.setCaller place (caller.returning reason)
    | none =>
        if registry.flightState.admissionPaused ∨ registry.flightState.identityEpoch ≠ epoch then
          registry.setCaller place (caller.returning .verificationStale)
        else
          match registry.flightState.flights.lookup caller.key with
          | some flight =>
              if (registry.tasks[flight]?).any fun found => found.target = caller.target then
                registry.setCaller place (caller.inPhase (.waiting flight))
              else registry.setCaller place (caller.returning .verificationCapacity)
          | none =>
              if registry.flightState.flights.entries.length ≥ maxInFlightKeys ∨
                  registry.flightState.queued ≥ maxQueuedKeys then
                registry.setCaller place (caller.returning .verificationCapacity)
              else
                let owner := caller.inPhase (.owning registry.tasks.length)
                match registry.flightState.deviceSemaphores.lookup caller.key.device with
                | some semaphore =>
                    (registry.openFlight caller.key caller.target epoch semaphore).setCaller place
                      owner
                | none =>
                    ((registry.newSemaphore caller.key.device).openFlight caller.key caller.target
                      epoch registry.semaphores.length).setCaller place owner

/-- Behind the lifecycle gate the task is spawned, unless the shutdown came first. -/
def gated (registry : Registry) (place : Nat) (caller : Caller) (flight : Nat) (found : Flight) :
    Registry :=
  if registry.shutdown then registry.setTask flight (found.inPhase .unspawned)
  else
    (registry.setTask flight { found with spawned := true, phase := .acquiring }).setCaller place
      (caller.inPhase (.waiting flight))

inductive CallerStep where
  | look (playbackActive : Bool) (now : Option StateNow)
  | join
  | gate
  | receive
  | receiveShutdown
  | conclude
  -- Its future is dropped.
  | depart

/-- What becomes of an unspawned flight whose caller goes away. -/
def leftBehind (registry : Registry) (caller : Caller) : Option Registry :=
  match caller.phase with
  | .owning flight =>
      match registry.tasks[flight]? with
      | none => none
      | some found =>
          match found.phase with
          | .unspawned => some (registry.setTask flight (found.inPhase (.abandoned true)))
          | .sent => some (registry.setTask flight (found.inPhase (.abandoned false)))
          | _ => none
  | .returned _ | .dropped => none
  | _ => some registry

def callerStep (registry : Registry) (place : Nat) (caller : Caller) :
    CallerStep → Option Registry
  | .look playbackActive now =>
      if caller.phase = .called then
        some (registry.setCaller place (registry.lookedUp caller playbackActive now))
      else none
  | .join =>
      match caller.phase with
      | .admitted epoch => some (registry.joined place caller epoch)
      | _ => none
  | .gate =>
      match caller.phase with
      | .owning flight =>
          match registry.tasks[flight]? with
          | none => none
          | some found =>
              if found.phase = .registered then some (registry.gated place caller flight found)
              else none
      | _ => none
  | .receive =>
      match caller.phase with
      | .waiting flight =>
          match (registry.tasks[flight]?).bind Flight.shown with
          | none => none
          | some result => some (registry.setCaller place (caller.inPhase (.received flight result)))
      | _ => none
  | .receiveShutdown =>
      match caller.phase with
      | .waiting flight =>
          if registry.shutdown then
            some (registry.setCaller place
              (caller.inPhase (.received flight (.nonPassing .serverShutdown))))
          else none
      | _ => none
  | .conclude =>
      match caller.phase with
      | .owning flight =>
          match registry.tasks[flight]? with
          | none => none
          | some found =>
              if found.phase = .gone then
                some (registry.setCaller place (caller.returning .serverShutdown))
              else none
      | .received _ result => some (registry.setCaller place (caller.inPhase (.returned result)))
      | _ => none
  | .depart =>
      match registry.leftBehind caller with
      | none => none
      | some after => some (after.setCaller place (caller.inPhase .dropped))

inductive GivingUp where
  | shutdown
  | capacityExhausted
  | cancelled
  | timeout
deriving DecidableEq, Repr

def GivingUp.reason : GivingUp → RegistryReason
  | .shutdown => .serverShutdown
  | .capacityExhausted => .capacityExhausted
  | .cancelled => .verificationStale
  | .timeout => .verificationQueueTimeout

def GivingUp.due (registry : Registry) (flight : Flight) : GivingUp → Bool
  | .shutdown => registry.shutdown
  | .capacityExhausted => registry.capacityExhausted
  | .cancelled => flight.cancelled
  | .timeout => true

def takeSemaphore (registry : Registry) (semaphore : Nat) : Option Registry :=
  match registry.semaphores[semaphore]? with
  | some (free + 1) => some { registry with semaphores := registry.semaphores.set semaphore free }
  | _ => none

def releaseSemaphore (registry : Registry) (semaphore : Nat) : Registry :=
  { registry with semaphores := registry.semaphores.modify semaphore (· + 1) }

def decrementQueued (registry : Registry) : Registry :=
  if registry.flightState.queued = 0 then registry.exhaust.terminate .capacityExhausted
  else
    { registry with flightState := { registry.flightState with
        queued := registry.flightState.queued - 1 } }

def cancellationResult (registry : Registry) : EnsureEvidenceResult :=
  .nonPassing <|
    if registry.capacityExhausted then .capacityExhausted
    else registry.flightState.terminalReason.getD
      (if registry.shutdown then .serverShutdown else .verificationStale)

def prunedEvidence (snapshot : CapabilitySnapshot) (now : StateNow) : EvidenceMap :=
  filterMapRecords snapshot.evidence fun key record =>
    let pruned := record.pruneExpired now
    if snapshot.keyIsCurrent key && pruned.lastObservedAt.isSome then some pruned else none

/-- The evidence to publish, or what the flight ends with instead. -/
def mergedEvidence (snapshot : CapabilitySnapshot) (key preferred : CapabilityKey)
    (verified : VerificationResult) (now : StateNow) : Except EnsureEvidenceResult EvidenceMap :=
  let evidence := prunedEvidence snapshot now
  let existed := (evidence.lookup key).isSome
  let others := evidence.erase key
  match ((evidence.lookup key).getD (.new key)).apply verified .activeInjected now with
  | (.error _, _) => .error (.nonPassing .verificationPrerequisiteMissing)
  | (.ok .removeRecord, _) =>
      if existed then .ok others else .error (.fromOutcome verified.outcome)
  | (.ok .noChange, _) => .error (.fromOutcome verified.outcome)
  | (.ok .keepRecord, record) =>
      if !existed && others.entries.length ≥ maxEvidence then
        match oldestKey others preferred with
        | none => .error (.nonPassing .verificationCapacity)
        | some oldest => .ok ((others.erase oldest).insert key record)
      else .ok (others.insert key record)

def mergeVerification (registry : Registry) (key : CapabilityKey) (epoch : Nat)
    (verified : VerificationResult) (now : Option StateNow) (preferred : CapabilityKey) :
    EnsureEvidenceResult × Registry :=
  if registry.capacityExhausted then (.nonPassing .capacityExhausted, registry)
  else
    match now with
    | none => (.nonPassing .capacityExhausted, registry)
    | some now =>
        if registry.snapshot.identityEpoch ≠ epoch ∨ registry.snapshot.admits key = false then
          (.nonPassing .verificationStale, registry)
        else
          match mergedEvidence registry.snapshot key preferred verified now with
          | .error result => (result, registry)
          | .ok evidence =>
              match nextCounter registry.snapshot.publicationRevision with
              | none => (.nonPassing .capacityExhausted, registry.exhaust)
              | some revision =>
                  match ({ registry.snapshot with
                      identityEpoch := epoch, publicationRevision := revision,
                      evidence } : CapabilitySnapshot).fromParts now with
                  | .error _ => (.nonPassing .verificationPrerequisiteMissing, registry)
                  | .ok snapshot =>
                      (.fromOutcome verified.outcome,
                        { registry with publication :=
                            { registry.publication with snapshot } })

def strongCount (registry : Registry) (semaphore : Nat) : Nat :=
  (registry.flightState.deviceSemaphores.entries.countP fun entry => entry.2 = semaphore) +
    (registry.tasks.map fun flight =>
      if flight.semaphore = semaphore then flight.phase.handles else 0).sum

-- `finish_flight` after the result was sent.
def removeFlight (registry : Registry) (place : Nat) (flight : Flight) : Registry :=
  let flights :=
    if registry.flightState.flights.lookup flight.key = some place then
      registry.flightState.flights.erase flight.key
    else registry.flightState.flights
  let deviceSemaphores :=
    if registry.semaphores[flight.semaphore]? = some 1 ∧
        registry.strongCount flight.semaphore = 2 then
      registry.flightState.deviceSemaphores.erase flight.key.device
    else registry.flightState.deviceSemaphores
  { registry with flightState := { registry.flightState with flights, deviceSemaphores } }

inductive TaskStep where
  | cancel
  | takeDevice
  | takeGlobal
  | giveUp (why : GivingUp)
  | leaveQueue
  | check (playbackActive : Bool)
  | confirm
  | interrupt (why : GivingUp)
  | stop
  -- Nothing where the verifier panicked.
  | answer (verified : Option VerificationResult)
  | merge (now : Option StateNow) (preferred : CapabilityKey)
  | release
  | send
  | remove
  | exit

def flightIsCurrent (registry : Registry) (epoch : Nat) : Bool :=
  !registry.capacityExhausted && registry.flightState.terminalReason.isNone &&
    !registry.flightState.admissionPaused && registry.flightState.identityEpoch = epoch

def incrementInvocations (registry : Registry) : Registry :=
  { registry with verifierInvocations := registry.verifierInvocations + 1 }

def interrupted (flight : Flight) : GivingUp → Option Flight
  | .shutdown => some (flight.inPhase (.computed (.nonPassing .serverShutdown)))
  | .capacityExhausted => some (flight.inPhase (.computed (.nonPassing .capacityExhausted)))
  | .cancelled => some (flight.inPhase .stopping)
  | .timeout => none

def answered (flight : Flight) : Option VerificationResult → Flight
  | none => flight.inPhase (.computed (.nonPassing .serverShutdown))
  | some verified =>
      if verified.target = flight.target then flight.inPhase (.verified verified)
      else flight.inPhase (.computed (.nonPassing .verificationPrerequisiteMissing))

def taskStep (registry : Registry) (place : Nat) (flight : Flight) : TaskStep → Option Registry
  | .cancel =>
      if place ∈ registry.cancelling then
        some ({ registry with cancelling := registry.cancelling.erase place }.setTask place
          { flight with cancelled := true })
      else none
  | .takeDevice =>
      if flight.phase = .acquiring then
        (registry.takeSemaphore flight.semaphore).map fun taken =>
          taken.setTask place (flight.inPhase .acquiringGlobal)
      else none
  | .takeGlobal =>
      if flight.phase = .acquiringGlobal ∧ 0 < registry.globalPermits then
        some ({ registry with globalPermits := registry.globalPermits - 1 }.setTask place
          (flight.inPhase .granted))
      else none
  | .giveUp why =>
      if why.due registry flight then
        match flight.phase with
        | .acquiring => some (registry.setTask place (flight.inPhase (.refused why.reason)))
        | .acquiringGlobal =>
            some ((registry.releaseSemaphore flight.semaphore).setTask place
              (flight.inPhase (.refused why.reason)))
        | _ => none
      else none
  | .leaveQueue =>
      flight.phase.dequeued.map fun phase =>
        registry.decrementQueued.setTask place (flight.inPhase phase)
  | .check playbackActive =>
      if flight.phase = .holding then
        some (registry.setTask place (flight.inPhase (
          if playbackActive then .computed (.nonPassing .verificationDeferredForPlayback)
          else if registry.flightIsCurrent flight.epoch then .matched else .stopping)))
      else none
  | .confirm =>
      if flight.phase = .matched then
        if registry.snapshot.identityEpoch = flight.epoch ∧
            registry.snapshot.admits flight.key = true then
          match nextCounter registry.verifierInvocations with
          | none =>
              some (registry.exhaust.setTask place
                (flight.inPhase (.computed (.nonPassing .capacityExhausted))))
          | some _ =>
              some (registry.incrementInvocations.setTask place (flight.inPhase .verifying))
        else some (registry.setTask place (flight.inPhase .stopping))
      else none
  | .interrupt why =>
      if flight.phase = .verifying ∧ why.due registry flight then
        (interrupted flight why).map fun after => registry.setTask place after
      else none
  | .stop =>
      if flight.phase = .stopping then
        some (registry.setTask place (flight.inPhase (.computed registry.cancellationResult)))
      else none
  | .answer verified =>
      if flight.phase = .verifying then some (registry.setTask place (answered flight verified))
      else none
  | .merge now preferred =>
      match flight.phase with
      | .verified verified =>
          let (result, after) :=
            registry.mergeVerification flight.key flight.epoch verified now preferred
          some (after.setTask place (flight.inPhase (.computed result)))
      | _ => none
  | .release =>
      match flight.phase with
      | .computed result =>
          some ({ registry.releaseSemaphore flight.semaphore with
              globalPermits := registry.globalPermits + 1 }.setTask place
            (flight.inPhase (.finished result)))
      | _ => none
  | .send =>
      match flight.phase with
      | .finished result =>
          some (registry.setTask place { flight with shown := some result, phase := .sent })
      | _ => none
  | .remove =>
      if flight.phase = .sent then
        some ((registry.removeFlight place flight).setTask place (flight.inPhase .leaving))
      else none
  | .exit =>
      if flight.phase = .leaving then some (registry.setTask place (flight.inPhase .gone)) else none

inductive FlightAction where
  | call (key : CapabilityKey) (target : EvidenceTarget)
  | caller (place : Nat) (step : CallerStep)
  | task (place : Nat) (step : TaskStep)

def flightStep (registry : Registry) : FlightAction → Option Registry
  | .call key target =>
      some { registry with callers := registry.callers ++ [⟨key, target, .called⟩] }
  | .caller place step =>
      match registry.callers[place]? with
      | none => none
      | some caller => registry.callerStep place caller step
  | .task place step =>
      match registry.tasks[place]? with
      | none => none
      | some flight => registry.taskStep place flight step

inductive Action where
  | refresh (action : RefreshAction)
  | flight (action : FlightAction)

def step (registry : Registry) : Action → Option Registry
  | .refresh action => registry.refreshStep action
  | .flight action => registry.flightStep action

end Registry

end StreamServer.Capability
