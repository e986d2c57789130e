import StreamServer.Capability.Snapshot

set_option autoImplicit false

namespace StreamServer.Capability

inductive RegistryReason where
  | verificationNotImplemented
  | verificationStale
  | verificationPrerequisiteMissing
  | verificationCapacity
  | verificationQueueTimeout
  | verificationDeferredForPlayback
  | capacityExhausted
  | serverShutdown
deriving DecidableEq, Repr

structure EnsureEvidenceResult where
  passing : Bool
  reason : Option RegistryReason
deriving DecidableEq, Repr

def EnsureEvidenceResult.nonPassing (reason : RegistryReason) : EnsureEvidenceResult :=
  ⟨false, some reason⟩

def EnsureEvidenceResult.fromOutcome (outcome : EvidenceOutcome) : EnsureEvidenceResult :=
  ⟨outcome = .correctnessPassed || outcome = .realtimePassed, none⟩

def EnsureEvidenceResult.evidenceNonPassing : EnsureEvidenceResult := ⟨false, none⟩

inductive RefreshState where
  | idle
  | running
  | succeeded
  | failed
  | cancelled
deriving DecidableEq, Repr

inductive RefreshCause where
  | startup
  | manual
deriving DecidableEq, Repr

inductive RefreshOutcomeReason where
  | platformUnsupported
  | deviceIdentityUnavailable
  | deviceMappingAmbiguous
  | deviceEnumerationFailed
  | runtimeUnavailable
  | inventoryTimeout
  | inventoryOverflow
  | inventoryMalformed
  | inventoryProcessFailed
  | refreshCancelled
  | refreshFailed
deriving DecidableEq, Repr

inductive DeviceError where
  | ambiguous | cancelled | invalid | overflow
deriving DecidableEq, Repr

inductive InventoryError where
  | bounds | cancelled | identityMismatch | malformed | processFailed | runtimeChanged | timeout
deriving DecidableEq, Repr

inductive RefreshFailure where
  | cancelled
  | device (error : DeviceError)
  | inventory (error : InventoryError)
  | runtimeUnavailable
  | snapshotInvalid
deriving DecidableEq, Repr

def RefreshFailure.outcomeReason : RefreshFailure → RefreshOutcomeReason
  | .cancelled | .device .cancelled => .refreshCancelled
  | .device .ambiguous => .deviceMappingAmbiguous
  | .device .overflow => .inventoryOverflow
  | .device .invalid => .deviceEnumerationFailed
  | .inventory .timeout => .inventoryTimeout
  | .inventory .bounds => .inventoryOverflow
  | .inventory .identityMismatch | .inventory .malformed => .inventoryMalformed
  | .inventory .processFailed => .inventoryProcessFailed
  | .inventory .runtimeChanged | .runtimeUnavailable => .runtimeUnavailable
  | .inventory .cancelled => .refreshCancelled
  | .snapshotInvalid => .refreshFailed

inductive RefreshAdmission where
  | started (id : Nat)
  | existing (id : Nat)
  | rateLimited (retryAfterSeconds : Nat)
  | rejected (reason : RegistryReason)
deriving DecidableEq, Repr

structure RefreshMetadata where
  state : RefreshState
  id : Option Nat
  cause : Option RefreshCause
  startedAt : Option EvidenceTimestamp
  completedAt : Option EvidenceTimestamp
  outcomeReason : Option RefreshOutcomeReason
deriving DecidableEq, Repr

def RefreshMetadata.idle : RefreshMetadata := ⟨.idle, none, none, none, none, none⟩

structure RegistryPublication where
  snapshot : CapabilitySnapshot
  refresh : RefreshMetadata
deriving DecidableEq

inductive FlightPhase where
  -- In the map; its caller has not reached the lifecycle gate.
  | registered
  -- The gate saw the shutdown: the caller itself ends the flight.
  | unspawned
  | acquiring
  | acquiringGlobal
  | granted
  | refused (reason : RegistryReason)
  | holding
  | matched
  | verifying
  | verified (result : VerificationResult)
  | stopping
  | computed (result : EnsureEvidenceResult)
  | finished (result : EnsureEvidenceResult)
  | sent
  | leaving
  | gone
  | abandoned (counted : Bool)
deriving DecidableEq, Repr

structure Flight where
  key : CapabilityKey
  target : EvidenceTarget
  epoch : Nat
  semaphore : Nat
  spawned : Bool
  cancelled : Bool
  -- What the watch channel shows to the waiters.
  shown : Option EnsureEvidenceResult
  phase : FlightPhase
deriving DecidableEq

/-- Flights and semaphores are named by their places in the registry's tables. -/
structure FlightState where
  terminalReason : Option RegistryReason
  admissionPaused : Bool
  identityEpoch : Nat
  queued : Nat
  flights : AList fun _ : CapabilityKey => Nat
  deviceSemaphores : AList fun _ : DeviceId => Nat

inductive CallerPhase where
  | called
  -- It has read a snapshot of this epoch that admits the key.
  | admitted (epoch : Nat)
  | owning (flight : Nat)
  | waiting (flight : Nat)
  | received (flight : Nat) (result : EnsureEvidenceResult)
  | returned (result : EnsureEvidenceResult)
  | dropped
deriving DecidableEq, Repr

structure Caller where
  key : CapabilityKey
  target : EvidenceTarget
  phase : CallerPhase
deriving DecidableEq

structure RunningRefresh where
  id : Nat
  cause : RefreshCause
  epoch : Nat
  admittedRevision : Nat
deriving DecidableEq, Repr

structure RefreshControl where
  nextId : Nat
  running : Option RunningRefresh
  startupId : Option Nat
  lastManualMonotonicMs : Option Nat
deriving DecidableEq, Repr

structure RefreshCandidate where
  runtime : Option RuntimeInventory
  devices : List TranscodingDevice
  candidates : List CoarseCandidate
  evidence : EvidenceMap
  outcomeReason : Option RefreshOutcomeReason
deriving DecidableEq

inductive RefreshPhase where
  | admitted
  -- Until no flight is listed.
  | draining
  | building
  | collected (candidate : RefreshCandidate)
  | persisting (snapshot : CapabilitySnapshot) (now : StateNow)
      (outcomeReason : Option RefreshOutcomeReason)
  | ready (snapshot : CapabilitySnapshot) (now : StateNow)
      (outcomeReason : Option RefreshOutcomeReason)
  | failing (cancelled : Bool) (reason : RefreshOutcomeReason)
  | stale (snapshot : CapabilitySnapshot) (now : StateNow) (cancelled : Bool)
      (reason : RefreshOutcomeReason)
  | resuming
  | finishing
  | done
deriving DecidableEq

structure RefreshWorker where
  running : RunningRefresh
  previous : CapabilitySnapshot
  spawned : Bool
  -- A panic was caught, and what runs now is its handler.
  handling : Bool
  phase : RefreshPhase
deriving DecidableEq

structure Registry where
  mode : VerifierMode
  publication : RegistryPublication
  flightState : FlightState
  tasks : List Flight
  -- Tokens collected under the lock and not cancelled yet.
  cancelling : List Nat
  semaphores : List Nat
  globalPermits : Nat
  verifierInvocations : Nat
  callers : List Caller
  control : RefreshControl
  workers : List RefreshWorker
  capacityExhausted : Bool
  shutdown : Bool

def maxInFlightKeys : Nat := 64

def maxQueuedKeys : Nat := 64

def maxActiveGlobal : Nat := 4

def manualRefreshWindowMs : Nat := 60000

namespace Registry

def initial (mode : VerifierMode) : Registry where
  mode
  publication := ⟨.initial, .idle⟩
  flightState := ⟨none, false, 0, 0, ∅, ∅⟩
  tasks := []
  cancelling := []
  semaphores := []
  globalPermits := maxActiveGlobal
  verifierInvocations := 0
  callers := []
  control := ⟨0, none, none, none⟩
  workers := []
  capacityExhausted := false
  shutdown := false

abbrev snapshot (registry : Registry) : CapabilitySnapshot := registry.publication.snapshot

def nextCounter (value : Nat) : Option Nat :=
  if value + 1 ≤ maxSafeInteger then some (value + 1) else none

def collectCancellations (registry : Registry) : Registry :=
  { registry with cancelling :=
      registry.cancelling ++ registry.flightState.flights.entries.map Sigma.snd }

def terminate (registry : Registry) (reason : RegistryReason) : Registry :=
  { registry with flightState := { registry.flightState with terminalReason := some reason } }
    |>.collectCancellations

def exhaust (registry : Registry) : Registry := { registry with capacityExhausted := true }

structure RefreshInvalidation where
  epoch : Nat
  admittedRevision : Nat
  previous : CapabilitySnapshot

def admitRefreshInvalidation (registry : Registry) (refreshId : Nat) (cause : RefreshCause)
    (now : Option StateNow) : Except RegistryReason RefreshInvalidation × Registry :=
  if registry.shutdown then (.error .serverShutdown, registry)
  else if registry.capacityExhausted then (.error .capacityExhausted, registry)
  else
    match registry.flightState.terminalReason with
    | some reason => (.error reason, registry)
    | none =>
        match nextCounter registry.flightState.identityEpoch with
        | none => (.error .capacityExhausted, registry.exhaust.terminate .capacityExhausted)
        | some nextEpoch =>
            match nextCounter registry.snapshot.publicationRevision with
            | none => (.error .capacityExhausted, registry.exhaust.terminate .capacityExhausted)
            | some nextRevision =>
                match now with
                | none => (.error .capacityExhausted, registry)
                | some now =>
                    match (registry.snapshot.republished .refreshing nextEpoch
                        nextRevision).fromParts now with
                    | .error _ => (.error .verificationPrerequisiteMissing, registry)
                    | .ok refreshing =>
                        (.ok ⟨nextEpoch, nextRevision, registry.snapshot⟩,
                          { registry with
                            flightState := { registry.flightState with
                              admissionPaused := true, identityEpoch := nextEpoch }
                            publication :=
                              { snapshot := refreshing
                                refresh := ⟨.running, some refreshId, some cause, some now.wall,
                                  none, none⟩ } }.collectCancellations)

/-- The control is locked from its first reading on, so nothing else is admitted in between. -/
def startRefresh (registry : Registry) (cause : RefreshCause) (early late : Option StateNow) :
    RefreshAdmission × Registry :=
  if registry.shutdown then (.rejected .serverShutdown, registry)
  else if registry.capacityExhausted then (.rejected .capacityExhausted, registry)
  else
    match early with
    | none => (.rejected .capacityExhausted, registry)
    | some now =>
        match registry.control.running with
        | some running => (.existing running.id, registry)
        | none =>
            match if cause = .startup then registry.control.startupId else none with
            | some id => (.existing id, registry)
            | none =>
                let limited := (if cause = .manual then registry.control.lastManualMonotonicMs
                  else none).filter fun last => now.monotonicMs - last < manualRefreshWindowMs
                match limited with
                | some last =>
                    (.rateLimited ((manualRefreshWindowMs - (now.monotonicMs - last) + 999) / 1000),
                      registry)
                | none =>
                    match nextCounter registry.control.nextId with
                    | none => (.rejected .capacityExhausted, registry.exhaust)
                    | some id =>
                        match registry.admitRefreshInvalidation id cause late with
                        | (.error reason, after) => (.rejected reason, after)
                        | (.ok invalidation, after) =>
                            let running : RunningRefresh :=
                              ⟨id, cause, invalidation.epoch, invalidation.admittedRevision⟩
                            (.started id,
                              { after with
                                control :=
                                  { nextId := id
                                    running := some running
                                    startupId :=
                                      if cause = .startup then some id else after.control.startupId
                                    lastManualMonotonicMs :=
                                      if cause = .startup then after.control.lastManualMonotonicMs
                                      else some now.monotonicMs }
                                workers := after.workers ++
                                  [⟨running, invalidation.previous, false, false, .admitted⟩] })

end Registry

end StreamServer.Capability
