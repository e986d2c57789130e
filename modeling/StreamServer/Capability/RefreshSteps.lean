import StreamServer.Capability.Registry

set_option autoImplicit false

namespace StreamServer.Capability

def keptEntry (keep : CapabilityKey → EvidenceRecord → Option EvidenceRecord)
    (entry : Sigma fun _ : CapabilityKey => EvidenceRecord) :
    Option (Sigma fun _ : CapabilityKey => EvidenceRecord) :=
  (keep entry.1 entry.2).map fun record => ⟨entry.1, record⟩

theorem keys_keptEntry_sublist (keep : CapabilityKey → EvidenceRecord → Option EvidenceRecord)
    (entries : List (Sigma fun _ : CapabilityKey => EvidenceRecord)) :
    List.Sublist (entries.filterMap (keptEntry keep)).keys entries.keys := by
  induction entries with
  | nil => exact List.Sublist.slnil
  | cons entry rest ih =>
    rw [List.filterMap_cons]
    unfold keptEntry at ih ⊢
    cases keep entry.1 entry.2 with
    | none => exact ih.cons entry.1
    | some record => exact ih.cons_cons entry.1

def filterMapRecords (evidence : EvidenceMap)
    (keep : CapabilityKey → EvidenceRecord → Option EvidenceRecord) : EvidenceMap where
  entries := evidence.entries.filterMap (keptEntry keep)
  nodupKeys := (keys_keptEntry_sublist keep _).nodup evidence.nodupKeys

def evidenceRecordIsCurrent (snapshot : CapabilitySnapshot) (now : StateNow) (key : CapabilityKey)
    (record : EvidenceRecord) : Option EvidenceRecord :=
  let pruned := record.pruneExpired now
  if pruned.key = key && snapshot.keyIdentityMatches key && snapshot.hasStaticPrerequisites key &&
      pruned.lastObservedAt.isSome && decide (pruned.validate now = .ok ()) then
    some pruned
  else none

inductive SessionAnswer where
  | session
  | unavailable
  | failed
deriving DecidableEq, Repr

inductive DeviceDiscoveryStatus where
  | supported
  | platformUnsupported
deriving DecidableEq, Repr

structure RefreshAnswers where
  serviceAlive : Bool
  session : SessionAnswer
  enumerated : Except DeviceError DeviceDiscoveryStatus
  -- Absent without a seed or a driver run epoch.
  normalized : Option (Except DeviceError (List TranscodingDevice))
  inventory : Except InventoryError RuntimeInventory
  coarse : Except InventoryError (List CoarseCandidate)
  now : Option StateNow
  loaded : EvidenceMap

namespace RefreshAnswers

def devices (answers : RefreshAnswers) :
    Except RefreshFailure (List TranscodingDevice × Option RefreshOutcomeReason) :=
  match answers.normalized with
  | none => .ok ([], some .deviceIdentityUnavailable)
  | some (.error .ambiguous) => .ok ([], some .deviceMappingAmbiguous)
  | some (.error error) => .error (.device error)
  | some (.ok devices) =>
      .ok (devices, if answers.session = .unavailable then some .runtimeUnavailable else none)

def runtime (answers : RefreshAnswers) : Except RefreshFailure (Option RuntimeInventory) :=
  if answers.session = .session then
    match answers.inventory with
    | .error error => .error (.inventory error)
    | .ok inventory => .ok (some inventory)
  else .ok none

def candidates (answers : RefreshAnswers) : Except RefreshFailure (List CoarseCandidate) :=
  if answers.session = .session then
    match answers.coarse with
    | .error error => .error (.inventory error)
    | .ok candidates => .ok candidates
  else .ok []

end RefreshAnswers

def insertLoaded (identity : CapabilitySnapshot) (now : StateNow) (evidence : EvidenceMap)
    (entry : Sigma fun _ : CapabilityKey => EvidenceRecord) : EvidenceMap :=
  match evidenceRecordIsCurrent identity now entry.1 entry.2 with
  | none => evidence
  | some record =>
      if evidence.lookup entry.1 = none ∧ evidence.entries.length < maxEvidence then
        evidence.insert entry.1 record
      else evidence

def refreshedEvidence (running : RunningRefresh) (previous identity : CapabilitySnapshot)
    (loaded : EvidenceMap) (now : StateNow) : EvidenceMap :=
  let kept := filterMapRecords previous.evidence (evidenceRecordIsCurrent identity now)
  let evidence :=
    if identity.runtime.isSome then loaded.entries.foldl (insertLoaded identity now) kept else ∅
  if running.cause = .manual then
    filterMapRecords evidence fun _ record => some (record.clearCooldownAfterRefresh now)
  else evidence

/-- The token it checks in between is cancelled only where its result is given up. -/
def buildRefreshCandidate (running : RunningRefresh) (previous : CapabilitySnapshot)
    (answers : RefreshAnswers) : Except RefreshFailure RefreshCandidate :=
  if !answers.serviceAlive then .error .cancelled
  else if answers.session = .failed then .error .runtimeUnavailable
  else
    match answers.enumerated with
    | .error error => .error (.device error)
    | .ok status => do
        let (devices, reason) ← answers.devices
        let outcomeReason :=
          if reason = none && status = .platformUnsupported then some .platformUnsupported
          else reason
        let runtime ← answers.runtime
        let candidates ← answers.candidates
        match answers.now with
        | none => .error .snapshotInvalid
        | some now =>
            match (CapabilitySnapshot.mk .fresh running.epoch running.admittedRevision runtime
                devices candidates ∅).fromParts now with
            | .error _ => .error .snapshotInvalid
            | .ok identity =>
                .ok ⟨runtime, devices, candidates,
                  refreshedEvidence running previous identity answers.loaded now, outcomeReason⟩

inductive PersistAnswer where
  | shutdown
  | deadline
  | settled
deriving DecidableEq, Repr

inductive WorkerStep where
  | spawn
  | drain
  | cancel
  | timeOut
  | collect (answers : RefreshAnswers)
  | prepare (deadlinePassed : Bool) (now : Option StateNow)
  | persisted (answer : PersistAnswer)
  | publish
  | fail (now : Option StateNow)
  | publishStale
  | resume
  | finish
  | panicked
  -- The caller of an unspawned refresh goes away.
  | abandon

namespace RefreshWorker

def inPhase (worker : RefreshWorker) (phase : RefreshPhase) : RefreshWorker := { worker with phase }

def failed (worker : RefreshWorker) : RefreshFailure → RefreshWorker
  | .cancelled | .device .cancelled => worker.inPhase (.failing true .refreshCancelled)
  | failure => worker.inPhase (.failing false failure.outcomeReason)

def freshSnapshot (worker : RefreshWorker) (candidate : RefreshCandidate) : CapabilitySnapshot where
  freshness := .fresh
  identityEpoch := worker.running.epoch
  publicationRevision := worker.running.admittedRevision + 1
  runtime := candidate.runtime
  devices := candidate.devices
  candidates := candidate.candidates
  evidence := candidate.evidence

def staleSnapshot (worker : RefreshWorker) : CapabilitySnapshot :=
  worker.previous.republished .stale worker.running.epoch (worker.running.admittedRevision + 1)

end RefreshWorker

namespace Registry

def setWorker (registry : Registry) (place : Nat) (worker : RefreshWorker) : Registry :=
  { registry with workers := registry.workers.set place worker }

def At (registry : Registry) (running : RunningRefresh) : Prop :=
  registry.snapshot.identityEpoch = running.epoch ∧
    registry.snapshot.publicationRevision = running.admittedRevision

instance (registry : Registry) (running : RunningRefresh) : Decidable (registry.At running) :=
  inferInstanceAs (Decidable (_ ∧ _))

def publishedFresh (registry : Registry) (snapshot : CapabilitySnapshot) (now : StateNow)
    (outcomeReason : Option RefreshOutcomeReason) : Registry :=
  { registry with publication :=
      { snapshot
        refresh := { registry.publication.refresh with
          state := .succeeded, completedAt := some now.wall, outcomeReason } } }

def publishedStale (registry : Registry) (snapshot : CapabilitySnapshot) (now : StateNow)
    (cancelled : Bool) (reason : RefreshOutcomeReason) : Registry :=
  { registry with publication :=
      { snapshot
        refresh := { registry.publication.refresh with
          state := if cancelled then .cancelled else .failed
          completedAt := some now.wall
          outcomeReason := some reason } } }

def resumeAdmission (registry : Registry) (epoch : Nat) : Registry :=
  if registry.flightState.identityEpoch = epoch ∧ ¬registry.shutdown then
    { registry with flightState := { registry.flightState with admissionPaused := false } }
  else registry

def clearRunning (registry : Registry) (running : RunningRefresh) : Registry :=
  if registry.control.running.any fun current => current.id = running.id then
    { registry with control := { registry.control with running := none } }
  else registry

def spawnWorker (registry : Registry) (place : Nat) (worker : RefreshWorker) : Registry :=
  if registry.shutdown then registry.setWorker place (worker.inPhase (.failing true .refreshCancelled))
  else registry.setWorker place { worker with spawned := true, phase := .draining }

def collectWorker (registry : Registry) (place : Nat) (worker : RefreshWorker)
    (answers : RefreshAnswers) : Registry :=
  match buildRefreshCandidate worker.running worker.previous answers with
  | .error failure => registry.setWorker place (worker.failed failure)
  | .ok candidate =>
      if registry.shutdown then
        registry.setWorker place (worker.inPhase (.failing true .refreshCancelled))
      else registry.setWorker place (worker.inPhase (.collected candidate))

def prepareWorker (registry : Registry) (place : Nat) (worker : RefreshWorker)
    (candidate : RefreshCandidate) (deadlinePassed : Bool) (now : Option StateNow) : Registry :=
  if deadlinePassed then registry.setWorker place (worker.inPhase (.failing false .inventoryTimeout))
  else
    match now with
    | none => registry.setWorker place (worker.inPhase (.failing false .refreshFailed))
    | some now =>
        if nextCounter worker.running.admittedRevision = none then
          registry.exhaust.setWorker place (worker.inPhase (.failing false .refreshFailed))
        else
          match (worker.freshSnapshot candidate).fromParts now with
          | .error _ => registry.setWorker place (worker.inPhase (.failing false .refreshFailed))
          | .ok snapshot =>
              registry.setWorker place (worker.inPhase (.persisting snapshot now candidate.outcomeReason))

def persistedWorker (registry : Registry) (place : Nat) (worker : RefreshWorker)
    (snapshot : CapabilitySnapshot) (now : StateNow)
    (outcomeReason : Option RefreshOutcomeReason) : PersistAnswer → Option Registry
  | .shutdown =>
      if registry.shutdown ∧ snapshot.runtime.isSome then
        some (registry.setWorker place (worker.inPhase (.failing true .refreshCancelled)))
      else none
  | .deadline =>
      if snapshot.runtime.isSome then
        some (registry.setWorker place (worker.inPhase (.failing false .inventoryTimeout)))
      else none
  | .settled =>
      if registry.shutdown then
        some (registry.setWorker place (worker.inPhase (.failing true .refreshCancelled)))
      else some (registry.setWorker place (worker.inPhase (.ready snapshot now outcomeReason)))

def failWorker (registry : Registry) (place : Nat) (worker : RefreshWorker) (cancelled : Bool)
    (reason : RefreshOutcomeReason) (now : Option StateNow) : Registry :=
  match now, nextCounter worker.running.admittedRevision with
  | some now, some _ =>
      match worker.staleSnapshot.fromParts now with
      | .error _ => registry.setWorker place (worker.inPhase .resuming)
      | .ok snapshot => registry.setWorker place (worker.inPhase (.stale snapshot now cancelled reason))
  | _, _ => registry.exhaust.setWorker place (worker.inPhase .resuming)

def panickedWorker (registry : Registry) (place : Nat) (worker : RefreshWorker) : Registry :=
  if worker.handling then registry.setWorker place (worker.inPhase .done)
  else
    registry.setWorker place
      { worker with
        handling := true
        phase := .failing registry.shutdown
          (if registry.shutdown then .refreshCancelled else .refreshFailed) }

def workerStep (registry : Registry) (place : Nat) (worker : RefreshWorker) :
    WorkerStep → Option Registry
  | .spawn =>
      if worker.phase = .admitted then some (registry.spawnWorker place worker) else none
  | .drain =>
      if worker.phase = .draining ∧ registry.flightState.flights.entries = [] then
        some (registry.setWorker place (worker.inPhase .building))
      else none
  | .cancel =>
      if (worker.phase = .draining ∨ worker.phase = .building) ∧ registry.shutdown then
        some (registry.setWorker place (worker.failed .cancelled))
      else none
  | .timeOut =>
      if worker.phase = .draining ∨ worker.phase = .building then
        some (registry.setWorker place (worker.failed (.inventory .timeout)))
      else none
  | .collect answers =>
      if worker.phase = .building then some (registry.collectWorker place worker answers) else none
  | .prepare deadlinePassed now =>
      match worker.phase with
      | .collected candidate => some (registry.prepareWorker place worker candidate deadlinePassed now)
      | _ => none
  | .persisted answer =>
      match worker.phase with
      | .persisting snapshot now outcomeReason =>
          registry.persistedWorker place worker snapshot now outcomeReason answer
      | _ => none
  | .publish =>
      match worker.phase with
      | .ready snapshot now outcomeReason =>
          if registry.At worker.running then
            some ((registry.publishedFresh snapshot now outcomeReason).setWorker place
              (worker.inPhase .resuming))
          else some (registry.setWorker place (worker.inPhase .finishing))
      | _ => none
  | .fail now =>
      match worker.phase with
      | .failing cancelled reason => some (registry.failWorker place worker cancelled reason now)
      | _ => none
  | .publishStale =>
      match worker.phase with
      | .stale snapshot now cancelled reason =>
          if registry.At worker.running then
            some ((registry.publishedStale snapshot now cancelled reason).setWorker place
              (worker.inPhase .resuming))
          else some (registry.setWorker place (worker.inPhase .resuming))
      | _ => none
  | .resume =>
      if worker.phase = .resuming then
        some ((registry.resumeAdmission worker.running.epoch).setWorker place (worker.inPhase .finishing))
      else none
  | .finish =>
      if worker.phase = .finishing then
        some ((registry.clearRunning worker.running).setWorker place (worker.inPhase .done))
      else none
  | .panicked =>
      if worker.spawned ∧ worker.phase ≠ .done then some (registry.panickedWorker place worker)
      else none
  | .abandon =>
      if ¬worker.spawned ∧ worker.phase ≠ .admitted ∧ worker.phase ≠ .done then
        some (registry.setWorker place (worker.inPhase .done))
      else none

inductive RefreshAction where
  | start (cause : RefreshCause) (early late : Option StateNow)
  | worker (place : Nat) (step : WorkerStep)
  | beginShutdown
  | shutdownFlights

def refreshStep (registry : Registry) : RefreshAction → Option Registry
  | .start cause early late => some (registry.startRefresh cause early late).2
  | .worker place step =>
      match registry.workers[place]? with
      | none => none
      | some worker => registry.workerStep place worker step
  | .beginShutdown => some { registry with shutdown := true }
  | .shutdownFlights =>
      if registry.shutdown then some (registry.terminate .serverShutdown) else none

end Registry

end StreamServer.Capability
