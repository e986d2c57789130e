import StreamServer.Capability.RefreshSteps

set_option autoImplicit false

namespace StreamServer.Capability

/-- What a refresh holds for publication was built for its place and checked at its clock. -/
structure RefreshWorker.Prepared (worker : RefreshWorker) (freshness : SnapshotFreshness)
    (snapshot : CapabilitySnapshot) (now : StateNow) : Prop where
  freshness : snapshot.freshness = freshness
  epoch : snapshot.identityEpoch = worker.running.epoch
  revision : snapshot.publicationRevision = worker.running.admittedRevision + 1
  valid : snapshot.validate now = .ok ()

def RefreshWorker.Sound (worker : RefreshWorker) : Prop :=
  match worker.phase with
  | .persisting snapshot now _ | .ready snapshot now _ => worker.Prepared .fresh snapshot now
  | .stale snapshot now _ _ => worker.Prepared .stale snapshot now
  | _ => True

def RefreshPhase.clock : RefreshPhase → Option StateNow
  | .persisting _ now _ | .ready _ now _ | .stale _ now _ _ => some now
  | _ => none

def RefreshPhase.ended : RefreshPhase → Bool
  | .resuming | .finishing => true
  | _ => false

/-- The previous snapshot no longer passes, and the failure goes unpublished. -/
def RefreshWorker.Unpublishable (worker : RefreshWorker) (step : WorkerStep) : Prop :=
  ∃ now, step = .fail (some now) ∧ worker.running.admittedRevision + 1 ≤ maxSafeInteger ∧
    worker.staleSnapshot.validate now ≠ .ok ()

namespace Registry

structure SameFlights (before after : Registry) : Prop where
  mode : after.mode = before.mode
  tasks : after.tasks = before.tasks
  flights : after.flightState.flights = before.flightState.flights
  queued : after.flightState.queued = before.flightState.queued
  deviceSemaphores : after.flightState.deviceSemaphores = before.flightState.deviceSemaphores
  semaphores : after.semaphores = before.semaphores
  globalPermits : after.globalPermits = before.globalPermits
  callers : after.callers = before.callers

structure SameControl (before after : Registry) : Prop where
  shutdown : after.shutdown = before.shutdown
  identityEpoch : after.flightState.identityEpoch = before.flightState.identityEpoch
  terminalReason : after.flightState.terminalReason = before.flightState.terminalReason
  nextId : after.control.nextId = before.control.nextId
  exhausted : before.capacityExhausted = true → after.capacityExhausted = true

inductive WorkerEffect (registry : Registry) (worker : RefreshWorker) (step : WorkerStep)
    (next : Registry) (after : RefreshWorker) : Prop where
  | moves (publication : next.publication = registry.publication)
      (running : next.control.running = registry.control.running)
      (ended : after.phase.ended = true → worker.phase.ended = true ∨
        ¬registry.At worker.running ∨ next.capacityExhausted = true ∨ worker.Unpublishable step)
  | publishes (freshness : SnapshotFreshness) (snapshot : CapabilitySnapshot) (now : StateNow)
      (clock : worker.phase.clock = some now) (place : registry.At worker.running)
      (prepared : worker.Prepared freshness snapshot now)
      (settled : freshness ≠ .refreshing ∧ freshness ≠ .uninitialized)
      (published : next.publication.snapshot = snapshot)
      (state : next.publication.refresh.state ≠ .running)
      (running : next.control.running = registry.control.running)
  | finishes (phase : worker.phase = .finishing)
      (publication : next.publication = registry.publication)
      (running : next.control.running =
        if registry.control.running.any fun current => current.id = worker.running.id then none
        else registry.control.running)
      (done : after.phase = .done)

structure WorkerSteps (registry : Registry) (place : Nat) (worker : RefreshWorker)
    (step : WorkerStep) (next : Registry) (after : RefreshWorker) : Prop where
  workers : next.workers = registry.workers.set place after
  running : after.running = worker.running
  previous : after.previous = worker.previous
  sound : after.Sound
  flights : SameFlights registry next
  control : SameControl registry next
  effect : WorkerEffect registry worker step next after

theorem sameFlights_setWorker (registry : Registry) (place : Nat) (worker : RefreshWorker) :
    SameFlights registry (registry.setWorker place worker) :=
  ⟨rfl, rfl, rfl, rfl, rfl, rfl, rfl, rfl⟩

theorem sameControl_setWorker (registry : Registry) (place : Nat) (worker : RefreshWorker) :
    SameControl registry (registry.setWorker place worker) :=
  ⟨rfl, rfl, rfl, rfl, id⟩

section Steps

variable {registry next : Registry} {place : Nat} {worker : RefreshWorker} {step : WorkerStep}

theorem workerSteps_setWorker {after : RefreshWorker} (running : after.running = worker.running)
    (previous : after.previous = worker.previous) (sound : after.Sound)
    (ended : after.phase.ended = true → worker.phase.ended = true ∨
      ¬registry.At worker.running ∨ worker.Unpublishable step) :
    WorkerSteps registry place worker step (registry.setWorker place after) after := by
  refine ⟨rfl, running, previous, sound, sameFlights_setWorker _ _ _, sameControl_setWorker _ _ _,
    .moves rfl rfl fun phase => ?_⟩
  obtain already | moved | unpublishable := ended phase
  · exact .inl already
  · exact .inr (.inl moved)
  · exact .inr (.inr (.inr unpublishable))

theorem workerSteps_exhaust {after : RefreshWorker} (running : after.running = worker.running)
    (previous : after.previous = worker.previous) (sound : after.Sound) :
    WorkerSteps registry place worker step (registry.exhaust.setWorker place after) after :=
  ⟨rfl, running, previous, sound, ⟨rfl, rfl, rfl, rfl, rfl, rfl, rfl, rfl⟩,
    ⟨rfl, rfl, rfl, rfl, fun _ => rfl⟩, .moves rfl rfl fun _ => .inr (.inr (.inl rfl))⟩

theorem workerSteps_inPhase {phase : RefreshPhase} (sound : (worker.inPhase phase).Sound)
    (continues : phase.ended = false) :
    WorkerSteps registry place worker step (registry.setWorker place (worker.inPhase phase))
      (worker.inPhase phase) :=
  workerSteps_setWorker rfl rfl sound fun ended => by
    have same : (worker.inPhase phase).phase = phase := rfl
    rw [same, continues] at ended
    cases ended

theorem failed_eq (worker : RefreshWorker) (failure : RefreshFailure) :
    ∃ cancelled reason, worker.failed failure = worker.inPhase (.failing cancelled reason) := by
  unfold RefreshWorker.failed
  split <;> exact ⟨_, _, rfl⟩

theorem spawnWorker_steps : ∃ after, WorkerSteps registry place worker step
    (registry.spawnWorker place worker) after := by
  unfold spawnWorker
  split
  · exact ⟨_, workerSteps_inPhase trivial rfl⟩
  · exact ⟨_, workerSteps_setWorker rfl rfl trivial fun ended => by cases ended⟩

theorem collectWorker_steps (answers : RefreshAnswers) : ∃ after,
    WorkerSteps registry place worker step (registry.collectWorker place worker answers) after := by
  unfold collectWorker
  split
  next failure _ =>
    obtain ⟨cancelled, reason, same⟩ := failed_eq worker failure
    rw [same]
    exact ⟨_, workerSteps_inPhase trivial rfl⟩
  next candidate _ =>
    split
    · exact ⟨_, workerSteps_inPhase trivial rfl⟩
    · exact ⟨_, workerSteps_inPhase trivial rfl⟩

theorem prepareWorker_steps (candidate : RefreshCandidate) (deadlinePassed : Bool)
    (now : Option StateNow) : ∃ after, WorkerSteps registry place worker step
      (registry.prepareWorker place worker candidate deadlinePassed now) after := by
  unfold prepareWorker
  split
  · exact ⟨_, workerSteps_inPhase trivial rfl⟩
  · cases now with
    | none => exact ⟨_, workerSteps_inPhase trivial rfl⟩
    | some now =>
      dsimp only
      split
      · exact ⟨_, workerSteps_exhaust rfl rfl trivial⟩
      · split
        · exact ⟨_, workerSteps_inPhase trivial rfl⟩
        next snapshot built =>
          obtain ⟨rfl, valid⟩ := CapabilitySnapshot.fromParts_eq_ok.mp built
          exact ⟨_, workerSteps_inPhase ⟨rfl, rfl, rfl, valid⟩ rfl⟩

theorem persistedWorker_steps {snapshot : CapabilitySnapshot} {now : StateNow}
    {outcomeReason : Option RefreshOutcomeReason} {answer : PersistAnswer}
    (prepared : worker.Prepared .fresh snapshot now)
    (taken : registry.persistedWorker place worker snapshot now outcomeReason answer = some next) :
    ∃ after, WorkerSteps registry place worker step next after := by
  cases answer with
  | shutdown =>
    simp only [persistedWorker] at taken
    split at taken
    · cases taken
      exact ⟨_, workerSteps_inPhase trivial rfl⟩
    · cases taken
  | deadline =>
    simp only [persistedWorker] at taken
    split at taken
    · cases taken
      exact ⟨_, workerSteps_inPhase trivial rfl⟩
    · cases taken
  | settled =>
    simp only [persistedWorker] at taken
    split at taken
    · cases taken
      exact ⟨_, workerSteps_inPhase trivial rfl⟩
    · cases taken
      exact ⟨_, workerSteps_inPhase
        ⟨prepared.freshness, prepared.epoch, prepared.revision, prepared.valid⟩ rfl⟩

theorem nextCounter_eq_some {value result : Nat} (counted : nextCounter value = some result) :
    result = value + 1 ∧ value + 1 ≤ maxSafeInteger := by
  unfold nextCounter at counted
  split at counted
  next bounded => exact ⟨(Option.some.inj counted).symm, bounded⟩
  next => cases counted

theorem failWorker_steps (cancelled : Bool) (reason : RefreshOutcomeReason)
    (now : Option StateNow) : ∃ after, WorkerSteps registry place worker (.fail now)
      (registry.failWorker place worker cancelled reason now) after := by
  unfold failWorker
  split
  next now revision counted =>
    obtain ⟨_, bounded⟩ := nextCounter_eq_some counted
    split
    next error rejected =>
      refine ⟨_, workerSteps_setWorker rfl rfl trivial fun _ => .inr (.inr ⟨now, rfl, bounded, ?_⟩)⟩
      intro valid
      cases rejected.symm.trans (CapabilitySnapshot.fromParts_eq_ok.mpr ⟨rfl, valid⟩)
    next snapshot built =>
      obtain ⟨rfl, valid⟩ := CapabilitySnapshot.fromParts_eq_ok.mp built
      exact ⟨_, workerSteps_inPhase ⟨rfl, rfl, rfl, valid⟩ rfl⟩
  next => exact ⟨_, workerSteps_exhaust rfl rfl trivial⟩

theorem panickedWorker_steps : ∃ after, WorkerSteps registry place worker step
    (registry.panickedWorker place worker) after := by
  unfold panickedWorker
  split
  · exact ⟨_, workerSteps_inPhase trivial rfl⟩
  · exact ⟨_, workerSteps_setWorker rfl rfl trivial fun ended => by cases ended⟩

theorem publishedFresh_steps {snapshot : CapabilitySnapshot} {now : StateNow}
    {outcomeReason : Option RefreshOutcomeReason} (clock : worker.phase.clock = some now)
    (unchanged : registry.At worker.running) (prepared : worker.Prepared .fresh snapshot now) : ∃ after, WorkerSteps registry place worker step
      ((registry.publishedFresh snapshot now outcomeReason).setWorker place
        (worker.inPhase .resuming)) after := by
  refine ⟨_, rfl, rfl, rfl, trivial, ⟨rfl, rfl, rfl, rfl, rfl, rfl, rfl, rfl⟩,
    ⟨rfl, rfl, rfl, rfl, id⟩, .publishes .fresh snapshot now clock unchanged prepared ?_ rfl ?_ rfl⟩
  · exact ⟨by decide, by decide⟩
  · intro same
    cases same

theorem publishedStale_steps {snapshot : CapabilitySnapshot} {now : StateNow} {cancelled : Bool}
    {reason : RefreshOutcomeReason} (clock : worker.phase.clock = some now)
    (unchanged : registry.At worker.running) (prepared : worker.Prepared .stale snapshot now) : ∃ after, WorkerSteps registry place worker step
      ((registry.publishedStale snapshot now cancelled reason).setWorker place
        (worker.inPhase .resuming)) after := by
  refine ⟨_, rfl, rfl, rfl, trivial, ⟨rfl, rfl, rfl, rfl, rfl, rfl, rfl, rfl⟩,
    ⟨rfl, rfl, rfl, rfl, id⟩, .publishes .stale snapshot now clock unchanged prepared ?_ rfl ?_ rfl⟩
  · exact ⟨by decide, by decide⟩
  · cases cancelled <;> exact fun same => by cases same

theorem resumeAdmission_steps (phase : worker.phase = .resuming) : ∃ after,
    WorkerSteps registry place worker step
      ((registry.resumeAdmission worker.running.epoch).setWorker place (worker.inPhase .finishing))
      after := by
  unfold resumeAdmission
  split
  · exact ⟨_, rfl, rfl, rfl, trivial, ⟨rfl, rfl, rfl, rfl, rfl, rfl, rfl, rfl⟩,
      ⟨rfl, rfl, rfl, rfl, id⟩, .moves rfl rfl fun _ => .inl (by rw [phase]; rfl)⟩
  · exact ⟨_, workerSteps_setWorker rfl rfl trivial fun _ => .inl (by rw [phase]; rfl)⟩

theorem clearRunning_steps (phase : worker.phase = .finishing) : ∃ after,
    WorkerSteps registry place worker step
      ((registry.clearRunning worker.running).setWorker place (worker.inPhase .done)) after := by
  unfold clearRunning
  split
  next same =>
    exact ⟨_, rfl, rfl, rfl, trivial, ⟨rfl, rfl, rfl, rfl, rfl, rfl, rfl, rfl⟩,
      ⟨rfl, rfl, rfl, rfl, id⟩, .finishes phase rfl (by rw [if_pos same]; rfl) rfl⟩
  next different =>
    exact ⟨_, rfl, rfl, rfl, trivial, sameFlights_setWorker _ _ _, sameControl_setWorker _ _ _,
      .finishes phase rfl (by rw [if_neg different]; rfl) rfl⟩

theorem workerStep_steps (sound : worker.Sound)
    (taken : registry.workerStep place worker step = some next) :
    ∃ after, WorkerSteps registry place worker step next after := by
  cases step with
  | spawn =>
    simp only [workerStep] at taken
    split at taken
    · cases taken
      exact spawnWorker_steps
    · cases taken
  | drain =>
    simp only [workerStep] at taken
    split at taken
    · cases taken
      exact ⟨_, workerSteps_inPhase trivial rfl⟩
    · cases taken
  | cancel =>
    simp only [workerStep] at taken
    split at taken
    · cases taken
      exact ⟨_, workerSteps_inPhase trivial rfl⟩
    · cases taken
  | timeOut =>
    simp only [workerStep] at taken
    split at taken
    · cases taken
      exact ⟨_, workerSteps_inPhase trivial rfl⟩
    · cases taken
  | collect answers =>
    simp only [workerStep] at taken
    split at taken
    · cases taken
      exact collectWorker_steps answers
    · cases taken
  | prepare deadlinePassed now =>
    simp only [workerStep] at taken
    split at taken
    · cases taken
      exact prepareWorker_steps _ _ _
    · cases taken
  | persisted answer =>
    simp only [workerStep] at taken
    split at taken
    next snapshot now outcomeReason phase =>
      simp only [RefreshWorker.Sound, phase] at sound
      exact persistedWorker_steps sound taken
    next => cases taken
  | publish =>
    simp only [workerStep] at taken
    split at taken
    next snapshot now outcomeReason phase =>
      simp only [RefreshWorker.Sound, phase] at sound
      split at taken
      next unchanged =>
        cases taken
        exact publishedFresh_steps (by rw [phase]; rfl) unchanged sound
      next moved =>
        cases taken
        exact ⟨_, workerSteps_setWorker rfl rfl trivial fun _ => .inr (.inl moved)⟩
    next => cases taken
  | fail now =>
    simp only [workerStep] at taken
    split at taken
    · cases taken
      exact failWorker_steps _ _ _
    · cases taken
  | publishStale =>
    simp only [workerStep] at taken
    split at taken
    next snapshot now cancelled reason phase =>
      simp only [RefreshWorker.Sound, phase] at sound
      split at taken
      next unchanged =>
        cases taken
        exact publishedStale_steps (by rw [phase]; rfl) unchanged sound
      next moved =>
        cases taken
        exact ⟨_, workerSteps_setWorker rfl rfl trivial fun _ => .inr (.inl moved)⟩
    next => cases taken
  | resume =>
    simp only [workerStep] at taken
    split at taken
    next phase =>
      cases taken
      exact resumeAdmission_steps phase
    next => cases taken
  | finish =>
    simp only [workerStep] at taken
    split at taken
    next phase =>
      cases taken
      exact clearRunning_steps phase
    next => cases taken
  | panicked =>
    simp only [workerStep] at taken
    split at taken
    · cases taken
      exact panickedWorker_steps
    · cases taken
  | abandon =>
    simp only [workerStep] at taken
    split at taken
    · cases taken
      exact ⟨_, workerSteps_inPhase trivial rfl⟩
    · cases taken

end Steps

structure Refused (before after : Registry) : Prop where
  flights : SameFlights before after
  shutdown : after.shutdown = before.shutdown
  publication : after.publication = before.publication
  identityEpoch : after.flightState.identityEpoch = before.flightState.identityEpoch
  terminalReason : after.flightState.terminalReason = before.flightState.terminalReason ∨
    after.capacityExhausted = true
  control : after.control = before.control
  workers : after.workers = before.workers
  exhausted : before.capacityExhausted = true → after.capacityExhausted = true

structure Invalidated (before : Registry) (now : StateNow) (after : Registry) : Prop where
  flights : SameFlights before after
  shutdown : after.shutdown = before.shutdown
  epochBound : before.flightState.identityEpoch + 1 ≤ maxSafeInteger
  revisionBound : before.snapshot.publicationRevision + 1 ≤ maxSafeInteger
  snapshot : after.snapshot = before.snapshot.republished .refreshing
    (before.flightState.identityEpoch + 1) (before.snapshot.publicationRevision + 1)
  valid : after.snapshot.validate now = .ok ()
  state : after.publication.refresh.state = .running
  identityEpoch : after.flightState.identityEpoch = before.flightState.identityEpoch + 1
  terminalReason : after.flightState.terminalReason = before.flightState.terminalReason
  exhausted : after.capacityExhausted = before.capacityExhausted

theorem refused_refl (registry : Registry) : Refused registry registry :=
  ⟨⟨rfl, rfl, rfl, rfl, rfl, rfl, rfl, rfl⟩, rfl, rfl, rfl, .inl rfl, rfl, rfl, id⟩

theorem refused_exhaust (registry : Registry) : Refused registry registry.exhaust :=
  ⟨⟨rfl, rfl, rfl, rfl, rfl, rfl, rfl, rfl⟩, rfl, rfl, rfl, .inl rfl, rfl, rfl, fun _ => rfl⟩

theorem refused_terminate (registry : Registry) :
    Refused registry (registry.exhaust.terminate .capacityExhausted) :=
  ⟨⟨rfl, rfl, rfl, rfl, rfl, rfl, rfl, rfl⟩, rfl, rfl, rfl, .inr rfl, rfl, rfl, fun _ => rfl⟩

theorem admitRefreshInvalidation_error {registry : Registry} {id : Nat} {cause : RefreshCause}
    {now : Option StateNow} {reason : RegistryReason} {after : Registry}
    (admission : registry.admitRefreshInvalidation id cause now = (.error reason, after)) :
    Refused registry after := by
  unfold admitRefreshInvalidation at admission
  split at admission
  · cases admission
    exact refused_refl registry
  · split at admission
    · cases admission
      exact refused_refl registry
    · split at admission
      · cases admission
        exact refused_refl registry
      · split at admission
        · cases admission
          exact refused_terminate registry
        · split at admission
          · cases admission
            exact refused_terminate registry
          · split at admission
            · cases admission
              exact refused_refl registry
            · split at admission
              · cases admission
                exact refused_refl registry
              · cases admission

theorem admitRefreshInvalidation_ok {registry : Registry} {id : Nat} {cause : RefreshCause}
    {now : Option StateNow} {invalidation : RefreshInvalidation} {after : Registry}
    (admission : registry.admitRefreshInvalidation id cause now = (.ok invalidation, after)) :
    (∃ reading, now = some reading ∧ Invalidated registry reading after) ∧
      invalidation.epoch = registry.flightState.identityEpoch + 1 ∧
      invalidation.admittedRevision = registry.snapshot.publicationRevision + 1 ∧
      invalidation.previous = registry.snapshot ∧ after.control = registry.control ∧
      after.workers = registry.workers := by
  unfold admitRefreshInvalidation at admission
  split at admission
  · cases admission
  · split at admission
    · cases admission
    · split at admission
      · cases admission
      · split at admission
        · cases admission
        next nextEpoch epochCounted =>
          obtain ⟨rfl, epochBound⟩ := nextCounter_eq_some epochCounted
          split at admission
          · cases admission
          next nextRevision revisionCounted =>
            obtain ⟨rfl, revisionBound⟩ := nextCounter_eq_some revisionCounted
            split at admission
            · cases admission
            next reading =>
              split at admission
              · cases admission
              next refreshing built =>
                obtain ⟨rfl, valid⟩ := CapabilitySnapshot.fromParts_eq_ok.mp built
                cases admission
                refine ⟨⟨reading, rfl, ?_⟩, rfl, rfl, rfl, rfl, rfl⟩
                exact ⟨⟨rfl, rfl, rfl, rfl, rfl, rfl, rfl, rfl⟩, rfl, epochBound, revisionBound, rfl,
                  valid, rfl, rfl, rfl, rfl⟩

structure Started (before : Registry) (now : StateNow) (after : Registry) : Prop where
  idle : before.control.running = none
  invalidated : Invalidated before now after
  admitted : ∃ running : RunningRefresh, after.control.running = some running ∧
    running.id = before.control.nextId + 1 ∧ after.control.nextId = running.id ∧
    running.epoch = before.flightState.identityEpoch + 1 ∧
    running.admittedRevision = before.snapshot.publicationRevision + 1 ∧
    after.workers = before.workers ++ [⟨running, before.snapshot, false, false, .admitted⟩]

theorem startRefresh_effect (registry : Registry) (cause : RefreshCause)
    (early late : Option StateNow) :
    Refused registry (registry.startRefresh cause early late).2 ∨
      ∃ now, late = some now ∧ Started registry now (registry.startRefresh cause early late).2 := by
  unfold startRefresh
  split
  · exact .inl (refused_refl registry)
  · split
    · exact .inl (refused_refl registry)
    · split
      · exact .inl (refused_refl registry)
      · split
        · exact .inl (refused_refl registry)
        next idle =>
          split
          · exact .inl (refused_refl registry)
          · dsimp only
            split
            · exact .inl (refused_refl registry)
            · split
              · exact .inl (refused_exhaust registry)
              next id counted =>
                obtain ⟨rfl, _⟩ := nextCounter_eq_some counted
                split
                next reason after admission =>
                  exact .inl (admitRefreshInvalidation_error admission)
                next invalidation after admission =>
                  obtain ⟨⟨now, read, invalidated⟩, epoch, revision, previous, _, workers⟩ :=
                    admitRefreshInvalidation_ok admission
                  refine .inr ⟨now, read, idle, ?_, _, rfl, rfl, rfl, epoch, revision, ?_⟩
                  · exact ⟨⟨invalidated.flights.mode, invalidated.flights.tasks,
                      invalidated.flights.flights, invalidated.flights.queued,
                      invalidated.flights.deviceSemaphores, invalidated.flights.semaphores,
                      invalidated.flights.globalPermits, invalidated.flights.callers⟩,
                      invalidated.shutdown, invalidated.epochBound, invalidated.revisionBound,
                      invalidated.snapshot, invalidated.valid, invalidated.state,
                      invalidated.identityEpoch, invalidated.terminalReason,
                      invalidated.exhausted⟩
                  · simp only [workers, previous]

end Registry

end StreamServer.Capability
