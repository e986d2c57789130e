import StreamServer.Capability.CacheFormat
import StreamServer.Capability.FlightFrame
import StreamServer.Shared.Runs

set_option autoImplicit false

namespace StreamServer.Capability

open CapabilitySnapshot

namespace Registry

-- The flights and the publication are of one epoch, and whatever waits to be published was checked.
structure Fenced (registry : Registry) : Prop where
  epoch : registry.snapshot.identityEpoch = registry.flightState.identityEpoch
  workers : ∀ worker ∈ registry.workers, worker.Sound

def publishClock (registry : Registry) : Action → Option StateNow
  | .refresh (.start _ _ late) => late
  | .refresh (.worker place _) => (registry.workers[place]?).bind fun worker => worker.phase.clock
  | .flight (.task _ (.merge now _)) => now
  | _ => none

inductive Publishes (before after : Registry) (clock : Option StateNow) : Prop where
  | kept (publication : after.publication = before.publication)
  | changed (now : StateNow) (read : clock = some now)
      (epoch : before.snapshot.identityEpoch ≤ after.snapshot.identityEpoch)
      (revision : before.snapshot.publicationRevision < after.snapshot.publicationRevision)
      (valid : after.snapshot.validate now = .ok ())

theorem snapshot_of_publication {registry next : Registry}
    (publication : next.publication = registry.publication) : next.snapshot = registry.snapshot :=
  congrArg RegistryPublication.snapshot publication

theorem fenced_initial (mode : VerifierMode) : (initial mode).Fenced :=
  ⟨rfl, fun _ member => by cases member⟩

theorem WorkerSteps.publishes {registry next : Registry} {place : Nat} {worker after : RefreshWorker}
    {step : WorkerStep} (steps : WorkerSteps registry place worker step next after) :
    Publishes registry next worker.phase.clock := by
  cases steps.effect with
  | moves publication => exact .kept publication
  | publishes freshness snapshot now clock unchanged prepared settled published =>
    have snapshotOf : next.snapshot = snapshot := published
    refine .changed now clock ?_ ?_ ?_
    · rw [snapshotOf, prepared.epoch, unchanged.1]
    · rw [snapshotOf, prepared.revision, unchanged.2]
      exact Nat.lt_succ_self _
    · rw [snapshotOf]
      exact prepared.valid
  | finishes _ publication => exact .kept publication

theorem WorkerSteps.fenced {registry next : Registry} {place : Nat} {worker after : RefreshWorker}
    {step : WorkerStep} (steps : WorkerSteps registry place worker step next after)
    (fenced : registry.Fenced) : next.Fenced := by
  constructor
  · rw [steps.control.identityEpoch, ← fenced.epoch]
    cases steps.effect with
    | moves publication => exact congrArg (fun held => held.snapshot.identityEpoch) publication
    | publishes freshness snapshot now clock unchanged prepared settled published =>
      have snapshotOf : next.snapshot = snapshot := published
      rw [snapshotOf, prepared.epoch, unchanged.1]
    | finishes _ publication => exact congrArg (fun held => held.snapshot.identityEpoch) publication
  · intro other member
    rw [steps.workers] at member
    obtain earlier | rfl := List.mem_or_eq_of_mem_set member
    · exact fenced.workers other earlier
    · exact steps.sound

theorem Refused.fenced {before after : Registry} (refused : Refused before after)
    (fenced : before.Fenced) : after.Fenced := by
  constructor
  · rw [refused.identityEpoch, ← fenced.epoch]
    exact congrArg (fun held => held.snapshot.identityEpoch) refused.publication
  · rw [refused.workers]
    exact fenced.workers

theorem Started.fenced {before after : Registry} {now : StateNow} (started : Started before now after)
    (fenced : before.Fenced) : after.Fenced := by
  constructor
  · rw [started.invalidated.snapshot, started.invalidated.identityEpoch]
    rfl
  · obtain ⟨running, _, _, _, _, _, workers⟩ := started.admitted
    intro worker member
    rw [workers] at member
    obtain earlier | added := List.mem_append.mp member
    · exact fenced.workers worker earlier
    · cases List.mem_singleton.mp added
      trivial

theorem Started.publishes {before after : Registry} {now : StateNow}
    (started : Started before now after) (fenced : before.Fenced) :
    Publishes before after (some now) := by
  refine .changed now rfl ?_ ?_ started.invalidated.valid
  · rw [started.invalidated.snapshot, fenced.epoch]
    exact Nat.le_succ _
  · rw [started.invalidated.snapshot]
    exact Nat.lt_succ_self _

theorem SameRefresh.fenced {before after : Registry} (same : SameRefresh before after)
    (epoch : after.snapshot.identityEpoch = before.snapshot.identityEpoch)
    (fenced : before.Fenced) : after.Fenced := by
  constructor
  · rw [epoch, fenced.epoch, same.identityEpoch]
  · rw [same.workers]
    exact fenced.workers

theorem refreshStep_publishes {registry next : Registry} {action : RefreshAction}
    (fenced : registry.Fenced) (taken : registry.refreshStep action = some next) :
    next.Fenced ∧ Publishes registry next (registry.publishClock (.refresh action)) := by
  cases action with
  | start cause early late =>
    cases taken
    obtain refused | ⟨now, rfl, started⟩ := startRefresh_effect registry cause early late
    · exact ⟨refused.fenced fenced, .kept refused.publication⟩
    · exact ⟨started.fenced fenced, started.publishes fenced⟩
  | worker place step =>
    simp only [refreshStep] at taken
    split at taken
    · cases taken
    next worker found =>
      obtain ⟨after, steps⟩ :=
        workerStep_steps (fenced.workers worker (List.mem_of_getElem? found)) taken
      have clock : registry.publishClock (.refresh (.worker place step)) = worker.phase.clock := by
        simp only [publishClock, found, Option.bind_some]
      exact ⟨steps.fenced fenced, clock ▸ steps.publishes⟩
  | beginShutdown =>
    cases taken
    exact ⟨⟨fenced.epoch, fenced.workers⟩, .kept rfl⟩
  | shutdownFlights =>
    simp only [refreshStep] at taken
    split at taken
    · cases taken
      exact ⟨⟨fenced.epoch, fenced.workers⟩, .kept rfl⟩
    · cases taken

theorem flightStep_publishes {registry next : Registry} {action : FlightAction}
    (fenced : registry.Fenced) (taken : registry.flightStep action = some next) :
    next.Fenced ∧ Publishes registry next (registry.publishClock (.flight action)) := by
  obtain ⟨same, publication | ⟨flight, now, ⟨place, preferred, rfl, _⟩, merged⟩⟩ :=
    flightStep_frame taken
  · have epoch : next.snapshot.identityEpoch = registry.snapshot.identityEpoch :=
      congrArg (fun held => held.snapshot.identityEpoch) publication
    exact ⟨same.fenced epoch fenced, .kept publication⟩
  · refine ⟨same.fenced merged.sameEpoch fenced, .changed now rfl ?_ ?_ merged.valid⟩
    · rw [merged.sameEpoch]
    · rw [merged.revision]
      exact Nat.lt_succ_self _

theorem step_publishes {registry next : Registry} {action : Action} (fenced : registry.Fenced)
    (taken : registry.step action = some next) :
    next.Fenced ∧ Publishes registry next (registry.publishClock action) := by
  cases action with
  | refresh action => exact refreshStep_publishes fenced taken
  | flight action => exact flightStep_publishes fenced taken

structure Grows (before after : Registry) : Prop where
  epoch : before.snapshot.identityEpoch ≤ after.snapshot.identityEpoch
  revision : before.publication = after.publication ∨
    before.snapshot.publicationRevision < after.snapshot.publicationRevision

theorem Publishes.grows {before after : Registry} {clock : Option StateNow}
    (publishes : Publishes before after clock) : Grows before after := by
  cases publishes with
  | kept publication =>
    exact ⟨Nat.le_of_eq (congrArg (fun held => held.snapshot.identityEpoch) publication.symm),
      .inl publication.symm⟩
  | changed now read epoch revision => exact ⟨epoch, .inr revision⟩

theorem Grows.refl (registry : Registry) : Grows registry registry := ⟨Nat.le_refl _, .inl rfl⟩

theorem Grows.trans {first second third : Registry} (earlier : Grows first second)
    (later : Grows second third) : Grows first third := by
  refine ⟨Nat.le_trans earlier.epoch later.epoch, ?_⟩
  obtain same | grown := earlier.revision
  · rw [show first.snapshot = second.snapshot from congrArg RegistryPublication.snapshot same, same]
    exact later.revision
  · obtain same | further := later.revision
    · rw [show third.snapshot = second.snapshot from
        congrArg RegistryPublication.snapshot same.symm]
      exact .inr grown
    · exact .inr (Nat.lt_trans grown further)

theorem run_grows {registry later : Registry} {actions : List Action} (fenced : registry.Fenced)
    (continued : Runs.run step registry actions = some later) : Grows registry later := by
  have preserved : ∀ before action after, Fenced before → step before action = some after →
      Fenced after := fun _ _ _ fenced taken => (step_publishes fenced taken).1
  have across : ∀ before action after, Fenced before → step before action = some after →
      Grows before after := fun _ _ _ fenced taken => (step_publishes fenced taken).2.grows
  exact Runs.related_of_run Grows.refl (fun _ _ _ => Grows.trans) across preserved fenced continued

theorem flight_publishes {registry next : Registry} {action : FlightAction}
    (taken : registry.step (.flight action) = some next)
    (changed : next.publication ≠ registry.publication) :
    ∃ flight now, Merges registry action flight now ∧ registry.snapshot.freshness = .fresh ∧
      registry.snapshot.identityEpoch = flight.epoch ∧
      next.snapshot.identityEpoch = flight.epoch := by
  obtain ⟨_, publication | ⟨flight, now, merges, merged⟩⟩ := flightStep_frame taken
  · exact absurd publication changed
  · exact ⟨flight, now, merges, merged.fresh, merged.epoch, merged.sameEpoch.trans merged.epoch⟩

section Concrete

def plainInventory : RuntimeInventory := ⟨plainRuntime, [.scaleSoftware, .hardwareMap]⟩

def plainTranscoder : TranscodingDevice := ⟨plainDevice, .available, [.qsv], plainDriver⟩

def plainCandidate : CoarseCandidate := ⟨plainDevice, .qsv, .h264, .decode⟩

def plainAnswers : RefreshAnswers where
  serviceAlive := true
  session := .session
  enumerated := .ok .supported
  normalized := some (.ok [plainTranscoder])
  inventory := .ok plainInventory
  coarse := .ok [plainCandidate]
  now := some clockStart
  loaded := singleEntry passedRecord

def firstRefresh : List Action :=
  [.refresh (.start .startup (some clockStart) (some clockStart)), .refresh (.worker 0 .spawn),
    .refresh (.worker 0 .drain), .refresh (.worker 0 (.collect plainAnswers)),
    .refresh (.worker 0 (.prepare false (some clockStart))),
    .refresh (.worker 0 (.persisted .settled)), .refresh (.worker 0 .publish),
    .refresh (.worker 0 .resume), .refresh (.worker 0 .finish)]

end Concrete

end Registry

namespace Registry

structure Admitted (registry : Registry) (worker : RefreshWorker) : Prop where
  previous : worker.previous.Consistent
  epochSet : worker.running.epoch ≠ 0
  epochBound : worker.running.epoch ≤ maxSafeInteger
  revision : worker.running.admittedRevision ≤ registry.snapshot.publicationRevision
  id : worker.running.id ≤ registry.control.nextId

/-- The refresh that is recorded as running is the only one of its id. -/
def Recorded (registry : Registry) (running : RunningRefresh) : Prop :=
  running.id ≤ registry.control.nextId ∧
    ∀ worker ∈ registry.workers, worker.running.id = running.id → worker.running = running

structure Tracked (registry : Registry) : Prop where
  fenced : registry.Fenced
  published : registry.snapshot.Consistent
  workers : ∀ worker ∈ registry.workers, registry.Admitted worker
  recorded : ∀ running, registry.control.running = some running → registry.Recorded running
  state : registry.publication.refresh.state = .running ↔ registry.snapshot.freshness = .refreshing
  terminal : ∀ reason, registry.flightState.terminalReason = some reason →
    registry.shutdown = true ∨ registry.capacityExhausted = true

theorem tracked_initial (mode : VerifierMode) : (initial mode).Tracked where
  fenced := fenced_initial mode
  published := initial_consistent
  workers _ member := by cases member
  recorded _ same := by cases same
  state := iff_of_false (fun same => by cases same) (fun same => by cases same)
  terminal _ same := by cases same

theorem consistent_of_validate {snapshot : CapabilitySnapshot} {now : StateNow}
    (valid : snapshot.validate now = .ok ()) : snapshot.Consistent :=
  (validate_eq_ok.mp valid).2.1

theorem Admitted.mono {before after : Registry} {worker : RefreshWorker}
    (admitted : before.Admitted worker)
    (revision : before.snapshot.publicationRevision ≤ after.snapshot.publicationRevision)
    (nextId : before.control.nextId ≤ after.control.nextId) : after.Admitted worker :=
  ⟨admitted.previous, admitted.epochSet, admitted.epochBound,
    Nat.le_trans admitted.revision revision, Nat.le_trans admitted.id nextId⟩

theorem Publishes.revision_le {before after : Registry} {clock : Option StateNow}
    (publishes : Publishes before after clock) :
    before.snapshot.publicationRevision ≤ after.snapshot.publicationRevision := by
  obtain same | grown := publishes.grows.revision
  · exact Nat.le_of_eq (congrArg (fun held => held.snapshot.publicationRevision) same)
  · exact Nat.le_of_lt grown

theorem Publishes.consistent {before after : Registry} {clock : Option StateNow}
    (publishes : Publishes before after clock) (consistent : before.snapshot.Consistent) :
    after.snapshot.Consistent := by
  cases publishes with
  | kept publication =>
    rw [show after.snapshot = before.snapshot from congrArg RegistryPublication.snapshot publication]
    exact consistent
  | changed now read epoch revision valid => exact consistent_of_validate valid

section Workers

variable {registry next : Registry} {place : Nat} {worker after : RefreshWorker} {step : WorkerStep}

theorem WorkerSteps.tracked (found : registry.workers[place]? = some worker)
    (steps : WorkerSteps registry place worker step next after) (tracked : registry.Tracked) :
    next.Tracked := by
  have known := tracked.workers worker (List.mem_of_getElem? found)
  have nextId := steps.control.nextId
  have earlier : ∀ other ∈ next.workers,
      ∃ origin ∈ registry.workers, other.running = origin.running ∧
        other.previous = origin.previous := by
    intro other member
    rw [steps.workers] at member
    obtain kept | rfl := List.mem_or_eq_of_mem_set member
    · exact ⟨other, kept, rfl, rfl⟩
    · exact ⟨worker, List.mem_of_getElem? found, steps.running, steps.previous⟩
  refine ⟨steps.fenced tracked.fenced, steps.publishes.consistent tracked.published, ?_, ?_, ?_, ?_⟩
  · intro other member
    obtain ⟨origin, present, sameRunning, samePrevious⟩ := earlier other member
    have admitted := (tracked.workers origin present).mono steps.publishes.revision_le
      (Nat.le_of_eq nextId.symm)
    refine ⟨?_, ?_, ?_, ?_, ?_⟩
    · rw [samePrevious]
      exact admitted.previous
    · rw [sameRunning]
      exact admitted.epochSet
    · rw [sameRunning]
      exact admitted.epochBound
    · rw [sameRunning]
      exact admitted.revision
    · rw [sameRunning]
      exact admitted.id
  · have keeps : ∀ running, registry.control.running = some running → next.Recorded running := by
      intro running recorded
      obtain ⟨id, only⟩ := tracked.recorded running recorded
      refine ⟨nextId ▸ id, fun other member same => ?_⟩
      obtain ⟨origin, present, sameRunning, _⟩ := earlier other member
      rw [sameRunning] at same ⊢
      exact only origin present same
    intro running recorded
    cases steps.effect with
    | moves _ same => exact keeps running (same ▸ recorded)
    | publishes _ _ _ _ _ _ _ _ _ same => exact keeps running (same ▸ recorded)
    | finishes _ _ same =>
      rw [same] at recorded
      split at recorded
      · cases recorded
      · exact keeps running recorded
  · cases steps.effect with
    | moves publication =>
      rw [snapshot_of_publication publication, publication]
      exact tracked.state
    | publishes freshness snapshot now clock unchanged prepared settled published state =>
      have snapshotOf : next.snapshot = snapshot := published
      rw [snapshotOf, prepared.freshness]
      exact iff_of_false state settled.1
    | finishes _ publication =>
      rw [snapshot_of_publication publication, publication]
      exact tracked.state
  · intro reason terminal
    rw [steps.control.terminalReason] at terminal
    rw [steps.control.shutdown]
    obtain shutdown | exhausted := tracked.terminal reason terminal
    · exact .inl shutdown
    · exact .inr (steps.control.exhausted exhausted)

end Workers

theorem Refused.tracked {before after : Registry} (refused : Refused before after)
    (tracked : before.Tracked) : after.Tracked := by
  have snapshotOf : after.snapshot = before.snapshot :=
    congrArg RegistryPublication.snapshot refused.publication
  refine ⟨refused.fenced tracked.fenced, ?_, ?_, ?_, ?_, ?_⟩
  · rw [snapshotOf]
    exact tracked.published
  · rw [refused.workers]
    intro worker member
    exact (tracked.workers worker member).mono (Nat.le_of_eq (by rw [snapshotOf]))
      (Nat.le_of_eq (by rw [refused.control]))
  · intro running recorded
    rw [refused.control] at recorded
    obtain ⟨id, only⟩ := tracked.recorded running recorded
    exact ⟨refused.control ▸ id, refused.workers ▸ only⟩
  · rw [snapshotOf, refused.publication]
    exact tracked.state
  · intro reason terminal
    obtain same | exhausted := refused.terminalReason
    · rw [same] at terminal
      rw [refused.shutdown]
      obtain shutdown | exhausted := tracked.terminal reason terminal
      · exact .inl shutdown
      · exact .inr (refused.exhausted exhausted)
    · exact .inr exhausted

theorem Started.tracked {before after : Registry} {now : StateNow} (started : Started before now after)
    (tracked : before.Tracked) : after.Tracked := by
  obtain ⟨running, recorded, id, nextId, epoch, revision, workers⟩ := started.admitted
  have invalidated := started.invalidated
  have grownId : before.control.nextId ≤ after.control.nextId := by omega
  have fresher := (started.publishes tracked.fenced).revision_le
  have revisionOf : after.snapshot.publicationRevision = before.snapshot.publicationRevision + 1 := by
    rw [invalidated.snapshot]
    rfl
  refine ⟨started.fenced tracked.fenced, consistent_of_validate invalidated.valid, ?_, ?_, ?_, ?_⟩
  · intro worker member
    rw [workers] at member
    obtain earlier | added := List.mem_append.mp member
    · exact (tracked.workers worker earlier).mono fresher grownId
    · cases List.mem_singleton.mp added
      refine ⟨tracked.published, ?_, ?_, ?_, Nat.le_of_eq nextId.symm⟩
      · exact epoch ▸ Nat.succ_ne_zero _
      · exact epoch ▸ invalidated.epochBound
      · rw [revisionOf, revision]
  · intro other same
    cases recorded.symm.trans same
    refine ⟨Nat.le_of_eq nextId.symm, fun worker member sameId => ?_⟩
    rw [workers] at member
    obtain earlier | added := List.mem_append.mp member
    · have bound := (tracked.workers worker earlier).id
      omega
    · cases List.mem_singleton.mp added
      rfl
  · rw [invalidated.snapshot]
    exact iff_of_true invalidated.state rfl
  · intro reason terminal
    rw [invalidated.terminalReason] at terminal
    rw [invalidated.shutdown, invalidated.exhausted]
    exact tracked.terminal reason terminal

theorem SameRefresh.tracked {before after : Registry} (same : SameRefresh before after)
    (consistent : after.snapshot.Consistent)
    (epoch : after.snapshot.identityEpoch = before.snapshot.identityEpoch)
    (revision : before.snapshot.publicationRevision ≤ after.snapshot.publicationRevision)
    (state : after.publication.refresh = before.publication.refresh)
    (freshness : after.snapshot.freshness = before.snapshot.freshness)
    (tracked : before.Tracked) : after.Tracked := by
  refine ⟨same.fenced epoch tracked.fenced, consistent, ?_, ?_, ?_, ?_⟩
  · rw [same.workers]
    intro worker member
    exact (tracked.workers worker member).mono revision (Nat.le_of_eq (by rw [same.control]))
  · intro running recorded
    rw [same.control] at recorded
    obtain ⟨id, only⟩ := tracked.recorded running recorded
    exact ⟨same.control ▸ id, same.workers ▸ only⟩
  · rw [state, freshness]
    exact tracked.state
  · intro reason terminal
    obtain unchanged | exhausted := same.terminalReason
    · rw [unchanged] at terminal
      rw [same.shutdown]
      obtain shutdown | exhausted := tracked.terminal reason terminal
      · exact .inl shutdown
      · exact .inr (same.exhausted exhausted)
    · exact .inr exhausted

theorem refreshStep_tracked {registry next : Registry} {action : RefreshAction}
    (tracked : registry.Tracked) (taken : registry.refreshStep action = some next) :
    next.Tracked := by
  cases action with
  | start cause early late =>
    cases taken
    obtain refused | ⟨now, _, started⟩ := startRefresh_effect registry cause early late
    · exact refused.tracked tracked
    · exact started.tracked tracked
  | worker place step =>
    simp only [refreshStep] at taken
    split at taken
    · cases taken
    next worker found =>
      obtain ⟨after, steps⟩ :=
        workerStep_steps (tracked.fenced.workers worker (List.mem_of_getElem? found)) taken
      exact steps.tracked found tracked
  | beginShutdown =>
    cases taken
    exact ⟨⟨tracked.fenced.epoch, tracked.fenced.workers⟩, tracked.published,
      fun worker member => (tracked.workers worker member).mono (Nat.le_refl _) (Nat.le_refl _),
      tracked.recorded, tracked.state, fun _ _ => .inl rfl⟩
  | shutdownFlights =>
    simp only [refreshStep] at taken
    split at taken
    next shutdown =>
      cases taken
      exact ⟨⟨tracked.fenced.epoch, tracked.fenced.workers⟩, tracked.published,
        fun worker member => (tracked.workers worker member).mono (Nat.le_refl _) (Nat.le_refl _),
        tracked.recorded, tracked.state, fun _ _ => .inl shutdown⟩
    next => cases taken

theorem flightStep_tracked {registry next : Registry} {action : FlightAction}
    (tracked : registry.Tracked) (taken : registry.flightStep action = some next) :
    next.Tracked := by
  have consistent := (flightStep_publishes tracked.fenced taken).2.consistent tracked.published
  obtain ⟨same, publication | ⟨flight, now, _, merged⟩⟩ := flightStep_frame taken
  · have snapshotOf : next.snapshot = registry.snapshot :=
      congrArg RegistryPublication.snapshot publication
    exact same.tracked consistent (by rw [snapshotOf]) (by rw [snapshotOf]) (by rw [publication])
      (by rw [snapshotOf]) tracked
  · exact same.tracked consistent merged.sameEpoch (by rw [merged.revision]; exact Nat.le_succ _)
      merged.refresh merged.freshness tracked

theorem step_tracked {registry next : Registry} {action : Action} (tracked : registry.Tracked)
    (taken : registry.step action = some next) : next.Tracked := by
  cases action with
  | refresh action => exact refreshStep_tracked tracked taken
  | flight action => exact flightStep_tracked tracked taken

theorem run_tracked {mode : VerifierMode} {actions : List Action} {registry : Registry}
    (reached : Runs.run step (initial mode) actions = some registry) : registry.Tracked :=
  Runs.invariant_of_run (fun _ _ _ => step_tracked) (tracked_initial mode) reached

end Registry

end StreamServer.Capability
