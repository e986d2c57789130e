import StreamServer.Capability.RegistryFacts

set_option autoImplicit false

namespace StreamServer.Capability

open CapabilitySnapshot

namespace Registry

def Settled (registry : Registry) : Prop :=
  registry.control.running = none → registry.capacityExhausted = false →
    registry.publication.refresh.state ≠ .running ∧ registry.snapshot.freshness ≠ .refreshing

instance (registry : Registry) : Decidable registry.Settled :=
  inferInstanceAs (Decidable (_ → _))

def failure : Action → Option (Nat × StateNow)
  | .refresh (.worker place (.fail (some now))) => some (place, now)
  | _ => none

def CanPublishFailure (registry : Registry) (now : StateNow) (worker : RefreshWorker) : Prop :=
  registry.capacityExhausted = false → worker.running.admittedRevision + 1 ≤ maxSafeInteger →
    registry.At worker.running → worker.previous.CurrentAt now

instance (registry : Registry) (now : StateNow) (worker : RefreshWorker) :
    Decidable (registry.CanPublishFailure now worker) :=
  inferInstanceAs (Decidable (_ → _))

def Publishable (registry : Registry) (action : Action) : Prop :=
  ∀ failing ∈ failure action, ∀ worker ∈ registry.workers[failing.1]?,
    registry.CanPublishFailure failing.2 worker

instance (registry : Registry) (action : Action) : Decidable (registry.Publishable action) :=
  inferInstanceAs (Decidable (∀ _ ∈ _, ∀ _ ∈ _, _))

structure Followed (registry : Registry) : Prop where
  tracked : registry.Tracked
  shown : registry.snapshot.freshness = .refreshing → registry.capacityExhausted = true ∨
    ∃ running, registry.control.running = some running ∧ registry.At running
  ended : ∀ worker ∈ registry.workers, worker.phase.ended = true →
    ¬registry.At worker.running ∨ registry.capacityExhausted = true

theorem followed_initial (mode : VerifierMode) : (initial mode).Followed where
  tracked := tracked_initial mode
  shown same := by cases same
  ended _ member := by cases member

theorem Followed.settled {registry : Registry} (followed : registry.Followed) : registry.Settled := by
  intro idle room
  have unrefreshed : registry.snapshot.freshness ≠ .refreshing := by
    intro refreshing
    obtain exhausted | ⟨running, recorded, _⟩ := followed.shown refreshing
    · rw [room] at exhausted
      cases exhausted
    · rw [idle] at recorded
      cases recorded
  exact ⟨fun running => unrefreshed (followed.tracked.state.mp running), unrefreshed⟩

theorem at_congr {before after : Registry} (publication : after.publication = before.publication)
    (running : RunningRefresh) : after.At running ↔ before.At running := by
  unfold At
  rw [show after.snapshot = before.snapshot from congrArg RegistryPublication.snapshot publication]

theorem Publishes.leaves {before after : Registry} {clock : Option StateNow}
    (publishes : Publishes before after clock) {running : RunningRefresh}
    (admitted : running.admittedRevision ≤ before.snapshot.publicationRevision)
    (left : ¬before.At running) : ¬after.At running := by
  cases publishes with
  | kept publication => rwa [at_congr publication]
  | changed _ _ _ revision => exact fun place => absurd place.2 (by omega)

theorem Tracked.unpublishable_excluded {registry : Registry} {place : Nat} {worker : RefreshWorker}
    {step : WorkerStep} (tracked : registry.Tracked) (found : registry.workers[place]? = some worker)
    (publishable : registry.Publishable (.refresh (.worker place step)))
    (room : registry.capacityExhausted = false) (unchanged : registry.At worker.running) :
    ¬worker.Unpublishable step := by
  rintro ⟨now, rfl, bound, rejected⟩
  have known := tracked.workers worker (List.mem_of_getElem? found)
  have current := publishable (place, now) rfl worker found room bound unchanged
  exact rejected ((validate_republished known.previous (by decide) known.epochSet
    (Nat.succ_ne_zero _) known.epochBound bound).mpr current)

section Workers

variable {registry next : Registry} {place : Nat} {worker after : RefreshWorker} {step : WorkerStep}

theorem WorkerSteps.shown (found : registry.workers[place]? = some worker)
    (steps : WorkerSteps registry place worker step next after) (followed : registry.Followed)
    (refreshing : next.snapshot.freshness = .refreshing) : next.capacityExhausted = true ∨
      ∃ running, next.control.running = some running ∧ next.At running := by
  cases steps.effect with
  | moves publication same =>
    rw [snapshot_of_publication publication] at refreshing
    obtain exhausted | ⟨running, recorded, unchanged⟩ := followed.shown refreshing
    · exact .inl (steps.control.exhausted exhausted)
    · exact .inr ⟨running, same.trans recorded, (at_congr publication running).mpr unchanged⟩
  | publishes freshness snapshot now clock unchanged prepared settled published =>
    have snapshotOf : next.snapshot = snapshot := published
    rw [snapshotOf, prepared.freshness] at refreshing
    exact absurd refreshing settled.1
  | finishes phase publication same =>
    rw [snapshot_of_publication publication] at refreshing
    obtain exhausted | ⟨running, recorded, unchanged⟩ := followed.shown refreshing
    · exact .inl (steps.control.exhausted exhausted)
    · have member := List.mem_of_getElem? found
      obtain left | exhausted := followed.ended worker member (by rw [phase]; rfl)
      · have other : running.id ≠ worker.running.id := by
          intro sameId
          have only := (followed.tracked.recorded running recorded).2 worker member sameId.symm
          exact left (only ▸ unchanged)
        have kept : next.control.running = some running := by
          rw [same, recorded, Option.any_some, decide_eq_false other]
          rfl
        exact .inr ⟨running, kept, (at_congr publication running).mpr unchanged⟩
      · exact .inl (steps.control.exhausted exhausted)

theorem WorkerSteps.ended (found : registry.workers[place]? = some worker)
    (publishable : registry.Publishable (.refresh (.worker place step)))
    (steps : WorkerSteps registry place worker step next after) (followed : registry.Followed)
    (ended : after.phase.ended = true) :
    ¬next.At worker.running ∨ next.capacityExhausted = true := by
  have member := List.mem_of_getElem? found
  have known := followed.tracked.workers worker member
  cases steps.effect with
  | moves publication same exits =>
    by_cases exhausted : registry.capacityExhausted = true
    · exact .inr (steps.control.exhausted exhausted)
    · by_cases unchanged : registry.At worker.running
      · obtain already | left | exhausted | unpublishable := exits ended
        · obtain left | exhausted := followed.ended worker member already
          · exact absurd unchanged left
          · exact .inr (steps.control.exhausted exhausted)
        · exact absurd unchanged left
        · exact .inr exhausted
        · exact absurd unpublishable (followed.tracked.unpublishable_excluded found publishable
            (Bool.eq_false_iff.mpr exhausted) unchanged)
      · exact .inl (by rwa [at_congr publication])
  | publishes freshness snapshot now clock unchanged prepared settled published =>
    have snapshotOf : next.snapshot = snapshot := published
    refine .inl fun place => ?_
    have revision := place.2
    rw [snapshotOf, prepared.revision] at revision
    exact absurd revision (Nat.succ_ne_self _)
  | finishes _ _ _ done =>
    rw [done] at ended
    cases ended

theorem WorkerSteps.followed (found : registry.workers[place]? = some worker)
    (publishable : registry.Publishable (.refresh (.worker place step)))
    (steps : WorkerSteps registry place worker step next after) (followed : registry.Followed) :
    next.Followed := by
  refine ⟨steps.tracked found followed.tracked, steps.shown found followed, ?_⟩
  intro other member ended
  rw [steps.workers] at member
  obtain earlier | rfl := List.mem_or_eq_of_mem_set member
  · have known := followed.tracked.workers other earlier
    obtain left | exhausted := followed.ended other earlier ended
    · exact .inl (steps.publishes.leaves known.revision left)
    · exact .inr (steps.control.exhausted exhausted)
  · rw [steps.running]
    exact steps.ended found publishable followed ended

end Workers

theorem Refused.followed {before after : Registry} (refused : Refused before after)
    (followed : before.Followed) : after.Followed := by
  refine ⟨refused.tracked followed.tracked, ?_, ?_⟩
  · rw [show after.snapshot = before.snapshot from
      congrArg RegistryPublication.snapshot refused.publication]
    intro refreshing
    obtain exhausted | ⟨running, recorded, unchanged⟩ := followed.shown refreshing
    · exact .inl (refused.exhausted exhausted)
    · exact .inr ⟨running, by rw [refused.control, recorded],
        (at_congr refused.publication running).mpr unchanged⟩
  · rw [refused.workers]
    intro worker member ended
    obtain left | exhausted := followed.ended worker member ended
    · exact .inl (by rwa [at_congr refused.publication])
    · exact .inr (refused.exhausted exhausted)

theorem Started.followed {before after : Registry} {now : StateNow} (started : Started before now after)
    (followed : before.Followed) : after.Followed := by
  obtain ⟨running, recorded, _, _, epoch, revision, workers⟩ := started.admitted
  have invalidated := started.invalidated
  refine ⟨started.tracked followed.tracked, fun _ => .inr ⟨running, recorded, ?_, ?_⟩, ?_⟩
  · rw [invalidated.snapshot, epoch]
    rfl
  · rw [invalidated.snapshot, revision]
    rfl
  · intro worker member ended
    rw [workers] at member
    obtain earlier | added := List.mem_append.mp member
    · have known := followed.tracked.workers worker earlier
      obtain left | exhausted := followed.ended worker earlier ended
      · exact .inl ((started.publishes followed.tracked.fenced).leaves known.revision left)
      · exact .inr (invalidated.exhausted.trans exhausted)
    · cases List.mem_singleton.mp added
      cases ended

theorem refreshStep_followed {registry next : Registry} {action : RefreshAction}
    (followed : registry.Followed) (publishable : registry.Publishable (.refresh action))
    (taken : registry.refreshStep action = some next) : next.Followed := by
  have tracked := refreshStep_tracked followed.tracked taken
  cases action with
  | start cause early late =>
    cases taken
    obtain refused | ⟨now, _, started⟩ := startRefresh_effect registry cause early late
    · exact refused.followed followed
    · exact started.followed followed
  | worker place step =>
    simp only [refreshStep] at taken
    split at taken
    · cases taken
    next worker found =>
      obtain ⟨after, steps⟩ :=
        workerStep_steps (followed.tracked.fenced.workers worker (List.mem_of_getElem? found)) taken
      exact steps.followed found publishable followed
  | beginShutdown =>
    cases taken
    exact ⟨tracked, followed.shown, followed.ended⟩
  | shutdownFlights =>
    simp only [refreshStep] at taken
    split at taken
    · cases taken
      exact ⟨tracked, followed.shown, followed.ended⟩
    · cases taken

theorem flightStep_followed {registry next : Registry} {action : FlightAction}
    (followed : registry.Followed) (taken : registry.flightStep action = some next) :
    next.Followed := by
  have publishes := (flightStep_publishes followed.tracked.fenced taken).2
  obtain ⟨same, published⟩ := flightStep_frame taken
  refine ⟨flightStep_tracked followed.tracked taken, ?_, ?_⟩
  · intro refreshing
    obtain publication | ⟨flight, now, _, merged⟩ := published
    · rw [snapshot_of_publication publication] at refreshing
      obtain exhausted | ⟨running, recorded, unchanged⟩ := followed.shown refreshing
      · exact .inl (same.exhausted exhausted)
      · exact .inr ⟨running, by rw [same.control, recorded],
          (at_congr publication running).mpr unchanged⟩
    · -- A flight publishes only into a fresh snapshot.
      rw [merged.freshness, merged.fresh] at refreshing
      cases refreshing
  · rw [same.workers]
    intro worker member ended
    have known := followed.tracked.workers worker member
    obtain left | exhausted := followed.ended worker member ended
    · exact .inl (publishes.leaves known.revision left)
    · exact .inr (same.exhausted exhausted)

theorem step_followed (registry : Registry) (action : Action) (next : Registry)
    (followed : registry.Followed) (publishable : registry.Publishable action)
    (taken : registry.step action = some next) : next.Followed := by
  cases action with
  | refresh action => exact refreshStep_followed followed publishable taken
  | flight action => exact flightStep_followed followed taken

theorem finished_refresh_is_published (mode : VerifierMode) (actions : List Action)
    (publishable : Runs.Meets Publishable step (initial mode) actions) :
    Runs.Always Settled step (initial mode) actions :=
  (Runs.always_of_meets step_followed (followed_initial mode) publishable).mono
    fun _ => Followed.settled

section Concrete

def lastMoment : StateNow := ⟨⟨86399999, by decide⟩, 86399999, by decide⟩

theorem expiry_safe : 86400000 ≤ maxSafeInteger := by decide

def expiry : StateNow := ⟨⟨86400000, expiry_safe⟩, 86400000, expiry_safe⟩

def expiringRefresh : List Action :=
  firstRefresh ++
    [.refresh (.start .manual (some lastMoment) (some lastMoment)), .refresh (.worker 1 .spawn),
      .refresh (.worker 1 .timeOut), .refresh (.worker 1 (.fail (some expiry))),
      .refresh (.worker 1 .resume), .refresh (.worker 1 .finish)]

theorem expired_evidence_leaves_refresh_running :
    ∃ registry, Runs.run step (initial .activeInjected) expiringRefresh = some registry ∧
      registry.control.running = none ∧ registry.capacityExhausted = false ∧
      registry.shutdown = false ∧ registry.publication.refresh.state = .running ∧
      registry.snapshot.freshness = .refreshing ∧ ¬registry.Settled := by
  have ran : (Runs.run step (initial .activeInjected) expiringRefresh).any (fun registry =>
      decide (registry.control.running = none ∧ registry.capacityExhausted = false ∧
        registry.shutdown = false ∧ registry.publication.refresh.state = .running ∧
        registry.snapshot.freshness = .refreshing ∧ ¬registry.Settled)) = true := by
    decide +kernel
  obtain ⟨registry, reached, facts⟩ := (Option.any_eq_true _ _).mp ran
  exact ⟨registry, reached, of_decide_eq_true facts⟩

def timelyFailure : List Action :=
  firstRefresh ++
    [.refresh (.start .manual (some clockStart) (some clockStart)), .refresh (.worker 1 .spawn),
      .refresh (.worker 1 .timeOut), .refresh (.worker 1 (.fail (some lastMoment))),
      .refresh (.worker 1 .publishStale), .refresh (.worker 1 .resume),
      .refresh (.worker 1 .finish)]

theorem timely_failure_is_published :
    (Runs.run step (initial .activeInjected) timelyFailure).isSome = true ∧
      Runs.Meets Publishable step (initial .activeInjected) timelyFailure ∧
      Runs.Always Settled step (initial .activeInjected) timelyFailure := by
  have meets : Runs.Meets Publishable step (initial .activeInjected) timelyFailure := by
    decide +kernel
  exact ⟨by decide +kernel, meets, finished_refresh_is_published _ _ meets⟩

end Concrete

end Registry

namespace Registry

def admission (registry : Registry) (cause : RefreshCause) (early late : Option StateNow) :
    RefreshAdmission :=
  (registry.startRefresh cause early late).1

-- A rejection names the shutdown, or exhausted capacity, which stands for an unreadable clock too.
def RejectedForCause (registry : Registry) (cause : RefreshCause) (early late : Option StateNow) :
    Prop :=
  ∀ reason, registry.admission cause early late = .rejected reason →
    reason = .serverShutdown ∧ registry.shutdown = true ∨
    reason = .capacityExhausted ∧ ((registry.startRefresh cause early late).2.capacityExhausted = true ∨
      early = none ∨ late = none)

structure Admissible (registry : Registry) (cause : RefreshCause) (now : StateNow) : Prop where
  lives : registry.shutdown = false
  room : registry.capacityExhausted = false
  idle : registry.control.running = none
  startup : cause = .startup → registry.control.startupId = none
  window : cause = .manual → ∀ last, registry.control.lastManualMonotonicMs = some last →
    manualRefreshWindowMs ≤ now.monotonicMs - last
  id : registry.control.nextId + 1 ≤ maxSafeInteger
  epoch : registry.flightState.identityEpoch + 1 ≤ maxSafeInteger
  revision : registry.snapshot.publicationRevision + 1 ≤ maxSafeInteger

theorem nextCounter_of_le {value : Nat} (bound : value + 1 ≤ maxSafeInteger) :
    nextCounter value = some (value + 1) :=
  if_pos bound

theorem Tracked.terminal_eq_none {registry : Registry} (tracked : registry.Tracked)
    (lives : registry.shutdown = false) (room : registry.capacityExhausted = false) :
    registry.flightState.terminalReason = none := by
  cases terminal : registry.flightState.terminalReason with
  | none => rfl
  | some reason =>
    obtain shutdown | exhausted := tracked.terminal reason terminal
    · rw [lives] at shutdown
      cases shutdown
    · rw [room] at exhausted
      cases exhausted

-- Published anew under the next epoch, the snapshot passes exactly while its evidence lives.
theorem Tracked.refreshing_valid {registry : Registry} (tracked : registry.Tracked) {now : StateNow}
    (epoch : registry.flightState.identityEpoch + 1 ≤ maxSafeInteger)
    (revision : registry.snapshot.publicationRevision + 1 ≤ maxSafeInteger) :
    (registry.snapshot.republished .refreshing (registry.flightState.identityEpoch + 1)
      (registry.snapshot.publicationRevision + 1)).validate now = .ok () ↔
        registry.snapshot.CurrentAt now :=
  validate_republished tracked.published (by decide) (Nat.succ_ne_zero _) (Nat.succ_ne_zero _) epoch
    revision

theorem admitRefreshInvalidation_expired {registry : Registry} {id : Nat} {cause : RefreshCause}
    {now : StateNow} (tracked : registry.Tracked) (lives : registry.shutdown = false)
    (room : registry.capacityExhausted = false)
    (epoch : registry.flightState.identityEpoch + 1 ≤ maxSafeInteger)
    (revision : registry.snapshot.publicationRevision + 1 ≤ maxSafeInteger)
    (expired : ¬registry.snapshot.CurrentAt now) :
    registry.admitRefreshInvalidation id cause (some now) =
      (.error .verificationPrerequisiteMissing, registry) := by
  unfold admitRefreshInvalidation
  rw [lives, room, tracked.terminal_eq_none lives room, nextCounter_of_le epoch]
  simp only [Bool.false_eq_true, if_false]
  rw [nextCounter_of_le revision]
  dsimp only
  split
  · rfl
  next refreshing built =>
    obtain ⟨_, valid⟩ := fromParts_eq_ok.mp built
    exact absurd ((tracked.refreshing_valid epoch revision).mp valid) expired

theorem admission_expired {registry : Registry} {cause : RefreshCause} {early late : StateNow}
    (tracked : registry.Tracked) (admissible : registry.Admissible cause early)
    (expired : ¬registry.snapshot.CurrentAt late) :
    registry.admission cause (some early) (some late) =
      .rejected .verificationPrerequisiteMissing := by
  unfold admission startRefresh
  rw [admissible.lives, admissible.room, admissible.idle]
  simp only [Bool.false_eq_true, if_false]
  have fresh : (if cause = .startup then registry.control.startupId else none) = none := by
    split
    next startup => exact admissible.startup startup
    next => rfl
  have unlimited : ((if cause = .manual then registry.control.lastManualMonotonicMs
      else none).filter fun last => decide (early.monotonicMs - last < manualRefreshWindowMs)) =
        none := by
    split
    next manual =>
      rw [Option.filter_eq_none_iff]
      intro last recent limited
      have window := admissible.window manual last recent
      have short := of_decide_eq_true limited
      omega
    next => rfl
  rw [fresh]
  dsimp only
  rw [unlimited, nextCounter_of_le admissible.id]
  dsimp only
  rw [admitRefreshInvalidation_expired tracked admissible.lives admissible.room admissible.epoch
    admissible.revision expired]

theorem admitRefreshInvalidation_rejects {registry after : Registry} {id : Nat} {cause : RefreshCause}
    {late : Option StateNow} {reason : RegistryReason} (tracked : registry.Tracked)
    (lives : registry.shutdown = false) (room : registry.capacityExhausted = false)
    (rejected : registry.admitRefreshInvalidation id cause late = (.error reason, after)) :
    reason = .capacityExhausted ∧ (after.capacityExhausted = true ∨ late = none) ∨
      registry.flightState.identityEpoch + 1 ≤ maxSafeInteger ∧
        registry.snapshot.publicationRevision + 1 ≤ maxSafeInteger ∧
        ∃ now, late = some now ∧ ¬registry.snapshot.CurrentAt now := by
  unfold admitRefreshInvalidation at rejected
  rw [lives, room, tracked.terminal_eq_none lives room] at rejected
  simp only [Bool.false_eq_true, if_false] at rejected
  split at rejected
  · cases rejected
    exact .inl ⟨rfl, .inl rfl⟩
  next nextEpoch epochCounted =>
    obtain ⟨rfl, epochBound⟩ := nextCounter_eq_some epochCounted
    split at rejected
    · cases rejected
      exact .inl ⟨rfl, .inl rfl⟩
    next nextRevision revisionCounted =>
      obtain ⟨rfl, revisionBound⟩ := nextCounter_eq_some revisionCounted
      split at rejected
      · cases rejected
        exact .inl ⟨rfl, .inr rfl⟩
      next now =>
        split at rejected
        next error refused =>
          refine .inr ⟨epochBound, revisionBound, now, rfl, fun current => ?_⟩
          have valid := (tracked.refreshing_valid epochBound revisionBound).mpr current
          cases refused.symm.trans (fromParts_eq_ok.mpr ⟨rfl, valid⟩)
        next => cases rejected

theorem startRefresh_rejects {registry after : Registry} {cause : RefreshCause}
    {early late : Option StateNow} {reason : RegistryReason} (tracked : registry.Tracked)
    (rejected : registry.startRefresh cause early late = (.rejected reason, after)) :
    reason = .serverShutdown ∧ registry.shutdown = true ∨
    reason = .capacityExhausted ∧
      (after.capacityExhausted = true ∨ early = none ∨ late = none) ∨
    ∃ now later, early = some now ∧ late = some later ∧ registry.Admissible cause now ∧
      ¬registry.snapshot.CurrentAt later := by
  unfold startRefresh at rejected
  split at rejected
  next shutdown =>
    cases rejected
    exact .inl ⟨rfl, shutdown⟩
  next lives =>
    split at rejected
    next exhausted =>
      cases rejected
      exact .inr (.inl ⟨rfl, .inl exhausted⟩)
    next room =>
      split at rejected
      next =>
        cases rejected
        exact .inr (.inl ⟨rfl, .inr (.inl rfl)⟩)
      next now =>
        split at rejected
        next => cases rejected
        next idle =>
          split at rejected
          next => cases rejected
          next startup =>
            dsimp only at rejected
            split at rejected
            next => cases rejected
            next unlimited =>
              split at rejected
              next =>
                cases rejected
                exact .inr (.inl ⟨rfl, .inl rfl⟩)
              next id counted =>
                obtain ⟨rfl, idBound⟩ := nextCounter_eq_some counted
                split at rejected
                next why stopped admitted =>
                  cases rejected
                  rw [Bool.not_eq_true] at lives room
                  obtain refused | ⟨epoch, revision, later, rfl, expired⟩ :=
                    admitRefreshInvalidation_rejects tracked lives room admitted
                  · obtain ⟨rfl, exhausted | unread⟩ := refused
                    · exact .inr (.inl ⟨rfl, .inl exhausted⟩)
                    · exact .inr (.inl ⟨rfl, .inr (.inr unread)⟩)
                  · refine .inr (.inr ⟨now, later, rfl, rfl, ?_, expired⟩)
                    refine ⟨lives, room, idle, ?_, ?_, idBound, epoch, revision⟩
                    · rintro rfl
                      exact startup
                    · rintro rfl last recent
                      rw [if_pos rfl, recent, Option.filter_eq_none_iff] at unlimited
                      have short := unlimited last rfl
                      rw [decide_eq_true_eq] at short
                      omega
                next => cases rejected

theorem refresh_rejected_for_cause (mode : VerifierMode) (actions : List Action) (registry : Registry)
    (reached : Runs.run step (initial mode) actions = some registry) (cause : RefreshCause)
    (early late : Option StateNow) :
    registry.RejectedForCause cause early late ↔
      ∀ now later, early = some now → late = some later → registry.Admissible cause now →
        registry.snapshot.CurrentAt later := by
  have tracked := run_tracked reached
  constructor
  · rintro forCause now later rfl rfl admissible
    by_contra expired
    have rejected := admission_expired tracked admissible expired
    obtain ⟨different, _⟩ | ⟨different, _⟩ := forCause _ rejected
    · cases different
    · cases different
  · intro current reason rejected
    have whole : registry.startRefresh cause early late =
        (.rejected reason, (registry.startRefresh cause early late).2) := Prod.ext rejected rfl
    obtain shutdown | exhausted | ⟨now, later, rfl, rfl, admissible, expired⟩ :=
      startRefresh_rejects tracked whole
    · exact .inl shutdown
    · exact .inr exhausted
    · exact absurd (current now later rfl rfl admissible) expired

theorem expired_evidence_blocks_refresh :
    ∃ registry, Runs.run step (initial .activeInjected) firstRefresh = some registry ∧
      registry.shutdown = false ∧ registry.capacityExhausted = false ∧
      registry.admission .manual (some expiry) (some expiry) =
        .rejected .verificationPrerequisiteMissing ∧
      ¬registry.RejectedForCause .manual (some expiry) (some expiry) := by
  have ran : (Runs.run step (initial .activeInjected) firstRefresh).any (fun registry =>
      decide (registry.shutdown = false ∧ registry.capacityExhausted = false ∧
        registry.admission .manual (some expiry) (some expiry) =
          .rejected .verificationPrerequisiteMissing)) = true := by
    decide +kernel
  obtain ⟨registry, reached, facts⟩ := (Option.any_eq_true _ _).mp ran
  obtain ⟨lives, room, rejected⟩ := of_decide_eq_true facts
  refine ⟨registry, reached, lives, room, rejected, fun forCause => ?_⟩
  obtain ⟨different, _⟩ | ⟨different, _⟩ := forCause _ rejected
  · cases different
  · cases different

theorem living_evidence_admits_refresh :
    ∃ registry, Runs.run step (initial .activeInjected) firstRefresh = some registry ∧
      registry.admission .manual (some lastMoment) (some lastMoment) = .started 2 ∧
      registry.RejectedForCause .manual (some lastMoment) (some lastMoment) := by
  have ran : (Runs.run step (initial .activeInjected) firstRefresh).any (fun registry =>
      decide (registry.admission .manual (some lastMoment) (some lastMoment) = .started 2 ∧
        registry.snapshot.CurrentAt lastMoment)) = true := by
    decide +kernel
  obtain ⟨registry, reached, facts⟩ := (Option.any_eq_true _ _).mp ran
  obtain ⟨started, current⟩ := of_decide_eq_true facts
  refine ⟨registry, reached, started, ?_⟩
  refine (refresh_rejected_for_cause _ _ registry reached _ _ _).mpr ?_
  intro now later _ same _
  cases same
  exact current

end Registry

end StreamServer.Capability
