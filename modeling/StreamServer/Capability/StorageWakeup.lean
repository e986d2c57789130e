import StreamServer.Capability.StorageWorker

set_option autoImplicit false

namespace StreamServer.Capability

def WorkerPhase.aboutToCreate {P C : Type} : WorkerPhase P C → Bool
  | .aboutToWait => true
  | _ => false

def WorkerPhase.onItsWay {P C : Type} : WorkerPhase P C → Bool
  | .aboutToWait | .created false | .parked => true
  | _ => false

namespace EvidenceStorage

variable {P C : Type} {encode : P → Option C} {storage next : EvidenceStorage P C}

section WakeUp

def stillNotifies : RequestPhase P → Bool
  | .accepted _ => true
  | _ => false

/-- A stored permit, or a caller that has still to notify the worker. -/
def NotificationPending (storage : EvidenceStorage P C) : Prop :=
  storage.permit = true ∨ .closed ∈ storage.shutdowns ∨
    ∃ phase ∈ storage.requests, stillNotifies phase = true

instance (storage : EvidenceStorage P C) : Decidable storage.NotificationPending :=
  inferInstanceAs (Decidable (_ ∨ _ ∨ _))

def Stranded (storage : EvidenceStorage P C) : Prop :=
  storage.queue.closing = true ∧ storage.worker = .parked ∧ ¬ storage.NotificationPending

-- `notify_waiters` of a shutdown does not fall between the worker's look at the queue and the
-- creation of its notification future, unless another notification is still to come.
def NotifiesFuture (storage : EvidenceStorage P C) : Action P → Prop
  | .shutdownNotify index => storage.worker.aboutToCreate = true →
      (storage.setShutdown index .notified).NotificationPending
  | _ => True

instance (storage : EvidenceStorage P C) : (action : Action P) →
    Decidable (storage.NotifiesFuture action)
  | .shutdownNotify index => inferInstanceAs (Decidable (storage.worker.aboutToCreate = true →
      (storage.setShutdown index .notified).NotificationPending))
  | .worker _ | .cancelParent | .requestPersist _ | .requestLock _ | .requestNotify _
  | .loadEvidence | .loadRead _ _ | .loadSet _ | .beginShutdown | .shutdownClose _
  | .shutdownComplete _ | .releaseAuthority | .waitForPersisted _ | .waitLoad _ | .waitCheck _
  | .waitWake _ => isTrue trivial

def WillWake (storage : EvidenceStorage P C) : Prop :=
  storage.queue.closing = true → storage.worker.onItsWay = true → storage.NotificationPending

theorem WillWake.not_stranded (wakes : storage.WillWake) : ¬ storage.Stranded := by
  rintro ⟨closing, parked, nothing⟩
  exact nothing (wakes closing (by rw [parked]; rfl))

theorem WillWake.ofWorker (wakes : storage.WillWake) (frame : WorkerFrame storage next) :
    next.WillWake := by
  intro closing waiting
  have pending : storage.NotificationPending → next.permit = storage.permit →
      next.NotificationPending := by
    intro before samePermit
    unfold NotificationPending
    rw [samePermit, frame.shutdowns, frame.requests]
    exact before
  cases phase : next.worker with
  | aboutToWait =>
    rw [frame.waiting phase] at closing
    cases closing
  | created notified =>
    cases notified with
    | true =>
      rw [phase] at waiting
      cases waiting
    | false =>
      obtain ⟨before, samePermit, sameClosing⟩ := frame.created phase
      exact pending (wakes (sameClosing ▸ closing) (by rw [before]; rfl)) samePermit
  | parked =>
    obtain ⟨before, samePermit, sameClosing⟩ := frame.parked phase
    exact pending (wakes (sameClosing ▸ closing) (by rw [before]; rfl)) samePermit
  | _ =>
    rw [phase] at waiting
    cases waiting

theorem WillWake.ofCaller (wakes : storage.WillWake)
    (sameClosing : next.queue.closing = storage.queue.closing)
    (sameWorker : next.worker = storage.worker)
    (kept : storage.NotificationPending → next.NotificationPending) : next.WillWake := by
  intro closing waiting
  rw [sameClosing] at closing
  rw [sameWorker] at waiting
  exact kept (wakes closing waiting)

-- The call leaves its checks; the notifications of others stay.
theorem NotificationPending.setRequest {index : Nat} {request : PersistenceRequest P}
    (pending : storage.NotificationPending)
    (checked : storage.requests[index]? = some (.checked request)) (phase : RequestPhase P) :
    (storage.setRequest index phase).NotificationPending := by
  refine pending.imp_right (Or.imp_right ?_)
  rintro ⟨other, member, notifies⟩
  refine ⟨other, Lists.mem_set_of_ne checked ?_ member, notifies⟩
  rintro rfl
  cases notifies

theorem step_willWake {action : Action P} (wakes : storage.WillWake)
    (notifies : storage.NotifiesFuture action) (taken : storage.step encode action = some next) :
    next.WillWake := by
  cases step_move taken with
  | worker inner _ moved => exact wakes.ofWorker moved.frame
  | lockPoisoned index request checked | refused index request checked
  | accepted index request checked =>
    exact wakes.ofCaller rfl rfl fun pending => pending.setRequest checked _
  | requestNotified index =>
    intro _ waiting
    unfold notifyOne at waiting ⊢
    split at waiting
    next => cases waiting
    next => exact .inl rfl
  | shutdownPoisoned index cancelled | shutdownClosed index cancelled =>
    exact fun _ _ => .inr (.inl (Lists.mem_set_self cancelled))
  | shutdownNotified index =>
    intro _ waiting
    unfold notifyWaiters at waiting ⊢
    split at waiting
    next => cases waiting
    next => cases waiting
    next notParked notCreated =>
      -- Only a worker without a future misses the call.
      have early : storage.worker.aboutToCreate = true := by
        revert notParked notCreated waiting
        show (storage.worker = _ → _) → (∀ notified, storage.worker = _ → _) →
          storage.worker.onItsWay = true → _
        cases storage.worker <;> simp [WorkerPhase.onItsWay, WorkerPhase.aboutToCreate]
      exact notifies early
  | shutdownCompleted index notified =>
    refine wakes.ofCaller rfl rfl ?_
    refine Or.imp_right (Or.imp_left ?_)
    intro closed
    exact Lists.mem_set_of_ne notified (by simp) closed
  | admitted | turnedAway =>
    refine wakes.ofCaller rfl rfl ?_
    refine Or.imp_right (Or.imp_right ?_)
    rintro ⟨other, member, notifies⟩
    exact ⟨other, List.mem_append_left _ member, notifies⟩
  | shutdownBegun =>
    refine wakes.ofCaller rfl rfl ?_
    exact Or.imp_right (Or.imp_left (List.mem_append_left _))
  | loadRead index result =>
    rw [loaded_eq]
    exact wakes.ofCaller rfl rfl id
  | _ => exact wakes.ofCaller rfl rfl id

theorem openStorage_willWake (answers : OpenAnswers) :
    (openStorage answers : EvidenceStorage P C).WillWake := by
  intro closing
  unfold openStorage at closing
  (repeat' split at closing) <;> (unfold openWith at closing; split at closing) <;> cases closing

theorem never_stranded (encode : P → Option C) (answers : OpenAnswers) {actions : List (Action P)}
    (notifies : Runs.Meets NotifiesFuture (step encode) (openStorage answers) actions) :
    Runs.Always (fun storage => ¬ storage.Stranded) (step encode) (openStorage answers) actions := by
  refine (Runs.always_of_meets ?_ (openStorage_willWake answers) notifies).mono ?_
  · intro storage action next wakes notifies taken
    exact step_willWake wakes notifies taken
  · intro storage wakes
    exact wakes.not_stranded

def shutdownAfterPark : List (Action Unit) :=
  [.worker .check, .worker .create, .worker .poll, .beginShutdown, .shutdownClose 0,
    .shutdownNotify 0, .worker .check]

theorem shutdown_wakes_parked_worker :
    Runs.Always (fun storage => ¬ storage.Stranded) unitStep (openStorage writerAnswers)
      shutdownAfterPark := by
  exact never_stranded unitEncode writerAnswers (by decide)

-- The worker has seen the queue open; the shutdown runs to its end before the future exists.
theorem shutdown_strands_worker :
    ∃ final, Runs.run unitStep (openStorage writerAnswers) [.worker .check, .beginShutdown,
        .shutdownClose 0, .shutdownNotify 0, .shutdownComplete 0, .worker .create, .worker .poll] =
      some final ∧ final.Stranded := by
  exact ⟨_, rfl, rfl, rfl, by decide⟩

end WakeUp

end EvidenceStorage

variable {P C : Type}

namespace WorkerPhase

def holds : WorkerPhase P C → Option (PersistenceRequest P)
  | .started request | .encoded request _ | .written request _ | .beforeReplace request _ =>
      some request
  | _ => none

def encodedAs : WorkerPhase P C → Option (PersistenceRequest P × C)
  | .encoded request bytes | .written request bytes | .beforeReplace request bytes =>
      some (request, bytes)
  | _ => none

def installedAs : WorkerPhase P C → Option Nat
  | .replaced request => some request.revision
  | .persisted (.installed revision) => some revision
  | _ => none

end WorkerPhase

def SoundHistory (encode : P → Option C) : List (Event P C) → Prop
  | [] => True
  | .installed revision bytes :: earlier =>
      (∀ other content, .installed other content ∈ earlier → other < revision) ∧
      (∃ request, .accepted request ∈ earlier ∧ request.revision = revision ∧
        encode request.payload = some bytes) ∧
      (∀ request, .accepted request ∈ earlier → request.revision ≤ revision) ∧
      .shutdownReturned ∉ earlier ∧ SoundHistory encode earlier
  | .persistedSeen revision :: earlier =>
      (0 < revision → ∃ other content, .installed other content ∈ earlier ∧ revision ≤ other) ∧
      SoundHistory encode earlier
  | .accepted _ :: earlier | .shutdownReturned :: earlier => SoundHistory encode earlier

namespace EvidenceStorage

variable {encode : P → Option C} {storage next : EvidenceStorage P C}

def InstalledBelow (storage : EvidenceStorage P C) (revision : Nat) : Prop :=
  ∀ other content, .installed other content ∈ storage.history → other < revision

-- The pending request is the latest accepted one, what `persist_one` holds is older than it, and
-- both are newer than everything installed.
structure Ordered (encode : P → Option C) (storage : EvidenceStorage P C) : Prop where
  sound : SoundHistory encode storage.history
  latest : ∀ request, .accepted request ∈ storage.history →
    request.revision ≤ storage.queue.latestRevision
  installed : ∀ revision bytes, .installed revision bytes ∈ storage.history →
    revision ≤ storage.queue.latestRevision
  pending : ∀ request, storage.queue.pending = some request → .accepted request ∈ storage.history ∧
    request.revision = storage.queue.latestRevision ∧ storage.InstalledBelow request.revision
  held : ∀ request, storage.worker.holds = some request → .accepted request ∈ storage.history ∧
    storage.InstalledBelow request.revision ∧
    ∀ newer, storage.queue.pending = some newer → request.revision < newer.revision
  encodedAs : ∀ request bytes, storage.worker.encodedAs = some (request, bytes) →
    encode request.payload = some bytes
  reported : ∀ revision, storage.worker.installedAs = some revision →
    ∃ bytes, .installed revision bytes ∈ storage.history
  persisted : 0 < storage.persistedRevision → ∃ revision bytes,
    .installed revision bytes ∈ storage.history ∧ storage.persistedRevision ≤ revision
  shuttingDown : storage.shutdowns ≠ [] → storage.cancelled = true
  shutDown : .shutdownReturned ∈ storage.history → storage.cancelled = true

namespace Ordered

theorem ofSame (ordered : storage.Ordered encode) (sameHistory : next.history = storage.history)
    (sameLatest : next.queue.latestRevision = storage.queue.latestRevision)
    (keptPending : ∀ request, next.queue.pending = some request →
      storage.queue.pending = some request)
    (keptHeld : ∀ request, next.worker.holds = some request → storage.worker.holds = some request)
    (keptEncoded : ∀ request bytes, next.worker.encodedAs = some (request, bytes) →
      encode request.payload = some bytes)
    (keptReported : ∀ revision, next.worker.installedAs = some revision →
      storage.worker.installedAs = some revision)
    (samePersisted : next.persistedRevision = storage.persistedRevision)
    (cancelled : storage.cancelled = true → next.cancelled = true)
    (shuttingDown : next.shutdowns ≠ [] → next.cancelled = true) : next.Ordered encode := by
  have below : ∀ revision, storage.InstalledBelow revision → next.InstalledBelow revision := by
    intro revision before
    unfold InstalledBelow
    rw [sameHistory]
    exact before
  refine ⟨?_, ?_, ?_, ?_, ?_, keptEncoded, ?_, ?_, shuttingDown, ?_⟩
  · rw [sameHistory]
    exact ordered.sound
  · rw [sameHistory, sameLatest]
    exact ordered.latest
  · rw [sameHistory, sameLatest]
    exact ordered.installed
  · intro request pending
    obtain ⟨accepted, isLatest, newer⟩ := ordered.pending request (keptPending request pending)
    rw [sameHistory, sameLatest]
    exact ⟨accepted, isLatest, below _ newer⟩
  · intro request held
    obtain ⟨accepted, newer, older⟩ := ordered.held request (keptHeld request held)
    rw [sameHistory]
    exact ⟨accepted, below _ newer, fun other pending => older other (keptPending other pending)⟩
  · intro revision reported
    rw [sameHistory]
    exact ordered.reported revision (keptReported revision reported)
  · rw [sameHistory, samePersisted]
    exact ordered.persisted
  · rw [sameHistory]
    exact fun returned => cancelled (ordered.shutDown returned)

theorem ofCaller (ordered : storage.Ordered encode) (sameHistory : next.history = storage.history)
    (sameQueue : next.queue = storage.queue) (sameWorker : next.worker = storage.worker)
    (samePersisted : next.persistedRevision = storage.persistedRevision)
    (cancelled : storage.cancelled = true → next.cancelled = true)
    (shuttingDown : next.shutdowns ≠ [] → next.cancelled = true) : next.Ordered encode := by
  refine ordered.ofSame sameHistory (by rw [sameQueue]) ?_ ?_ ?_ ?_ samePersisted cancelled
    shuttingDown
  · rw [sameQueue]
    exact fun _ => id
  · rw [sameWorker]
    exact fun _ => id
  · rw [sameWorker]
    exact ordered.encodedAs
  · rw [sameWorker]
    exact fun _ => id

theorem install (ordered : storage.Ordered encode) {request : PersistenceRequest P} {bytes : C}
    (before : storage.worker = .beforeReplace request bytes)
    (isLatest : storage.queue.latestRevision = request.revision)
    (running : storage.cancelled = false) {worker : WorkerPhase P C}
    (released : worker.holds = none) (unencoded : worker.encodedAs = none)
    (reports : ∀ revision, worker.installedAs = some revision → revision = request.revision) :
    ({ storage with worker := worker }.record (.installed request.revision bytes)).Ordered
      encode := by
  obtain ⟨accepted, below, older⟩ := ordered.held request (by rw [before]; rfl)
  have nothingPending : storage.queue.pending = none := by
    cases waiting : storage.queue.pending with
    | none => rfl
    | some newer =>
      have same := (ordered.pending newer waiting).2.1
      have strictly := older newer waiting
      omega
  have notReturned : .shutdownReturned ∉ storage.history := by
    intro returned
    rw [ordered.shutDown returned] at running
    cases running
  refine ⟨⟨below, ⟨request, accepted, rfl, ordered.encodedAs _ _ (by rw [before]; rfl)⟩, ?_,
    notReturned, ordered.sound⟩, ?_, ?_, ?_, ?_, ?_, ?_, ?_, ordered.shuttingDown, ?_⟩
  · intro other member
    rw [← isLatest]
    exact ordered.latest other member
  · intro other member
    exact ordered.latest other (by simpa [record] using member)
  · intro revision content member
    obtain same | earlier := List.mem_cons.mp member
    · cases same
      exact Nat.le_of_eq isLatest.symm
    · exact ordered.installed revision content earlier
  · intro other pending
    exact absurd (nothingPending.symm.trans pending) (by simp)
  · intro other held
    exact absurd (released.symm.trans held) (by simp)
  · intro other content encoded
    exact absurd (unencoded.symm.trans encoded) (by simp)
  · intro revision reported
    cases reports revision reported
    exact ⟨bytes, List.mem_cons_self⟩
  · intro positive
    obtain ⟨revision, content, member, atLeast⟩ := ordered.persisted positive
    exact ⟨revision, content, List.mem_cons_of_mem _ member, atLeast⟩
  · intro returned
    exact absurd (by simpa [record] using returned) notReturned

theorem accept (ordered : storage.Ordered encode) {request : PersistenceRequest P} {index : Nat}
    (newer : storage.queue.latestRevision < request.revision) (phase : RequestPhase P) :
    ({ storage.setRequest index phase with
      queue := { storage.queue with
        latestRevision := request.revision, pending := some request } }.record
          (.accepted request)).Ordered encode := by
  have unchanged : ∀ revision bytes, .installed revision bytes ∈
      (Event.accepted request :: storage.history : List (Event P C)) →
      .installed revision bytes ∈ storage.history := by
    intro revision bytes member
    simpa using member
  refine ⟨ordered.sound, ?_, ?_, ?_, ?_, ordered.encodedAs, ?_, ?_, ordered.shuttingDown, ?_⟩
  · intro other member
    obtain same | earlier := List.mem_cons.mp member
    · cases same
      exact Nat.le_refl _
    · have known := ordered.latest other earlier
      show other.revision ≤ request.revision
      omega
  · intro revision bytes member
    have known := ordered.installed revision bytes (unchanged revision bytes member)
    show revision ≤ request.revision
    omega
  · intro other isPending
    cases isPending
    refine ⟨List.mem_cons_self, rfl, ?_⟩
    intro revision bytes member
    have known := ordered.installed revision bytes (unchanged revision bytes member)
    omega
  · intro other held
    obtain ⟨accepted, below, _⟩ := ordered.held other held
    refine ⟨List.mem_cons_of_mem _ accepted, ?_, ?_⟩
    · intro revision bytes member
      exact below revision bytes (unchanged revision bytes member)
    · intro pending isPending
      cases isPending
      have known := ordered.latest other accepted
      omega
  · intro revision reported
    obtain ⟨bytes, member⟩ := ordered.reported revision reported
    exact ⟨bytes, List.mem_cons_of_mem _ member⟩
  · intro positive
    obtain ⟨revision, bytes, member, atLeast⟩ := ordered.persisted positive
    exact ⟨revision, bytes, List.mem_cons_of_mem _ member, atLeast⟩
  · intro returned
    exact ordered.shutDown (by simpa [record, setRequest] using returned)

theorem note (ordered : storage.Ordered encode) {event : Event P C}
    (sound : SoundHistory encode (event :: storage.history))
    (notAccepted : ∀ request, event ≠ .accepted request)
    (notInstalled : ∀ revision bytes, event ≠ .installed revision bytes)
    (returned : event = .shutdownReturned → storage.cancelled = true) :
    (storage.record event).Ordered encode := by
  have sameAccepted : ∀ request, .accepted request ∈ event :: storage.history →
      .accepted request ∈ storage.history := by
    intro request member
    exact (List.mem_cons.mp member).resolve_left (Ne.symm (notAccepted request))
  have sameInstalled : ∀ revision bytes, .installed revision bytes ∈ event :: storage.history →
      .installed revision bytes ∈ storage.history := by
    intro revision bytes member
    exact (List.mem_cons.mp member).resolve_left (Ne.symm (notInstalled revision bytes))
  refine ⟨sound, ?_, ?_, ?_, ?_, ordered.encodedAs, ?_, ?_, ordered.shuttingDown, ?_⟩
  · intro request member
    exact ordered.latest request (sameAccepted request member)
  · intro revision bytes member
    exact ordered.installed revision bytes (sameInstalled revision bytes member)
  · intro request pending
    obtain ⟨accepted, isLatest, below⟩ := ordered.pending request pending
    exact ⟨List.mem_cons_of_mem _ accepted, isLatest, fun revision bytes member =>
      below revision bytes (sameInstalled revision bytes member)⟩
  · intro request held
    obtain ⟨accepted, below, older⟩ := ordered.held request held
    exact ⟨List.mem_cons_of_mem _ accepted, fun revision bytes member =>
      below revision bytes (sameInstalled revision bytes member), older⟩
  · intro revision reported
    obtain ⟨bytes, member⟩ := ordered.reported revision reported
    exact ⟨bytes, List.mem_cons_of_mem _ member⟩
  · intro positive
    obtain ⟨revision, bytes, member, atLeast⟩ := ordered.persisted positive
    exact ⟨revision, bytes, List.mem_cons_of_mem _ member, atLeast⟩
  · intro member
    obtain same | earlier := List.mem_cons.mp member
    · exact returned same.symm
    · exact ordered.shutDown earlier

end Ordered

end EvidenceStorage

end StreamServer.Capability
