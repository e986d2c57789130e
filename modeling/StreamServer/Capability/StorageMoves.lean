import StreamServer.Capability.Storage

set_option autoImplicit false

namespace StreamServer.Capability

namespace EvidenceStorage

variable {P C : Type} {encode : P → Option C} {storage next : EvidenceStorage P C}

/-- The phases inside `persist_one`. -/
def WorkerPhase.persisting : WorkerPhase P C → Bool
  | .started _ | .encoded _ _ | .written _ _ | .beforeReplace _ _ | .replaced _ => true
  | _ => false

theorem WorkerPhase.ne_absent_of_persisting {worker : WorkerPhase P C}
    (persisting : persisting worker = true) : worker ≠ .absent := by
  rintro rfl
  cases persisting

/-- What one step of the worker does, a constructor for each of its ends. -/
inductive WorkerMove (encode : P → Option C) (storage : EvidenceStorage P C) :
    EvidenceStorage P C → Prop where
  | poisonSeen (checking : storage.worker = .checking) (poisoned : storage.poisoned = true) :
      WorkerMove encode storage { storage with status := .persistFailed, worker := .exited }
  | closingSeen (checking : storage.worker = .checking) (closing : storage.queue.closing = true) :
      WorkerMove encode storage { storage with worker := .exited }
  | tookUp (request : PersistenceRequest P) (checking : storage.worker = .checking)
      (pending : storage.queue.pending = some request) :
      WorkerMove encode storage { storage with
        queue := { storage.queue with pending := none }
        worker := .started request }
  | foundNothing (checking : storage.worker = .checking)
      (isOpen : storage.queue.closing = false) (empty : storage.queue.pending = none) :
      WorkerMove encode storage { storage with worker := .aboutToWait }
  | created (idle : storage.worker = .aboutToWait) :
      WorkerMove encode storage { storage with worker := .created false }
  | woken (created : storage.worker = .created true) :
      WorkerMove encode storage { storage with worker := .checking }
  | permitUsed (created : storage.worker = .created false) (permit : storage.permit = true) :
      WorkerMove encode storage { storage with permit := false, worker := .checking }
  | parked (created : storage.worker = .created false) (permit : storage.permit = false) :
      WorkerMove encode storage { storage with worker := .parked }
  | encoded (request : PersistenceRequest P) (bytes : C)
      (started : storage.worker = .started request) (encodes : encode request.payload = some bytes) :
      WorkerMove encode storage { storage with worker := .encoded request bytes }
  | wrote (request : PersistenceRequest P) (bytes : C)
      (encoded : storage.worker = .encoded request bytes) :
      WorkerMove encode storage { storage with worker := .written request bytes }
  | rechecked (request : PersistenceRequest P) (bytes : C)
      (written : storage.worker = .written request bytes) :
      WorkerMove encode storage { storage with worker := .beforeReplace request bytes }
  | gaveUp (outcome : PersistOutcome) (persisting : WorkerPhase.persisting storage.worker = true)
      (uninstalled : ∀ revision, outcome ≠ .installed revision) :
      WorkerMove encode storage { storage with worker := .persisted outcome }
  | replaced (request : PersistenceRequest P) (bytes : C) (after : WorkerPhase P C)
      (before : storage.worker = .beforeReplace request bytes)
      (running : storage.cancelled = false)
      (latest : storage.queue.latestRevision = request.revision)
      (ends : after = .replaced request ∨ after = .persisted .failed) :
      WorkerMove encode storage
        ({ storage with worker := after }.record (.installed request.revision bytes))
  | panicked (request : PersistenceRequest P) (bytes : C)
      (before : storage.worker = .beforeReplace request bytes) :
      WorkerMove encode storage { storage with worker := .persisted .failed, poisoned := true }
  | synced (request : PersistenceRequest P) (replaced : storage.worker = .replaced request) :
      WorkerMove encode storage { storage with worker := .persisted (.installed request.revision) }
  | stored (revision : Nat) (persisted : storage.worker = .persisted (.installed revision)) :
      WorkerMove encode storage { storage with persistedRevision := revision, worker := .stored }
  | dropped (outcome : PersistOutcome) (persisted : storage.worker = .persisted outcome)
      (uninstalled : outcome = .stale ∨ outcome = .cancelled) :
      WorkerMove encode storage { storage with worker := .checking }
  | failed (persisted : storage.worker = .persisted .failed) :
      WorkerMove encode storage { storage with status := .persistFailed, worker := .failing }
  | reported (stored : storage.worker = .stored) :
      WorkerMove encode storage { storage with status := .writable, worker := .reported }
  | notified (reported : storage.worker = .reported) :
      WorkerMove encode storage { storage with worker := .checking }.notifyCompletion
  | leftOpen (failing : storage.worker = .failing) (poisoned : storage.poisoned = true) :
      WorkerMove encode storage { storage with worker := .closed }
  | closed (failing : storage.worker = .failing) (unpoisoned : storage.poisoned = false) :
      WorkerMove encode storage { storage with worker := .closed }.close
  | exited (closed : storage.worker = .closed) :
      WorkerMove encode storage { storage with worker := .exited }.notifyCompletion

theorem replace_move {lockValid : Bool} {answer : ReplaceAnswer}
    (taken : storage.stepWorker encode (.replace lockValid answer) = some next) :
    WorkerMove encode storage next := by
  simp only [stepWorker] at taken
  split at taken
  next request bytes before =>
    have persisting : WorkerPhase.persisting storage.worker = true := by
      rw [before]
      rfl
    split at taken
    next =>
      cases taken
      exact .gaveUp .failed persisting (by rintro _ ⟨⟩)
    split at taken
    next =>
      cases taken
      exact .gaveUp .cancelled persisting (by rintro _ ⟨⟩)
    next isOpen =>
      have running : storage.cancelled = false := by
        simp only [Bool.or_eq_true, not_or, Bool.not_eq_true] at isOpen
        exact isOpen.2
      split at taken
      next =>
        cases taken
        exact .gaveUp .stale persisting (by rintro _ ⟨⟩)
      next current =>
        have latest : storage.queue.latestRevision = request.revision := by
          simpa using current
        split at taken
        next =>
          cases taken
          exact .gaveUp .failed persisting (by rintro _ ⟨⟩)
        split at taken
        next =>
          cases taken
          exact .replaced request bytes _ before running latest (.inl rfl)
        next =>
          cases taken
          exact .replaced request bytes _ before running latest (.inr rfl)
        next =>
          cases taken
          exact .gaveUp .failed persisting (by rintro _ ⟨⟩)
        next =>
          cases taken
          exact .panicked request bytes before
  next => cases taken

theorem stepWorker_move {action : WorkerAction}
    (taken : storage.stepWorker encode action = some next) : WorkerMove encode storage next := by
  cases action with
  | check =>
    simp only [stepWorker] at taken
    split at taken
    next checking =>
      split at taken
      next poisoned =>
        cases taken
        exact .poisonSeen checking poisoned
      split at taken
      next closing =>
        cases taken
        exact .closingSeen checking closing
      next isOpen =>
        split at taken
        next request pending =>
          cases taken
          exact .tookUp request checking pending
        next empty =>
          cases taken
          exact .foundNothing checking (Bool.not_eq_true _ ▸ isOpen) empty
    next => cases taken
  | create =>
    simp only [stepWorker] at taken
    split at taken
    next idle =>
      cases taken
      exact .created idle
    next => cases taken
  | poll =>
    simp only [stepWorker] at taken
    split at taken
    next notified created =>
      cases notified with
      | true =>
        cases taken
        exact .woken created
      | false =>
        simp only [Bool.false_eq_true, if_false] at taken
        split at taken
        next permit =>
          cases taken
          exact .permitUsed created permit
        next permit =>
          cases taken
          exact .parked created (Bool.not_eq_true _ ▸ permit)
    next => cases taken
  | encode lockValid =>
    simp only [stepWorker] at taken
    split at taken
    next request started =>
      have persisting : WorkerPhase.persisting storage.worker = true := by
        rw [started]
        rfl
      split at taken
      next =>
        cases taken
        exact .gaveUp .cancelled persisting (by rintro _ ⟨⟩)
      split at taken
      next =>
        cases taken
        exact .gaveUp .failed persisting (by rintro _ ⟨⟩)
      split at taken
      next bytes encodes =>
        cases taken
        exact .encoded request bytes started encodes
      next =>
        cases taken
        exact .gaveUp .failed persisting (by rintro _ ⟨⟩)
    next => cases taken
  | write ok =>
    simp only [stepWorker] at taken
    split at taken
    next request bytes encoded =>
      have persisting : WorkerPhase.persisting storage.worker = true := by
        rw [encoded]
        rfl
      split at taken
      next =>
        cases taken
        exact .gaveUp .cancelled persisting (by rintro _ ⟨⟩)
      split at taken
      next =>
        cases taken
        exact .wrote request bytes encoded
      next =>
        cases taken
        exact .gaveUp .failed persisting (by rintro _ ⟨⟩)
    next => cases taken
  | recheck =>
    simp only [stepWorker] at taken
    split at taken
    next request bytes written =>
      split at taken
      next =>
        cases taken
        exact .gaveUp .cancelled (by rw [written]; rfl) (by rintro _ ⟨⟩)
      next =>
        cases taken
        exact .rechecked request bytes written
    next => cases taken
  | replace lockValid answer => exact replace_move taken
  | sync ok =>
    simp only [stepWorker] at taken
    split at taken
    next request replaced =>
      split at taken
      next =>
        cases taken
        exact .synced request replaced
      next =>
        cases taken
        exact .gaveUp .failed (by rw [replaced]; rfl) (by rintro _ ⟨⟩)
    next => cases taken
  | panic =>
    simp only [stepWorker] at taken
    split at taken
    case h_6 => cases taken
    all_goals
      next inside =>
        cases taken
        exact .gaveUp .failed (by rw [inside]; rfl) (by rintro _ ⟨⟩)
  | store =>
    simp only [stepWorker] at taken
    split at taken
    next revision persisted =>
      cases taken
      exact .stored revision persisted
    next persisted =>
      cases taken
      exact .dropped .stale persisted (.inl rfl)
    next persisted =>
      cases taken
      exact .dropped .cancelled persisted (.inr rfl)
    next persisted =>
      cases taken
      exact .failed persisted
    next => cases taken
  | report =>
    simp only [stepWorker] at taken
    split at taken
    next stored =>
      cases taken
      exact .reported stored
    next => cases taken
  | notify =>
    simp only [stepWorker] at taken
    split at taken
    next reported =>
      cases taken
      exact .notified reported
    next => cases taken
  | close =>
    simp only [stepWorker] at taken
    split at taken
    next failing =>
      split at taken
      next poisoned =>
        cases taken
        exact .leftOpen failing poisoned
      next unpoisoned =>
        cases taken
        exact .closed failing (Bool.not_eq_true _ ▸ unpoisoned)
    next => cases taken
  | exit =>
    simp only [stepWorker] at taken
    split at taken
    next closed =>
      cases taken
      exact .exited closed
    next => cases taken

/-- What one step does, a constructor for each of its ends. -/
inductive Move (encode : P → Option C) (storage : EvidenceStorage P C) :
    Action P → EvidenceStorage P C → Prop where
  | worker (inner : WorkerAction) (next : EvidenceStorage P C)
      (moved : WorkerMove encode storage next) : Move encode storage (.worker inner) next
  | cancelledParent : Move encode storage .cancelParent { storage with cancelled := true }
  | admitted (request : PersistenceRequest P) (admits : storage.admitsRequest request.revision = true) :
      Move encode storage (.requestPersist request)
        { storage with requests := storage.requests ++ [.checked request] }
  | turnedAway (request : PersistenceRequest P) :
      Move encode storage (.requestPersist request)
        { storage with requests := storage.requests ++ [.returned false] }
  | lockPoisoned (index : Nat) (request : PersistenceRequest P)
      (checked : storage.requests[index]? = some (.checked request)) :
      Move encode storage (.requestLock index)
        { storage.setRequest index (.returned false) with status := .persistFailed }
  | refused (index : Nat) (request : PersistenceRequest P)
      (checked : storage.requests[index]? = some (.checked request)) :
      Move encode storage (.requestLock index) (storage.setRequest index (.returned false))
  | accepted (index : Nat) (request : PersistenceRequest P)
      (checked : storage.requests[index]? = some (.checked request))
      (isOpen : storage.queue.closing = false)
      (newer : storage.queue.latestRevision < request.revision) :
      Move encode storage (.requestLock index)
        ({ storage.setRequest index (.accepted request) with
          queue := { storage.queue with
            latestRevision := request.revision, pending := some request } }.record
              (.accepted request))
  | requestNotified (index : Nat) :
      Move encode storage (.requestNotify index)
        (storage.setRequest index (.returned true)).notifyOne
  | loadSkipped : Move encode storage .loadEvidence storage
  | loadStarted :
      Move encode storage .loadEvidence { storage with loads := storage.loads ++ [.reading] }
  | loadRead (index : Nat) (result : LoadResult) :
      Move encode storage (.loadRead index result) (storage.loaded index result)
  | loadSet (index : Nat) :
      Move encode storage (.loadSet index) { storage with
        loads := storage.loads.set index .returned, status := storage.baseStatus }
  | shutdownBegun :
      Move encode storage .beginShutdown { storage with
        cancelled := true, shutdowns := storage.shutdowns ++ [.cancelled] }
  | shutdownPoisoned (index : Nat) (cancelled : storage.shutdowns[index]? = some .cancelled)
      (poisoned : storage.poisoned = true) :
      Move encode storage (.shutdownClose index)
        { storage.setShutdown index .closed with status := .persistFailed }
  | shutdownClosed (index : Nat) (cancelled : storage.shutdowns[index]? = some .cancelled) :
      Move encode storage (.shutdownClose index) (storage.setShutdown index .closed).close
  | shutdownNotified (index : Nat) (closed : storage.shutdowns[index]? = some .closed) :
      Move encode storage (.shutdownNotify index)
        (storage.setShutdown index .notified).notifyWaiters
  | shutdownCompleted (index : Nat) (notified : storage.shutdowns[index]? = some .notified) :
      Move encode storage (.shutdownComplete index)
        ((storage.setShutdown index .returned).notifyCompletion.record .shutdownReturned)
  | released (returned : storage.shutdowns.contains .returned = true)
      (gone : storage.worker.gone = true) :
      Move encode storage .releaseAuthority { storage with authority := false }
  | waitStarted (revision : Nat) :
      Move encode storage (.waitForPersisted revision) { storage with
        waiters := storage.waiters ++ [.created revision false] }
  | seen (index revision : Nat) (reached : revision ≤ storage.persistedRevision) :
      Move encode storage (.waitLoad index)
        ((storage.setWaiter index (.returned true)).record (.persistedSeen revision))
  | waiterMoved {action : Action P} (index : Nat) (phase : WaiterPhase)
      (waits : action = .waitLoad index ∨ action = .waitCheck index ∨ action = .waitWake index) :
      Move encode storage action (storage.setWaiter index phase)

theorem step_move {action : Action P} (taken : storage.step encode action = some next) :
    Move encode storage action next := by
  cases action with
  | worker inner => exact .worker inner next (stepWorker_move taken)
  | cancelParent =>
    cases taken
    exact .cancelledParent
  | requestPersist request =>
    simp only [step] at taken
    split at taken
    next admits =>
      cases taken
      exact .admitted request admits
    next =>
      cases taken
      exact .turnedAway request
  | requestLock index =>
    simp only [step] at taken
    split at taken
    next request checked =>
      split at taken
      next =>
        cases taken
        exact .lockPoisoned index request checked
      split at taken
      next =>
        cases taken
        exact .refused index request checked
      next fresh =>
        cases taken
        simp only [Bool.or_eq_true, decide_eq_true_eq, not_or, Bool.not_eq_true, Nat.not_le] at fresh
        exact .accepted index request checked fresh.1 fresh.2
    next => cases taken
  | requestNotify index =>
    simp only [step] at taken
    split at taken
    next =>
      cases taken
      exact .requestNotified index
    next => cases taken
  | loadEvidence =>
    simp only [step] at taken
    split at taken
    next =>
      cases taken
      exact .loadSkipped
    next =>
      cases taken
      exact .loadStarted
  | loadRead index result =>
    simp only [step] at taken
    split at taken
    next =>
      cases taken
      exact .loadRead index result
    next => cases taken
  | loadSet index =>
    simp only [step] at taken
    split at taken
    next =>
      cases taken
      exact .loadSet index
    next => cases taken
  | beginShutdown =>
    cases taken
    exact .shutdownBegun
  | shutdownClose index =>
    simp only [step] at taken
    split at taken
    next cancelled =>
      split at taken
      next poisoned =>
        cases taken
        exact .shutdownPoisoned index cancelled poisoned
      next =>
        cases taken
        exact .shutdownClosed index cancelled
    next => cases taken
  | shutdownNotify index =>
    simp only [step] at taken
    split at taken
    next closed =>
      cases taken
      exact .shutdownNotified index closed
    next => cases taken
  | shutdownComplete index =>
    simp only [step] at taken
    split at taken
    next notified =>
      cases taken
      exact .shutdownCompleted index notified
    next => cases taken
  | releaseAuthority =>
    simp only [step] at taken
    split at taken
    next both =>
      cases taken
      obtain ⟨returned, gone⟩ := Bool.and_eq_true_iff.mp both
      exact .released returned gone
    next => cases taken
  | waitForPersisted revision =>
    cases taken
    exact .waitStarted revision
  | waitLoad index =>
    simp only [step] at taken
    split at taken
    next revision notified _ =>
      split at taken
      next reached =>
        cases taken
        exact .seen index revision reached
      next =>
        cases taken
        exact .waiterMoved index _ (.inl rfl)
    next => cases taken
  | waitCheck index =>
    simp only [step] at taken
    split at taken
    next =>
      split at taken
      next =>
        cases taken
        exact .waiterMoved index _ (.inr (.inl rfl))
      next =>
        cases taken
        exact .waiterMoved index _ (.inr (.inl rfl))
    next => cases taken
  | waitWake index =>
    simp only [step] at taken
    split at taken
    next =>
      cases taken
      exact .waiterMoved index _ (.inr (.inr rfl))
    next => cases taken

-- A read of the cache and the two notifications leave everything else as it is.

theorem loaded_eq (storage : EvidenceStorage P C) (index : Nat) (result : LoadResult) :
    storage.loaded index result = { storage with
      loads := (storage.loaded index result).loads
      status := (storage.loaded index result).status } := by
  unfold loaded
  cases result with
  | loaded =>
    simp only
    split <;> rfl
  | _ => rfl

theorem notifyOne_eq (storage : EvidenceStorage P C) :
    storage.notifyOne = { storage with
      worker := storage.notifyOne.worker
      permit := storage.notifyOne.permit } := by
  unfold notifyOne
  split <;> rfl

theorem notifyWaiters_eq (storage : EvidenceStorage P C) :
    storage.notifyWaiters = { storage with worker := storage.notifyWaiters.worker } := by
  unfold notifyWaiters
  split <;> rfl

structure WorkerFrame (storage next : EvidenceStorage P C) : Prop where
  prepared : next.prepared = storage.prepared
  baseStatus : next.baseStatus = storage.baseStatus
  authority : next.authority = storage.authority
  requests : next.requests = storage.requests
  shutdowns : next.shutdowns = storage.shutdowns
  latest : next.queue.latestRevision = storage.queue.latestRevision
  closing : storage.queue.closing = true → next.queue.closing = true
  poisoned : storage.poisoned = true → next.poisoned = true
  present : storage.worker ≠ .absent ∧ next.worker ≠ .absent
  -- The worker ends only with the queue closed or poisoned.
  ended : (next.worker = .exited ∨ next.worker = .closed) →
    next.queue.closing = true ∨ next.poisoned = true ∨ storage.worker = .closed
  -- On its way to the wait it has seen the queue open.
  waiting : next.worker = .aboutToWait → next.queue.closing = false
  created : next.worker = .created false → storage.worker = .aboutToWait ∧
    next.permit = storage.permit ∧ next.queue.closing = storage.queue.closing
  parked : next.worker = .parked → storage.worker = .created false ∧
    next.permit = storage.permit ∧ next.queue.closing = storage.queue.closing
  permit : next.permit = true → storage.permit = true

theorem WorkerMove.frame (moved : WorkerMove encode storage next) : WorkerFrame storage next := by
  -- Every end sets the phase and at most the queue, the permit, the statuses and the history.
  cases moved with
  | gaveUp outcome persisting uninstalled =>
    have present := WorkerPhase.ne_absent_of_persisting persisting
    constructor <;> simp_all
  | dropped outcome persisted uninstalled => constructor <;> simp_all
  | replaced request bytes after before running latest ends =>
    obtain rfl | rfl := ends <;> constructor <;> simp_all [record]
  | _ => constructor <;> simp_all [close, notifyCompletion]

end EvidenceStorage

end StreamServer.Capability
