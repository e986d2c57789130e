import StreamServer.Shared.Runs

set_option autoImplicit false

namespace StreamServer.Capability

inductive StorageStatus where
  | uninitialized
  | writable
  | readOnlyLocked
  | unavailable
  | invalid
  | untrusted
  | persistFailed
deriving DecidableEq, Repr

inductive SeedStorageError where
  | cancelled
  | invalid
  | untrusted
  | unavailable
deriving DecidableEq, Repr

inductive PreparedStorage where
  | writer
  | lockedDisabled (status : StorageStatus)
  | reader
  | disabled (status : StorageStatus)
deriving DecidableEq, Repr

/-- What the platform answers while the storage is opened; `none` stands for success. -/
structure OpenAnswers where
  cancelled : Bool
  -- The blocking task ran to its end.
  joined : Bool
  cancelledLater : Bool
  directory : Option SeedStorageError
  lock : Except SeedStorageError Bool
  recovery : Option SeedStorageError

def SeedStorageError.status : SeedStorageError → StorageStatus
  | .untrusted | .invalid => .untrusted
  | .cancelled | .unavailable => .unavailable

def prepareEvidenceStorage (answers : OpenAnswers) : PreparedStorage :=
  if answers.cancelledLater then .disabled .unavailable
  else
    match answers.directory with
    | some error => .disabled error.status
    | none =>
        match answers.lock with
        | .ok false => .reader
        | .ok true =>
            match answers.recovery with
            | none => .writer
            | some error => .lockedDisabled error.status
        | .error error => .disabled error.status

def maxSafeRevision : Nat := 9007199254740991

variable {P C : Type}

/-- The runtime, the records and the clock of a request are its payload. -/
structure PersistenceRequest (P : Type) where
  revision : Nat
  payload : P
deriving DecidableEq, Repr

structure PersistenceQueue (P : Type) where
  latestRevision : Nat
  pending : Option (PersistenceRequest P)
  closing : Bool
deriving DecidableEq, Repr

inductive PersistOutcome where
  | installed (revision : Nat)
  | stale
  | cancelled
  | failed
deriving DecidableEq, Repr

/-- The worker task, with `persist_one` between its looks at the shared state. -/
inductive WorkerPhase (P C : Type) where
  | absent
  | checking
  -- The queue was open and empty; the notification future does not exist yet.
  | aboutToWait
  | created (notified : Bool)
  | parked
  | started (request : PersistenceRequest P)
  | encoded (request : PersistenceRequest P) (bytes : C)
  | written (request : PersistenceRequest P) (bytes : C)
  | beforeReplace (request : PersistenceRequest P) (bytes : C)
  | replaced (request : PersistenceRequest P)
  | persisted (outcome : PersistOutcome)
  | stored
  | reported
  | failing
  | closed
  | exited
deriving DecidableEq, Repr

def WorkerPhase.gone {P C : Type} : WorkerPhase P C → Bool
  | .absent | .exited => true
  | _ => false

/-- A call of `request_persist` between its checks, the queue's lock and `notify_one`. -/
inductive RequestPhase (P : Type) where
  | checked (request : PersistenceRequest P)
  | accepted (request : PersistenceRequest P)
  | returned (result : Bool)
deriving DecidableEq, Repr

inductive LoadPhase where
  | reading
  | settingBase
  | returned
deriving DecidableEq, Repr

inductive ShutdownPhase where
  | cancelled
  | closed
  | notified
  | returned
deriving DecidableEq, Repr

/-- A call of `wait_for_persisted`; its future is created before the checks. -/
inductive WaiterPhase where
  | created (revision : Nat) (notified : Bool)
  | checked (revision : Nat) (notified : Bool)
  | waiting (revision : Nat) (notified : Bool)
  | returned (result : Bool)
deriving DecidableEq, Repr

/-- What happened, the newest event first. -/
inductive Event (P C : Type) where
  | accepted (request : PersistenceRequest P)
  | installed (revision : Nat) (bytes : C)
  | shutdownReturned
  | persistedSeen (revision : Nat)
deriving DecidableEq, Repr

structure EvidenceStorage (P C : Type) where
  prepared : PreparedStorage
  baseStatus : StorageStatus
  status : StorageStatus
  directory : Bool
  authority : Bool
  persistedRevision : Nat
  queue : PersistenceQueue P
  poisoned : Bool
  -- The stored permit of `notify`.
  permit : Bool
  cancelled : Bool
  worker : WorkerPhase P C
  requests : List (RequestPhase P)
  loads : List LoadPhase
  shutdowns : List ShutdownPhase
  waiters : List WaiterPhase
  history : List (Event P C)
deriving DecidableEq, Repr

namespace EvidenceStorage

def withStatus (prepared : PreparedStorage) (status : StorageStatus)
    (directory authority : Bool) (worker : WorkerPhase P C) (cancelled : Bool) :
    EvidenceStorage P C where
  prepared := prepared
  baseStatus := status
  status := status
  directory := directory
  authority := authority
  persistedRevision := 0
  queue := ⟨0, none, false⟩
  poisoned := false
  permit := false
  cancelled := cancelled
  worker := worker
  requests := []
  loads := []
  shutdowns := []
  waiters := []
  history := []

def openWith (prepared : PreparedStorage) (cancelled : Bool) : EvidenceStorage P C :=
  match prepared with
  | .writer => withStatus prepared .writable true true .checking cancelled
  | .lockedDisabled status => withStatus prepared status true true .absent cancelled
  | .reader => withStatus prepared .readOnlyLocked true false .absent cancelled
  | .disabled status => withStatus prepared status false false .absent cancelled

def openStorage (answers : OpenAnswers) : EvidenceStorage P C :=
  if answers.cancelled then openWith (.disabled .unavailable) true
  else if answers.joined then openWith (prepareEvidenceStorage answers) answers.cancelledLater
  else openWith (.disabled .unavailable) answers.cancelledLater

inductive LoadResult where
  | loaded
  | identityMismatch
  | cancelled
  | invalid
  | untrusted
  | unavailable
  | joinFailed
deriving DecidableEq, Repr

/-- The rename can happen and still be reported as a failure; a panic poisons the queue. -/
inductive ReplaceAnswer where
  | replaced
  | renamedOnly
  | failed
  | panicked
deriving DecidableEq, Repr

inductive WorkerAction where
  | check
  | create
  | poll
  | encode (lockValid : Bool)
  | write (ok : Bool)
  | recheck
  | replace (lockValid : Bool) (answer : ReplaceAnswer)
  | sync (ok : Bool)
  | panic
  | store
  | report
  | notify
  | close
  | exit
deriving DecidableEq, Repr

inductive Action (P : Type) where
  | worker (action : WorkerAction)
  | cancelParent
  | requestPersist (request : PersistenceRequest P)
  | requestLock (index : Nat)
  | requestNotify (index : Nat)
  | loadEvidence
  | loadRead (index : Nat) (result : LoadResult)
  | loadSet (index : Nat)
  | beginShutdown
  | shutdownClose (index : Nat)
  | shutdownNotify (index : Nat)
  | shutdownComplete (index : Nat)
  | releaseAuthority
  | waitForPersisted (revision : Nat)
  | waitLoad (index : Nat)
  | waitCheck (index : Nat)
  | waitWake (index : Nat)
deriving DecidableEq, Repr

def refusesRequests : StorageStatus → Bool
  | .untrusted | .unavailable | .readOnlyLocked | .uninitialized => true
  | _ => false

def setRequest (storage : EvidenceStorage P C) (index : Nat) (phase : RequestPhase P) :
    EvidenceStorage P C :=
  { storage with requests := storage.requests.set index phase }

def setShutdown (storage : EvidenceStorage P C) (index : Nat) (phase : ShutdownPhase) :
    EvidenceStorage P C :=
  { storage with shutdowns := storage.shutdowns.set index phase }

def setWaiter (storage : EvidenceStorage P C) (index : Nat) (phase : WaiterPhase) :
    EvidenceStorage P C :=
  { storage with waiters := storage.waiters.set index phase }

-- `notify_one` wakes a registered waiter or stores a permit.
def notifyOne (storage : EvidenceStorage P C) : EvidenceStorage P C :=
  match storage.worker with
  | .parked => { storage with worker := .checking }
  | _ => { storage with permit := true }

-- `notify_waiters` reaches the futures that exist and stores nothing.
def notifyWaiters (storage : EvidenceStorage P C) : EvidenceStorage P C :=
  match storage.worker with
  | .parked => { storage with worker := .checking }
  | .created _ => { storage with worker := .created true }
  | _ => storage

def WaiterPhase.notify : WaiterPhase → WaiterPhase
  | .created revision _ => .created revision true
  | .checked revision _ => .checked revision true
  | .waiting revision _ => .waiting revision true
  | other => other

def notifyCompletion (storage : EvidenceStorage P C) : EvidenceStorage P C :=
  { storage with waiters := storage.waiters.map WaiterPhase.notify }

def close (storage : EvidenceStorage P C) : EvidenceStorage P C :=
  { storage with queue := { storage.queue with closing := true, pending := none } }

def record (storage : EvidenceStorage P C) (event : Event P C) : EvidenceStorage P C :=
  { storage with history := event :: storage.history }

variable (encode : P → Option C)

def stepWorker (storage : EvidenceStorage P C) : WorkerAction → Option (EvidenceStorage P C)
  | .check =>
      match storage.worker with
      | .checking =>
          if storage.poisoned then some { storage with status := .persistFailed, worker := .exited }
          else if storage.queue.closing then some { storage with worker := .exited }
          else
            match storage.queue.pending with
            | some request => some { storage with
                queue := { storage.queue with pending := none }
                worker := .started request }
            | none => some { storage with worker := .aboutToWait }
      | _ => none
  | .create =>
      match storage.worker with
      | .aboutToWait => some { storage with worker := .created false }
      | _ => none
  | .poll =>
      match storage.worker with
      | .created notified =>
          if notified then some { storage with worker := .checking }
          else if storage.permit then some { storage with permit := false, worker := .checking }
          else some { storage with worker := .parked }
      | _ => none
  | .encode lockValid =>
      match storage.worker with
      | .started request =>
          if storage.cancelled then some { storage with worker := .persisted .cancelled }
          else if !lockValid then some { storage with worker := .persisted .failed }
          else
            match encode request.payload with
            | some bytes => some { storage with worker := .encoded request bytes }
            | none => some { storage with worker := .persisted .failed }
      | _ => none
  | .write ok =>
      match storage.worker with
      | .encoded request bytes =>
          if storage.cancelled then some { storage with worker := .persisted .cancelled }
          else if ok then some { storage with worker := .written request bytes }
          else some { storage with worker := .persisted .failed }
      | _ => none
  | .recheck =>
      match storage.worker with
      | .written request bytes =>
          if storage.cancelled then some { storage with worker := .persisted .cancelled }
          else some { storage with worker := .beforeReplace request bytes }
      | _ => none
  | .replace lockValid answer =>
      match storage.worker with
      | .beforeReplace request bytes =>
          if storage.poisoned then some { storage with worker := .persisted .failed }
          else if storage.queue.closing || storage.cancelled then
            some { storage with worker := .persisted .cancelled }
          else if storage.queue.latestRevision ≠ request.revision then
            some { storage with worker := .persisted .stale }
          else if !lockValid then some { storage with worker := .persisted .failed }
          else
            match answer with
            | .replaced => some ({ storage with worker := .replaced request }.record
                (.installed request.revision bytes))
            | .renamedOnly => some ({ storage with worker := .persisted .failed }.record
                (.installed request.revision bytes))
            | .failed => some { storage with worker := .persisted .failed }
            | .panicked => some { storage with worker := .persisted .failed, poisoned := true }
      | _ => none
  | .sync ok =>
      match storage.worker with
      | .replaced request =>
          if ok then some { storage with worker := .persisted (.installed request.revision) }
          else some { storage with worker := .persisted .failed }
      | _ => none
  | .panic =>
      match storage.worker with
      | .started _ | .encoded _ _ | .written _ _ | .beforeReplace _ _ | .replaced _ =>
          some { storage with worker := .persisted .failed }
      | _ => none
  | .store =>
      match storage.worker with
      | .persisted (.installed revision) =>
          some { storage with persistedRevision := revision, worker := .stored }
      | .persisted .stale | .persisted .cancelled => some { storage with worker := .checking }
      | .persisted .failed => some { storage with status := .persistFailed, worker := .failing }
      | _ => none
  | .report =>
      match storage.worker with
      | .stored => some { storage with status := .writable, worker := .reported }
      | _ => none
  | .notify =>
      match storage.worker with
      | .reported => some { storage with worker := .checking }.notifyCompletion
      | _ => none
  | .close =>
      match storage.worker with
      | .failing =>
          if storage.poisoned then some { storage with worker := .closed }
          else some { storage with worker := .closed }.close
      | _ => none
  | .exit =>
      match storage.worker with
      | .closed => some { storage with worker := .exited }.notifyCompletion
      | _ => none

def admitsRequest (storage : EvidenceStorage P C) (revision : Nat) : Bool :=
  !(revision == 0 || decide (maxSafeRevision < revision) || !storage.authority ||
    refusesRequests storage.status)

def loaded (storage : EvidenceStorage P C) (index : Nat) (result : LoadResult) :
    EvidenceStorage P C :=
  let returned := { storage with loads := storage.loads.set index .returned }
  match result with
  | .loaded =>
      if storage.status = .persistFailed ∨ storage.status = .untrusted then returned
      else { storage with loads := storage.loads.set index .settingBase }
  | .identityMismatch | .cancelled => returned
  | .invalid => { returned with status := .invalid }
  | .untrusted => { returned with status := .untrusted }
  | .unavailable | .joinFailed => { returned with status := .unavailable }

def step (storage : EvidenceStorage P C) : Action P → Option (EvidenceStorage P C)
  | .worker action => storage.stepWorker encode action
  | .cancelParent => some { storage with cancelled := true }
  | .requestPersist request =>
      if storage.admitsRequest request.revision then
        some { storage with requests := storage.requests ++ [.checked request] }
      else some { storage with requests := storage.requests ++ [.returned false] }
  | .requestLock index =>
      match storage.requests[index]? with
      | some (.checked request) =>
          if storage.poisoned then
            some { storage.setRequest index (.returned false) with status := .persistFailed }
          else if storage.queue.closing || decide (request.revision ≤ storage.queue.latestRevision)
          then some (storage.setRequest index (.returned false))
          else some ({ storage.setRequest index (.accepted request) with
            queue := { storage.queue with
              latestRevision := request.revision, pending := some request } }.record
                (.accepted request))
      | _ => none
  | .requestNotify index =>
      match storage.requests[index]? with
      | some (.accepted _) => some (storage.setRequest index (.returned true)).notifyOne
      | _ => none
  | .loadEvidence =>
      if storage.cancelled || !storage.directory then some storage
      else some { storage with loads := storage.loads ++ [.reading] }
  | .loadRead index result =>
      match storage.loads[index]? with
      | some .reading => some (storage.loaded index result)
      | _ => none
  | .loadSet index =>
      match storage.loads[index]? with
      | some .settingBase => some { storage with
          loads := storage.loads.set index .returned, status := storage.baseStatus }
      | _ => none
  | .beginShutdown => some { storage with
      cancelled := true, shutdowns := storage.shutdowns ++ [.cancelled] }
  | .shutdownClose index =>
      match storage.shutdowns[index]? with
      | some .cancelled =>
          if storage.poisoned then
            some { storage.setShutdown index .closed with status := .persistFailed }
          else some (storage.setShutdown index .closed).close
      | _ => none
  | .shutdownNotify index =>
      match storage.shutdowns[index]? with
      | some .closed => some (storage.setShutdown index .notified).notifyWaiters
      | _ => none
  | .shutdownComplete index =>
      match storage.shutdowns[index]? with
      | some .notified => some
          ((storage.setShutdown index .returned).notifyCompletion.record .shutdownReturned)
      | _ => none
  -- `shutdown` has joined the worker and the tracked tasks.
  | .releaseAuthority =>
      if storage.shutdowns.contains .returned && storage.worker.gone then
        some { storage with authority := false }
      else none
  | .waitForPersisted revision => some { storage with
      waiters := storage.waiters ++ [.created revision false] }
  | .waitLoad index =>
      match storage.waiters[index]? with
      | some (.created revision notified) =>
          if revision ≤ storage.persistedRevision then
            some ((storage.setWaiter index (.returned true)).record (.persistedSeen revision))
          else some (storage.setWaiter index (.checked revision notified))
      | _ => none
  | .waitCheck index =>
      match storage.waiters[index]? with
      | some (.checked revision notified) =>
          if storage.poisoned || storage.queue.closing then
            some (storage.setWaiter index (.returned false))
          else some (storage.setWaiter index (.waiting revision notified))
      | _ => none
  | .waitWake index =>
      match storage.waiters[index]? with
      | some (.waiting revision true) => some (storage.setWaiter index (.created revision false))
      | _ => none

end EvidenceStorage

end StreamServer.Capability
