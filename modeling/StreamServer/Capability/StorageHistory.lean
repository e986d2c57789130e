import StreamServer.Capability.StorageWakeup

set_option autoImplicit false

namespace StreamServer.Capability

namespace EvidenceStorage

variable {P C : Type} {encode : P → Option C} {storage next : EvidenceStorage P C}

theorem Ordered.moved (ordered : storage.Ordered encode) {worker : WorkerPhase P C}
    (keptHeld : ∀ request, worker.holds = some request → storage.worker.holds = some request)
    (keptEncoded : ∀ request bytes, worker.encodedAs = some (request, bytes) →
      encode request.payload = some bytes)
    (keptReported : ∀ revision, worker.installedAs = some revision →
      storage.worker.installedAs = some revision) :
    { storage with worker := worker }.Ordered encode :=
  ordered.ofSame rfl rfl (fun _ => id) keptHeld keptEncoded keptReported rfl id ordered.shuttingDown

theorem Ordered.emptied (ordered : storage.Ordered encode) {worker : WorkerPhase P C}
    (released : worker.holds = none) (unencoded : worker.encodedAs = none)
    (unreported : worker.installedAs = none) : { storage with worker := worker }.Ordered encode := by
  refine ordered.moved ?_ ?_ ?_
  · intro request held
    exact absurd (released.symm.trans held) (by simp)
  · intro request bytes encoded
    exact absurd (unencoded.symm.trans encoded) (by simp)
  · intro revision reported
    exact absurd (unreported.symm.trans reported) (by simp)

structure SameQueue (storage next : EvidenceStorage P C) : Prop where
  history : next.history = storage.history
  queue : next.queue = storage.queue
  persisted : next.persistedRevision = storage.persistedRevision
  cancelled : next.cancelled = storage.cancelled
  shutdowns : next.shutdowns = storage.shutdowns

theorem Ordered.idled (ordered : storage.Ordered encode) (same : storage.SameQueue next)
    (released : next.worker.holds = none) (unencoded : next.worker.encodedAs = none)
    (unreported : next.worker.installedAs = none) : next.Ordered encode := by
  have emptied : Ordered encode { storage with worker := next.worker } :=
    ordered.emptied released unencoded unreported
  refine emptied.ofCaller same.history same.queue rfl same.persisted ?_ ?_
  · rw [same.cancelled]
    exact id
  · rw [same.cancelled, same.shutdowns]
    exact ordered.shuttingDown

theorem Ordered.carried (ordered : storage.Ordered encode) {worker : WorkerPhase P C}
    (sameHeld : worker.holds = storage.worker.holds)
    (sameEncoded : worker.encodedAs = storage.worker.encodedAs)
    (unreported : worker.installedAs = none) : { storage with worker := worker }.Ordered encode := by
  refine ordered.moved ?_ ?_ ?_
  · rw [sameHeld]
    exact fun _ => id
  · rw [sameEncoded]
    exact ordered.encodedAs
  · rw [unreported]
    exact fun _ impossible => by cases impossible

theorem Ordered.takenUp (ordered : storage.Ordered encode) {request : PersistenceRequest P}
    (pending : storage.queue.pending = some request) :
    Ordered encode { storage with
      queue := { storage.queue with pending := none }
      worker := .started request } := by
  obtain ⟨accepted, _, below⟩ := ordered.pending request pending
  refine ⟨ordered.sound, ordered.latest, ordered.installed, ?_, ?_, ?_, ?_, ordered.persisted,
    ordered.shuttingDown, ordered.shutDown⟩
  · intro other isPending
    cases isPending
  · intro other held
    cases held
    refine ⟨accepted, below, ?_⟩
    intro newer isPending
    cases isPending
  · intro other bytes encoded
    cases encoded
  · intro revision reported
    cases reported

theorem Ordered.stored (ordered : storage.Ordered encode) {revision : Nat}
    (persisted : storage.worker = .persisted (.installed revision)) :
    Ordered encode { storage with persistedRevision := revision, worker := .stored } := by
  obtain ⟨bytes, member⟩ := ordered.reported revision (by rw [persisted]; rfl)
  have emptied : Ordered encode { storage with worker := .stored } := ordered.emptied rfl rfl rfl
  exact ⟨emptied.sound, emptied.latest, emptied.installed, emptied.pending, emptied.held,
    emptied.encodedAs, emptied.reported, fun _ => ⟨revision, bytes, member, Nat.le_refl _⟩,
    emptied.shuttingDown, emptied.shutDown⟩

theorem Ordered.closed (ordered : storage.Ordered encode) :
    Ordered encode { storage with worker := .closed }.close := by
  have emptied : Ordered encode { storage with worker := .closed } := ordered.emptied rfl rfl rfl
  refine emptied.ofSame rfl rfl ?_ (fun _ => id) ?_ (fun _ => id) rfl id ordered.shuttingDown
  · intro request pending
    cases pending
  · intro request bytes encoded
    cases encoded

theorem Ordered.ofWorker (ordered : storage.Ordered encode) (moved : WorkerMove encode storage next) :
    next.Ordered encode := by
  cases moved with
  | tookUp request _ pending => exact ordered.takenUp pending
  | encoded request bytes started encodes =>
    refine ordered.moved ?_ ?_ ?_
    · intro other held
      rw [started]
      exact held
    · intro other content isEncoded
      cases isEncoded
      exact encodes
    · intro revision reported
      cases reported
  | wrote request bytes encoded =>
    exact ordered.carried (by rw [encoded]; rfl) (by rw [encoded]; rfl) rfl
  | rechecked request bytes written =>
    exact ordered.carried (by rw [written]; rfl) (by rw [written]; rfl) rfl
  | gaveUp outcome _ uninstalled =>
    refine ordered.emptied rfl rfl ?_
    cases outcome with
    | installed revision => exact absurd rfl (uninstalled revision)
    | stale | cancelled | failed => rfl
  | replaced request bytes after before running latest ends =>
    refine ordered.install before latest running ?_ ?_ ?_
    · obtain rfl | rfl := ends <;> rfl
    · obtain rfl | rfl := ends <;> rfl
    · intro revision reported
      obtain rfl | rfl := ends
      · exact (Option.some.inj reported).symm
      · cases reported
  | synced request replaced =>
    refine ordered.moved ?_ ?_ ?_
    · intro other held
      cases held
    · intro other bytes encoded
      cases encoded
    · intro revision reported
      rw [replaced]
      exact reported
  | stored revision persisted => exact ordered.stored persisted
  | closed => exact ordered.closed
  | poisonSeen | permitUsed | panicked | failed | reported | notified | exited =>
    exact ordered.idled ⟨rfl, rfl, rfl, rfl, rfl⟩ rfl rfl rfl
  | closingSeen | foundNothing | created | woken | parked | dropped | leftOpen =>
    exact ordered.emptied rfl rfl rfl

theorem notifyOne_ordered (ordered : storage.Ordered encode) : storage.notifyOne.Ordered encode := by
  unfold notifyOne
  split
  next => exact ordered.emptied rfl rfl rfl
  next => exact ordered.ofCaller rfl rfl rfl rfl id ordered.shuttingDown

theorem notifyWaiters_ordered (ordered : storage.Ordered encode) :
    storage.notifyWaiters.Ordered encode := by
  unfold notifyWaiters
  split
  next => exact ordered.emptied rfl rfl rfl
  next => exact ordered.emptied rfl rfl rfl
  next => exact ordered

theorem setShutdown_ordered (ordered : storage.Ordered encode) {index : Nat} {old : ShutdownPhase}
    (present : storage.shutdowns[index]? = some old) (phase : ShutdownPhase) :
    (storage.setShutdown index phase).Ordered encode := by
  refine ordered.ofCaller rfl rfl rfl rfl id ?_
  intro _
  refine ordered.shuttingDown ?_
  rintro empty
  rw [empty] at present
  cases present

theorem step_ordered {action : Action P} (ordered : storage.Ordered encode)
    (taken : storage.step encode action = some next) : next.Ordered encode := by
  cases step_move taken with
  | worker inner _ moved => exact ordered.ofWorker moved
  | accepted index request _ _ newer => exact ordered.accept newer _
  | requestNotified index =>
    exact notifyOne_ordered (ordered.ofCaller rfl rfl rfl rfl id ordered.shuttingDown)
  | shutdownPoisoned index cancelled =>
    have moved := setShutdown_ordered ordered cancelled .closed
    exact moved.ofCaller rfl rfl rfl rfl id moved.shuttingDown
  | shutdownClosed index cancelled =>
    have moved := setShutdown_ordered ordered cancelled .closed
    refine moved.ofSame rfl rfl ?_ (fun _ => id) moved.encodedAs (fun _ => id) rfl id
      moved.shuttingDown
    intro request pending
    cases pending
  | shutdownNotified index closed =>
    exact notifyWaiters_ordered (setShutdown_ordered ordered closed .notified)
  | shutdownCompleted index notified =>
    have moved := setShutdown_ordered ordered notified .returned
    have woken : (storage.setShutdown index .returned).notifyCompletion.Ordered encode :=
      moved.ofCaller rfl rfl rfl rfl id moved.shuttingDown
    refine woken.note woken.sound (by simp) (by simp) ?_
    intro _
    refine woken.shuttingDown ?_
    exact List.ne_nil_of_mem (Lists.mem_set_self notified)
  | seen index revision reached =>
    have moved : (storage.setWaiter index (.returned true)).Ordered encode :=
      ordered.ofCaller rfl rfl rfl rfl id ordered.shuttingDown
    refine moved.note ⟨?_, moved.sound⟩ (by simp) (by simp) (by simp)
    intro positive
    obtain ⟨other, bytes, member, atLeast⟩ := ordered.persisted (by omega)
    exact ⟨other, bytes, member, by omega⟩
  | shutdownBegun | cancelledParent =>
    exact ordered.ofCaller rfl rfl rfl rfl (fun _ => rfl) (fun _ => rfl)
  | loadRead index result =>
    rw [loaded_eq]
    exact ordered.ofCaller rfl rfl rfl rfl id ordered.shuttingDown
  | _ => exact ordered.ofCaller rfl rfl rfl rfl id ordered.shuttingDown

theorem openStorage_ordered (answers : OpenAnswers) :
    (openStorage answers : EvidenceStorage P C).Ordered encode := by
  have opened : ∀ (prepared : PreparedStorage) (cancelled : Bool),
      (openWith prepared cancelled : EvidenceStorage P C).Ordered encode := by
    intro prepared cancelled
    cases prepared <;>
      exact ⟨trivial, by simp [openWith, withStatus], by simp [openWith, withStatus],
        by simp [openWith, withStatus], by simp [openWith, withStatus, WorkerPhase.holds],
        by simp [openWith, withStatus, WorkerPhase.encodedAs],
        by simp [openWith, withStatus, WorkerPhase.installedAs], by simp [openWith, withStatus],
        by simp [openWith, withStatus], by simp [openWith, withStatus]⟩
  unfold openStorage
  (repeat' split) <;> exact opened _ _

theorem always_soundHistory (encode : P → Option C) (answers : OpenAnswers)
    (actions : List (Action P)) :
    Runs.Always (fun storage => SoundHistory encode storage.history) (step encode)
      (openStorage answers) actions := by
  have initial : (openStorage answers : EvidenceStorage P C).Ordered encode :=
    openStorage_ordered answers
  refine (Runs.always_of_preserved ?_ actions initial).mono ?_
  · intro storage action next ordered taken
    exact step_ordered ordered taken
  · intro storage ordered
    exact ordered.sound

-- Revision zero is no revision: waiting for it ends at once.
theorem revision_zero_is_seen_at_once :
    ∃ final, Runs.run unitStep (openStorage writerAnswers) [.waitForPersisted 0, .waitLoad 0] =
        some final ∧
      final.waiters = [.returned true] ∧ final.history = [.persistedSeen 0] :=
  ⟨_, rfl, rfl, rfl⟩

end EvidenceStorage

end StreamServer.Capability
