import StreamServer.Capability.StorageMoves
import StreamServer.Shared.Lists

set_option autoImplicit false

namespace StreamServer.Capability

namespace EvidenceStorage

variable {P C : Type} {encode : P → Option C} {storage next : EvidenceStorage P C}

section AcceptedRequests

def Accepts (storage : EvidenceStorage P C) (index : Nat) : Prop :=
  ∃ request, storage.requests[index]? = some (.checked request) ∧ storage.poisoned = false ∧
    storage.queue.closing = false ∧ storage.queue.latestRevision < request.revision

def AcceptsWithWorker (storage : EvidenceStorage P C) : Action P → Prop
  | .requestLock index => storage.Accepts index → storage.worker.gone = false
  | _ => True

-- Somebody is there to complete an accepted revision, or `wait_for_persisted` sees the queue closed.
def CompletesAccepted (storage : EvidenceStorage P C) : Prop :=
  0 < storage.queue.latestRevision → storage.queue.closing = false → storage.poisoned = false →
    storage.worker.gone = false

def LoadsValidCache (storage : EvidenceStorage P C) : Action P → Prop
  | .loadRead _ .invalid => ∀ status, storage.prepared ≠ .lockedDisabled status
  | _ => True

instance (storage : EvidenceStorage P C) : (action : Action P) →
    Decidable (storage.LoadsValidCache action)
  | .loadRead _ .invalid =>
      match other : storage.prepared with
      | .lockedDisabled status => isFalse fun valid => valid status other
      | .writer | .reader | .disabled _ => isTrue fun status same => by
          rw [other] at same
          cases same
  | .loadRead _ .loaded | .loadRead _ .identityMismatch | .loadRead _ .cancelled
  | .loadRead _ .untrusted | .loadRead _ .unavailable | .loadRead _ .joinFailed => isTrue trivial
  | .worker _ | .cancelParent | .requestPersist _ | .requestLock _ | .requestNotify _
  | .loadEvidence | .loadSet _ | .beginShutdown | .shutdownClose _ | .shutdownNotify _
  | .shutdownComplete _ | .releaseAuthority | .waitForPersisted _ | .waitLoad _ | .waitCheck _
  | .waitWake _ => isTrue trivial

structure WorkerBehind (storage : EvidenceStorage P C) : Prop where
  ended : storage.worker = .exited ∨ storage.worker = .closed →
    storage.queue.closing = true ∨ storage.poisoned = true
  unauthorised : storage.worker = .absent → storage.authority = true →
    ∃ status, storage.prepared = .lockedDisabled status
  refusing : storage.worker = .absent → storage.authority = true →
    refusesRequests storage.status = true ∧ refusesRequests storage.baseStatus = true
  unchecked : storage.worker = .absent → ∀ request, .checked request ∉ storage.requests
  unpoisoned : storage.worker = .absent → storage.poisoned = false
  unaccepted : storage.worker = .absent → storage.queue.latestRevision = 0

namespace WorkerBehind

theorem gone_eq_false (behind : storage.WorkerBehind) (accepted : 0 < storage.queue.latestRevision)
    (open_ : storage.queue.closing = false) (sound : storage.poisoned = false) :
    storage.worker.gone = false := by
  cases phase : storage.worker with
  | absent =>
    have none := behind.unaccepted phase
    omega
  | exited =>
    obtain closed | poisoned := behind.ended (.inl phase)
    · rw [open_] at closed
      cases closed
    · rw [sound] at poisoned
      cases poisoned
  | _ => rfl

theorem ofWorker (behind : storage.WorkerBehind) (frame : WorkerFrame storage next) :
    next.WorkerBehind := by
  have present := frame.present
  refine ⟨?_, ?_, ?_, ?_, ?_, ?_⟩
  · intro ended
    obtain closed | poisoned | before := frame.ended ended
    · exact .inl closed
    · exact .inr poisoned
    · exact (behind.ended (.inr before)).imp frame.closing frame.poisoned
  all_goals exact fun absent => absurd absent present.2

end WorkerBehind

structure CallerFrame (storage next : EvidenceStorage P C) : Prop where
  worker : next.worker = storage.worker ∨ next.worker = .checking ∨ next.worker = .created true
  absent : next.worker = .absent → storage.worker = .absent
  prepared : next.prepared = storage.prepared
  baseStatus : next.baseStatus = storage.baseStatus
  authority : next.authority = true → storage.authority = true
  closing : storage.queue.closing = true → next.queue.closing = true
  poisoned : next.poisoned = storage.poisoned

theorem step_callerFrame {action : Action P} (caller : ∀ inner, action ≠ .worker inner)
    (taken : storage.step encode action = some next) : CallerFrame storage next := by
  cases step_move taken with
  | worker inner => exact absurd rfl (caller inner)
  | requestNotified index =>
    unfold notifyOne
    split
    next => exact ⟨.inr (.inl rfl), by rintro ⟨⟩, rfl, rfl, id, id, rfl⟩
    next => exact ⟨.inl rfl, id, rfl, rfl, id, id, rfl⟩
  | shutdownNotified index =>
    unfold notifyWaiters
    split
    next => exact ⟨.inr (.inl rfl), by rintro ⟨⟩, rfl, rfl, id, id, rfl⟩
    next => exact ⟨.inr (.inr rfl), by rintro ⟨⟩, rfl, rfl, id, id, rfl⟩
    next => exact ⟨.inl rfl, id, rfl, rfl, id, id, rfl⟩
  | shutdownClosed index => exact ⟨.inl rfl, id, rfl, rfl, id, fun _ => rfl, rfl⟩
  | released => exact ⟨.inl rfl, id, rfl, rfl, by rintro ⟨⟩, id, rfl⟩
  | loadRead index result =>
    rw [loaded_eq]
    exact ⟨.inl rfl, id, rfl, rfl, id, id, rfl⟩
  | _ => exact ⟨.inl rfl, id, rfl, rfl, id, id, rfl⟩

theorem WorkerBehind.ofCaller (behind : storage.WorkerBehind) (frame : CallerFrame storage next)
    (refusing : storage.worker = .absent → storage.authority = true →
      refusesRequests next.status = true)
    (unchecked : storage.worker = .absent → ∀ request, .checked request ∉ next.requests)
    (unaccepted : storage.worker = .absent → next.queue.latestRevision = 0) :
    next.WorkerBehind := by
  refine ⟨?_, ?_, ?_, ?_, ?_, ?_⟩
  · intro ended
    have before : storage.worker = .exited ∨ storage.worker = .closed := by
      obtain same | checking | created := frame.worker
      · rwa [same] at ended
      · rw [checking] at ended
        simp at ended
      · rw [created] at ended
        simp at ended
    rw [frame.poisoned]
    exact (behind.ended before).imp_left frame.closing
  · intro absent authorised
    rw [frame.prepared]
    exact behind.unauthorised (frame.absent absent) (frame.authority authorised)
  · intro absent authorised
    rw [frame.baseStatus]
    have before := frame.absent absent
    have allowed := frame.authority authorised
    exact ⟨refusing before allowed, (behind.refusing before allowed).2⟩
  · intro absent
    exact unchecked (frame.absent absent)
  · intro absent
    rw [frame.poisoned]
    exact behind.unpoisoned (frame.absent absent)
  · intro absent
    exact unaccepted (frame.absent absent)

theorem WorkerBehind.ofQuiet (behind : storage.WorkerBehind) (frame : CallerFrame storage next)
    (sameStatus : storage.worker = .absent → next.status = storage.status)
    (kept : ∀ request, .checked request ∈ next.requests → .checked request ∈ storage.requests)
    (sameLatest : next.queue.latestRevision = storage.queue.latestRevision) :
    next.WorkerBehind := by
  refine behind.ofCaller frame ?_ ?_ ?_
  · intro absent authorised
    rw [sameStatus absent]
    exact (behind.refusing absent authorised).1
  · intro absent request checked
    exact behind.unchecked absent request (kept request checked)
  · intro absent
    rw [sameLatest]
    exact behind.unaccepted absent

theorem WorkerBehind.ofPresent (behind : storage.WorkerBehind) (frame : CallerFrame storage next)
    (present : storage.worker ≠ .absent) : next.WorkerBehind :=
  behind.ofCaller frame (fun absent => absurd absent present) (fun absent => absurd absent present)
    (fun absent => absurd absent present)

theorem step_workerBehind {action : Action P} (behind : storage.WorkerBehind)
    (valid : storage.LoadsValidCache action) (taken : storage.step encode action = some next) :
    next.WorkerBehind := by
  by_cases isWorker : ∃ inner, action = .worker inner
  · obtain ⟨inner, rfl⟩ := isWorker
    exact behind.ofWorker (stepWorker_move taken).frame
  have caller : ∀ inner, action ≠ .worker inner := fun inner same => isWorker ⟨inner, same⟩
  have frame := step_callerFrame caller taken
  cases step_move taken with
  | worker inner => exact absurd rfl (caller inner)
  | admitted request admits =>
    -- A refusing status or a missing authority turns the request away.
    refine behind.ofPresent frame ?_
    intro absent
    simp only [admitsRequest, Bool.not_eq_true', Bool.or_eq_false_iff] at admits
    have authorised : storage.authority = true := by
      simpa using admits.1.2
    rw [(behind.refusing absent authorised).1] at admits
    cases admits.2
  | turnedAway request => exact behind.ofQuiet frame (fun _ => rfl) (by simp) rfl
  | lockPoisoned index request checked | refused index request checked
  | accepted index request checked =>
    refine behind.ofPresent frame ?_
    intro absent
    exact behind.unchecked absent request (List.mem_of_getElem? checked)
  | loadRead index result =>
    refine behind.ofCaller frame ?_ ?_ ?_
    · intro absent authorised
      have before := (behind.refusing absent authorised).1
      obtain ⟨status, locked⟩ := behind.unauthorised absent authorised
      cases result with
      | invalid => exact absurd locked (valid status)
      | loaded =>
        unfold loaded
        simp only
        split <;> exact before
      | identityMismatch | cancelled => exact before
      | untrusted | unavailable | joinFailed => rfl
    · rw [loaded_eq]
      exact behind.unchecked
    · rw [loaded_eq]
      exact behind.unaccepted
  | loadSet index =>
    exact behind.ofCaller frame (fun absent authorised => (behind.refusing absent authorised).2)
      behind.unchecked behind.unaccepted
  | shutdownPoisoned index _ poisoned =>
    refine behind.ofQuiet frame ?_ (fun _ => id) rfl
    intro absent
    rw [behind.unpoisoned absent] at poisoned
    cases poisoned
  | requestNotified index =>
    refine behind.ofQuiet frame ?_ ?_ ?_ <;> rw [notifyOne_eq]
    · exact fun _ => rfl
    · intro request checked
      exact Lists.mem_of_mem_set_ne checked (by simp)
    · rfl
  | shutdownNotified index =>
    refine behind.ofQuiet frame ?_ ?_ ?_ <;> rw [notifyWaiters_eq]
    · exact fun _ => rfl
    · exact fun _ => id
    · rfl
  | _ => exact behind.ofQuiet frame (fun _ => rfl) (fun _ => id) rfl

theorem openStorage_workerBehind (answers : OpenAnswers) :
    (openStorage answers : EvidenceStorage P C).WorkerBehind := by
  have opened : ∀ (prepared : PreparedStorage) (cancelled : Bool),
      (∀ status, prepared = .lockedDisabled status → refusesRequests status = true) →
      (openWith prepared cancelled : EvidenceStorage P C).WorkerBehind := by
    intro prepared cancelled refusing
    cases prepared with
    | writer => exact ⟨by simp [openWith, withStatus], by simp [openWith, withStatus],
        by simp [openWith, withStatus], by simp [openWith, withStatus],
        by simp [openWith, withStatus], by simp [openWith, withStatus]⟩
    | lockedDisabled status =>
      have refuses := refusing status rfl
      exact ⟨by simp [openWith, withStatus], fun _ _ => ⟨status, rfl⟩,
        fun _ _ => ⟨refuses, refuses⟩, by simp [openWith, withStatus], fun _ => rfl, fun _ => rfl⟩
    | reader | disabled =>
      exact ⟨by simp [openWith, withStatus], by simp [openWith, withStatus],
        by simp [openWith, withStatus], by simp [openWith, withStatus], fun _ => rfl, fun _ => rfl⟩
  unfold openStorage
  split
  next => exact opened _ _ (by simp)
  split
  next =>
    refine opened _ _ ?_
    intro status locked
    unfold prepareEvidenceStorage at locked
    (repeat' split at locked) <;> cases locked
    next error _ => cases error <;> rfl
  next => exact opened _ _ (by simp)

theorem accepted_has_worker (encode : P → Option C) (answers : OpenAnswers)
    {actions : List (Action P)}
    (valid : Runs.Meets LoadsValidCache (step encode) (openStorage answers) actions) :
    Runs.Meets AcceptsWithWorker (step encode) (openStorage answers) actions ∧
      Runs.Always CompletesAccepted (step encode) (openStorage answers) actions := by
  have preserved : ∀ (storage : EvidenceStorage P C) (action : Action P) next,
      storage.WorkerBehind → storage.LoadsValidCache action →
      storage.step encode action = some next → next.WorkerBehind :=
    fun storage action next behind valid taken => step_workerBehind behind valid taken
  refine ⟨?_, ?_⟩
  · refine Runs.meets_of_meets preserved ?_ (openStorage_workerBehind answers) valid
    intro storage action next behind _ _
    cases action with
    | requestLock index =>
      rintro ⟨request, checked, sound, opened, _⟩
      cases phase : storage.worker with
      | absent => exact absurd (List.mem_of_getElem? checked) (behind.unchecked phase request)
      | exited =>
        obtain closed | poisoned := behind.ended (.inl phase)
        · rw [opened] at closed
          cases closed
        · rw [sound] at poisoned
          cases poisoned
      | _ => rfl
    | _ => trivial
  · refine (Runs.always_of_meets preserved (openStorage_workerBehind answers) valid).mono ?_
    intro storage behind accepted opened sound
    exact behind.gone_eq_false accepted opened sound

def writerAnswers : OpenAnswers := ⟨false, true, false, none, .ok true, none⟩

def lockedAnswers : OpenAnswers := ⟨false, true, false, none, .ok true, some .unavailable⟩

def unitEncode : Unit → Option Unit := some

def unitStep : EvidenceStorage Unit Unit → Action Unit → Option (EvidenceStorage Unit Unit) :=
  step unitEncode

def acceptingRun : List (Action Unit) :=
  [.loadEvidence, .loadRead 0 .invalid, .requestPersist ⟨1, ()⟩, .requestLock 0, .requestNotify 0]

theorem writer_accepts_with_worker :
    Runs.Meets AcceptsWithWorker unitStep (openStorage writerAnswers) acceptingRun ∧
      Runs.Always CompletesAccepted unitStep (openStorage writerAnswers) acceptingRun :=
  accepted_has_worker unitEncode writerAnswers (by decide)

-- An invalid cache file lets a locked but disabled storage accept requests that nobody handles.
theorem invalid_cache_accepts_without_worker :
    ∃ before after, Runs.run unitStep (openStorage lockedAnswers)
        [.loadEvidence, .loadRead 0 .invalid, .requestPersist ⟨1, ()⟩] = some before ∧
      before.Accepts 0 ∧ before.worker = .absent ∧
      Runs.run unitStep before [.requestLock 0, .requestNotify 0] = some after ∧
      after.requests = [.returned true] ∧ ¬ after.CompletesAccepted := by
  refine ⟨_, _, rfl, ⟨⟨1, ()⟩, rfl, rfl, rfl, by decide⟩, rfl, rfl, rfl, ?_⟩
  intro completes
  have worker := completes (by decide) rfl rfl
  cases worker

end AcceptedRequests

end EvidenceStorage

end StreamServer.Capability
