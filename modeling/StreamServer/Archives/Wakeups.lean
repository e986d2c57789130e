import StreamServer.Archives.ProgressiveCache
import StreamServer.Shared.Lists

set_option autoImplicit false

namespace StreamServer.Archives

def ReaderPhase.unreachable : ReaderPhase → Option StateSnapshot
  | .checking snapshot _ | .lacking snapshot _ | .parked snapshot false => some snapshot
  | _ => none

def ReaderPhase.unnotified : ReaderPhase → Option StateSnapshot
  | .checking snapshot _ | .lacking snapshot _ | .created snapshot _ false
  | .registered snapshot false | .parked snapshot false => some snapshot
  | _ => none

namespace ProgressiveCache

def Gained (cache : ProgressiveCache) (snapshot : StateSnapshot) : Prop :=
  (snapshot.writtenBytes < cache.state.writtenBytes ∧
    cache.reader.pos < cache.state.writtenBytes) ∨
  (snapshot.isComplete = false ∧ cache.state.isComplete = true) ∨
  (snapshot.error = none ∧ cache.state.error ≠ none)

instance (cache : ProgressiveCache) (snapshot : StateSnapshot) :
    Decidable (cache.Gained snapshot) :=
  inferInstanceAs (Decidable (_ ∨ _ ∨ _))

def Notifying (cache : ProgressiveCache) : Prop :=
  ∃ writer ∈ cache.writers, writer.phase = .notifying

def WokenByGains (cache : ProgressiveCache) : Prop :=
  ∀ snapshot woken, cache.reader.phase = .parked snapshot woken → cache.Gained snapshot →
    ¬ cache.Notifying → woken = true

-- `notify_waiters` with something new for the reader is not called between its snapshot and the
-- creation of its future, nor after that future has been dropped.
def ReachesReader (cache : ProgressiveCache) : Action → Prop
  | .notifyWaiters _ =>
      ∀ snapshot ∈ cache.reader.phase.unreachable, ¬ cache.Gained snapshot
  | _ => True

instance (cache : ProgressiveCache) : (action : Action) → Decidable (cache.ReachesReader action)
  | .notifyWaiters _ => inferInstanceAs
      (Decidable (∀ snapshot ∈ cache.reader.phase.unreachable, ¬ cache.Gained snapshot))
  | .cloneSync | .write _ _ | .finish _ | .setError _ _ | .sendModify _ | .flushed _ | .poll _
  | .read _ | .createNotified | .pollNotified | .returnPending | .seek _ | .seekFailed =>
      isTrue trivial

def NotificationsToCome (cache : ProgressiveCache) : Prop :=
  ∀ snapshot ∈ cache.reader.phase.unnotified, cache.Gained snapshot → cache.Notifying

section Steps

variable {cache : ProgressiveCache}

theorem not_gained_state (sound : cache.state.error = none) : ¬ cache.Gained cache.state := by
  rintro (⟨more, _⟩ | ⟨before, after⟩ | ⟨_, failed⟩)
  · exact Nat.lt_irrefl _ more
  · rw [before] at after
    cases after
  · exact failed sound

theorem Notifying.set {writers : List Writer} {index : Nat} {writer other : Writer}
    (present : writers[index]? = some writer) (quiet : writer.phase ≠ .notifying)
    (notifying : ∃ writer ∈ writers, writer.phase = .notifying) :
    ∃ writer ∈ writers.set index other, writer.phase = .notifying := by
  obtain ⟨found, member, isNotifying⟩ := notifying
  refine ⟨found, Lists.mem_set_of_ne present ?_ member, isNotifying⟩
  rintro rfl
  exact quiet isNotifying

theorem NotificationsToCome.of_writers {next : ProgressiveCache} (invariant : cache.NotificationsToCome)
    (sameState : next.state = cache.state) (sameReader : next.reader = cache.reader)
    (kept : cache.Notifying → next.Notifying) : next.NotificationsToCome := by
  intro snapshot unnotified gained
  rw [sameReader] at unnotified
  refine kept (invariant snapshot unnotified ?_)
  unfold Gained at gained ⊢
  rw [sameState, sameReader] at gained
  exact gained

theorem NotificationsToCome.of_reader {reader : ProgressiveReader}
    (invariant : cache.NotificationsToCome) (samePos : reader.pos = cache.reader.pos)
    (sameSnapshot : ∀ snapshot ∈ reader.phase.unnotified,
      snapshot ∈ cache.reader.phase.unnotified) :
    (cache.setReader reader).NotificationsToCome := by
  intro snapshot unnotified gained
  refine invariant snapshot (sameSnapshot snapshot unnotified) ?_
  unfold Gained at gained ⊢
  simp only [setReader, samePos] at gained
  exact gained

theorem NotificationsToCome.of_fresh {reader : ProgressiveReader} (sound : cache.state.error = none)
    (samePos : reader.pos = cache.reader.pos)
    (fresh : ∀ snapshot ∈ reader.phase.unnotified, snapshot = cache.state) :
    (cache.setReader reader).NotificationsToCome := by
  intro snapshot unnotified gained
  cases fresh snapshot unnotified
  refine absurd ?_ (not_gained_state sound)
  unfold Gained at gained ⊢
  simp only [setReader, samePos] at gained
  exact gained

theorem NotificationsToCome.of_none {reader : ProgressiveReader}
    (none : reader.phase.unnotified = none) :
    (cache.setReader reader).NotificationsToCome := by
  intro snapshot unnotified
  rw [show (cache.setReader reader).reader = reader from rfl, none] at unnotified
  cases unnotified

theorem readAvailable_phase (snapshot : StateSnapshot) (buf : ReadBuf) (answer : FilePoll) :
    (cache.readAvailable snapshot buf answer).phase.unnotified = none ∨
      ((cache.readAvailable snapshot buf answer).pos = cache.reader.pos ∧
        (cache.readAvailable snapshot buf answer).phase.unnotified = some snapshot) := by
  unfold readAvailable returnReady
  simp only
  split
  next =>
    split
    next => exact .inl rfl
    next =>
      split
      next =>
        split
        next =>
          split
          next => exact .inl rfl
          next => exact .inr ⟨rfl, rfl⟩
        next => exact .inl rfl
      next => exact .inl rfl
      next => exact .inl rfl
  next =>
    split
    next => exact .inl rfl
    next => exact .inr ⟨rfl, rfl⟩

theorem step_notificationsToCome {next : ProgressiveCache} {action : Action}
    (invariant : cache.NotificationsToCome) (reaches : cache.ReachesReader action)
    (taken : cache.step action = some next) : next.NotificationsToCome := by
  cases action with
  | cloneSync =>
    cases taken
    refine invariant.of_writers rfl rfl ?_
    rintro ⟨writer, member, isNotifying⟩
    exact ⟨writer, List.mem_append_left _ member, isNotifying⟩
  | write index data =>
    obtain ⟨writer, present, taken⟩ := Option.bind_eq_some_iff.mp taken
    obtain ⟨_, idle, taken⟩ := Option.bind_eq_some_iff.mp taken
    cases taken
    have quiet : writer.phase = .idle := by simpa [guard] using idle
    exact invariant.of_writers rfl rfl (Notifying.set present (by simp [quiet]))
  | finish index =>
    obtain ⟨writer, present, taken⟩ := Option.bind_eq_some_iff.mp taken
    obtain ⟨_, idle, taken⟩ := Option.bind_eq_some_iff.mp taken
    cases taken
    have quiet : writer.phase = .idle := by simpa [guard] using idle
    exact invariant.of_writers rfl rfl (Notifying.set present (by simp [quiet]))
  | setError index error =>
    obtain ⟨writer, present, taken⟩ := Option.bind_eq_some_iff.mp taken
    obtain ⟨_, idle, taken⟩ := Option.bind_eq_some_iff.mp taken
    cases taken
    have quiet : writer.phase = .idle := by simpa [guard] using idle
    exact invariant.of_writers rfl rfl (Notifying.set present (by simp [quiet]))
  | sendModify index =>
    obtain ⟨writer, present, taken⟩ := Option.bind_eq_some_iff.mp taken
    split at taken
    next =>
      cases taken
      -- The writer that changed the state has its notification still to send.
      intro snapshot _ _
      refine ⟨{ writer with phase := .notifying }, ?_, rfl⟩
      exact Lists.mem_set_self present
    next => cases taken
  | notifyWaiters index =>
    obtain ⟨writer, present, taken⟩ := Option.bind_eq_some_iff.mp taken
    obtain ⟨_, _, taken⟩ := Option.bind_eq_some_iff.mp taken
    cases taken
    intro snapshot unnotified gained
    have missed : snapshot ∈ cache.reader.phase.unreachable := by
      revert unnotified
      show snapshot ∈ cache.reader.phase.notified.unnotified → _
      cases cache.reader.phase <;> simp [ReaderPhase.notified, ReaderPhase.unnotified,
        ReaderPhase.unreachable]
      next found woken => cases woken <;> simp
    exact absurd gained (reaches snapshot missed)
  | flushed index =>
    obtain ⟨writer, present, taken⟩ := Option.bind_eq_some_iff.mp taken
    cases taken
    refine invariant.of_writers rfl rfl ?_
    intro notifying
    by_cases quiet : writer.phase = .notifying
    · exact ⟨_, Lists.mem_set_self present, quiet⟩
    · exact Notifying.set present quiet notifying
  | poll buf =>
    simp only [step] at taken
    split at taken
    all_goals first
      | (split at taken
         next =>
           cases taken
           exact .of_none rfl
         next sound =>
           cases taken
           refine .of_fresh sound rfl ?_
           intro snapshot fresh
           exact (Option.some.inj fresh).symm)
      | cases taken
  | read answer =>
    simp only [step] at taken
    split at taken
    next snapshot buf checking =>
      cases taken
      obtain none | ⟨samePos, same⟩ := cache.readAvailable_phase snapshot buf answer
      · exact .of_none none
      · refine invariant.of_reader samePos ?_
        intro other isOther
        rw [same] at isOther
        rw [checking]
        exact isOther
    next => cases taken
  | createNotified =>
    simp only [step] at taken
    split at taken
    next snapshot buf lacking =>
      cases taken
      refine invariant.of_reader rfl ?_
      intro other isOther
      rw [lacking]
      exact isOther
    next => cases taken
  | pollNotified =>
    simp only [step] at taken
    split at taken
    next =>
      split at taken
      next =>
        cases taken
        exact .of_none rfl
      next sound =>
        cases taken
        refine .of_fresh sound rfl ?_
        intro snapshot fresh
        exact (Option.some.inj fresh).symm
    next snapshot buf created =>
      cases taken
      refine invariant.of_reader rfl ?_
      intro other isOther
      rw [created]
      exact isOther
    next => cases taken
  | returnPending =>
    simp only [step] at taken
    split at taken
    next snapshot woken registered =>
      cases taken
      refine invariant.of_reader rfl ?_
      intro other isOther
      rw [registered]
      cases woken with
      | false => exact isOther
      | true => cases isOther
    next => cases taken
  | seek position =>
    simp only [step] at taken
    split at taken
    all_goals first
      | (cases taken; exact .of_none rfl)
      | cases taken
  | seekFailed =>
    simp only [step] at taken
    split at taken
    all_goals first
      | (cases taken; exact .of_none rfl)
      | cases taken

theorem wokenByGains_of_notificationsToCome (invariant : cache.NotificationsToCome) :
    cache.WokenByGains := by
  intro snapshot woken parked gained quiet
  cases woken with
  | true => rfl
  | false => exact absurd (invariant snapshot (by rw [parked]; rfl) gained) quiet

end Steps

theorem always_wokenByGains (totalSize : Option Nat) {actions : List Action}
    (reaches : Runs.Meets ReachesReader step (.new totalSize) actions) :
    Runs.Always WokenByGains step (.new totalSize) actions := by
  have initial : (new totalSize).NotificationsToCome := by
    intro snapshot unnotified
    cases unnotified
  refine (Runs.always_of_meets ?_ initial reaches).mono ?_
  · intro cache action next invariant reaches taken
    exact step_notificationsToCome invariant reaches taken
  · intro cache invariant
    exact wokenByGains_of_notificationsToCome invariant

def emptyRead : ReadBuf := ⟨[0], 0, by decide⟩

theorem write_before_return_wakes :
    ∃ actions final, Runs.run step (new none) actions = some final ∧
      Runs.Always WokenByGains step (new none) actions ∧
      ∃ snapshot, final.reader.phase = .parked snapshot true := by
  let actions : List Action := [.poll emptyRead, .read .pending, .createNotified, .pollNotified,
    .write 0 [7], .sendModify 0, .notifyWaiters 0, .returnPending]
  refine ⟨actions, _, rfl, always_wokenByGains none (by decide), ⟨_, rfl⟩⟩

-- The future is dropped when `poll_read` returns, so bytes that arrive later wake nobody.
theorem write_after_return_wakes_nobody :
    ∃ final, Runs.run step (new none) [.poll emptyRead, .read .pending, .createNotified,
        .pollNotified, .returnPending, .write 0 [7], .sendModify 0, .notifyWaiters 0] = some final ∧
      ¬ final.WokenByGains := by
  refine ⟨_, rfl, ?_⟩
  intro woken
  have claimed := woken ⟨0, false, none⟩ false rfl (by decide) (by
    rintro ⟨writer, member, isNotifying⟩
    cases List.mem_singleton.mp member
    cases isNotifying)
  cases claimed

end ProgressiveCache

end StreamServer.Archives
