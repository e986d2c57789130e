import StreamServer.Playback.Coordinator
import StreamServer.Playback.Sections

set_option autoImplicit false

namespace StreamServer.Playback

open CancellationTokens TorrentPlaybackState

namespace TorrentPlaybackState

inductive SectionUpdate (before : TorrentPlaybackState) : TorrentPlaybackState → Prop where
  | unchanged : SectionUpdate before before
  | keepActive (generation : Nat) : SectionUpdate before (before.keepActiveForSeeding generation)
  | pauseFinished (generation : Nat) (zeros : List Int) (clearSelection : Bool) :
      SectionUpdate before (before.finishPause generation zeros clearSelection)
  | pauseFailed (generation now : Nat) :
      SectionUpdate before (before.idlePauseFailed generation now)
  | currentPhase (phase : LibtorrentNetworkPhase) :
      SectionUpdate before (before.writePhase before.generation phase)
  | resumed : SectionUpdate before { before with phase := .active }
  | refreshed (tokens : Tokens) (now fileIdx : Nat) (priority : Int) (networkRequired : Bool)
      (same : (before.select tokens now fileIdx priority false true networkRequired false).1.changed
        = false) :
      SectionUpdate before
        (before.select tokens now fileIdx priority false true networkRequired false).2.1
  | metadataAcquired (hasMetadata : Bool) : SectionUpdate before (before.acquireMetadata hasMetadata)
  | metadataReleased (now : Nat) : SectionUpdate before (before.releaseMetadata now)
  | scheduleIdle (now : Nat) : SectionUpdate before (before.scheduleIdleIfNeeded now)
  | deadlineCleared : SectionUpdate before { before with idleDeadline := none }
  | scanned (now : Nat) : SectionUpdate before (before.expireHls now)
  | retried (now : Nat) : SectionUpdate before { before.expireHls now with idleDeadline := none }
  | acknowledged (desired : List Int) :
      SectionUpdate before { before with acknowledgedPriorities := some desired }
  | firstPiece (piece : Option Int) : SectionUpdate before { before with selectedFirstPiece := piece }
  | window (windows : ActivePriorityWindows) :
      SectionUpdate before { before with priorityWindows := windows }
  | announced : SectionUpdate before { before with metadataAnnounced := true }
  | reannounced (instant : Nat) :
      SectionUpdate before { before with lastEmergencyReannounce := some instant }
  | verified (piece : Int) : SectionUpdate before (before.markPieceVerified piece)

inductive GenerationStart (before : TorrentPlaybackState) : TorrentPlaybackState → Prop where
  | refreshed (tokens : Tokens) (now fileIdx : Nat) (priority : Int) (networkRequired : Bool) :
      GenerationStart before
        (before.select tokens now fileIdx priority false true networkRequired false).2.1
  | ended (tokens : Tokens) : GenerationStart before (before.beginPause tokens).1
  | idle (tokens : Tokens) (now : Nat) :
      GenerationStart before ((before.expireHls now).beginPause tokens).1

def SameCounters (before after : TorrentPlaybackState) : Prop :=
  after.directPermits = before.directPermits ∧ after.foregroundPermits = before.foregroundPermits

def WritesCurrent (before after : TorrentPlaybackState) : Prop :=
  ∃ writes, after.phaseWrites = before.phaseWrites ++ writes ∧
    ∀ write ∈ writes, write.captured = write.current

theorem WritesCurrent.refl (state : TorrentPlaybackState) : WritesCurrent state state :=
  ⟨[], by simp, by simp⟩

theorem writesCurrent_of_eq {before after : TorrentPlaybackState}
    (same : after.phaseWrites = before.phaseWrites) : WritesCurrent before after :=
  ⟨[], by simp [same], by simp⟩

theorem writesCurrent_writePhase (state : TorrentPlaybackState)
    (phase : LibtorrentNetworkPhase) :
    WritesCurrent state (state.writePhase state.generation phase) :=
  ⟨[⟨state.generation, state.generation⟩], rfl, by simp⟩

theorem scheduleIdleIfNeeded_frame (state : TorrentPlaybackState) (now : Nat) :
    (state.scheduleIdleIfNeeded now).directPermits = state.directPermits ∧
      (state.scheduleIdleIfNeeded now).foregroundPermits = state.foregroundPermits ∧
      (state.scheduleIdleIfNeeded now).generation = state.generation ∧
      (state.scheduleIdleIfNeeded now).phaseWrites = state.phaseWrites := by
  unfold scheduleIdleIfNeeded
  split <;> simp

theorem expireHls_frame (state : TorrentPlaybackState) (now : Nat) :
    (state.expireHls now).directPermits = state.directPermits ∧
      (state.expireHls now).foregroundPermits = state.foregroundPermits ∧
      (state.expireHls now).generation = state.generation ∧
      (state.expireHls now).phaseWrites = state.phaseWrites := by
  unfold expireHls
  split <;> simp

section Select

variable (state : TorrentPlaybackState) (tokens : Tokens) (now fileIdx : Nat) (priority : Int)
  (directPermit hlsActivity networkRequired foreground : Bool)

theorem select_changed :
    (state.select tokens now fileIdx priority directPermit hlsActivity networkRequired
      foreground).1.changed =
      (state.selectedFile != some fileIdx || state.selectedPriority != priority) := rfl

theorem select_generation :
    (state.select tokens now fileIdx priority directPermit hlsActivity networkRequired
      foreground).2.1.generation =
      (state.select tokens now fileIdx priority directPermit hlsActivity networkRequired
        foreground).1.generation := rfl

theorem select_generation_eq :
    (state.select tokens now fileIdx priority directPermit hlsActivity networkRequired
      foreground).1.generation =
      if state.selectedFile != some fileIdx || state.selectedPriority != priority then
        saturatingSucc state.generation
      else state.generation := by
  simp only [select]
  cases directPermit <;> cases hlsActivity <;> cases networkRequired <;>
    simp only [acquirePermit, writePhase, bumpGeneration, Bool.false_eq_true, if_false, if_true] <;>
    split <;> rfl

theorem select_counters :
    (state.select tokens now fileIdx priority directPermit hlsActivity networkRequired
      foreground).2.1.directPermits =
      (if directPermit then
        state.directPermits.acquire (state.select tokens now fileIdx priority directPermit
          hlsActivity networkRequired foreground).1.generation
      else state.directPermits) ∧
    (state.select tokens now fileIdx priority directPermit hlsActivity networkRequired
      foreground).2.1.foregroundPermits =
      if directPermit && foreground then
        state.foregroundPermits.acquire (state.select tokens now fileIdx priority directPermit
          hlsActivity networkRequired foreground).1.generation
      else state.foregroundPermits := by
  simp only [select]
  cases directPermit <;> cases hlsActivity <;> cases networkRequired <;> cases foreground <;>
    simp only [acquirePermit, writePhase, bumpGeneration, Bool.false_eq_true, if_false, if_true,
      Bool.and_self, Bool.and_false, Bool.false_and] <;>
    split <;> exact ⟨rfl, rfl⟩

theorem select_writesCurrent :
    WritesCurrent state (state.select tokens now fileIdx priority directPermit hlsActivity
      networkRequired foreground).2.1 := by
  simp only [select]
  cases directPermit <;> cases hlsActivity <;> cases networkRequired <;>
    simp only [acquirePermit, writePhase, bumpGeneration, Bool.false_eq_true, if_false, if_true] <;>
    split
  all_goals first
    | exact ⟨[], (List.append_nil _).symm, by simp⟩
    | exact ⟨[⟨_, _⟩], rfl, by simp⟩

end Select

theorem beginPause_frame (state : TorrentPlaybackState) (tokens : Tokens) :
    SameCounters state (state.beginPause tokens).1 ∧
      WritesCurrent state (state.beginPause tokens).1 :=
  ⟨⟨rfl, rfl⟩, [⟨_, _⟩], rfl, by simp⟩

section SectionUpdate

variable {before after : TorrentPlaybackState}

theorem SectionUpdate.sameCounters (update : SectionUpdate before after) :
    SameCounters before after := by
  cases update with
  | keepActive generation => unfold keepActiveForSeeding; split <;> exact ⟨rfl, rfl⟩
  | pauseFinished generation zeros clearSelection =>
    unfold finishPause
    cases clearSelection <;> split <;> exact ⟨rfl, rfl⟩
  | pauseFailed generation now => unfold idlePauseFailed; split <;> exact ⟨rfl, rfl⟩
  | refreshed tokens now fileIdx priority networkRequired =>
    simpa [SameCounters] using
      select_counters before tokens now fileIdx priority false true networkRequired false
  | metadataAcquired hasMetadata => cases hasMetadata <;> exact ⟨rfl, rfl⟩
  | metadataReleased now => simp [SameCounters, releaseMetadata, scheduleIdleIfNeeded_frame]
  | scheduleIdle now => simp [SameCounters, scheduleIdleIfNeeded_frame]
  | scanned now => simp [SameCounters, expireHls_frame]
  | retried now => simp [SameCounters, expireHls_frame]
  | _ => exact ⟨rfl, rfl⟩

theorem SectionUpdate.generation_eq (update : SectionUpdate before after) :
    after.generation = before.generation := by
  cases update with
  | keepActive generation => unfold keepActiveForSeeding; split <;> rfl
  | pauseFinished generation zeros clearSelection =>
    unfold finishPause
    cases clearSelection <;> split <;> rfl
  | pauseFailed generation now => unfold idlePauseFailed; split <;> rfl
  | refreshed tokens now fileIdx priority networkRequired same =>
    rw [select_changed] at same
    rw [select_generation, select_generation_eq, same]
    rfl
  | metadataAcquired hasMetadata => cases hasMetadata <;> rfl
  | metadataReleased now => simp [releaseMetadata, scheduleIdleIfNeeded_frame]
  | scheduleIdle now => simp [scheduleIdleIfNeeded_frame]
  | scanned now => simp [expireHls_frame]
  | retried now => simp [expireHls_frame]
  | _ => rfl

theorem SectionUpdate.writesCurrent (update : SectionUpdate before after) :
    WritesCurrent before after := by
  cases update with
  | keepActive generation =>
    unfold keepActiveForSeeding
    split
    next guard => exact guard.1 ▸ writesCurrent_writePhase before .active
    next => exact .refl before
  | pauseFinished generation zeros clearSelection =>
    unfold finishPause
    split
    next guard =>
      subst guard
      cases clearSelection <;> exact writesCurrent_writePhase before .pausedIdle
    next => exact .refl before
  | pauseFailed generation now =>
    unfold idlePauseFailed
    split
    next guard => exact guard ▸ writesCurrent_writePhase before .pausePending
    next => exact .refl before
  | currentPhase phase => exact writesCurrent_writePhase before phase
  | refreshed tokens now fileIdx priority networkRequired =>
    exact select_writesCurrent before tokens now fileIdx priority false true networkRequired false
  | metadataAcquired hasMetadata =>
    cases hasMetadata
    · exact writesCurrent_writePhase { before with metadataPermits := _ } .active
    · exact .refl before
  | metadataReleased now => exact writesCurrent_of_eq (by simp [releaseMetadata, scheduleIdleIfNeeded_frame])
  | scheduleIdle now => exact writesCurrent_of_eq (by simp [scheduleIdleIfNeeded_frame])
  | scanned now => exact writesCurrent_of_eq (by simp [expireHls_frame])
  | retried now => exact writesCurrent_of_eq (by simp [expireHls_frame])
  | _ => exact .refl before

theorem GenerationStart.sameCounters (start : GenerationStart before after) :
    SameCounters before after := by
  cases start with
  | refreshed tokens now fileIdx priority networkRequired =>
    simpa [SameCounters] using
      select_counters before tokens now fileIdx priority false true networkRequired false
  | ended tokens => exact (beginPause_frame before tokens).1
  | idle tokens now =>
    have paused := (beginPause_frame (before.expireHls now) tokens).1
    simpa [SameCounters, expireHls_frame] using paused

theorem GenerationStart.writesCurrent (start : GenerationStart before after) :
    WritesCurrent before after := by
  cases start with
  | refreshed tokens now fileIdx priority networkRequired =>
    exact select_writesCurrent before tokens now fileIdx priority false true networkRequired false
  | ended tokens => exact (beginPause_frame before tokens).2
  | idle tokens now =>
    have paused := (beginPause_frame (before.expireHls now) tokens).2
    simpa [WritesCurrent, expireHls_frame] using paused

end SectionUpdate

theorem scanIdle_cases (state : TorrentPlaybackState) (tokens : Tokens) (now : Nat) :
    SectionUpdate state (state.scanIdle tokens now).2.1 ∨
      (state.expireHls now).idlePauseDue now = true ∧
        (state.expireHls now).phase ≠ .pausePending ∧
        (state.scanIdle tokens now).2.1 = ((state.expireHls now).beginPause tokens).1 := by
  unfold scanIdle
  simp only
  split
  next => exact .inl (.scanned now)
  next due =>
    split
    next => exact .inl (.retried now)
    next fresh => exact .inr ⟨by simpa using due, fresh, rfl⟩

theorem releasePlayback_frame (state : TorrentPlaybackState) (generation streamId : Nat)
    (foreground : Bool) (now : Nat) :
    let after := (state.releasePlayback generation streamId foreground now).1
    after.directPermits = state.directPermits.release generation ∧
      after.foregroundPermits = (if foreground then state.foregroundPermits.release generation
        else state.foregroundPermits) ∧
      after.generation = state.generation ∧ after.phaseWrites = state.phaseWrites := by
  simp [releasePlayback, scheduleIdleIfNeeded_frame]

end TorrentPlaybackState

variable {H : Type}

namespace Store

structure StatesBy (update : Nat → TorrentPlaybackState → TorrentPlaybackState → Prop)
    (before after : Store H) : Prop where
  entries : after.entries = before.entries
  queue : after.queue = before.queue
  permits : after.permits = before.permits
  length : after.cells.length = before.cells.length
  states : ∀ entry state, after.state? entry = some state →
    ∃ previous, before.state? entry = some previous ∧ update entry previous state

abbrev SectionStep (before after : Store H) : Prop :=
  StatesBy (fun _ => SectionUpdate) before after

abbrev BeginStep (entry : Nat) (before after : Store H) : Prop :=
  StatesBy (fun other previous state =>
    if other = entry then GenerationStart previous state else state = previous) before after

variable {update : Nat → TorrentPlaybackState → TorrentPlaybackState → Prop}
  {before after : Store H}

theorem state?_eq_none_iff (store : Store H) (entry : Nat) :
    store.state? entry = none ↔ store.cells.length ≤ entry := by
  simp [state?]

theorem lt_of_state? {store : Store H} {entry : Nat} {state : TorrentPlaybackState}
    (found : store.state? entry = some state) : entry < store.cells.length := by
  by_contra outside
  rw [(store.state?_eq_none_iff entry).mpr (Nat.le_of_not_lt outside)] at found
  cases found

theorem state?_updateState (store : Store H) (entry other : Nat)
    (f : TorrentPlaybackState → TorrentPlaybackState) :
    (store.updateState entry f).state? other =
      (store.state? other).map fun state => if other = entry then f state else state := by
  by_cases same : other = entry
  · subst same
    simp [updateState, updateCell, state?, Function.comp_def]
  · have different : ¬ entry = other := fun equal => same equal.symm
    simp [updateState, updateCell, state?, same, different, Function.comp_def]

theorem state?_updateCell (store : Store H) (entry other : Nat)
    (f : TorrentPlaybackEntry → TorrentPlaybackEntry) (keeps : ∀ cell, (f cell).state = cell.state) :
    (store.updateCell entry f).state? other = store.state? other := by
  by_cases same : entry = other
  · subst same
    simp [updateCell, state?, Function.comp_def, keeps]
  · simp [updateCell, state?, same]

@[simp] theorem state?_lock (store : Store H) (entry other : Nat) :
    (store.lock entry).state? other = store.state? other :=
  store.state?_updateCell entry other _ fun _ => rfl

@[simp] theorem state?_unlock (store : Store H) (entry other : Nat) :
    (store.unlock entry).state? other = store.state? other :=
  store.state?_updateCell entry other _ fun _ => rfl

theorem StatesBy.refl (reflexive : ∀ entry state, update entry state state) (store : Store H) :
    StatesBy update store store :=
  ⟨rfl, rfl, rfl, rfl, fun entry state found => ⟨state, found, reflexive entry state⟩⟩

theorem StatesBy.updateState {entry : Nat} {f : TorrentPlaybackState → TorrentPlaybackState}
    (reflexive : ∀ other state, other ≠ entry → update other state state)
    (updated : ∀ state, before.state? entry = some state → update entry state (f state)) :
    StatesBy update before (before.updateState entry f) := by
  refine ⟨rfl, rfl, rfl, by simp [Store.updateState, updateCell], fun other state found => ?_⟩
  rw [state?_updateState] at found
  obtain ⟨previous, present, rfl⟩ := Option.map_eq_some_iff.mp found
  refine ⟨previous, present, ?_⟩
  by_cases same : other = entry
  · subst same
    simpa using updated previous present
  · simpa [same] using reflexive other previous same

theorem StatesBy.congr {next : Store H} (step : StatesBy update before after)
    (entries : next.entries = after.entries) (queue : next.queue = after.queue)
    (permits : next.permits = after.permits) (length : next.cells.length = after.cells.length)
    (states : ∀ entry, next.state? entry = after.state? entry) : StatesBy update before next :=
  ⟨entries.trans step.entries, queue.trans step.queue, permits.trans step.permits,
    length.trans step.length, fun entry state found => step.states entry state (states entry ▸ found)⟩

theorem StatesBy.unlock (step : StatesBy update before after) (entry : Nat) :
    StatesBy update before (after.unlock entry) :=
  step.congr rfl rfl rfl (by simp [Store.unlock, updateCell]) (by simp)

theorem StatesBy.tokens (step : StatesBy update before after) (tokens : Tokens) :
    StatesBy update before { after with tokens } :=
  step.congr rfl rfl rfl rfl fun _ => rfl

theorem StatesBy.metadataPermits (step : StatesBy update before after)
    (metadataPermits : List (LibtorrentMetadataPermit H)) :
    StatesBy update before { after with metadataPermits } :=
  step.congr rfl rfl rfl rfl fun _ => rfl

theorem StatesBy.setNative [DecidableEq H] (step : StatesBy update before after) (infoHash : H)
    (torrent : Option NativeTorrent) : StatesBy update before (after.setNative infoHash torrent) :=
  step.congr rfl rfl rfl rfl fun _ => rfl

theorem SectionStep.refl (store : Store H) : SectionStep store store :=
  StatesBy.refl (fun _ _ => .unchanged) store

theorem SectionStep.updateState {entry : Nat} {f : TorrentPlaybackState → TorrentPlaybackState}
    (updated : ∀ state, SectionUpdate state (f state)) :
    SectionStep before (before.updateState entry f) :=
  StatesBy.updateState (fun _ _ _ => .unchanged) fun state _ => updated state

theorem SectionStep.setState {entry : Nat} {previous state : TorrentPlaybackState}
    (found : before.state? entry = some previous) (updated : SectionUpdate previous state) :
    SectionStep before (before.setState entry state) :=
  StatesBy.updateState (fun _ _ _ => .unchanged) fun present same => by
    rw [found] at same
    cases same
    exact updated

theorem SectionStep.tryLock {entry : Nat} (locked : before.tryLock entry = some after) :
    SectionStep before after := by
  obtain ⟨cell, -, taken⟩ := Option.bind_eq_some_iff.mp locked
  split at taken
  · cases taken
  · cases taken
    exact (SectionStep.refl before).congr rfl rfl rfl (by simp [lock, updateCell]) (by simp)

theorem BeginStep.setState {entry : Nat} {previous state : TorrentPlaybackState}
    (found : before.state? entry = some previous) (started : GenerationStart previous state) :
    BeginStep entry before (before.setState entry state) := by
  refine StatesBy.updateState (fun other _ different => ?_) fun present same => ?_
  · simp [different]
  · rw [found] at same
    cases same
    simpa using started

end Store

section Sections

variable [DecidableEq H] {before after : Store H} {outcome : Outcome}

open Store

theorem performPause_section {ok : Bool} {call : PauseCall H} {pc : PausePc}
    {progress : Progress PausePc}
    (taken : performPause before ok call pc = some (after, progress)) :
    SectionStep before after := by
  have same := SectionStep.refl before
  cases performPause_move taken with
  | keepActive => exact SectionStep.updateState fun _ => .keepActive call.generation
  | lockOperation _ locked => exact SectionStep.tryLock locked
  | outdated | failed => exact same.unlock call.entry
  | nativePause torrent => exact same.setNative call.infoHash _
  | finish zeros =>
    exact (SectionStep.updateState fun _ =>
      .pauseFinished call.generation zeros call.clearSelection).unlock call.entry
  | seeding | checkSeeding | checkGeneration | confirm | recheck | compareZeros | applyZeros =>
    exact same

theorem activateSelection_section {activation : Activation H} {pc : ActivatePc}
    {progress : Progress ActivatePc}
    (taken : activateSelection before outcome activation pc = some (after, progress)) :
    SectionStep before after := by
  have same := SectionStep.refl before
  have unlocked := same.unlock activation.entry
  cases activateSelection_move taken with
  | lockOperation _ locked => exact SectionStep.tryLock locked
  | ended | startsPause => exact unlocked
  | went => exact same
  | acknowledged desired state found => exact SectionStep.setState found (.acknowledged desired)
  | pausing _ _ _ paused | paused _ _ _ paused => exact performPause_section paused
  | windowed state next found set =>
    refine SectionStep.setState found ?_
    obtain rfl | rfl := set
    · exact .unchanged
    · exact .window _
  | firstPiece piece state found => exact SectionStep.setState found (.firstPiece (some piece))
  | resumed piece torrent => exact same.setNative activation.infoHash _
  | finished state next found set =>
    refine (SectionStep.setState found ?_).unlock activation.entry
    obtain rfl | rfl := set
    · exact .unchanged
    · exact .firstPiece none

end Sections

end StreamServer.Playback
