import StreamServer.Playback.Frames
import StreamServer.Shared.Runs

set_option autoImplicit false

namespace StreamServer.Playback

open CancellationTokens TorrentPlaybackState Store Runs

variable {H : Type}

def TorrentPlaybackState.fence (state : TorrentPlaybackState) : Nat × Token :=
  (state.generation, state.cancellation)

def Store.fence? (store : Store H) (entry : Nat) : Option (Nat × Token) :=
  (store.state? entry).map (·.fence)

namespace TorrentPlaybackState

theorem select_unchanged_fence (state : TorrentPlaybackState) (tokens : Tokens) (now fileIdx : Nat)
    (priority : Int) (directPermit hlsActivity networkRequired foreground : Bool)
    (unchanged : (state.selectedFile != some fileIdx || state.selectedPriority != priority) = false) :
    let selected := state.select tokens now fileIdx priority directPermit hlsActivity networkRequired
      foreground
    selected.2.1.fence = state.fence ∧ selected.2.2 = tokens := by
  simp only [select, unchanged]
  cases directPermit <;> cases hlsActivity <;> cases networkRequired <;> exact ⟨rfl, rfl⟩

theorem select_changed_fence (state : TorrentPlaybackState) (tokens : Tokens) (now fileIdx : Nat)
    (priority : Int) (directPermit hlsActivity networkRequired foreground : Bool)
    (changed : (state.selectedFile != some fileIdx || state.selectedPriority != priority) = true) :
    let selected := state.select tokens now fileIdx priority directPermit hlsActivity networkRequired
      foreground
    selected.2.1.fence = (saturatingSucc state.generation, (tokens.cancel state.cancellation).create.1) ∧
      selected.2.2 = (tokens.cancel state.cancellation).create.2 := by
  simp only [select, changed]
  cases directPermit <;> cases hlsActivity <;> cases networkRequired <;> exact ⟨rfl, rfl⟩

@[simp] theorem scheduleIdleIfNeeded_fence (state : TorrentPlaybackState) (now : Nat) :
    (state.scheduleIdleIfNeeded now).fence = state.fence := by
  unfold scheduleIdleIfNeeded
  split <;> rfl

@[simp] theorem expireHls_fence (state : TorrentPlaybackState) (now : Nat) :
    (state.expireHls now).fence = state.fence := by
  unfold expireHls
  split <;> rfl

theorem SectionUpdate.fence_eq {before after : TorrentPlaybackState}
    (update : SectionUpdate before after) : after.fence = before.fence := by
  cases update with
  | keepActive generation => unfold keepActiveForSeeding; split <;> rfl
  | pauseFinished generation zeros clearSelection =>
    unfold finishPause
    cases clearSelection <;> split <;> rfl
  | pauseFailed generation now => unfold idlePauseFailed; split <;> rfl
  | refreshed tokens now fileIdx priority networkRequired same =>
    exact (select_unchanged_fence before tokens now fileIdx priority false true networkRequired false
      same).1
  | metadataAcquired hasMetadata => cases hasMetadata <;> rfl
  | metadataReleased now => exact scheduleIdleIfNeeded_fence _ now
  | scheduleIdle now => simp
  | scanned now => simp
  | retried now => exact expireHls_fence before now
  | _ => rfl

theorem releasePlayback_fence (state : TorrentPlaybackState) (generation streamId : Nat)
    (foreground : Bool) (now : Nat) :
    (state.releasePlayback generation streamId foreground now).1.fence = state.fence :=
  scheduleIdleIfNeeded_fence _ now

theorem scanIdle_fence (state : TorrentPlaybackState) (tokens : Tokens) (now : Nat) :
    (state.scanIdle tokens now).2.1.fence = state.fence ∧ (state.scanIdle tokens now).2.2 = tokens ∨
      (state.scanIdle tokens now).2.1.fence =
        (saturatingSucc state.generation, (tokens.cancel state.cancellation).create.1) ∧
      (state.scanIdle tokens now).2.2 = (tokens.cancel state.cancellation).create.2 := by
  have frame : (state.expireHls now).fence = state.fence := expireHls_fence state now
  obtain ⟨generation, cancellation⟩ := Prod.mk.inj frame
  unfold scanIdle
  simp only
  split
  next => exact .inl ⟨frame, rfl⟩
  next =>
    split
    next => exact .inl ⟨frame, rfl⟩
    next =>
      refine .inr ?_
      rw [← generation, ← cancellation]
      exact ⟨rfl, rfl⟩

end TorrentPlaybackState

-- What a step does to the generations and tokens of the entries: nothing, a new entry, a new
-- generation of one entry, or the teardown of the entry named by `teardown`.
inductive FenceStep (teardown : Option Nat) (before after : Store H) : Prop where
  | kept (tokens : after.tokens = before.tokens)
      (fences : ∀ entry, after.fence? entry = before.fence? entry)
  | created (tokens : after.tokens = before.tokens.create.2)
      (fences : ∀ entry, after.fence? entry =
        if entry = before.cells.length then some (0, before.tokens.create.1)
        else before.fence? entry)
  | rotated (entry generation : Nat) (token : Token)
      (found : before.fence? entry = some (generation, token))
      (tokens : after.tokens = (before.tokens.cancel token).create.2)
      (fences : ∀ other, after.fence? other =
        if other = entry then
          some (saturatingSucc generation, (before.tokens.cancel token).create.1)
        else before.fence? other)
  | cancelled (entry generation : Nat) (token : Token) (torn : teardown = some entry)
      (found : before.fence? entry = some (generation, token))
      (tokens : after.tokens = before.tokens.cancel token)
      (fences : ∀ entry, after.fence? entry = before.fence? entry)

section Sections

variable {teardown : Option Nat} {before after : Store H} {outcome : Outcome}

theorem fence?_updateState (store : Store H) (entry other : Nat)
    (f : TorrentPlaybackState → TorrentPlaybackState) (keeps : ∀ state, (f state).fence = state.fence) :
    (store.updateState entry f).fence? other = store.fence? other := by
  rw [fence?, fence?, state?_updateState, Option.map_map]
  refine Option.map_congr fun state _ => ?_
  simp only [Function.comp]
  split <;> simp [keeps]

theorem fence?_setState {store : Store H} {entry : Nat} {state : TorrentPlaybackState}
    (found : store.state? entry = some state) (next : TorrentPlaybackState) (other : Nat) :
    (store.setState entry next).fence? other =
      if other = entry then some next.fence else store.fence? other := by
  rw [fence?, fence?, setState, state?_updateState, Option.map_map]
  by_cases same : other = entry
  · subst same
    simp [found]
  · simp [same, Function.comp_def]

theorem SectionStep.fence?_eq (step : SectionStep before after) (entry : Nat) :
    after.fence? entry = before.fence? entry := by
  cases found : after.state? entry with
  | none =>
    have absent : before.state? entry = none := by
      rw [state?_eq_none_iff] at found ⊢
      rwa [step.length] at found
    simp [fence?, found, absent]
  | some state =>
    obtain ⟨previous, present, updated⟩ := step.states entry state found
    simp [fence?, found, present, updated.fence_eq]

theorem FenceStep.of_section (step : SectionStep before after) (tokens : after.tokens = before.tokens) :
    FenceStep teardown before after :=
  .kept tokens (SectionStep.fence?_eq step)

theorem FenceStep.of_states (tokens : after.tokens = before.tokens)
    (states : ∀ entry, after.state? entry = before.state? entry) : FenceStep teardown before after :=
  .kept tokens fun entry => by rw [fence?, fence?, states entry]

theorem fenceStep_setState {entry : Nat} {state next : TorrentPlaybackState} {tokens : Tokens}
    (found : before.state? entry = some state)
    (selected : next.fence = state.fence ∧ tokens = before.tokens ∨
      next.fence = (saturatingSucc state.generation,
          (before.tokens.cancel state.cancellation).create.1) ∧
        tokens = (before.tokens.cancel state.cancellation).create.2) :
    FenceStep teardown before { before.setState entry next with tokens } := by
  have fences := fence?_setState found next
  have present : before.fence? entry = some state.fence := by simp [fence?, found]
  rcases selected with ⟨same, rfl⟩ | ⟨rotated, rfl⟩
  · refine .kept rfl fun other => (fences other).trans ?_
    split
    next equal => rw [equal, present, same]
    next => rfl
  · exact .rotated entry state.generation state.cancellation present rfl fun other => by
      rw [← rotated]
      exact fences other

theorem FenceStep.congr {next : Store H} (step : FenceStep teardown before after)
    (tokens : next.tokens = after.tokens) (cells : next.cells = after.cells) :
    FenceStep teardown before next := by
  have fences (entry : Nat) : next.fence? entry = after.fence? entry := by
    simp only [fence?, Store.state?, cells]
  cases step with
  | kept same earlier => exact .kept (tokens.trans same) fun entry => (fences entry).trans (earlier entry)
  | created same earlier =>
    exact .created (tokens.trans same) fun entry => (fences entry).trans (earlier entry)
  | rotated entry generation token found same earlier =>
    exact .rotated entry generation token found (tokens.trans same) fun entry =>
      (fences entry).trans (earlier entry)
  | cancelled entry generation token torn found same earlier =>
    exact .cancelled entry generation token torn found (tokens.trans same) fun entry =>
      (fences entry).trans (earlier entry)

theorem fenceStep_select {entry : Nat} {state : TorrentPlaybackState}
    (found : before.state? entry = some state) (now fileIdx : Nat) (priority : Int)
    (directPermit hlsActivity networkRequired foreground : Bool) :
    let selected := state.select before.tokens now fileIdx priority directPermit hlsActivity
      networkRequired foreground
    FenceStep teardown before { before.setState entry selected.2.1 with tokens := selected.2.2 } := by
  refine fenceStep_setState found ?_
  cases changed : state.selectedFile != some fileIdx || state.selectedPriority != priority with
  | false => exact .inl (select_unchanged_fence _ _ _ _ _ _ _ _ _ changed)
  | true => exact .inr (select_changed_fence _ _ _ _ _ _ _ _ _ changed)

theorem startSelect_selected [DecidableEq H] {infoHash : H} {entry : Nat}
    {start : LibtorrentPlaybackStart} {complete : Bool} {state : TorrentPlaybackState}
    {selection : Selection}
    (selected : startSelect before infoHash entry start complete state = some (selection, after)) :
    ∃ priority permit,
      let result := state.select before.tokens before.now start.fileIdx priority true false
        (!complete || before.seedingEnabled) start.intent.isForeground
      selection = result.1 ∧ permit.issuer = entry ∧ permit.generation = selection.generation ∧
        permit.cancellation = selection.cancellation ∧
        after = { before.setState entry result.2.1 with
          tokens := result.2.2
          permits := before.permits ++ [permit]
          nextPermit := before.nextPermit + 1 } := by
  unfold startSelect at selected
  simp only at selected
  split at selected <;> cases selected
  exact ⟨_, _, rfl, rfl, rfl, rfl, rfl⟩

variable [DecidableEq H]

theorem fenceStep_entry (store : Store H) (infoHash : H) :
    FenceStep teardown store (store.entry infoHash).2 := by
  unfold Store.entry
  split
  next => exact .of_states rfl fun _ => rfl
  next =>
    refine .created rfl fun entry => ?_
    by_cases same : entry = store.cells.length
    · subst same
      simp [fence?, Store.state?, TorrentPlaybackState.new, fence]
    · by_cases inside : entry < store.cells.length
      · simp [fence?, Store.state?, same, List.getElem?_append_left inside]
      · have beyond : store.cells.length < entry := by omega
        have outside : ¬ entry < store.cells.length + 1 := by omega
        simp [fence?, Store.state?, same, outside, inside]

def Task.tearsDown : Task H → Option Nat
  | .removeCancel entry => some entry
  | _ => none

theorem stepTask_fence {task : Task H} {rest : Option (Task H)}
    (taken : stepTask before outcome task = some (after, rest)) :
    FenceStep task.tearsDown before after := by
  have same : SectionStep before before := SectionStep.refl before
  cases stepTask_move taken with
  | startEntry infoHash | refreshEntry infoHash | endEntry infoHash | metadataEntry infoHash
  | reannounceEntry infoHash =>
    exact fenceStep_entry before infoHash
  | refused | endUnrelated | endSeeding | endPaused | endRunning | reannounceStale
  | reannounceCheck =>
    exact .of_section same rfl
  | selected _ _ _ start complete state _ _ found selected =>
    obtain ⟨priority, permit, -, -, -, -, rfl⟩ := startSelect_selected selected
    exact (fenceStep_select found before.now start.fileIdx priority true false
      (!complete || before.seedingEnabled) start.intent.isForeground).congr rfl rfl
  | activating _ _ _ _ _ activated | activated _ _ _ _ _ activated =>
    exact .of_section (activateSelection_section activated) (activateSelection_frame activated).tokens
  | activationFailed _ _ _ next activated =>
    have step : FenceStep none before next :=
      .of_section (activateSelection_section activated) (activateSelection_frame activated).tokens
    exact step.congr (storeFrame_dropPermit next _).tokens (dropPermit_frame next _).2
  | refreshed _ _ _ fileIdx complete _ found | reselected _ _ _ fileIdx complete _ found =>
    exact fenceStep_select found before.now fileIdx (if complete then 0 else 1) false true
      (!complete || before.seedingEnabled) false
  | endBegun _ _ _ _ found => exact fenceStep_setState found (.inr ⟨rfl, rfl⟩)
  | endKeepActive _ generation =>
    exact .of_section (SectionStep.updateState fun _ => .keepActive generation) rfl
  | endWriteBack entry =>
    exact .kept rfl fun other => fence?_updateState before entry other _ fun _ => rfl
  | endPause _ _ _ _ paused | ended _ _ _ _ paused =>
    exact .of_section (performPause_section paused) (performPause_frame paused).tokens
  | metadataLock _ _ _ lockable =>
    exact .of_section (SectionStep.tryLock lockable) (storeFrame_tryLock lockable).tokens
  | metadataAbsent _ entry => exact .of_section (same.unlock entry) rfl
  | metadataKnown _ entry torrent _ _ found =>
    have acquired := SectionStep.setState found (.metadataAcquired torrent.hasMetadata)
    exact .of_section ((acquired.metadataPermits _).unlock entry) rfl
  | metadataFetched _ _ torrent _ _ found =>
    have acquired := SectionStep.setState found (.metadataAcquired torrent.hasMetadata)
    exact .of_section (acquired.metadataPermits _) rfl
  | metadataAnnounce infoHash entry =>
    have announced : SectionStep before
        (before.updateState entry ({ · with metadataAnnounced := true })) :=
      SectionStep.updateState fun _ => .announced
    exact .of_section ((announced.setNative infoHash _).unlock entry) rfl
  | removeCancel entry state found =>
    exact .cancelled entry state.generation state.cancellation rfl (by simp [fence?, found, fence]) rfl
      fun _ => rfl
  | reannounceState entry =>
    refine .kept rfl fun other => fence?_updateState before entry other _ fun state => ?_
    split <;> rfl

theorem fenceStep_of_cases {attempt : Nat} {worker rest : Worker H}
    (taken : stepWorker before outcome attempt worker = some (after, rest))
    (tokens : after.tokens = before.tokens) (quiet : worker.begins before = none) :
    FenceStep none before after := by
  cases stepWorker_cases taken with
  | lookup infoHash => exact fenceStep_entry before infoHash
  | sections _ _ step => exact .of_section step tokens
  | began entry _ _ begins =>
    rw [quiet] at begins
    cases begins
  | released permit entry =>
    exact .kept tokens fun other => fence?_updateState before entry other _ fun state =>
      state.releasePlayback_fence permit.generation permit.streamId permit.foreground before.now

theorem stepWorker_fence {attempt : Nat} {worker rest : Worker H}
    (taken : stepWorker before outcome attempt worker = some (after, rest)) :
    FenceStep none before after := by
  cases stepWorker_move taken with
  | replaceEntry infoHash | metadataEntry infoHash => exact fenceStep_entry before infoHash
  | releaseEntry permit => exact fenceStep_entry before permit.infoHash
  | scan _ _ _ scanNow _ state found =>
    exact fenceStep_setState found (scanIdle_fence state before.tokens scanNow)
  | replaceLock _ _ _ _ _ _ lockable | releaseLock _ _ _ lockable | seedingOn _ _ _ _ lockable =>
    exact fenceStep_of_cases taken (storeFrame_tryLock lockable).tokens rfl
  | verifiedPause _ _ _ _ paused | verifiedPaused _ _ _ paused | verifiedUnpaused _ _ _ paused
  | join _ _ _ _ _ _ paused =>
    exact fenceStep_of_cases taken (performPause_frame paused).tokens rfl
  | replaceState | releaseState | releaseNative | metadataState | seededOff | seedingOff | seededOn
  | seedingOnPaused | seedingOnState | seedingOnGone | seedingOnResume | verifiedState
  | verifiedComplete | verifiedIncomplete | verifiedStale | verifiedPending | verifiedFailed
  | scanned | joined | settled | settle =>
    exact fenceStep_of_cases taken rfl rfl

end Sections

def Action.tearsDown (coordinator : Coordinator H) : Action H → Option Nat
  | .task index _ => coordinator.tasks[index]?.bind Task.tearsDown
  | _ => none

theorem step_fence [DecidableEq H] {before after : Coordinator H} {action : Action H}
    (taken : before.step action = some after) :
    FenceStep (action.tearsDown before) before.store after.store := by
  cases step_move taken with
  | task index outcome task store rest present stepped =>
    simpa [Action.tearsDown, present] using stepTask_fence stepped
  | abandoned index task unlocked _ released =>
    have kept : FenceStep none before.store unlocked := by
      subst released
      cases task.heldOperation with
      | none => exact .of_states rfl fun _ => rfl
      | some entry => exact .of_states rfl fun _ => by simp
    cases task.permit with
    | none => exact kept
    | some id => exact kept.congr (storeFrame_dropPermit _ id).tokens (dropPermit_frame _ id).2
  | droppedPermit id =>
    have same : FenceStep none before.store before.store := .of_states rfl fun _ => rfl
    exact same.congr (storeFrame_dropPermit _ id).tokens (dropPermit_frame _ id).2
  | worker outcome attempt store worker stepped => exact stepWorker_fence stepped
  | registered infoHash => exact fenceStep_entry before.store infoHash
  | layoutLoaded entry fileCount =>
    exact .of_states rfl fun other => before.store.state?_updateCell entry other _ fun _ => rfl
  | called | replaced | droppedMetadata | received | seedingTick | ticked | unmapped | removed
  | seedingSet | verified | invalidated | nativeSet | advanced =>
    exact .of_states rfl fun _ => rfl

structure RunningStream (store : Store H) (state : TorrentPlaybackState)
    (permit : LibtorrentPlaybackPermit H) : Prop where
  held : permit ∈ store.permits
  selected : state.selectedFile = some permit.fileIdx
  foreground : permit.foreground = true
  counted : 0 < state.activeForegroundPermits
  generation : permit.generation = state.generation
  cancellation : permit.cancellation = state.cancellation
  issued : store.tokens.Issued permit.cancellation
  running : store.tokens.isCancelled permit.cancellation = false

def KeepsStreams (store : Store H) (infoHash : H) (entry : Nat) (start : LibtorrentPlaybackStart)
    (complete : Bool) (state : TorrentPlaybackState) : Prop :=
  ∃ selection next, startSelect store infoHash entry start complete state = some (selection, next) ∧
    selection.generation = state.generation ∧
    ∀ permit ∈ store.permits,
      next.tokens.isCancelled permit.cancellation = store.tokens.isCancelled permit.cancellation

/-- The priority that the selection compares with the selected one. -/
def comparedPriority (state : TorrentPlaybackState) (start : LibtorrentPlaybackStart)
    (complete : Bool) : Int :=
  if start.intent.isForeground then requestedNativePriority complete start.intent
  else state.selectedPriority

section SameFile

variable {store : Store H} {state : TorrentPlaybackState} {start : LibtorrentPlaybackStart}

theorem startSelect_sameFile (selected : state.selectedFile = some start.fileIdx)
    (counted : 0 < state.activeForegroundPermits) (infoHash : H) (entry : Nat) (complete : Bool) :
    ∃ selection next, startSelect store infoHash entry start complete state =
        some (selection, next) ∧
      ((comparedPriority state start complete = state.selectedPriority ∧
          selection.generation = state.generation ∧ next.tokens = store.tokens) ∨
        comparedPriority state start complete ≠ state.selectedPriority ∧
          next.tokens = (store.tokens.cancel state.cancellation).create.2) := by
  have accepted : (!start.intent.isForeground && decide (state.activeForegroundPermits > 0) &&
      state.selectedFile != some start.fileIdx) = false := by simp [selected]
  have compared : (if (!start.intent.isForeground && decide (state.activeForegroundPermits > 0) &&
      state.selectedFile == some start.fileIdx) = true then state.selectedPriority
      else requestedNativePriority complete start.intent) =
      comparedPriority state start complete := by
    unfold comparedPriority
    cases start.intent.isForeground <;> simp [selected, counted]
  unfold startSelect
  simp only [accepted, compared, Bool.false_eq_true, if_false]
  refine ⟨_, _, rfl, ?_⟩
  by_cases same : comparedPriority state start complete = state.selectedPriority
  · have unchanged : (state.selectedFile != some start.fileIdx ||
        state.selectedPriority != comparedPriority state start complete) = false := by
      simp [selected, same]
    obtain ⟨fence, tokens⟩ := select_unchanged_fence state store.tokens store.now start.fileIdx
      (comparedPriority state start complete) true false (!complete || store.seedingEnabled)
      start.intent.isForeground unchanged
    exact .inl ⟨same, congrArg Prod.fst fence, tokens⟩
  · have changed : (state.selectedFile != some start.fileIdx ||
        state.selectedPriority != comparedPriority state start complete) = true := by
      simp [Ne.symm same]
    obtain ⟨_, tokens⟩ := select_changed_fence state store.tokens store.now start.fileIdx
      (comparedPriority state start complete) true false (!complete || store.seedingEnabled)
      start.intent.isForeground changed
    exact .inr ⟨same, tokens⟩

theorem keepsStreams_iff {permit : LibtorrentPlaybackPermit H}
    (stream : RunningStream store state permit) (sameFile : start.fileIdx = permit.fileIdx)
    (infoHash : H) (entry : Nat) (complete : Bool) :
    KeepsStreams store infoHash entry start complete state ↔
      (start.intent.isForeground = true →
        requestedNativePriority complete start.intent = state.selectedPriority) := by
  have selected : state.selectedFile = some start.fileIdx := by rw [stream.selected, sameFile]
  have condition : comparedPriority state start complete = state.selectedPriority ↔
      (start.intent.isForeground = true →
        requestedNativePriority complete start.intent = state.selectedPriority) := by
    unfold comparedPriority
    cases start.intent.isForeground <;> simp
  rw [← condition]
  obtain ⟨selection, next, selects, kept | cancelled⟩ :=
    @startSelect_sameFile H store state start selected stream.counted infoHash entry complete
  · refine iff_of_true ⟨selection, next, selects, kept.2.1, fun outstanding _ => ?_⟩ kept.1
    rw [kept.2.2]
  · refine iff_of_false ?_ cancelled.1
    rintro ⟨_, other, selects', _, untouched⟩
    cases selects.symm.trans selects'
    have observed := untouched permit stream.held
    rw [cancelled.2, Tokens.isCancelled_create, stream.running, stream.cancellation] at observed
    rw [Tokens.isCancelled_cancel_self _ _ (stream.cancellation ▸ stream.issued)] at observed
    cases observed

end SameFile

section Completed

open Runs

def completedBetweenReads : List (Action Nat) :=
  let outcome : Outcome := ⟨true, false, 0, []⟩
  [.call (.startEntry 7 1 ⟨0, 0, .directInitial⟩ false), .task 0 outcome, .task 0 outcome,
    .call (.startEntry 7 1 ⟨0, 1, .directSequential⟩ true), .task 1 outcome, .task 1 outcome]

theorem second_read_cancels_the_first :
    ∃ before after state permit,
      run Coordinator.step Coordinator.new (completedBetweenReads.take 5) = some before ∧
      before.store.state? 0 = some state ∧ RunningStream before.store state permit ∧
      run Coordinator.step Coordinator.new completedBetweenReads = some after ∧
      permit.fileIdx = 0 ∧ after.store.tokens.isCancelled permit.cancellation = true := by
  refine ⟨_, _, _, _, rfl, rfl, ⟨List.mem_cons_self, rfl, rfl, by decide, rfl, rfl,
    Nat.lt_succ_self 1, rfl⟩, rfl, rfl, rfl⟩

theorem second_read_joins :
    ∃ before state permit,
      run Coordinator.step Coordinator.new (completedBetweenReads.take 5) = some before ∧
      before.store.state? 0 = some state ∧ RunningStream before.store state permit ∧
      KeepsStreams before.store 7 0 ⟨0, 1, .directSequential⟩ false state := by
  obtain ⟨before, state, permit, ran, found, stream, file, priority⟩ :
      ∃ before state permit,
        run Coordinator.step Coordinator.new (completedBetweenReads.take 5) = some before ∧
        before.store.state? 0 = some state ∧ RunningStream before.store state permit ∧
        permit.fileIdx = 0 ∧ state.selectedPriority = 1 :=
    ⟨_, _, _, rfl, rfl, ⟨List.mem_cons_self, rfl, rfl, by decide, rfl, rfl, Nat.lt_succ_self 1,
      rfl⟩, rfl, rfl⟩
  exact ⟨before, state, permit, ran, found, stream,
    (keepsStreams_iff stream file.symm 7 0 false).mpr fun _ => priority.symm⟩

end Completed

end StreamServer.Playback
