import StreamServer.Playback.Moves
import StreamServer.Playback.Steps

set_option autoImplicit false

namespace StreamServer.Playback

open CancellationTokens TorrentPlaybackState Store

variable {H : Type}

def Task.starting : Task H → Option (H × Nat)
  | .startSelect infoHash entry .. => some (infoHash, entry)
  | _ => none

def Task.writingBack : Task H → Option (Nat × Nat)
  | .endWriteBack entry generation => some (entry, generation)
  | _ => none

def Worker.releasing : Worker H → Option (LibtorrentPlaybackPermit H × Nat)
  | .releaseLock permit entry | .releaseState permit entry => some (permit, entry)
  | _ => none

def Worker.unreleased : Worker H → Option (LibtorrentPlaybackPermit H)
  | .releaseEntry permit | .releaseLock permit _ | .releaseState permit _ => some permit
  | _ => none

structure Issued (before after : Store H) (infoHash : H) (entry : Nat)
    (state next : TorrentPlaybackState) (permit : LibtorrentPlaybackPermit H) : Prop where
  entries : after.entries = before.entries
  queue : after.queue = before.queue
  permits : after.permits = before.permits ++ [permit]
  length : after.cells.length = before.cells.length
  states : ∀ other, after.state? other =
    (before.state? other).map fun state => if other = entry then next else state
  infoHash : permit.infoHash = infoHash
  issuer : permit.issuer = entry
  direct : next.directPermits = state.directPermits.acquire permit.generation
  foreground : next.foregroundPermits =
    if permit.foreground then state.foregroundPermits.acquire permit.generation
    else state.foregroundPermits
  writes : WritesCurrent state next

theorem startSelect_issued {before after : Store H} {infoHash : H} {entry : Nat} {start : LibtorrentPlaybackStart}
    {complete : Bool} {state : TorrentPlaybackState} {selection : Selection}
    (selected : startSelect before infoHash entry start complete state = some (selection, after)) :
    ∃ next permit, Issued before after infoHash entry state next permit ∧
      next.generation = selection.generation ∧
      (selection.changed = false → next.generation = state.generation) := by
  unfold startSelect at selected
  simp only at selected
  split at selected
  next => cases selected
  next =>
    generalize (if !start.intent.isForeground && decide (state.activeForegroundPermits > 0) &&
      state.selectedFile == some start.fileIdx then state.selectedPriority
      else requestedNativePriority complete start.intent) = priority at selected
    have counters := state.select_counters before.tokens before.now start.fileIdx priority true false
      (!complete || before.seedingEnabled) start.intent.isForeground
    have writes := state.select_writesCurrent before.tokens before.now start.fileIdx priority true
      false (!complete || before.seedingEnabled) start.intent.isForeground
    have generation := state.select_generation_eq before.tokens before.now start.fileIdx priority
      true false (!complete || before.seedingEnabled) start.intent.isForeground
    have changed := state.select_changed before.tokens before.now start.fileIdx priority true false
      (!complete || before.seedingEnabled) start.intent.isForeground
    have current := state.select_generation before.tokens before.now start.fileIdx priority true false
      (!complete || before.seedingEnabled) start.intent.isForeground
    generalize state.select before.tokens before.now start.fileIdx priority true false
      (!complete || before.seedingEnabled) start.intent.isForeground = result
      at selected counters writes generation changed current
    obtain ⟨rfl, rfl⟩ := Prod.mk.inj (Option.some.inj selected)
    refine ⟨result.2.1, _, ⟨rfl, rfl, rfl, ?_, ?_, rfl, rfl, ?_, ?_, writes⟩, current, ?_⟩
    · simp [setState, updateState, updateCell]
    · exact fun other => before.state?_updateState entry other fun _ => result.2.1
    · simpa using counters.1
    · simpa using counters.2
    · intro unchanged
      rw [changed] at unchanged
      rw [current, generation, unchanged]
      rfl

theorem mem_continueTask {tasks : List (Task H)} {index : Nat} {rest : Option (Task H)}
    {task : Task H} (member : task ∈ continueTask tasks index rest) :
    task ∈ tasks ∨ task ∈ rest := by
  cases rest with
  | none => exact .inl (List.mem_of_mem_eraseIdx member)
  | some next =>
    rcases List.mem_or_eq_of_mem_set member with earlier | rfl
    · exact .inl earlier
    · exact .inr rfl

variable [DecidableEq H]

def Task.begins (store : Store H) : Task H → Option Nat
  | .startSelect infoHash entry _ start complete => do
      let state ← store.state? entry
      let (selection, _) ← Playback.startSelect store infoHash entry start complete state
      if selection.changed then some entry else none
  | .refreshSelect _ entry _ fileIdx complete => do
      let state ← store.state? entry
      let (selection, _) := state.select store.tokens store.now fileIdx (if complete then 0 else 1)
        false true (!complete || store.seedingEnabled) false
      if selection.changed then some entry else none
  | .endBegin _ entry fileIdx => do
      let state ← store.state? entry
      if state.selectedFile ≠ some fileIdx ∧ state.hlsLastActivity = none then none else some entry
  | _ => none

def Worker.begins (store : Store H) : Worker H → Option Nat
  | .scan ((_, entry) :: _) scanNow _ => do
      let state ← store.state? entry
      let expired := state.expireHls scanNow
      if expired.idlePauseDue scanNow ∧ expired.phase ≠ .pausePending then some entry else none
  | _ => none

inductive TaskStep (before : Store H) (task : Task H) : Store H → Option (Task H) → Prop where
  | lookup (infoHash : H) (rest : Task H)
      (starting : ∀ target ∈ rest.starting, target = (infoHash, (before.entry infoHash).1))
      (quiet : rest.writingBack = none) :
      TaskStep before task (before.entry infoHash).2 (some rest)
  | sections (after : Store H) (rest : Option (Task H)) (step : SectionStep before after)
      (quiet : ∀ next ∈ rest, next.starting = none)
      (writing : ∀ next ∈ rest, ∀ target ∈ next.writingBack, before.seedingEnabled = false ∧
        ∃ infoHash, task = .endCheckSeeding infoHash target.1 target.2 true) :
      TaskStep before task after rest
  | began (entry : Nat) (after : Store H) (rest : Option (Task H))
      (begins : task.begins before = some entry) (step : BeginStep entry before after)
      (quiet : ∀ next ∈ rest, next.starting = none ∧ next.writingBack = none) :
      TaskStep before task after rest
  | issued (infoHash : H) (entry fileCount : Nat) (start : LibtorrentPlaybackStart)
      (complete : Bool) (state : TorrentPlaybackState) (selection : Selection) (after : Store H)
      (rest : Option (Task H)) (same : task = .startSelect infoHash entry fileCount start complete)
      (found : before.state? entry = some state)
      (selected : startSelect before infoHash entry start complete state = some (selection, after))
      (quiet : ∀ next ∈ rest, next.starting = none ∧ next.writingBack = none) :
      TaskStep before task after rest
  | failed (after : Store H) (id : Nat) (step : SectionStep before after) :
      TaskStep before task (after.dropPermit id) none
  | wroteBack (entry generation : Nat) (same : task = .endWriteBack entry generation) :
      TaskStep before task (before.updateState entry (·.writePhase generation .pausedIdle)) none

inductive WorkerStep (before : Store H) (worker : Worker H) : Store H → Worker H → Prop where
  | lookup (infoHash : H) (rest : Worker H) (quiet : rest.unreleased = worker.unreleased)
      (releasing : ∀ target ∈ rest.releasing,
        target.1.infoHash = infoHash ∧ target.2 = (before.entry infoHash).1) :
      WorkerStep before worker (before.entry infoHash).2 rest
  | sections (after : Store H) (rest : Worker H) (step : SectionStep before after)
      (quiet : rest.unreleased = worker.unreleased ∧ rest.releasing = worker.releasing) :
      WorkerStep before worker after rest
  | began (entry : Nat) (after : Store H) (rest : Worker H)
      (begins : worker.begins before = some entry) (step : BeginStep entry before after)
      (quiet : rest.unreleased = worker.unreleased ∧ rest.releasing = worker.releasing) :
      WorkerStep before worker after rest
  | released (permit : LibtorrentPlaybackPermit H) (entry : Nat)
      (same : worker = .releaseState permit entry) :
      WorkerStep before worker
        (before.updateState entry fun state =>
          (state.releasePlayback permit.generation permit.streamId permit.foreground before.now).1)
        (.releaseNative entry)

section Inversion

variable {before after : Store H} {outcome : Outcome}

theorem TaskStep.quiet {task : Task H} (step : SectionStep before after) (rest : Option (Task H))
    (idle : ∀ next ∈ rest, next.starting = none ∧ next.writingBack = none) :
    TaskStep before task after rest :=
  .sections after rest step (fun next member => (idle next member).1) fun next member target has => by
    rw [(idle next member).2] at has
    cases has

theorem stepTask_cases {task : Task H} {rest : Option (Task H)}
    (taken : stepTask before outcome task = some (after, rest)) :
    TaskStep before task after rest := by
  have same := SectionStep.refl before
  cases stepTask_move taken with
  | startEntry infoHash => exact .lookup infoHash _ (by simp [Task.starting]) rfl
  | refreshEntry infoHash | endEntry infoHash | metadataEntry infoHash | reannounceEntry infoHash =>
    exact .lookup infoHash _ (by simp [Task.starting]) rfl
  | refused | endUnrelated | reannounceStale => exact .quiet same _ (by simp)
  | selected infoHash entry fileCount start complete state selection _ found selected =>
    exact .issued infoHash entry fileCount start complete state selection _ _ rfl found selected
      (by simp [Task.starting, Task.writingBack])
  | activating _ _ _ _ _ activated =>
    exact .quiet (activateSelection_section activated) _ (by simp [Task.starting, Task.writingBack])
  | activationFailed _ id _ next activated => exact .failed next id (activateSelection_section activated)
  | activated _ _ _ _ _ activated => exact .quiet (activateSelection_section activated) _ (by simp)
  | refreshed _ _ _ _ _ _ found unchanged =>
    exact .quiet ((SectionStep.setState found (.refreshed _ _ _ _ _ unchanged)).tokens _) _ (by simp)
  | reselected _ entry _ _ _ _ found changed =>
    refine .began entry _ _ ?_ ((BeginStep.setState found (.refreshed _ _ _ _ _)).tokens _)
      (by simp [Task.starting, Task.writingBack])
    simpa [Task.begins, found] using changed
  | endBegun _ entry _ _ found relevant =>
    refine .began entry _ _ ?_ ((BeginStep.setState found (.ended _)).tokens _)
      (by simp [Task.starting, Task.writingBack])
    simpa [Task.begins, found] using relevant
  | endSeeding | endRunning | reannounceCheck =>
    exact .quiet same _ (by simp [Task.starting, Task.writingBack])
  | endPaused _ _ _ disabled =>
    exact .sections _ _ same (by simp [Task.starting]) (by simpa [Task.writingBack] using disabled)
  | endKeepActive _ generation =>
    exact .quiet (SectionStep.updateState fun _ => .keepActive generation) _ (by simp)
  | endWriteBack entry generation => exact .wroteBack entry generation rfl
  | endPause _ _ _ _ paused =>
    exact .quiet (performPause_section paused) _ (by simp [Task.starting, Task.writingBack])
  | ended _ _ _ _ paused => exact .quiet (performPause_section paused) _ (by simp)
  | metadataLock _ _ _ lockable =>
    exact .quiet (SectionStep.tryLock lockable) _ (by simp [Task.starting, Task.writingBack])
  | metadataAbsent _ entry => exact .quiet (same.unlock entry) _ (by simp)
  | metadataKnown _ entry torrent _ _ found =>
    have acquired := SectionStep.setState found (.metadataAcquired torrent.hasMetadata)
    exact .quiet ((acquired.metadataPermits _).unlock entry) _ (by simp)
  | metadataFetched _ _ torrent _ _ found =>
    have acquired := SectionStep.setState found (.metadataAcquired torrent.hasMetadata)
    exact .quiet (acquired.metadataPermits _) _ (by simp [Task.starting, Task.writingBack])
  | metadataAnnounce infoHash entry =>
    have announced : SectionStep before
        (before.updateState entry ({ · with metadataAnnounced := true })) :=
      SectionStep.updateState fun _ => .announced
    exact .quiet ((announced.setNative infoHash _).unlock entry) _ (by simp)
  | removeCancel => exact .quiet (same.tokens _) _ (by simp)
  | reannounceState =>
    refine .quiet (SectionStep.updateState fun state => ?_) _ (by simp)
    split
    · exact .reannounced _
    · exact .unchanged

theorem stepWorker_cases {attempt : Nat} {worker rest : Worker H}
    (taken : stepWorker before outcome attempt worker = some (after, rest)) :
    WorkerStep before worker after rest := by
  have same := SectionStep.refl before
  cases stepWorker_move taken with
  | replaceEntry infoHash | metadataEntry infoHash =>
    exact .lookup infoHash _ rfl (by simp [Worker.releasing])
  | releaseEntry permit =>
    exact .lookup permit.infoHash (.releaseLock permit (before.entry permit.infoHash).1) rfl
      (by simp [Worker.releasing])
  | releaseState permit entry => exact .released permit entry rfl
  | replaceLock _ _ _ _ _ _ lockable | releaseLock _ _ _ lockable | seedingOn _ _ _ _ lockable =>
    exact .sections _ _ (SectionStep.tryLock lockable) ⟨rfl, rfl⟩
  | replaceState entry _ _ _ _ _ found =>
    refine .sections _ _ ((SectionStep.setState found ?_).unlock entry) ⟨rfl, rfl⟩
    split
    · exact .window _
    · exact .unchanged
  | releaseNative entry | seedingOnGone _ entry => exact .sections _ _ (same.unlock entry) ⟨rfl, rfl⟩
  | metadataState =>
    exact .sections _ _ (SectionStep.updateState fun _ => .metadataReleased _) ⟨rfl, rfl⟩
  | seededOff | seededOn | verifiedComplete | verifiedIncomplete | verifiedStale | scanned | joined
  | settled =>
    exact .sections _ _ same ⟨rfl, rfl⟩
  | seedingOff =>
    exact .sections _ _ (SectionStep.updateState fun _ => .scheduleIdle _) ⟨rfl, rfl⟩
  | seedingOnPaused _ _ _ _ found =>
    exact .sections _ _ (SectionStep.setState found .deadlineCleared) ⟨rfl, rfl⟩
  | seedingOnState _ entry _ _ found =>
    exact .sections _ _ ((SectionStep.setState found .deadlineCleared).unlock entry) ⟨rfl, rfl⟩
  | seedingOnResume infoHash entry =>
    have resumed : SectionStep before (before.updateState entry ({ · with phase := .active })) :=
      SectionStep.updateState fun _ => .resumed
    exact .sections _ _ ((resumed.setNative infoHash _).unlock entry) ⟨rfl, rfl⟩
  | verifiedState _ _ piece _ found =>
    refine .sections _ _ (SectionStep.setState found (.verified piece)) ?_
    split <;> exact ⟨rfl, rfl⟩
  | verifiedPending _ _ _ _ found =>
    exact .sections _ _ (SectionStep.setState found (.currentPhase .pausePending)) ⟨rfl, rfl⟩
  | verifiedPause _ _ _ _ paused | verifiedPaused _ _ _ paused | verifiedUnpaused _ _ _ paused
  | join _ _ _ _ _ _ paused =>
    exact .sections _ _ (performPause_section paused) ⟨rfl, rfl⟩
  | verifiedFailed _ generation =>
    refine .sections _ _ (SectionStep.updateState fun state => ?_) ⟨rfl, rfl⟩
    split
    next unmoved => exact unmoved ▸ .currentPhase .active
    next => exact .unchanged
  | scan _ entry _ scanNow _ state found =>
    have cases := scanIdle_cases state before.tokens scanNow
    generalize state.scanIdle before.tokens scanNow = scan at cases
    rcases cases with scanned | ⟨due, fresh, started⟩
    · exact .sections _ _ ((SectionStep.setState found scanned).tokens _) ⟨rfl, rfl⟩
    · refine .began entry _ _ ?_ ((BeginStep.setState found ?_).tokens _) ⟨rfl, rfl⟩
      · simp [Worker.begins, found, due, fresh]
      · rw [started]
        exact .idle _ _
  | settle =>
    exact .sections _ _ (SectionStep.updateState fun _ => .pauseFailed _ _) ⟨rfl, rfl⟩

end Inversion

end StreamServer.Playback
