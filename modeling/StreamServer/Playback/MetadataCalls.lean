import StreamServer.Playback.DecidedPauses
import StreamServer.Playback.Permits

set_option autoImplicit false

namespace StreamServer.Playback

open TorrentPlaybackState Store

variable {H : Type}

def Coordinator.captured (coordinator : Coordinator H) : List (Nat × Nat) :=
  coordinator.tasks.filterMap Task.captured ++ coordinator.worker.captured

/-- The torrent that the step decides to pause for another reason than that it is idle. -/
def Coordinator.decides (coordinator : Coordinator H) : Action H → Option H
  | .task index _ => coordinator.tasks[index]?.bind (Task.decides coordinator.store)
  | .worker _ _ => coordinator.worker.decides coordinator.store
  | _ => none

def Coordinator.findsDue (coordinator : Coordinator H) : Action H → Option H
  | .worker _ _ => coordinator.worker.findsDue coordinator.store
  | _ => none

section Actions

variable [DecidableEq H] {before after : Coordinator H} {action : Action H}

theorem step_parties (taken : before.step action = some after) :
    (∃ index outcome task store rest, action = .task index outcome ∧
      before.tasks[index]? = some task ∧ stepTask before.store outcome task = some (store, rest) ∧
      after = { before with store, tasks := continueTask before.tasks index rest }) ∨
    (∃ outcome attempt store worker, action = .worker outcome attempt ∧
      stepWorker before.store outcome attempt before.worker = some (store, worker) ∧
      after = { before with store, worker }) ∨
    (∀ task ∈ after.tasks, task ∈ before.tasks ∨ task.pause = none ∧ task.captured = none) ∧
      (after.worker = before.worker ∨ after.worker.pauses = [] ∧ after.worker.captured = []) := by
  have still (store : Store H) :
      (∀ task ∈ ({ before with store } : Coordinator H).tasks, task ∈ before.tasks ∨
        task.pause = none ∧ task.captured = none) ∧
      (({ before with store } : Coordinator H).worker = before.worker ∨
        ({ before with store } : Coordinator H).worker.pauses = [] ∧
        ({ before with store } : Coordinator H).worker.captured = []) :=
    ⟨fun _ member => .inl member, .inl rfl⟩
  cases step_move taken with
  | task index outcome task store rest present stepped =>
    exact .inl ⟨index, outcome, task, store, rest, rfl, present, stepped, rfl⟩
  | worker outcome attempt store worker stepped =>
    exact .inr (.inl ⟨outcome, attempt, store, worker, rfl, stepped, rfl⟩)
  | called task isCall =>
    refine .inr (.inr ⟨fun other member => ?_, .inl rfl⟩)
    rcases List.mem_append.mp member with earlier | new
    · exact .inl earlier
    · cases List.mem_singleton.mp new
      cases task <;> simp [Task.pause, Task.captured, Task.isCall] at isCall ⊢
  | abandoned index =>
    exact .inr (.inr ⟨fun other member => .inl (List.mem_of_mem_eraseIdx member), .inl rfl⟩)
  | removed infoHash =>
    refine .inr (.inr ⟨fun other member => ?_, .inl rfl⟩)
    rcases List.mem_append.mp member with earlier | new
    · exact .inl earlier
    · cases List.mem_singleton.mp new
      exact .inr ⟨rfl, rfl⟩
  | received command queue =>
    refine .inr (.inr ⟨fun _ member => .inl member, .inr ?_⟩)
    cases command with
    | seedingEnabled enabled => cases enabled <;> exact ⟨rfl, rfl⟩
    | pieceVerified infoHash piece =>
      simp only [receive]
      split <;> exact ⟨rfl, rfl⟩
    | _ => exact ⟨rfl, rfl⟩
  | ticked => exact .inr (.inr ⟨fun _ member => .inl member, .inr ⟨rfl, rfl⟩⟩)
  | droppedPermit | replaced | droppedMetadata | seedingTick | registered | unmapped | layoutLoaded
  | seedingSet | verified | invalidated | nativeSet | advanced =>
    exact .inr (.inr (still _))

omit [DecidableEq H] in
theorem captured_of_pause {task : Task H} {pause : DecidedPause H} (pauses : task.pause = some pause) :
    task.captured = some pause.1.target := by
  cases task with
  | endCheckSeeding infoHash entry generation alreadyPaused =>
    cases alreadyPaused <;> cases pauses
    rfl
  | activate activation permit pc =>
    cases pc <;> cases pauses
    rfl
  | endPause call pc =>
    cases pauses
    rfl
  | _ => cases pauses

omit [DecidableEq H] in
theorem captured_of_pauses {worker : Worker H} {pause : DecidedPause H} (member : pause ∈ worker.pauses) :
    pause.1.target ∈ worker.captured := by
  cases worker with
  | verifiedPause call pc =>
    cases List.mem_singleton.mp member
    exact List.mem_singleton.mpr rfl
  | scan entries scanNow due =>
    obtain ⟨call, found, rfl⟩ := List.mem_map.mp member
    exact List.mem_map.mpr ⟨call, found, rfl⟩
  | join attempts =>
    obtain ⟨⟨call, progress⟩, found, running⟩ := List.mem_filterMap.mp member
    cases progress <;> cases running
    exact List.mem_map.mpr ⟨_, found, rfl⟩
  | _ => cases member

def GenerationsReached (coordinator : Coordinator H) : Prop :=
  ∀ target ∈ coordinator.captured, coordinator.store.Reached target

theorem step_reached (fenced : Fenced before.store) (reached : GenerationsReached before)
    (taken : before.step action = some after) : GenerationsReached after := by
  have kept {target : Nat × Nat} (captures : target ∈ before.captured) : after.store.Reached target :=
    (reached target captures).step (step_fence taken) fenced
  have fresh {target : Nat × Nat} (current : after.store.generation? target.1 = some target.2) :
      after.store.Reached target := ⟨target.2, current, le_refl _⟩
  have ofTask {target : Nat × Nat} {task : Task H} (member : task ∈ before.tasks)
      (captures : task.captured = some target) : after.store.Reached target :=
    kept (List.mem_append_left _ (List.mem_filterMap.mpr ⟨task, member, captures⟩))
  intro target captures
  rcases step_parties taken with
    ⟨index, outcome, task, store, rest, rfl, present, stepped, rfl⟩ |
    ⟨outcome, attempt, store, worker, rfl, stepped, rfl⟩ | ⟨tasks, worker⟩
  · rcases List.mem_append.mp captures with inTasks | inWorker
    · obtain ⟨other, member, captured⟩ := List.mem_filterMap.mp inTasks
      rcases mem_continueTask member with earlier | next
      · exact ofTask earlier captured
      · cases next
        rcases stepTask_captured stepped captured with earlier | current
        · exact ofTask (List.mem_of_getElem? present) earlier
        · exact fresh current
    · exact kept (List.mem_append_right _ inWorker)
  · rcases List.mem_append.mp captures with inTasks | inWorker
    · exact kept (List.mem_append_left _ inTasks)
    · rcases stepWorker_captured stepped inWorker with earlier | current
      · exact kept (List.mem_append_right _ earlier)
      · exact fresh current
  · rcases List.mem_append.mp captures with inTasks | inWorker
    · obtain ⟨task, member, captured⟩ := List.mem_filterMap.mp inTasks
      rcases tasks task member with earlier | ⟨-, nothing⟩
      · exact ofTask earlier captured
      · rw [nothing] at captured
        cases captured
    · rcases worker with same | ⟨-, nothing⟩
      · exact kept (List.mem_append_right _ (same ▸ inWorker))
      · rw [nothing] at inWorker
        cases inWorker

theorem step_pause {pause : DecidedPause H} (fenced : Fenced before.store)
    (reached : GenerationsReached before) (taken : before.step action = some after)
    (pausing : pause ∈ after.pauses) (still : after.store.willPause pause) :
    (∃ earlier ∈ before.pauses, earlier.1 = pause.1 ∧ before.store.willPause earlier) ∨
      before.decides action = some pause.1.infoHash ∨
      before.findsDue action = some pause.1.infoHash := by
  have kept (member : pause ∈ before.pauses) (captures : pause.1.target ∈ before.captured) :
      ∃ earlier ∈ before.pauses, earlier.1 = pause.1 ∧ before.store.willPause earlier :=
    ⟨pause, member, rfl, willPause_of_step (step_fence taken) fenced (reached _ captures) still⟩
  have ofTask {task : Task H} (member : task ∈ before.tasks) (pauses : task.pause = some pause) :
      ∃ earlier ∈ before.pauses, earlier.1 = pause.1 ∧ before.store.willPause earlier := by
    refine kept (List.mem_append_left _ ?_) (List.mem_append_left _ ?_)
    · exact List.mem_filterMap.mpr ⟨task, member, pauses⟩
    · exact List.mem_filterMap.mpr ⟨task, member, captured_of_pause pauses⟩
  have ofWorker (member : pause ∈ before.worker.pauses) :
      ∃ earlier ∈ before.pauses, earlier.1 = pause.1 ∧ before.store.willPause earlier :=
    kept (List.mem_append_right _ member) (List.mem_append_right _ (captured_of_pauses member))
  rcases step_parties taken with
    ⟨index, outcome, task, store, rest, rfl, present, stepped, rfl⟩ |
    ⟨outcome, attempt, store, worker, rfl, stepped, rfl⟩ | ⟨tasks, worker⟩
  · rcases List.mem_append.mp pausing with inTasks | inWorker
    · obtain ⟨other, member, pauses⟩ := List.mem_filterMap.mp inTasks
      rcases mem_continueTask member with earlier | next
      · exact .inl (ofTask earlier pauses)
      · cases next
        rcases stepTask_pause stepped pauses still with ⟨earlier, was, same, will⟩ | decided
        · refine .inl ⟨earlier, List.mem_append_left _ ?_, same, will⟩
          exact List.mem_filterMap.mpr ⟨task, List.mem_of_getElem? present, was⟩
        · exact .inr (.inl (by simpa [Coordinator.decides, present] using decided))
    · exact .inl (ofWorker inWorker)
  · rcases List.mem_append.mp pausing with inTasks | inWorker
    · obtain ⟨task, member, pauses⟩ := List.mem_filterMap.mp inTasks
      exact .inl (ofTask member pauses)
    · have captured (target : Nat × Nat) (captures : target ∈ before.worker.captured) :
          before.store.Reached target := reached target (List.mem_append_right _ captures)
      rcases stepWorker_pause stepped fenced captured inWorker still with
        ⟨earlier, was, same, will⟩ | decided | due
      · exact .inl ⟨earlier, List.mem_append_right _ was, same, will⟩
      · exact .inr (.inl decided)
      · exact .inr (.inr due)
  · rcases List.mem_append.mp pausing with inTasks | inWorker
    · obtain ⟨task, member, pauses⟩ := List.mem_filterMap.mp inTasks
      rcases tasks task member with earlier | ⟨nothing, -⟩
      · exact .inl (ofTask earlier pauses)
      · rw [nothing] at pauses
        cases pauses
    · rcases worker with same | ⟨nothing, -⟩
      · exact .inl (ofWorker (same ▸ inWorker))
      · rw [nothing] at inWorker
        cases inWorker

end Actions

def Task.fetching : Task H → Option (H × Nat)
  | .metadataLock infoHash entry | .metadataAcquire infoHash entry
  | .metadataAnnounce infoHash entry _ => some (infoHash, entry)
  | _ => none

def Worker.scanning : Worker H → List (H × Nat)
  | .scan entries _ _ => entries
  | _ => []

def Worker.atMetadata : Worker H → Bool
  | .metadataEntry _ | .metadataState _ => true
  | _ => false

variable [DecidableEq H]

def Task.announces (infoHash : H) : Task H → Bool
  | .metadataAnnounce other _ _ => other == infoHash
  | _ => false

def PlaybackCommand.releasesMetadata (infoHash : H) : PlaybackCommand H → Bool
  | .releaseMetadata permit => permit.infoHash == infoHash
  | _ => false

def Store.heldMetadata (store : Store H) (infoHash : H) : Nat :=
  store.metadataPermits.countP (·.infoHash == infoHash)

def Store.queuedMetadata (store : Store H) (infoHash : H) : Nat :=
  store.queue.countP (·.releasesMetadata infoHash)

def Worker.releasesFor (store : Store H) (infoHash : H) : Worker H → Nat
  | .metadataEntry other => if other = infoHash then 1 else 0
  | .metadataState entry => if store.entries.lookup infoHash = some entry then 1 else 0
  | _ => 0

def Coordinator.unreleasedMetadata (coordinator : Coordinator H) (infoHash : H) : Nat :=
  coordinator.store.heldMetadata infoHash + coordinator.store.queuedMetadata infoHash +
    coordinator.worker.releasesFor coordinator.store infoHash

/-- What the entry counts that the torrent is mapped to. -/
def Store.metadataCount (store : Store H) (infoHash : H) : Nat :=
  ((store.entries.lookup infoHash).bind store.metadataCount?).getD 0

structure MetadataFrame (infoHash : H) (touched : Option Nat) (before after : Store H) : Prop where
  kept : ∀ entry, before.entries.lookup infoHash = some entry →
    after.entries.lookup infoHash = some entry
  fresh : ∀ entry, after.entries.lookup infoHash = some entry →
    before.entries.lookup infoHash = some entry ∨ before.cells.length ≤ entry
  counters : CounterStep touched before after

section Stores

variable {infoHash : H} {touched : Option Nat} {before after : Store H} {outcome : Outcome}

omit [DecidableEq H] in
theorem FenceStep.inside {teardown : Option Nat} (step : FenceStep teardown before after)
    (fenced : Fenced before) {entry : Nat} (inside : entry < before.cells.length) :
    entry < after.cells.length := by
  have present : before.cells[entry]? = some before.cells[entry] := List.getElem?_eq_getElem inside
  have found : before.generation? entry = some before.cells[entry].state.generation := by
    simp [generation?, Store.state?, present]
  obtain ⟨next, later, -⟩ := step.generation_le fenced found
  obtain ⟨state, stateFound, -⟩ := Option.map_eq_some_iff.mp later
  exact lt_of_state? stateFound

theorem Extends.metadataFrame (extension : Extends before after)
    (counters : CounterStep touched before after) : MetadataFrame infoHash touched before after :=
  ⟨extension.kept infoHash, extension.entries infoHash, counters⟩

theorem metadataCount_le (frame : MetadataFrame infoHash touched before after)
    (untouched : ∀ entry, before.entries.lookup infoHash = some entry → touched ≠ some entry) :
    before.metadataCount infoHash ≤ after.metadataCount infoHash := by
  cases mapped : before.entries.lookup infoHash with
  | none => simp [Store.metadataCount, mapped]
  | some entry =>
    rcases frame.counters entry (untouched entry mapped) with same | ⟨new, counted⟩
    · simp [Store.metadataCount, mapped, frame.kept entry mapped, same]
    · simp [Store.metadataCount, mapped, frame.kept entry mapped, new]

theorem queuedMetadata_releases (infoHash : H) (released : List (LibtorrentPlaybackPermit H))
    (same : after.queue = before.queue ++ released.map .releasePlayback) :
    after.queuedMetadata infoHash = before.queuedMetadata infoHash := by
  have nothing : (released.map PlaybackCommand.releasePlayback).countP
      (·.releasesMetadata infoHash) = 0 := by
    rw [List.countP_eq_zero]
    intro command member
    obtain ⟨permit, -, rfl⟩ := List.mem_map.mp member
    exact Bool.false_ne_true
  simp [Store.queuedMetadata, same, List.countP_append, nothing]

theorem stepTask_fetching {task next : Task H} {other : H} {entry : Nat}
    (taken : stepTask before outcome task = some (after, some next))
    (fetches : next.fetching = some (other, entry)) :
    (task = .metadataEntry other ∧ next = .metadataLock other (before.entry other).1 ∧
      entry = (before.entry other).1 ∧ after = (before.entry other).2) ∨
    (task = .metadataLock other entry ∧ next = .metadataAcquire other entry) ∨
    ∃ torrent, task = .metadataAcquire other entry ∧ before.native other = some torrent ∧
      after.native = before.native ∧ next = .metadataAnnounce other entry torrent.isPaused := by
  cases stepTask_move taken with
  | metadataEntry =>
    cases fetches
    exact .inl ⟨rfl, rfl, rfl, rfl⟩
  | metadataLock =>
    cases fetches
    exact .inr (.inl ⟨rfl, rfl⟩)
  | metadataFetched _ _ torrent _ present =>
    cases fetches
    exact .inr (.inr ⟨torrent, rfl, present, rfl, rfl⟩)
  | _ => cases fetches

theorem stepTask_acquires {entry : Nat} {rest : Option (Task H)}
    (taken : stepTask before outcome (.metadataAcquire infoHash entry) = some (after, rest)) :
    after.native = before.native ∧ after.entries = before.entries ∧
    (before.native infoHash = none ∧ rest = none ∧ after.metadataPermits = before.metadataPermits ∧
        after.metadataCount? entry = before.metadataCount? entry ∨
      ∃ torrent state, before.native infoHash = some torrent ∧ before.state? entry = some state ∧
        after.metadataPermits = before.metadataPermits ++ [⟨infoHash, state.generation⟩] ∧
        after.metadataCount? entry = some (state.metadataPermits + 1) ∧
        rest = if torrent.hasMetadata then none
          else some (.metadataAnnounce infoHash entry torrent.isPaused)) := by
  have counted (torrent : NativeTorrent) {state : TorrentPlaybackState}
      (found : before.state? entry = some state) :
      (before.setState entry (state.acquireMetadata torrent.hasMetadata)).metadataCount? entry =
        some (state.metadataPermits + 1) := by
    rw [metadataCount?, state?_setState found, if_pos rfl]
    cases torrent.hasMetadata <;> rfl
  cases stepTask_move taken with
  | metadataAbsent _ _ absent =>
    exact ⟨rfl, rfl, .inl ⟨absent, rfl, rfl, by simp [metadataCount?]⟩⟩
  | metadataKnown _ _ torrent state present found has =>
    refine ⟨rfl, rfl, .inr ⟨torrent, state, present, found, rfl, ?_, by simp [has]⟩⟩
    rw [metadataCount?, state?_unlock]
    exact counted torrent found
  | metadataFetched _ _ torrent state present found lacks =>
    exact ⟨rfl, rfl, .inr ⟨torrent, state, present, found, rfl, counted torrent found, by simp [lacks]⟩⟩

theorem stepWorker_atMetadata {attempt : Nat} {worker rest : Worker H}
    (taken : stepWorker before outcome attempt worker = some (after, rest)) :
    (∀ target ∈ rest.scanning, target ∈ worker.scanning) ∧
    ((∃ other, worker = .metadataEntry other ∧ rest = .metadataState (before.entry other).1 ∧
        after = (before.entry other).2) ∨
      (∃ entry, worker = .metadataState entry ∧ rest = .idle ∧
        after = before.updateState entry (·.releaseMetadata before.now)) ∨
      worker.atMetadata = false ∧ rest.atMetadata = false) := by
  have unscanned {next : Worker H} (idle : next.scanning = []) :
      ∀ target ∈ next.scanning, target ∈ worker.scanning := by simp [idle]
  cases stepWorker_move taken with
  | metadataEntry infoHash => exact ⟨unscanned rfl, .inl ⟨infoHash, rfl, rfl, rfl⟩⟩
  | metadataState entry => exact ⟨unscanned rfl, .inr (.inl ⟨entry, rfl, rfl, rfl⟩)⟩
  | verifiedState => split <;> exact ⟨unscanned rfl, .inr (.inr ⟨rfl, rfl⟩)⟩
  | scan => exact ⟨fun _ member => List.mem_cons_of_mem _ member, .inr (.inr ⟨rfl, rfl⟩)⟩
  | _ => exact ⟨unscanned rfl, .inr (.inr ⟨rfl, rfl⟩)⟩

end Stores

end StreamServer.Playback
