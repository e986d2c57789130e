import StreamServer.Playback.Store

set_option autoImplicit false

namespace StreamServer.Playback

open CancellationTokens

variable {H : Type}

def emergencyReannounceCooldown : Nat := 60000

-- The calls in flight. A constructor names the section that runs next; the layout and the answer of
-- `file_is_complete_with_layout` have been awaited before the first section of a start.
inductive Task (H : Type) where
  | startEntry (infoHash : H) (fileCount : Nat) (start : LibtorrentPlaybackStart) (complete : Bool)
  | startSelect (infoHash : H) (entry fileCount : Nat) (start : LibtorrentPlaybackStart)
      (complete : Bool)
  | activate (activation : Activation H) (permit : Option Nat) (pc : ActivatePc)
  | refreshEntry (infoHash : H) (fileCount fileIdx : Nat) (complete : Bool)
  | refreshSelect (infoHash : H) (entry fileCount fileIdx : Nat) (complete : Bool)
  | endEntry (infoHash : H) (fileIdx : Nat)
  | endBegin (infoHash : H) (entry fileIdx : Nat)
  | endCheckSeeding (infoHash : H) (entry generation : Nat) (alreadyPaused : Bool)
  | endKeepActive (entry generation : Nat)
  | endWriteBack (entry generation : Nat)
  | endPause (call : PauseCall H) (pc : PausePc)
  | metadataEntry (infoHash : H)
  | metadataLock (infoHash : H) (entry : Nat)
  | metadataAcquire (infoHash : H) (entry : Nat)
  | metadataAnnounce (infoHash : H) (entry : Nat) (isPaused : Bool)
  | removeCancel (entry : Nat)
  | reannounceEntry (infoHash : H) (fileIdx generation : Nat)
  | reannounceCheck (entry fileIdx generation : Nat)
  | reannounceState (entry : Nat)
deriving DecidableEq, Repr

def Task.permit : Task H → Option Nat
  | .activate _ permit _ => permit
  | _ => none

def Task.heldOperation : Task H → Option Nat
  | .activate activation _ pc => if pc.holdsOperation then some activation.entry else none
  | .endPause call pc => if pc.holdsOperation then some call.entry else none
  | .metadataAcquire _ entry | .metadataAnnounce _ entry _ => some entry
  | _ => none

-- Where the single worker stands: it finishes a command, or a round of idle pauses with all its
-- concurrent attempts, before it takes the next.
inductive Worker (H : Type) where
  | idle
  | replaceEntry (infoHash : H) (fileIdx generation streamId : Nat)
      (assignments : List LibtorrentPiecePriority)
  | replaceLock (entry fileIdx generation streamId : Nat)
      (assignments : List LibtorrentPiecePriority)
  | replaceState (entry fileIdx generation streamId : Nat)
      (assignments : List LibtorrentPiecePriority)
  | releaseEntry (permit : LibtorrentPlaybackPermit H)
  | releaseLock (permit : LibtorrentPlaybackPermit H) (entry : Nat)
  | releaseState (permit : LibtorrentPlaybackPermit H) (entry : Nat)
  | releaseNative (entry : Nat)
  | metadataEntry (infoHash : H)
  | metadataState (entry : Nat)
  | seedingOff (entries : List Nat)
  | seedingOn (entries : List (H × Nat))
  | seedingOnState (infoHash : H) (entry : Nat) (entries : List (H × Nat))
  | seedingOnResume (infoHash : H) (entry : Nat) (entries : List (H × Nat))
  | verifiedState (infoHash : H) (entry : Nat) (piece : Int)
  | verifiedComplete (infoHash : H) (entry fileIdx generation : Nat)
  | verifiedPending (infoHash : H) (entry fileIdx generation : Nat)
  | verifiedPause (call : PauseCall H) (pc : PausePc)
  | verifiedFailed (entry generation : Nat)
  | scan (entries : List (H × Nat)) (scanNow : Nat) (due : List (PauseCall H))
  | join (attempts : List (PauseCall H × Progress PausePc))
  | settle (failed : List (PauseCall H))
deriving DecidableEq, Repr

structure Coordinator (H : Type) where
  store : Store H
  tasks : List (Task H)
  worker : Worker H

variable [DecidableEq H]

def Coordinator.new : Coordinator H where
  store :=
    { tokens := .empty
      entries := ∅
      cells := []
      native := fun _ => none
      seedingEnabled := true
      queue := []
      permits := []
      metadataPermits := []
      nextPermit := 0
      now := 0 }
  tasks := []
  worker := .idle

def requestedNativePriority (complete : Bool) (intent : PlaybackIntent) : Int :=
  if complete then 0 else if intent.isDownload then 7 else 1

-- The section of `start_playback` under the state lock: none when a background probe for another
-- file is rejected, otherwise the selection and the permit it is turned into.
def startSelect (store : Store H) (infoHash : H) (entry : Nat) (start : LibtorrentPlaybackStart)
    (complete : Bool) (state : TorrentPlaybackState) :
    Option (Selection × Store H) :=
  let foreground := start.intent.isForeground
  if !foreground && state.activeForegroundPermits > 0 && state.selectedFile != some start.fileIdx then
    none
  else
    let nativePriority :=
      if !foreground && state.activeForegroundPermits > 0 &&
          state.selectedFile == some start.fileIdx then state.selectedPriority
      else requestedNativePriority complete start.intent
    let (selection, state, tokens) :=
      state.select store.tokens store.now start.fileIdx nativePriority true false
        (!complete || store.seedingEnabled) foreground
    let permit : LibtorrentPlaybackPermit H :=
      { infoHash
        fileIdx := start.fileIdx
        generation := selection.generation
        streamId := start.streamId
        cancellation := selection.cancellation
        foreground
        subordinate := selection.subordinate
        id := store.nextPermit
        issuer := entry }
    some (selection, { store.setState entry state with
      tokens
      permits := store.permits ++ [permit]
      nextPermit := store.nextPermit + 1 })

def stepTask (store : Store H) (outcome : Outcome) :
    Task H → Option (Store H × Option (Task H))
  | .startEntry infoHash fileCount start complete =>
      let (entry, store) := store.entry infoHash
      some (store, some (.startSelect infoHash entry fileCount start complete))
  | .startSelect infoHash entry fileCount start complete =>
      (store.state? entry).map fun state =>
        match startSelect store infoHash entry start complete state with
        | none => (store, none)
        | some (selection, next) =>
            (next, some (.activate ⟨infoHash, entry, fileCount, start, selection, complete⟩
              (some store.nextPermit) .lockOperation))
  | .activate activation permit pc =>
      (activateSelection store outcome activation pc).map fun (store, progress) =>
        match progress, permit with
        | .running pc, permit => (store, some (.activate activation permit pc))
        -- A failed activation drops the permit it would have returned.
        | .returned false, some id => (store.dropPermit id, none)
        | .returned _, _ => (store, none)
  | .refreshEntry infoHash fileCount fileIdx complete =>
      let (entry, store) := store.entry infoHash
      some (store, some (.refreshSelect infoHash entry fileCount fileIdx complete))
  | .refreshSelect infoHash entry fileCount fileIdx complete =>
      (store.state? entry).map fun state =>
        let (selection, state, tokens) :=
          state.select store.tokens store.now fileIdx (if complete then 0 else 1) false true
            (!complete || store.seedingEnabled) false
        let next := { store.setState entry state with tokens }
        if !selection.changed then (next, none)
        else
          let start : LibtorrentPlaybackStart := ⟨fileIdx, hlsPriorityStreamId, .hlsInitial⟩
          (next, some (.activate ⟨infoHash, entry, fileCount, start, selection, complete⟩ none
            .lockOperation))
  | .endEntry infoHash fileIdx =>
      let (entry, store) := store.entry infoHash
      some (store, some (.endBegin infoHash entry fileIdx))
  | .endBegin infoHash entry fileIdx =>
      (store.state? entry).map fun state =>
        if state.selectedFile ≠ some fileIdx ∧ state.hlsLastActivity = none then (store, none)
        else
          let alreadyPaused := state.phase == .pausedIdle
          let (state, tokens) := state.beginPause store.tokens
          ({ store.setState entry state with tokens },
            some (.endCheckSeeding infoHash entry state.generation alreadyPaused))
  | .endCheckSeeding infoHash entry generation alreadyPaused =>
      if store.seedingEnabled then some (store, some (.endKeepActive entry generation))
      else if alreadyPaused then some (store, some (.endWriteBack entry generation))
      else some (store, some (.endPause ⟨infoHash, entry, generation, true⟩ .checkSeeding))
  | .endKeepActive entry generation =>
      some (store.updateState entry (·.keepActiveForSeeding generation), none)
  | .endWriteBack entry generation =>
      -- `entry.state.lock().await.phase = PausedIdle`, with no look at the generation.
      some (store.updateState entry (·.writePhase generation .pausedIdle), none)
  | .endPause call pc =>
      (performPause store outcome.ok call pc).map fun (store, progress) =>
        match progress with
        | .running pc => (store, some (.endPause call pc))
        | .returned _ => (store, none)
  | .metadataEntry infoHash =>
      let (entry, store) := store.entry infoHash
      some (store, some (.metadataLock infoHash entry))
  | .metadataLock infoHash entry =>
      (store.tryLock entry).map (·, some (.metadataAcquire infoHash entry))
  | .metadataAcquire infoHash entry =>
      match store.native infoHash with
      | none => some (store.unlock entry, none)
      | some torrent =>
          (store.state? entry).map fun state =>
            let next := { store.setState entry (state.acquireMetadata torrent.hasMetadata) with
              metadataPermits := store.metadataPermits ++ [⟨infoHash, state.generation⟩] }
            if torrent.hasMetadata then (next.unlock entry, none)
            else (next, some (.metadataAnnounce infoHash entry torrent.isPaused))
  | .metadataAnnounce infoHash entry isPaused =>
      let store := store.updateState entry ({ · with metadataAnnounced := true })
      let resumed := (store.native infoHash).map fun torrent =>
        if isPaused then { torrent with isPaused := false } else torrent
      some ((store.setNative infoHash resumed).unlock entry, none)
  | .removeCancel entry =>
      (store.state? entry).map fun state =>
        ({ store with tokens := store.tokens.cancel state.cancellation }, none)
  | .reannounceEntry infoHash fileIdx generation =>
      let (entry, store) := store.entry infoHash
      some (store, some (.reannounceCheck entry fileIdx generation))
  | .reannounceCheck entry fileIdx generation =>
      (store.state? entry).map fun state =>
        if !state.selectionIsCurrent fileIdx generation then (store, none)
        else (store, some (.reannounceState entry))
  | .reannounceState entry =>
      -- Reached under the operation mutex, which this section needs free.
      (store.tryLock entry).map fun _ =>
        (store.updateState entry fun state =>
          -- `!ok`: the torrent is gone, has peers by now, or has the piece.
          if outcome.ok ∧
              state.lastEmergencyReannounce.all (store.now - · ≥ emergencyReannounceCooldown) then
            { state with lastEmergencyReannounce := some store.now }
          else state, none)

def receive (store : Store H) : PlaybackCommand H → Worker H
  | .replacePriorityWindow infoHash fileIdx generation streamId assignments =>
      .replaceEntry infoHash fileIdx generation streamId assignments
  | .releasePlayback permit => .releaseEntry permit
  | .releaseMetadata permit => .metadataEntry permit.infoHash
  | .seedingEnabled true =>
      .seedingOn (store.entries.entries.map fun entry => (entry.1, entry.2))
  | .seedingEnabled false => .seedingOff (store.entries.entries.map fun entry => entry.2)
  | .pieceVerified infoHash piece =>
      match store.entries.lookup infoHash with
      | none => .idle
      | some entry => .verifiedState infoHash entry piece
  | .pieceInvalidated _ _ => .idle

def failedAttempts (attempts : List (PauseCall H × Progress PausePc)) : List (PauseCall H) :=
  attempts.filterMap fun attempt => if attempt.2 = .returned false then some attempt.1 else none

/-- One section of the worker. `attempt` chooses which of the concurrent pause attempts moves. -/
def stepWorker (store : Store H) (outcome : Outcome) (attempt : Nat) :
    Worker H → Option (Store H × Worker H)
  | .idle => none
  | .replaceEntry infoHash fileIdx generation streamId assignments =>
      let (entry, store) := store.entry infoHash
      some (store, .replaceLock entry fileIdx generation streamId assignments)
  | .replaceLock entry fileIdx generation streamId assignments =>
      (store.tryLock entry).map (·, .replaceState entry fileIdx generation streamId assignments)
  | .replaceState entry fileIdx generation streamId assignments =>
      (store.state? entry).map fun state =>
        let next :=
          if state.selectionIsCurrent fileIdx generation then
            { state with priorityWindows := (state.priorityWindows.replace streamId assignments).1 }
          else state
        ((store.setState entry next).unlock entry, .idle)
  | .releaseEntry permit =>
      let (entry, store) := store.entry permit.infoHash
      some (store, .releaseLock permit entry)
  | .releaseLock permit entry => (store.tryLock entry).map (·, .releaseState permit entry)
  | .releaseState permit entry =>
      some (store.updateState entry fun state =>
          (state.releasePlayback permit.generation permit.streamId permit.foreground store.now).1,
        .releaseNative entry)
  | .releaseNative entry => some (store.unlock entry, .idle)
  | .metadataEntry infoHash =>
      let (entry, store) := store.entry infoHash
      some (store, .metadataState entry)
  | .metadataState entry => some (store.updateState entry (·.releaseMetadata store.now), .idle)
  | .seedingOff [] => some (store, .idle)
  | .seedingOff (entry :: entries) =>
      some (store.updateState entry (·.scheduleIdleIfNeeded store.now), .seedingOff entries)
  | .seedingOn [] => some (store, .idle)
  | .seedingOn ((infoHash, entry) :: entries) =>
      (store.tryLock entry).map (·, .seedingOnState infoHash entry entries)
  | .seedingOnState infoHash entry entries =>
      (store.state? entry).map fun state =>
        let next := store.setState entry { state with idleDeadline := none }
        if state.phase = .pausePending ∨ state.phase = .pausedIdle then
          (next, .seedingOnResume infoHash entry entries)
        else (next.unlock entry, .seedingOn entries)
  | .seedingOnResume infoHash entry entries =>
      match store.native infoHash with
      | none => some (store.unlock entry, .seedingOn entries)
      | some torrent =>
          -- This write carries no captured generation.
          let next := store.updateState entry ({ · with phase := .active })
          some ((next.setNative infoHash (some { torrent with isPaused := false })).unlock entry,
            .seedingOn entries)
  | .verifiedState infoHash entry piece =>
      (store.state? entry).map fun state =>
        let next := state.markPieceVerified piece
        (store.setState entry next,
          match next.selectedFile, next.phase with
          | some fileIdx, .active => .verifiedComplete infoHash entry fileIdx next.generation
          | _, _ => .idle)
  | .verifiedComplete infoHash entry fileIdx generation =>
      -- `ok` is the answer of `file_is_complete_with_layout`.
      if !store.seedingEnabled && outcome.ok then
        some (store, .verifiedPending infoHash entry fileIdx generation)
      else some (store, .idle)
  | .verifiedPending infoHash entry fileIdx generation =>
      (store.state? entry).map fun state =>
        if !state.selectionIsCurrent fileIdx generation || state.phase != .active then
          (store, .idle)
        else
          (store.setState entry (state.writePhase generation .pausePending),
            .verifiedPause ⟨infoHash, entry, generation, false⟩ .checkSeeding)
  | .verifiedPause call pc =>
      (performPause store outcome.ok call pc).map fun (store, progress) =>
        match progress with
        | .running pc => (store, .verifiedPause call pc)
        | .returned true => (store, .idle)
        | .returned false => (store, .verifiedFailed call.entry call.generation)
  | .verifiedFailed entry generation =>
      some (store.updateState entry fun state =>
        if state.generation = generation then state.writePhase generation .active else state, .idle)
  | .scan [] _ due => some (store, .join (due.map (·, .running .checkSeeding)))
  | .scan ((infoHash, entry) :: entries) scanNow due =>
      (store.state? entry).map fun state =>
        let (generation, state, tokens) := state.scanIdle store.tokens scanNow
        let next := { store.setState entry state with tokens }
        (next, .scan entries scanNow
          (due ++ (generation.map fun generation => ⟨infoHash, entry, generation, true⟩).toList))
  | .join attempts =>
      match attempts[attempt]? with
      | some (call, .running pc) =>
          (performPause store outcome.ok call pc).map fun (store, progress) =>
            (store, .join (attempts.set attempt (call, progress)))
      | _ =>
          if attempts.all fun attempt => attempt.2 matches .returned _ then
            some (store, .settle (failedAttempts attempts))
          else none
  | .settle [] => some (store, .idle)
  | .settle (call :: failed) =>
      some (store.updateState call.entry (·.idlePauseFailed call.generation store.now),
        .settle failed)

inductive Action (H : Type) where
  | call (task : Task H)
  | task (index : Nat) (outcome : Outcome)
  | abandon (index : Nat)
  | dropPermit (id : Nat)
  | replaceWindow (id : Nat) (assignments : List LibtorrentPiecePriority)
  | dropMetadataPermit (index : Nat)
  | receive
  | tick
  | worker (outcome : Outcome) (attempt : Nat)
  | registerTorrent (infoHash : H)
  | removeTorrent (infoHash : H)
  | loadLayout (entry fileCount : Nat)
  | setSeedingEnabled (enabled : Bool)
  | observePieceVerified (infoHash : H) (piece : Int)
  | observePieceInvalidated (infoHash : H) (piece : Int)
  | setNative (infoHash : H) (torrent : Option NativeTorrent)
  | advance (elapsed : Nat)

def Task.isCall : Task H → Bool
  | .startEntry .. | .refreshEntry .. | .endEntry .. | .metadataEntry .. | .reannounceEntry .. => true
  | _ => false

def continueTask (tasks : List (Task H)) (index : Nat) : Option (Task H) → List (Task H)
  | some task => tasks.set index task
  | none => tasks.eraseIdx index

namespace Coordinator

/-- Dropping the future of a call releases the mutex and the permit it owns. -/
def abandon (coordinator : Coordinator H) (index : Nat) : Option (Coordinator H) :=
  coordinator.tasks[index]?.map fun task =>
    let store := task.heldOperation.elim coordinator.store coordinator.store.unlock
    let store := task.permit.elim store store.dropPermit
    { coordinator with store, tasks := coordinator.tasks.eraseIdx index }

def step (coordinator : Coordinator H) : Action H → Option (Coordinator H)
  | .call task =>
      if task.isCall then some { coordinator with tasks := coordinator.tasks ++ [task] } else none
  | .task index outcome => do
      let task ← coordinator.tasks[index]?
      let (store, rest) ← stepTask coordinator.store outcome task
      return { coordinator with
        store
        tasks := continueTask coordinator.tasks index rest }
  | .abandon index => coordinator.abandon index
  | .dropPermit id =>
      -- A permit still owned by a start in flight is not the caller's to drop.
      if coordinator.tasks.any (·.permit == some id) then none
      else some { coordinator with store := coordinator.store.dropPermit id }
  | .replaceWindow id assignments => do
      let permit ← coordinator.store.permits.find? (·.id == id)
      let command := .replacePriorityWindow permit.infoHash permit.fileIdx permit.generation
        permit.streamId assignments
      if coordinator.store.tokens.isCancelled permit.cancellation then none
      else some { coordinator with store := coordinator.store.send command }
  | .dropMetadataPermit index => do
      let permit ← coordinator.store.metadataPermits[index]?
      let metadataPermits := coordinator.store.metadataPermits.eraseIdx index
      let store : Store H := { coordinator.store with metadataPermits }
      return { coordinator with store := store.send (.releaseMetadata permit) }
  | .receive =>
      match coordinator.worker, coordinator.store.queue with
      | .idle, command :: queue =>
          let store := { coordinator.store with queue }
          some { coordinator with store, worker := Playback.receive store command }
      | _, _ => none
  | .tick =>
      match coordinator.worker with
      | .idle =>
          let entries := coordinator.store.entries.entries.map fun entry => (entry.1, entry.2)
          if coordinator.store.seedingEnabled then some coordinator
          else some { coordinator with worker := .scan entries coordinator.store.now [] }
      | _ => none
  | .worker outcome attempt =>
      (stepWorker coordinator.store outcome attempt coordinator.worker).map fun (store, worker) =>
        { coordinator with store, worker }
  | .registerTorrent infoHash =>
      some { coordinator with store := (coordinator.store.entry infoHash).2 }
  | .removeTorrent infoHash =>
      match coordinator.store.entries.lookup infoHash with
      | none => some coordinator
      | some entry =>
          some { coordinator with
            store := { coordinator.store with entries := coordinator.store.entries.erase infoHash }
            tasks := coordinator.tasks ++ [.removeCancel entry] }
  | .loadLayout entry fileCount =>
      let load (cell : TorrentPlaybackEntry) : TorrentPlaybackEntry :=
        { cell with layout := some (cell.layout.getD fileCount) }
      some { coordinator with store := coordinator.store.updateCell entry load }
  | .setSeedingEnabled enabled =>
      let store : Store H := { coordinator.store with seedingEnabled := enabled }
      some { coordinator with store := store.send (.seedingEnabled enabled) }
  | .observePieceVerified infoHash piece =>
      some { coordinator with store := coordinator.store.send (.pieceVerified infoHash piece) }
  | .observePieceInvalidated infoHash piece =>
      some { coordinator with store := coordinator.store.send (.pieceInvalidated infoHash piece) }
  | .setNative infoHash torrent =>
      some { coordinator with store := coordinator.store.setNative infoHash torrent }
  | .advance elapsed =>
      let store : Store H := { coordinator.store with now := coordinator.store.now + elapsed }
      some { coordinator with store }

end Coordinator

end StreamServer.Playback
