import StreamServer.Playback.Coordinator

set_option autoImplicit false

namespace StreamServer.Playback

open CancellationTokens TorrentPlaybackState Store

variable {H : Type} [DecidableEq H]

/-- The selection that the activity of an HLS session asks for again. -/
abbrev Store.reselect (store : Store H) (state : TorrentPlaybackState) (fileIdx : Nat)
    (complete : Bool) : Selection × TorrentPlaybackState × Tokens :=
  state.select store.tokens store.now fileIdx (if complete then 0 else 1) false true
    (!complete || store.seedingEnabled) false

/-- What one section of a call does, a constructor for each of its ends. -/
inductive TaskMove (before : Store H) (outcome : Outcome) : Task H → Store H → Option (Task H) → Prop where
  | startEntry (infoHash : H) (fileCount : Nat) (start : LibtorrentPlaybackStart) (complete : Bool) :
      TaskMove before outcome (.startEntry infoHash fileCount start complete)
        (before.entry infoHash).2
        (some (.startSelect infoHash (before.entry infoHash).1 fileCount start complete))
  | refused (infoHash : H) (entry fileCount : Nat) (start : LibtorrentPlaybackStart)
      (complete : Bool) (state : TorrentPlaybackState) (found : before.state? entry = some state) :
      TaskMove before outcome (.startSelect infoHash entry fileCount start complete) before none
  | selected (infoHash : H) (entry fileCount : Nat) (start : LibtorrentPlaybackStart)
      (complete : Bool) (state : TorrentPlaybackState) (selection : Selection) (after : Store H)
      (found : before.state? entry = some state)
      (selected : startSelect before infoHash entry start complete state = some (selection, after)) :
      TaskMove before outcome (.startSelect infoHash entry fileCount start complete) after
        (some (.activate ⟨infoHash, entry, fileCount, start, selection, complete⟩
          (some before.nextPermit) .lockOperation))
  | activating (activation : Activation H) (permit : Option Nat) (pc next : ActivatePc)
      (after : Store H)
      (activated : activateSelection before outcome activation pc = some (after, .running next)) :
      TaskMove before outcome (.activate activation permit pc) after
        (some (.activate activation permit next))
  | activationFailed (activation : Activation H) (id : Nat) (pc : ActivatePc) (after : Store H)
      (activated : activateSelection before outcome activation pc = some (after, .returned false)) :
      TaskMove before outcome (.activate activation (some id) pc) (after.dropPermit id) none
  | activated (activation : Activation H) (permit : Option Nat) (pc : ActivatePc) (after : Store H)
      (ok : Bool)
      (activated : activateSelection before outcome activation pc = some (after, .returned ok)) :
      TaskMove before outcome (.activate activation permit pc) after none
  | refreshEntry (infoHash : H) (fileCount fileIdx : Nat) (complete : Bool) :
      TaskMove before outcome (.refreshEntry infoHash fileCount fileIdx complete)
        (before.entry infoHash).2
        (some (.refreshSelect infoHash (before.entry infoHash).1 fileCount fileIdx complete))
  | refreshed (infoHash : H) (entry fileCount fileIdx : Nat) (complete : Bool)
      (state : TorrentPlaybackState) (found : before.state? entry = some state)
      (unchanged : (before.reselect state fileIdx complete).1.changed = false) :
      TaskMove before outcome (.refreshSelect infoHash entry fileCount fileIdx complete)
        { before.setState entry (before.reselect state fileIdx complete).2.1 with
          tokens := (before.reselect state fileIdx complete).2.2 } none
  | reselected (infoHash : H) (entry fileCount fileIdx : Nat) (complete : Bool)
      (state : TorrentPlaybackState) (found : before.state? entry = some state)
      (changed : (before.reselect state fileIdx complete).1.changed = true) :
      TaskMove before outcome (.refreshSelect infoHash entry fileCount fileIdx complete)
        { before.setState entry (before.reselect state fileIdx complete).2.1 with
          tokens := (before.reselect state fileIdx complete).2.2 }
        (some (.activate ⟨infoHash, entry, fileCount, ⟨fileIdx, hlsPriorityStreamId, .hlsInitial⟩,
          (before.reselect state fileIdx complete).1, complete⟩ none .lockOperation))
  | endEntry (infoHash : H) (fileIdx : Nat) :
      TaskMove before outcome (.endEntry infoHash fileIdx) (before.entry infoHash).2
        (some (.endBegin infoHash (before.entry infoHash).1 fileIdx))
  | endUnrelated (infoHash : H) (entry fileIdx : Nat) (state : TorrentPlaybackState)
      (found : before.state? entry = some state) :
      TaskMove before outcome (.endBegin infoHash entry fileIdx) before none
  | endBegun (infoHash : H) (entry fileIdx : Nat) (state : TorrentPlaybackState)
      (found : before.state? entry = some state)
      (relevant : ¬(state.selectedFile ≠ some fileIdx ∧ state.hlsLastActivity = none)) :
      TaskMove before outcome (.endBegin infoHash entry fileIdx)
        { before.setState entry (state.beginPause before.tokens).1 with
          tokens := (state.beginPause before.tokens).2 }
        (some (.endCheckSeeding infoHash entry (state.beginPause before.tokens).1.generation
          (state.phase == .pausedIdle)))
  | endSeeding (infoHash : H) (entry generation : Nat) (alreadyPaused : Bool)
      (enabled : before.seedingEnabled = true) :
      TaskMove before outcome (.endCheckSeeding infoHash entry generation alreadyPaused) before
        (some (.endKeepActive entry generation))
  | endPaused (infoHash : H) (entry generation : Nat) (disabled : before.seedingEnabled = false) :
      TaskMove before outcome (.endCheckSeeding infoHash entry generation true) before
        (some (.endWriteBack entry generation))
  | endRunning (infoHash : H) (entry generation : Nat) (disabled : before.seedingEnabled = false) :
      TaskMove before outcome (.endCheckSeeding infoHash entry generation false) before
        (some (.endPause ⟨infoHash, entry, generation, true⟩ .checkSeeding))
  | endKeepActive (entry generation : Nat) :
      TaskMove before outcome (.endKeepActive entry generation)
        (before.updateState entry (·.keepActiveForSeeding generation)) none
  | endWriteBack (entry generation : Nat) :
      TaskMove before outcome (.endWriteBack entry generation)
        (before.updateState entry (·.writePhase generation .pausedIdle)) none
  | endPause (call : PauseCall H) (pc next : PausePc) (after : Store H)
      (paused : performPause before outcome.ok call pc = some (after, .running next)) :
      TaskMove before outcome (.endPause call pc) after (some (.endPause call next))
  | ended (call : PauseCall H) (pc : PausePc) (after : Store H) (ok : Bool)
      (paused : performPause before outcome.ok call pc = some (after, .returned ok)) :
      TaskMove before outcome (.endPause call pc) after none
  | metadataEntry (infoHash : H) :
      TaskMove before outcome (.metadataEntry infoHash) (before.entry infoHash).2
        (some (.metadataLock infoHash (before.entry infoHash).1))
  | metadataLock (infoHash : H) (entry : Nat) (after : Store H)
      (lockable : before.tryLock entry = some after) :
      TaskMove before outcome (.metadataLock infoHash entry) after
        (some (.metadataAcquire infoHash entry))
  | metadataAbsent (infoHash : H) (entry : Nat) (absent : before.native infoHash = none) :
      TaskMove before outcome (.metadataAcquire infoHash entry) (before.unlock entry) none
  | metadataKnown (infoHash : H) (entry : Nat) (torrent : NativeTorrent)
      (state : TorrentPlaybackState) (present : before.native infoHash = some torrent)
      (found : before.state? entry = some state) (has : torrent.hasMetadata = true) :
      TaskMove before outcome (.metadataAcquire infoHash entry)
        (Store.unlock { before.setState entry (state.acquireMetadata torrent.hasMetadata) with
          metadataPermits := before.metadataPermits ++ [⟨infoHash, state.generation⟩] } entry) none
  | metadataFetched (infoHash : H) (entry : Nat) (torrent : NativeTorrent)
      (state : TorrentPlaybackState) (present : before.native infoHash = some torrent)
      (found : before.state? entry = some state) (lacks : torrent.hasMetadata = false) :
      TaskMove before outcome (.metadataAcquire infoHash entry)
        { before.setState entry (state.acquireMetadata torrent.hasMetadata) with
          metadataPermits := before.metadataPermits ++ [⟨infoHash, state.generation⟩] }
        (some (.metadataAnnounce infoHash entry torrent.isPaused))
  | metadataAnnounce (infoHash : H) (entry : Nat) (isPaused : Bool) :
      TaskMove before outcome (.metadataAnnounce infoHash entry isPaused)
        (((before.updateState entry ({ · with metadataAnnounced := true })).setNative infoHash
          ((before.native infoHash).map fun torrent =>
            if isPaused then { torrent with isPaused := false } else torrent)).unlock entry) none
  | removeCancel (entry : Nat) (state : TorrentPlaybackState)
      (found : before.state? entry = some state) :
      TaskMove before outcome (.removeCancel entry)
        { before with tokens := before.tokens.cancel state.cancellation } none
  | reannounceEntry (infoHash : H) (fileIdx generation : Nat) :
      TaskMove before outcome (.reannounceEntry infoHash fileIdx generation)
        (before.entry infoHash).2
        (some (.reannounceCheck (before.entry infoHash).1 fileIdx generation))
  | reannounceStale (entry fileIdx generation : Nat) :
      TaskMove before outcome (.reannounceCheck entry fileIdx generation) before none
  | reannounceCheck (entry fileIdx generation : Nat) :
      TaskMove before outcome (.reannounceCheck entry fileIdx generation) before
        (some (.reannounceState entry))
  | reannounceState (entry : Nat) :
      TaskMove before outcome (.reannounceState entry)
        (before.updateState entry fun state =>
          if outcome.ok ∧ state.lastEmergencyReannounce.all
              (before.now - · ≥ emergencyReannounceCooldown) then
            { state with lastEmergencyReannounce := some before.now }
          else state) none

theorem stepTask_move {before after : Store H} {outcome : Outcome} {task : Task H}
    {rest : Option (Task H)} (taken : stepTask before outcome task = some (after, rest)) :
    TaskMove before outcome task after rest := by
  cases task with
  | startEntry => cases taken; exact .startEntry ..
  | refreshEntry => cases taken; exact .refreshEntry ..
  | endEntry => cases taken; exact .endEntry ..
  | metadataEntry => cases taken; exact .metadataEntry ..
  | reannounceEntry => cases taken; exact .reannounceEntry ..
  | endKeepActive => cases taken; exact .endKeepActive ..
  | endWriteBack => cases taken; exact .endWriteBack ..
  | metadataAnnounce => cases taken; exact .metadataAnnounce ..
  | startSelect infoHash entry fileCount start complete =>
    obtain ⟨state, found, equal⟩ := Option.map_eq_some_iff.mp taken
    split at equal
    next => cases equal; exact .refused _ _ _ _ _ state found
    next selection next selected => cases equal; exact .selected _ _ _ _ _ state _ _ found selected
  | activate activation permit pc =>
    obtain ⟨⟨next, progress⟩, activated, equal⟩ := Option.map_eq_some_iff.mp taken
    simp only at equal
    split at equal <;> cases equal
    · exact .activating _ _ _ _ _ activated
    · exact .activationFailed _ _ _ _ activated
    · exact .activated _ _ _ _ _ activated
  | refreshSelect infoHash entry fileCount fileIdx complete =>
    obtain ⟨state, found, equal⟩ := Option.map_eq_some_iff.mp taken
    generalize selects : state.select before.tokens before.now fileIdx (if complete then 0 else 1)
      false true (!complete || before.seedingEnabled) false = selected at equal
    simp only at equal
    split at equal <;> cases equal <;> subst selects
    next unchanged => exact .refreshed _ _ _ _ _ state found (by simpa using unchanged)
    next changed => exact .reselected _ _ _ _ _ state found (by simpa using changed)
  | endBegin infoHash entry fileIdx =>
    obtain ⟨state, found, equal⟩ := Option.map_eq_some_iff.mp taken
    simp only at equal
    split at equal <;> cases equal
    next => exact .endUnrelated _ _ _ state found
    next relevant => exact .endBegun _ _ _ state found relevant
  | endCheckSeeding infoHash entry generation alreadyPaused =>
    simp only [stepTask] at taken
    split at taken
    next enabled => cases taken; exact .endSeeding _ _ _ _ enabled
    next disabled =>
      rw [Bool.not_eq_true] at disabled
      cases alreadyPaused <;> cases taken
      · exact .endRunning _ _ _ disabled
      · exact .endPaused _ _ _ disabled
  | endPause call pc =>
    obtain ⟨⟨next, progress⟩, paused, equal⟩ := Option.map_eq_some_iff.mp taken
    cases progress <;> cases equal
    · exact .endPause _ _ _ _ paused
    · exact .ended _ _ _ _ paused
  | metadataLock infoHash entry =>
    obtain ⟨locked, lockable, equal⟩ := Option.map_eq_some_iff.mp taken
    cases equal
    exact .metadataLock _ _ _ lockable
  | metadataAcquire infoHash entry =>
    simp only [stepTask] at taken
    split at taken
    next absent => cases taken; exact .metadataAbsent _ _ absent
    next torrent present =>
      obtain ⟨state, found, equal⟩ := Option.map_eq_some_iff.mp taken
      split at equal <;> cases equal
      next has => exact .metadataKnown _ _ torrent state present found has
      next lacks =>
        exact .metadataFetched _ _ torrent state present found (Bool.not_eq_true _ ▸ lacks)
  | removeCancel entry =>
    obtain ⟨state, found, equal⟩ := Option.map_eq_some_iff.mp taken
    cases equal
    exact .removeCancel _ state found
  | reannounceCheck entry fileIdx generation =>
    obtain ⟨state, -, equal⟩ := Option.map_eq_some_iff.mp taken
    split at equal <;> cases equal
    · exact .reannounceStale ..
    · exact .reannounceCheck ..
  | reannounceState entry =>
    obtain ⟨locked, -, equal⟩ := Option.map_eq_some_iff.mp taken
    cases equal
    exact .reannounceState _

/-- What one section of the worker does. `attempt` is the concurrent pause that moves. -/
inductive WorkerMove (before : Store H) (outcome : Outcome) (attempt : Nat) :
    Worker H → Store H → Worker H → Prop where
  | replaceEntry (infoHash : H) (fileIdx generation streamId : Nat)
      (assignments : List LibtorrentPiecePriority) :
      WorkerMove before outcome attempt
        (.replaceEntry infoHash fileIdx generation streamId assignments) (before.entry infoHash).2
        (.replaceLock (before.entry infoHash).1 fileIdx generation streamId assignments)
  | replaceLock (entry fileIdx generation streamId : Nat)
      (assignments : List LibtorrentPiecePriority) (after : Store H)
      (lockable : before.tryLock entry = some after) :
      WorkerMove before outcome attempt
        (.replaceLock entry fileIdx generation streamId assignments) after
        (.replaceState entry fileIdx generation streamId assignments)
  | replaceState (entry fileIdx generation streamId : Nat)
      (assignments : List LibtorrentPiecePriority) (state : TorrentPlaybackState)
      (found : before.state? entry = some state) :
      WorkerMove before outcome attempt
        (.replaceState entry fileIdx generation streamId assignments)
        ((before.setState entry
          (if state.selectionIsCurrent fileIdx generation then
            { state with priorityWindows := (state.priorityWindows.replace streamId assignments).1 }
          else state)).unlock entry) .idle
  | releaseEntry (permit : LibtorrentPlaybackPermit H) :
      WorkerMove before outcome attempt (.releaseEntry permit) (before.entry permit.infoHash).2
        (.releaseLock permit (before.entry permit.infoHash).1)
  | releaseLock (permit : LibtorrentPlaybackPermit H) (entry : Nat) (after : Store H)
      (lockable : before.tryLock entry = some after) :
      WorkerMove before outcome attempt (.releaseLock permit entry) after (.releaseState permit entry)
  | releaseState (permit : LibtorrentPlaybackPermit H) (entry : Nat) :
      WorkerMove before outcome attempt (.releaseState permit entry)
        (before.updateState entry fun state =>
          (state.releasePlayback permit.generation permit.streamId permit.foreground before.now).1)
        (.releaseNative entry)
  | releaseNative (entry : Nat) :
      WorkerMove before outcome attempt (.releaseNative entry) (before.unlock entry) .idle
  | metadataEntry (infoHash : H) :
      WorkerMove before outcome attempt (.metadataEntry infoHash) (before.entry infoHash).2
        (.metadataState (before.entry infoHash).1)
  | metadataState (entry : Nat) :
      WorkerMove before outcome attempt (.metadataState entry)
        (before.updateState entry (·.releaseMetadata before.now)) .idle
  | seededOff : WorkerMove before outcome attempt (.seedingOff []) before .idle
  | seedingOff (entry : Nat) (entries : List Nat) :
      WorkerMove before outcome attempt (.seedingOff (entry :: entries))
        (before.updateState entry (·.scheduleIdleIfNeeded before.now)) (.seedingOff entries)
  | seededOn : WorkerMove before outcome attempt (.seedingOn []) before .idle
  | seedingOn (infoHash : H) (entry : Nat) (entries : List (H × Nat)) (after : Store H)
      (lockable : before.tryLock entry = some after) :
      WorkerMove before outcome attempt (.seedingOn ((infoHash, entry) :: entries)) after
        (.seedingOnState infoHash entry entries)
  | seedingOnPaused (infoHash : H) (entry : Nat) (entries : List (H × Nat))
      (state : TorrentPlaybackState) (found : before.state? entry = some state)
      (paused : state.phase = .pausePending ∨ state.phase = .pausedIdle) :
      WorkerMove before outcome attempt (.seedingOnState infoHash entry entries)
        (before.setState entry { state with idleDeadline := none })
        (.seedingOnResume infoHash entry entries)
  | seedingOnState (infoHash : H) (entry : Nat) (entries : List (H × Nat))
      (state : TorrentPlaybackState) (found : before.state? entry = some state)
      (running : ¬(state.phase = .pausePending ∨ state.phase = .pausedIdle)) :
      WorkerMove before outcome attempt (.seedingOnState infoHash entry entries)
        ((before.setState entry { state with idleDeadline := none }).unlock entry)
        (.seedingOn entries)
  | seedingOnGone (infoHash : H) (entry : Nat) (entries : List (H × Nat))
      (absent : before.native infoHash = none) :
      WorkerMove before outcome attempt (.seedingOnResume infoHash entry entries)
        (before.unlock entry) (.seedingOn entries)
  | seedingOnResume (infoHash : H) (entry : Nat) (entries : List (H × Nat))
      (torrent : NativeTorrent) (present : before.native infoHash = some torrent) :
      WorkerMove before outcome attempt (.seedingOnResume infoHash entry entries)
        (((before.updateState entry ({ · with phase := .active })).setNative infoHash
          (some { torrent with isPaused := false })).unlock entry) (.seedingOn entries)
  | verifiedState (infoHash : H) (entry : Nat) (piece : Int) (state : TorrentPlaybackState)
      (found : before.state? entry = some state) :
      WorkerMove before outcome attempt (.verifiedState infoHash entry piece)
        (before.setState entry (state.markPieceVerified piece))
        (match (state.markPieceVerified piece).selectedFile, (state.markPieceVerified piece).phase with
        | some fileIdx, .active =>
            .verifiedComplete infoHash entry fileIdx (state.markPieceVerified piece).generation
        | _, _ => .idle)
  | verifiedComplete (infoHash : H) (entry fileIdx generation : Nat)
      (complete : (!before.seedingEnabled && outcome.ok) = true) :
      WorkerMove before outcome attempt (.verifiedComplete infoHash entry fileIdx generation) before
        (.verifiedPending infoHash entry fileIdx generation)
  | verifiedIncomplete (infoHash : H) (entry fileIdx generation : Nat) :
      WorkerMove before outcome attempt (.verifiedComplete infoHash entry fileIdx generation) before
        .idle
  | verifiedStale (infoHash : H) (entry fileIdx generation : Nat) :
      WorkerMove before outcome attempt (.verifiedPending infoHash entry fileIdx generation) before
        .idle
  | verifiedPending (infoHash : H) (entry fileIdx : Nat) (state : TorrentPlaybackState)
      (found : before.state? entry = some state)
      (current : state.selectionIsCurrent fileIdx state.generation = true)
      (active : state.phase = .active) :
      WorkerMove before outcome attempt (.verifiedPending infoHash entry fileIdx state.generation)
        (before.setState entry (state.writePhase state.generation .pausePending))
        (.verifiedPause ⟨infoHash, entry, state.generation, false⟩ .checkSeeding)
  | verifiedPause (call : PauseCall H) (pc next : PausePc) (after : Store H)
      (paused : performPause before outcome.ok call pc = some (after, .running next)) :
      WorkerMove before outcome attempt (.verifiedPause call pc) after (.verifiedPause call next)
  | verifiedPaused (call : PauseCall H) (pc : PausePc) (after : Store H)
      (paused : performPause before outcome.ok call pc = some (after, .returned true)) :
      WorkerMove before outcome attempt (.verifiedPause call pc) after .idle
  | verifiedUnpaused (call : PauseCall H) (pc : PausePc) (after : Store H)
      (paused : performPause before outcome.ok call pc = some (after, .returned false)) :
      WorkerMove before outcome attempt (.verifiedPause call pc) after
        (.verifiedFailed call.entry call.generation)
  | verifiedFailed (entry generation : Nat) :
      WorkerMove before outcome attempt (.verifiedFailed entry generation)
        (before.updateState entry fun state =>
          if state.generation = generation then state.writePhase generation .active else state) .idle
  | scanned (scanNow : Nat) (due : List (PauseCall H)) :
      WorkerMove before outcome attempt (.scan [] scanNow due) before
        (.join (due.map (·, .running .checkSeeding)))
  | scan (infoHash : H) (entry : Nat) (entries : List (H × Nat)) (scanNow : Nat)
      (due : List (PauseCall H)) (state : TorrentPlaybackState)
      (found : before.state? entry = some state) :
      WorkerMove before outcome attempt (.scan ((infoHash, entry) :: entries) scanNow due)
        { before.setState entry (state.scanIdle before.tokens scanNow).2.1 with
          tokens := (state.scanIdle before.tokens scanNow).2.2 }
        (.scan entries scanNow (due ++ ((state.scanIdle before.tokens scanNow).1.map fun generation =>
          ⟨infoHash, entry, generation, true⟩).toList))
  | join (attempts : List (PauseCall H × Progress PausePc)) (call : PauseCall H) (pc : PausePc)
      (progress : Progress PausePc) (after : Store H)
      (present : attempts[attempt]? = some (call, .running pc))
      (paused : performPause before outcome.ok call pc = some (after, progress)) :
      WorkerMove before outcome attempt (.join attempts) after
        (.join (attempts.set attempt (call, progress)))
  | joined (attempts : List (PauseCall H × Progress PausePc))
      (finished : (attempts.all fun attempt => attempt.2 matches .returned _) = true) :
      WorkerMove before outcome attempt (.join attempts) before (.settle (failedAttempts attempts))
  | settled : WorkerMove before outcome attempt (.settle []) before .idle
  | settle (call : PauseCall H) (failed : List (PauseCall H)) :
      WorkerMove before outcome attempt (.settle (call :: failed))
        (before.updateState call.entry (·.idlePauseFailed call.generation before.now))
        (.settle failed)

theorem stepWorker_move {before after : Store H} {outcome : Outcome} {attempt : Nat}
    {worker rest : Worker H} (taken : stepWorker before outcome attempt worker = some (after, rest)) :
    WorkerMove before outcome attempt worker after rest := by
  cases worker with
  | idle => cases taken
  | replaceEntry => cases taken; exact .replaceEntry ..
  | releaseEntry => cases taken; exact .releaseEntry ..
  | releaseState => cases taken; exact .releaseState ..
  | releaseNative => cases taken; exact .releaseNative ..
  | metadataEntry => cases taken; exact .metadataEntry ..
  | metadataState => cases taken; exact .metadataState ..
  | verifiedFailed => cases taken; exact .verifiedFailed ..
  | replaceLock entry =>
    obtain ⟨locked, lockable, equal⟩ := Option.map_eq_some_iff.mp taken
    cases equal
    exact .replaceLock _ _ _ _ _ _ lockable
  | replaceState entry =>
    obtain ⟨state, found, equal⟩ := Option.map_eq_some_iff.mp taken
    cases equal
    exact .replaceState _ _ _ _ _ state found
  | releaseLock permit entry =>
    obtain ⟨locked, lockable, equal⟩ := Option.map_eq_some_iff.mp taken
    cases equal
    exact .releaseLock _ _ _ lockable
  | seedingOff entries =>
    cases entries <;> cases taken
    · exact .seededOff
    · exact .seedingOff ..
  | seedingOn entries =>
    cases entries with
    | nil => cases taken; exact .seededOn
    | cons target entries =>
      obtain ⟨locked, lockable, equal⟩ := Option.map_eq_some_iff.mp taken
      cases equal
      exact .seedingOn _ _ _ _ lockable
  | seedingOnState infoHash entry entries =>
    obtain ⟨state, found, equal⟩ := Option.map_eq_some_iff.mp taken
    simp only at equal
    split at equal <;> cases equal
    next paused => exact .seedingOnPaused _ _ _ state found paused
    next running => exact .seedingOnState _ _ _ state found running
  | seedingOnResume infoHash entry entries =>
    simp only [stepWorker] at taken
    split at taken <;> cases taken
    next absent => exact .seedingOnGone _ _ _ absent
    next torrent present => exact .seedingOnResume _ _ _ torrent present
  | verifiedState infoHash entry piece =>
    obtain ⟨state, found, equal⟩ := Option.map_eq_some_iff.mp taken
    cases equal
    exact .verifiedState _ _ _ state found
  | verifiedComplete infoHash entry fileIdx generation =>
    simp only [stepWorker] at taken
    split at taken <;> cases taken
    next complete => exact .verifiedComplete _ _ _ _ complete
    next => exact .verifiedIncomplete ..
  | verifiedPending infoHash entry fileIdx generation =>
    obtain ⟨state, found, equal⟩ := Option.map_eq_some_iff.mp taken
    split at equal <;> cases equal
    next => exact .verifiedStale ..
    next unmoved =>
      simp only [Bool.or_eq_true, not_or, Bool.not_eq_true', Bool.not_eq_false, bne_iff_ne,
        ne_eq, Decidable.not_not] at unmoved
      obtain ⟨current, active⟩ := unmoved
      have same : state.generation = generation := by
        simp only [selectionIsCurrent, Bool.and_eq_true, beq_iff_eq] at current
        exact current.1
      subst same
      exact .verifiedPending _ _ _ state found current active
  | verifiedPause call pc =>
    obtain ⟨⟨next, progress⟩, paused, equal⟩ := Option.map_eq_some_iff.mp taken
    simp only at equal
    split at equal <;> cases equal
    · exact .verifiedPause _ _ _ _ paused
    · exact .verifiedPaused _ _ _ paused
    · exact .verifiedUnpaused _ _ _ paused
  | scan entries scanNow due =>
    cases entries with
    | nil => cases taken; exact .scanned ..
    | cons target entries =>
      obtain ⟨state, found, equal⟩ := Option.map_eq_some_iff.mp taken
      cases equal
      exact .scan _ _ _ _ _ state found
  | join attempts =>
    simp only [stepWorker] at taken
    split at taken
    next call pc present =>
      obtain ⟨⟨next, progress⟩, paused, equal⟩ := Option.map_eq_some_iff.mp taken
      cases equal
      exact .join _ _ _ _ _ present paused
    next =>
      split at taken <;> cases taken
      next finished => exact .joined _ finished
  | settle failed =>
    cases failed <;> cases taken
    · exact .settled
    · exact .settle ..

/-- What one action does to the coordinator, a constructor for each of its ends. -/
inductive CoordinatorMove (before : Coordinator H) : Action H → Coordinator H → Prop where
  | called (task : Task H) (isCall : task.isCall = true) :
      CoordinatorMove before (.call task) { before with tasks := before.tasks ++ [task] }
  | task (index : Nat) (outcome : Outcome) (task : Task H) (store : Store H)
      (rest : Option (Task H)) (present : before.tasks[index]? = some task)
      (stepped : stepTask before.store outcome task = some (store, rest)) :
      CoordinatorMove before (.task index outcome)
        { before with store, tasks := continueTask before.tasks index rest }
  | abandoned (index : Nat) (task : Task H) (unlocked : Store H)
      (present : before.tasks[index]? = some task)
      (released : unlocked = task.heldOperation.elim before.store before.store.unlock) :
      CoordinatorMove before (.abandon index)
        { before with
          store := task.permit.elim unlocked unlocked.dropPermit
          tasks := before.tasks.eraseIdx index }
  | droppedPermit (id : Nat) (unowned : before.tasks.any (·.permit == some id) = false) :
      CoordinatorMove before (.dropPermit id) { before with store := before.store.dropPermit id }
  | replaced (id : Nat) (assignments : List LibtorrentPiecePriority)
      (permit : LibtorrentPlaybackPermit H) (held : before.store.permits.find? (·.id == id) = some permit)
      (running : before.store.tokens.isCancelled permit.cancellation = false) :
      CoordinatorMove before (.replaceWindow id assignments) { before with
        store := before.store.send (.replacePriorityWindow permit.infoHash permit.fileIdx
          permit.generation permit.streamId assignments) }
  | droppedMetadata (index : Nat) (permit : LibtorrentMetadataPermit H)
      (present : before.store.metadataPermits[index]? = some permit) :
      CoordinatorMove before (.dropMetadataPermit index) { before with
        store := Store.send { before.store with
          metadataPermits := before.store.metadataPermits.eraseIdx index } (.releaseMetadata permit) }
  | received (command : PlaybackCommand H) (queue : List (PlaybackCommand H))
      (idle : before.worker = .idle) (waiting : before.store.queue = command :: queue) :
      CoordinatorMove before .receive { before with
        store := { before.store with queue }
        worker := Playback.receive { before.store with queue } command }
  | seedingTick (idle : before.worker = .idle) (enabled : before.store.seedingEnabled = true) :
      CoordinatorMove before .tick before
  | ticked (idle : before.worker = .idle) (disabled : before.store.seedingEnabled = false) :
      CoordinatorMove before .tick { before with
        worker := .scan (before.store.entries.entries.map fun entry => (entry.1, entry.2))
          before.store.now [] }
  | worker (outcome : Outcome) (attempt : Nat) (store : Store H) (worker : Worker H)
      (stepped : stepWorker before.store outcome attempt before.worker = some (store, worker)) :
      CoordinatorMove before (.worker outcome attempt) { before with store, worker }
  | registered (infoHash : H) :
      CoordinatorMove before (.registerTorrent infoHash)
        { before with store := (before.store.entry infoHash).2 }
  | unmapped (infoHash : H) (missing : before.store.entries.lookup infoHash = none) :
      CoordinatorMove before (.removeTorrent infoHash) before
  | removed (infoHash : H) (entry : Nat)
      (mapped : before.store.entries.lookup infoHash = some entry) :
      CoordinatorMove before (.removeTorrent infoHash) { before with
        store := { before.store with entries := before.store.entries.erase infoHash }
        tasks := before.tasks ++ [.removeCancel entry] }
  | layoutLoaded (entry fileCount : Nat) :
      CoordinatorMove before (.loadLayout entry fileCount) { before with
        store := before.store.updateCell entry fun cell =>
          { cell with layout := some (cell.layout.getD fileCount) } }
  | seedingSet (enabled : Bool) :
      CoordinatorMove before (.setSeedingEnabled enabled) { before with
        store := Store.send { before.store with seedingEnabled := enabled }
          (.seedingEnabled enabled) }
  | verified (infoHash : H) (piece : Int) :
      CoordinatorMove before (.observePieceVerified infoHash piece)
        { before with store := before.store.send (.pieceVerified infoHash piece) }
  | invalidated (infoHash : H) (piece : Int) :
      CoordinatorMove before (.observePieceInvalidated infoHash piece)
        { before with store := before.store.send (.pieceInvalidated infoHash piece) }
  | nativeSet (infoHash : H) (torrent : Option NativeTorrent) :
      CoordinatorMove before (.setNative infoHash torrent)
        { before with store := before.store.setNative infoHash torrent }
  | advanced (elapsed : Nat) :
      CoordinatorMove before (.advance elapsed)
        { before with store := { before.store with now := before.store.now + elapsed } }

theorem step_move {before after : Coordinator H} {action : Action H}
    (taken : before.step action = some after) : CoordinatorMove before action after := by
  cases action with
  | call task =>
    simp only [Coordinator.step] at taken
    split at taken <;> cases taken
    next isCall => exact .called task isCall
  | task index outcome =>
    obtain ⟨task, present, continued⟩ := Option.bind_eq_some_iff.mp taken
    obtain ⟨⟨store, rest⟩, stepped, equal⟩ := Option.bind_eq_some_iff.mp continued
    obtain rfl := Option.some.inj equal
    exact .task index outcome task store rest present stepped
  | abandon index =>
    obtain ⟨task, present, equal⟩ := Option.map_eq_some_iff.mp taken
    cases equal
    exact .abandoned index task _ present rfl
  | dropPermit id =>
    simp only [Coordinator.step] at taken
    split at taken <;> cases taken
    next unowned => exact .droppedPermit id (Bool.eq_false_iff.mpr unowned)
  | replaceWindow id assignments =>
    obtain ⟨permit, held, rest⟩ := Option.bind_eq_some_iff.mp taken
    simp only at rest
    split at rest <;> cases rest
    next running => exact .replaced id assignments permit held (Bool.eq_false_iff.mpr running)
  | dropMetadataPermit index =>
    obtain ⟨permit, present, rest⟩ := Option.bind_eq_some_iff.mp taken
    cases rest
    exact .droppedMetadata index permit present
  | receive =>
    simp only [Coordinator.step] at taken
    split at taken <;> cases taken
    next command queue idle waiting => exact .received command queue idle waiting
  | tick =>
    simp only [Coordinator.step] at taken
    split at taken
    next idle =>
      split at taken <;> cases taken
      next enabled => exact .seedingTick idle enabled
      next disabled => exact .ticked idle (Bool.eq_false_iff.mpr disabled)
    next => cases taken
  | worker outcome attempt =>
    obtain ⟨⟨store, worker⟩, stepped, equal⟩ := Option.map_eq_some_iff.mp taken
    obtain rfl := equal
    exact .worker outcome attempt store worker stepped
  | registerTorrent infoHash =>
    cases taken
    exact .registered infoHash
  | removeTorrent infoHash =>
    simp only [Coordinator.step] at taken
    split at taken <;> cases taken
    next missing => exact .unmapped infoHash missing
    next entry mapped => exact .removed infoHash entry mapped
  | loadLayout entry fileCount =>
    cases taken
    exact .layoutLoaded entry fileCount
  | setSeedingEnabled enabled =>
    cases taken
    exact .seedingSet enabled
  | observePieceVerified infoHash piece =>
    cases taken
    exact .verified infoHash piece
  | observePieceInvalidated infoHash piece =>
    cases taken
    exact .invalidated infoHash piece
  | setNative infoHash torrent =>
    cases taken
    exact .nativeSet infoHash torrent
  | advance elapsed =>
    cases taken
    exact .advanced elapsed

end StreamServer.Playback
