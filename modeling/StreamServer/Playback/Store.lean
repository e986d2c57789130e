import Mathlib.Algebra.Ring.Nat
import StreamServer.Playback.PriorityMerge
import StreamServer.Shared.Tokens

set_option autoImplicit false

namespace StreamServer.Playback

open CancellationTokens

/-- Durations and instants are in milliseconds. -/
def idlePauseGrace : Nat := 15000
def hlsActivityTtl : Nat := 15000
def pauseRetryDelay : Nat := 5000
def hlsPriorityStreamId : Nat := 2 ^ 64 - 1

inductive LibtorrentNetworkPhase where
  | active
  | pausePending
  | pausedIdle
deriving DecidableEq, Repr

def saturatingSucc (generation : Nat) : Nat := min (generation + 1) (2 ^ 64 - 1)

abbrev PermitCounters := AList fun _ : Nat => Nat

namespace PermitCounters

def count (counters : PermitCounters) (generation : Nat) : Nat :=
  (counters.lookup generation).getD 0

def acquire (counters : PermitCounters) (generation : Nat) : PermitCounters :=
  counters.insert generation (count counters generation + 1)

def release (counters : PermitCounters) (generation : Nat) : PermitCounters :=
  match counters.lookup generation with
  | none => counters
  | some held =>
      if held - 1 = 0 then counters.erase generation else counters.insert generation (held - 1)

theorem count_acquire (counters : PermitCounters) (generation other : Nat) :
    count (acquire counters generation) other =
      count counters other + if other = generation then 1 else 0 := by
  by_cases same : other = generation
  · subst same
    simp [count, acquire]
  · simp [count, acquire, same, AList.lookup_insert_ne same]

theorem count_release (counters : PermitCounters) (generation other : Nat) :
    count (release counters generation) other =
      count counters other - if other = generation then 1 else 0 := by
  unfold release
  cases present : counters.lookup generation with
  | none =>
    by_cases same : other = generation
    · subst same
      simp [count, present]
    · simp [same]
  | some held =>
    by_cases same : other = generation
    · subst same
      by_cases last : held - 1 = 0 <;> simp [count, present, last]
    · by_cases last : held - 1 = 0 <;>
        simp [count, last, same, AList.lookup_erase_ne same, AList.lookup_insert_ne same]

end PermitCounters

-- A write of the phase by an operation that fixed its generation earlier: the generation the
-- operation had captured, and the generation of the entry when the phase was written.
structure PhaseWrite where
  captured : Nat
  current : Nat
deriving DecidableEq, Repr

structure TorrentPlaybackState where
  phase : LibtorrentNetworkPhase
  generation : Nat
  selectedFile : Option Nat
  selectedPriority : Int
  selectedFirstPiece : Option Int
  directPermits : PermitCounters
  foregroundPermits : PermitCounters
  metadataPermits : Nat
  hlsLastActivity : Option Nat
  idleDeadline : Option Nat
  cancellation : Token
  acknowledgedPriorities : Option (List Int)
  metadataAnnounced : Bool
  lastEmergencyReannounce : Option Nat
  priorityWindows : ActivePriorityWindows
  -- Not part of the source: the log that the phase writes below are recorded in.
  phaseWrites : List PhaseWrite

structure Selection where
  generation : Nat
  cancellation : Token
  changed : Bool
  subordinate : Bool
  nativePriority : Int
deriving DecidableEq, Repr

namespace TorrentPlaybackState

def new (cancellation : Token) : TorrentPlaybackState where
  phase := .pausedIdle
  generation := 0
  selectedFile := none
  selectedPriority := 0
  selectedFirstPiece := none
  directPermits := ∅
  foregroundPermits := ∅
  metadataPermits := 0
  hlsLastActivity := none
  idleDeadline := none
  cancellation
  acknowledgedPriorities := none
  metadataAnnounced := false
  lastEmergencyReannounce := none
  priorityWindows := .empty
  phaseWrites := []

def writePhase (state : TorrentPlaybackState) (captured : Nat) (phase : LibtorrentNetworkPhase) :
    TorrentPlaybackState :=
  { state with phase, phaseWrites := state.phaseWrites ++ [⟨captured, state.generation⟩] }

def activePlaybackPermits (state : TorrentPlaybackState) : Nat :=
  (state.directPermits.entries.map fun counter => counter.2).sum

def activeForegroundPermits (state : TorrentPlaybackState) : Nat :=
  state.foregroundPermits.count state.generation

def hlsIsActive (state : TorrentPlaybackState) (now : Nat) : Bool :=
  state.hlsLastActivity.any fun lastActivity => now - lastActivity < hlsActivityTtl

def hasActivity (state : TorrentPlaybackState) (now : Nat) : Bool :=
  state.activePlaybackPermits > 0 || state.metadataPermits > 0 || state.hlsIsActive now

def scheduleIdleIfNeeded (state : TorrentPlaybackState) (now : Nat) : TorrentPlaybackState :=
  if state.hasActivity now then { state with idleDeadline := none }
  else
    let deadline := (state.hlsLastActivity.map (· + hlsActivityTtl)).getD (now + idlePauseGrace)
    { state with idleDeadline := some (max deadline now) }

/-- The block that `select` and `begin_pause` share: a new generation with a new token. -/
def bumpGeneration (state : TorrentPlaybackState) (tokens : Tokens)
    (selectedFile : Option Nat) (selectedPriority : Int) : TorrentPlaybackState × Tokens :=
  let (cancellation, tokens) := (tokens.cancel state.cancellation).create
  ({ state with
      generation := saturatingSucc state.generation
      cancellation
      selectedFile
      selectedPriority
      selectedFirstPiece := none
      priorityWindows := state.priorityWindows.clearTracking }, tokens)

def acquirePermit (state : TorrentPlaybackState) (foreground : Bool) : TorrentPlaybackState :=
  { state with
    directPermits := state.directPermits.acquire state.generation
    foregroundPermits :=
      if foreground then state.foregroundPermits.acquire state.generation
      else state.foregroundPermits }

def select (state : TorrentPlaybackState) (tokens : Tokens) (now : Nat) (fileIdx : Nat)
    (nativePriority : Int) (directPermit hlsActivity networkRequired foreground : Bool) :
    Selection × TorrentPlaybackState × Tokens :=
  let subordinate := directPermit && !foreground && state.selectedFile == some fileIdx &&
    state.activeForegroundPermits > 0
  let changed := state.selectedFile != some fileIdx || state.selectedPriority != nativePriority
  let (state, tokens) :=
    if changed then state.bumpGeneration tokens (some fileIdx) nativePriority else (state, tokens)
  let state := if directPermit then state.acquirePermit foreground else state
  let state := if hlsActivity then { state with hlsLastActivity := some now } else state
  -- A complete file is a local-only read and leaves the phase alone.
  let state := if networkRequired then state.writePhase state.generation .active else state
  let state := { state with idleDeadline := none }
  (⟨state.generation, state.cancellation, changed, subordinate, nativePriority⟩, state, tokens)

def beginPause (state : TorrentPlaybackState) (tokens : Tokens) : TorrentPlaybackState × Tokens :=
  let (state, tokens) := state.bumpGeneration tokens none 0
  let state := { state with hlsLastActivity := none, idleDeadline := none }
  (state.writePhase state.generation .pausePending, tokens)

def keepActiveForSeeding (state : TorrentPlaybackState) (generation : Nat) :
    TorrentPlaybackState :=
  if state.generation = generation ∧ state.phase = .pausePending then
    state.writePhase generation .active
  else state

def acquireMetadata (state : TorrentPlaybackState) (hasMetadata : Bool) : TorrentPlaybackState :=
  let state := { state with metadataPermits := state.metadataPermits + 1 }
  let state := if hasMetadata then state else state.writePhase state.generation .active
  { state with idleDeadline := none }

def releaseMetadata (state : TorrentPlaybackState) (now : Nat) : TorrentPlaybackState :=
  scheduleIdleIfNeeded { state with metadataPermits := state.metadataPermits - 1 } now

def releasePlayback (state : TorrentPlaybackState) (generation streamId : Nat) (foreground : Bool)
    (now : Nat) : TorrentPlaybackState × List PiecePriorityChange :=
  let state := { state with
    directPermits := state.directPermits.release generation
    foregroundPermits :=
      if foreground then state.foregroundPermits.release generation
      else state.foregroundPermits }
  let (windows, changes) :=
    if state.generation = generation then state.priorityWindows.release streamId
    else (state.priorityWindows, [])
  (scheduleIdleIfNeeded { state with priorityWindows := windows } now, changes)

def expireHls (state : TorrentPlaybackState) (now : Nat) : TorrentPlaybackState :=
  if state.hlsLastActivity.isSome && !state.hlsIsActive now then
    { state with hlsLastActivity := none, idleDeadline := some now }
  else state

def idlePauseDue (state : TorrentPlaybackState) (now : Nat) : Bool :=
  !state.hasActivity now && state.idleDeadline.any (· ≤ now) && state.phase != .pausedIdle

/-- The scan of one entry by `pause_due_torrents`: the generation to pause, if it is due. -/
def scanIdle (state : TorrentPlaybackState) (tokens : Tokens) (now : Nat) :
    Option Nat × TorrentPlaybackState × Tokens :=
  let state := state.expireHls now
  if !state.idlePauseDue now then (none, state, tokens)
  else if state.phase = .pausePending then
    (some state.generation, { state with idleDeadline := none }, tokens)
  else
    let (state, tokens) := state.beginPause tokens
    (some state.generation, state, tokens)

def finishPause (state : TorrentPlaybackState) (generation : Nat) (zeros : List Int)
    (clearSelection : Bool) : TorrentPlaybackState :=
  if state.generation = generation then
    let state := state.writePhase generation .pausedIdle
    let state := { state with acknowledgedPriorities := if zeros = [] then none else some zeros }
    if clearSelection then { state with selectedFile := none, selectedPriority := 0 } else state
  else state

def idlePauseFailed (state : TorrentPlaybackState) (generation now : Nat) :
    TorrentPlaybackState :=
  if state.generation = generation then
    { state.writePhase generation .pausePending with
      idleDeadline := some (now + pauseRetryDelay) }
  else state

def markPieceVerified (state : TorrentPlaybackState) (piece : Int) : TorrentPlaybackState :=
  { state with
    priorityWindows := state.priorityWindows.markPieceVerified piece
    selectedFirstPiece :=
      if state.selectedFirstPiece = some piece then none else state.selectedFirstPiece }

def selectionIsCurrent (state : TorrentPlaybackState) (fileIdx generation : Nat) : Bool :=
  state.generation == generation && state.selectedFile == some fileIdx

end TorrentPlaybackState

inductive PlaybackIntent where
  | directInitial
  | directSeek
  | directSequential
  | hlsInitial
  | hlsSeek
  | hlsSequential
  | downloadFull
  | downloadRange
  | containerMetadata
  | internalProbe
  | background
deriving DecidableEq, Repr

def PlaybackIntent.isDownload : PlaybackIntent → Bool
  | .downloadFull | .downloadRange => true
  | _ => false

def PlaybackIntent.isForeground : PlaybackIntent → Bool
  | .internalProbe | .background => false
  | _ => true

structure LibtorrentPlaybackStart where
  fileIdx : Nat
  streamId : Nat
  intent : PlaybackIntent
deriving DecidableEq, Repr

-- Info hashes are keyed by their lower-case form throughout; `H` is the type of such keys.
variable {H : Type}

-- `id` and `issuer`, the entry whose counters the permit raised, are not fields of the source.
structure LibtorrentPlaybackPermit (H : Type) where
  infoHash : H
  fileIdx : Nat
  generation : Nat
  streamId : Nat
  cancellation : Token
  foreground : Bool
  subordinate : Bool
  id : Nat
  issuer : Nat
deriving DecidableEq, Repr

structure LibtorrentMetadataPermit (H : Type) where
  infoHash : H
  generation : Nat
deriving DecidableEq, Repr

inductive PlaybackCommand (H : Type) where
  | replacePriorityWindow (infoHash : H) (fileIdx generation streamId : Nat)
      (assignments : List LibtorrentPiecePriority)
  | releasePlayback (permit : LibtorrentPlaybackPermit H)
  | releaseMetadata (permit : LibtorrentMetadataPermit H)
  | seedingEnabled (enabled : Bool)
  | pieceVerified (infoHash : H) (piece : Int)
  | pieceInvalidated (infoHash : H) (piece : Int)
deriving DecidableEq, Repr

structure TorrentPlaybackEntry where
  -- Whether the `operation` mutex is held.
  operation : Bool
  state : TorrentPlaybackState
  -- The number of files of the layout, once it has been loaded.
  layout : Option Nat

structure NativeTorrent where
  isPaused : Bool
  hasMetadata : Bool
deriving DecidableEq, Repr

-- What the tasks of the coordinator share. An entry is named by its index in `cells`, which stands
-- for the `Arc` that a task keeps when the map `entries` drops or replaces it.
structure Store (H : Type) where
  tokens : Tokens
  entries : AList fun _ : H => Nat
  cells : List TorrentPlaybackEntry
  native : H → Option NativeTorrent
  seedingEnabled : Bool
  queue : List (PlaybackCommand H)
  permits : List (LibtorrentPlaybackPermit H)
  metadataPermits : List (LibtorrentMetadataPermit H)
  nextPermit : Nat
  now : Nat

namespace Store

def updateCell (store : Store H) (entry : Nat) (f : TorrentPlaybackEntry → TorrentPlaybackEntry) :
    Store H :=
  { store with cells := store.cells.modify entry f }

def updateState (store : Store H) (entry : Nat)
    (f : TorrentPlaybackState → TorrentPlaybackState) : Store H :=
  store.updateCell entry fun cell => { cell with state := f cell.state }

def setState (store : Store H) (entry : Nat) (state : TorrentPlaybackState) : Store H :=
  store.updateState entry fun _ => state

def state? (store : Store H) (entry : Nat) : Option TorrentPlaybackState :=
  store.cells[entry]?.map (·.state)

def lock (store : Store H) (entry : Nat) : Store H :=
  store.updateCell entry ({ · with operation := true })

def unlock (store : Store H) (entry : Nat) : Store H :=
  store.updateCell entry ({ · with operation := false })

def tryLock (store : Store H) (entry : Nat) : Option (Store H) :=
  store.cells[entry]?.bind fun cell => if cell.operation then none else some (store.lock entry)

def send (store : Store H) (command : PlaybackCommand H) : Store H :=
  { store with queue := store.queue ++ [command] }

variable [DecidableEq H]

def entry (store : Store H) (infoHash : H) : Nat × Store H :=
  match store.entries.lookup infoHash with
  | some entry => (entry, store)
  | none =>
      let (cancellation, tokens) := store.tokens.create
      let entry := store.cells.length
      (entry, { store with
        tokens
        entries := store.entries.insert infoHash entry
        cells := store.cells ++ [⟨false, .new cancellation, none⟩] })

def setNative (store : Store H) (infoHash : H) (torrent : Option NativeTorrent) : Store H :=
  { store with native := Function.update store.native infoHash torrent }

def dropPermit (store : Store H) (id : Nat) : Store H :=
  match store.permits.find? (·.id == id) with
  | none => store
  | some permit =>
      { store with permits := store.permits.erase permit }.send (.releasePlayback permit)

end Store

inductive Progress (P : Type) where
  | running (pc : P)
  | returned (ok : Bool)
deriving DecidableEq, Repr

structure PauseCall (H : Type) where
  infoHash : H
  entry : Nat
  generation : Nat
  clearSelection : Bool
deriving DecidableEq, Repr

/-- Where a call of `perform_pause` stands. Everything between two awaits is one section. -/
inductive PausePc where
  | checkSeeding
  | keepActive
  | lockOperation
  | checkGeneration
  | nativePause
  | confirm
  | recheck
  | compareZeros
  | applyZeros (zeros : List Int)
  | finish (zeros : List Int)
deriving DecidableEq, Repr

def PausePc.holdsOperation : PausePc → Bool
  | .checkSeeding | .keepActive | .lockOperation => false
  | _ => true

-- One section of `perform_pause`. `outcome` is how the awaited native operation ended: the silent
-- confirmation of the pause, or the acknowledgement of the file priorities.
def performPause [DecidableEq H] (store : Store H) (outcome : Bool) (call : PauseCall H) :
    PausePc → Option (Store H × Progress PausePc)
  | .checkSeeding =>
      some (store, .running (if store.seedingEnabled then .keepActive else .lockOperation))
  | .keepActive =>
      some (store.updateState call.entry (·.keepActiveForSeeding call.generation), .returned true)
  | .lockOperation => (store.tryLock call.entry).map (·, .running .checkGeneration)
  | .checkGeneration =>
      (store.state? call.entry).map fun state =>
        if state.generation ≠ call.generation then (store.unlock call.entry, .returned true)
        else (store, .running .nativePause)
  | .nativePause =>
      match store.native call.infoHash with
      | none => some (store.unlock call.entry, .returned false)
      | some torrent =>
          some (store.setNative call.infoHash (some { torrent with isPaused := true }),
            .running .confirm)
  | .confirm =>
      if outcome then some (store, .running .recheck)
      else some (store.unlock call.entry, .returned false)
  | .recheck =>
      (store.state? call.entry).map fun state =>
        if state.generation ≠ call.generation then (store.unlock call.entry, .returned true)
        else (store, .running .compareZeros)
  | .compareZeros =>
      store.cells[call.entry]?.map fun cell =>
        let zeros := List.replicate (cell.layout.getD 0) 0
        if zeros ≠ [] ∧ cell.state.acknowledgedPriorities ≠ some zeros then
          (store, .running (.applyZeros zeros))
        else (store, .running (.finish zeros))
  | .applyZeros zeros =>
      if outcome then some (store, .running (.finish zeros))
      else some (store.unlock call.entry, .returned false)
  | .finish zeros =>
      some ((store.updateState call.entry
          (·.finishPause call.generation zeros call.clearSelection)).unlock call.entry,
        .returned true)

def desiredPriorities (fileCount fileIdx : Nat) (priority : Int) : Option (List Int) :=
  if fileIdx ≥ fileCount then none else some ((List.replicate fileCount 0).set fileIdx priority)

structure Activation (H : Type) where
  infoHash : H
  entry : Nat
  fileCount : Nat
  start : LibtorrentPlaybackStart
  selection : Selection
  complete : Bool
deriving DecidableEq, Repr

inductive ActivatePc where
  | lockOperation
  | checkCurrent
  | clearDeadlines
  | fastPath (desired : List Int)
  | fastPathState (desired : List Int)
  | comparePriorities (desired : List Int)
  | applyPriorities (desired : List Int)
  | acknowledge (desired : List Int)
  | branchComplete
  | pause (pc : PausePc)
  | hotWindow
  | firstPiece (piece : Int)
  | resume (piece : Int)
  | firstPiecePresent
deriving DecidableEq, Repr

def ActivatePc.holdsOperation : ActivatePc → Bool
  | .lockOperation => false
  | .pause pc => pc.holdsOperation
  | _ => true

-- What the environment decides for the section at hand: how an awaited native operation ended,
-- whether the first piece is already present, and the window that the priority policy chose.
structure Outcome where
  ok : Bool
  firstPiecePresent : Bool
  firstPiece : Int
  assignments : List LibtorrentPiecePriority
deriving DecidableEq, Repr

def Activation.pauseCall (activation : Activation H) : PauseCall H :=
  ⟨activation.infoHash, activation.entry, activation.selection.generation, false⟩

-- One section of `activate_selection`, which holds the operation mutex from its second section
-- until it returns or hands over to `perform_pause`.
def activateSelection [DecidableEq H] (store : Store H) (outcome : Outcome)
    (activation : Activation H) : ActivatePc → Option (Store H × Progress ActivatePc)
  | .lockOperation => (store.tryLock activation.entry).map (·, .running .checkCurrent)
  | .checkCurrent =>
      (store.state? activation.entry).map fun state =>
        if !state.selectionIsCurrent activation.start.fileIdx activation.selection.generation then
          (store.unlock activation.entry, .returned false)
        else if activation.selection.subordinate then (store.unlock activation.entry, .returned true)
        else (store, .running .clearDeadlines)
  | .clearDeadlines =>
      if activation.selection.changed ∧ store.native activation.infoHash = none then
        some (store.unlock activation.entry, .returned false)
      else
        match desiredPriorities activation.fileCount activation.start.fileIdx
            activation.selection.nativePriority with
        | none => some (store.unlock activation.entry, .returned false)
        | some desired => some (store, .running (.fastPath desired))
  | .fastPath desired =>
      if activation.complete && !store.seedingEnabled then
        some (store, .running (.fastPathState desired))
      else some (store, .running (.comparePriorities desired))
  | .fastPathState desired =>
      (store.state? activation.entry).map fun state =>
        if state.phase = .pausedIdle ∧ state.acknowledgedPriorities = some desired then
          (store.unlock activation.entry, .returned true)
        else (store, .running (.comparePriorities desired))
  | .comparePriorities desired =>
      (store.state? activation.entry).map fun state =>
        if state.acknowledgedPriorities ≠ some desired then
          (store, .running (.applyPriorities desired))
        else (store, .running .branchComplete)
  | .applyPriorities desired =>
      if outcome.ok then some (store, .running (.acknowledge desired))
      else some (store.unlock activation.entry, .returned false)
  | .acknowledge desired =>
      (store.state? activation.entry).map fun state =>
        if state.generation ≠ activation.selection.generation then
          (store.unlock activation.entry, .returned false)
        else
          (store.setState activation.entry { state with acknowledgedPriorities := some desired },
            .running .branchComplete)
  | .branchComplete =>
      if activation.complete then
        if store.seedingEnabled then some (store.unlock activation.entry, .returned true)
        else some (store.unlock activation.entry, .running (.pause .checkSeeding))
      else some (store, .running .hotWindow)
  | .pause pc =>
      (performPause store outcome.ok activation.pauseCall pc).map fun (store, progress) =>
        match progress with
        | .running pc => (store, .running (.pause pc))
        | .returned ok => (store, .returned ok)
  | .hotWindow =>
      -- A zero piece length, a missing torrent or a rejected native change makes this `!ok`.
      if outcome.ok then
        (store.state? activation.entry).map fun state =>
          let next :=
            if state.selectionIsCurrent activation.start.fileIdx activation.selection.generation then
              { state with priorityWindows :=
                  (state.priorityWindows.replace activation.start.streamId outcome.assignments).1 }
            else state
          (store.setState activation.entry next, .running (.firstPiece outcome.firstPiece))
      else some (store.unlock activation.entry, .returned false)
  | .firstPiece piece =>
      (store.state? activation.entry).map fun state =>
        if !state.selectionIsCurrent activation.start.fileIdx activation.selection.generation then
          (store.unlock activation.entry, .returned false)
        else
          (store.setState activation.entry { state with selectedFirstPiece := some piece },
            .running (.resume piece))
  | .resume _ =>
      match store.native activation.infoHash with
      | none => some (store.unlock activation.entry, .returned false)
      | some torrent =>
          (store.state? activation.entry).map fun state =>
            if !state.selectionIsCurrent activation.start.fileIdx
                activation.selection.generation then
              (store.unlock activation.entry, .returned false)
            else
              (store.setNative activation.infoHash (some { torrent with isPaused := false }),
                .running .firstPiecePresent)
  | .firstPiecePresent =>
      (store.state? activation.entry).map fun state =>
        let next :=
          if outcome.firstPiecePresent ∧ state.generation = activation.selection.generation then
            { state with selectedFirstPiece := none }
          else state
        ((store.setState activation.entry next).unlock activation.entry, .returned true)

end StreamServer.Playback
