import Mathlib.Algebra.Ring.Nat
import Mathlib.Data.List.Perm.Basic
import Mathlib.Logic.Function.Basic
import StreamServer.Shared.Runs

set_option autoImplicit false

namespace StreamServer.EngineFs

def inactiveTorrentRemoveTimeout : Nat := 300

def inactiveTorrentPauseGrace : Nat := 15

def fileCleanupDelay : Nat := 5

def periodicInterval : Nat := 15

def hlsPlaybackLeaseTtl : Nat := 300

def libtorrentHlsPlaybackLeaseTtl : Nat := 15

structure MultiFileActiveSelection where
  fileIdx : Nat
  generation : Nat
deriving DecidableEq, Repr

structure Engine where
  lastAccessed : Nat
  -- File and metadata readers of this engine.
  activeStreams : Nat
  idlePaused : Bool
deriving DecidableEq, Repr

structure Torrent where
  inSession : Bool
  -- Zero until the metadata is known.
  fileCount : Nat
  paused : Bool
  -- The active file of the last priority plan that was applied.
  wanted : Option Nat
deriving DecidableEq, Repr

def Torrent.hasMetadata (torrent : Torrent) : Bool := 0 < torrent.fileCount

-- The fields of `BackendEngineFS`, the engines they hold and the torrents behind these. The maps of
-- stream counts have no entry of count zero and are kept as the list of the streams they count.
structure BackendEngineFs (H : Type) where
  -- What `manages_playback_lifecycle` says of every handle of the backend.
  native : Bool
  now : Nat
  seedingEnabled : Bool
  engines : List (H × Nat)
  arcs : Nat → Engine
  created : Nat
  torrents : H → Torrent
  activeStreams : List H
  activeFileStreams : List (H × Nat)
  activeFile : Option (H × Nat)
  activePlaybackLeases : List ((H × Nat) × Nat)
  activeMultifileFiles : H → Option MultiFileActiveSelection
  priorityGeneration : Nat
  -- The streams that have started and not yet ended.
  watched : List (H × Nat)
  -- The torrents whose engine the periodic removal has taken out and nobody has added since.
  removed : H → Bool

def leaseIsActive (expiresAt now : Nat) : Bool := now < expiresAt

variable {H : Type} [DecidableEq H]

namespace BackendEngineFs

def new (native : Bool) : BackendEngineFs H where
  native
  now := 0
  seedingEnabled := true
  engines := []
  arcs := fun _ => ⟨0, 0, false⟩
  created := 0
  torrents := fun _ => ⟨false, 0, false, none⟩
  activeStreams := []
  activeFileStreams := []
  activeFile := none
  activePlaybackLeases := []
  activeMultifileFiles := fun _ => none
  priorityGeneration := 0
  watched := []
  removed := fun _ => false

def lookup (fs : BackendEngineFs H) (hash : H) : Option Nat := fs.engines.lookup hash

def updateEngine (fs : BackendEngineFs H) (engine : Nat) (f : Engine → Engine) : BackendEngineFs H :=
  { fs with arcs := Function.update fs.arcs engine (f (fs.arcs engine)) }

def touch (fs : BackendEngineFs H) (engine : Nat) : BackendEngineFs H :=
  fs.updateEngine engine fun entry => { entry with lastAccessed := fs.now }

def setIdlePaused (fs : BackendEngineFs H) (engine : Nat) (paused : Bool) : BackendEngineFs H :=
  fs.updateEngine engine fun entry => { entry with idlePaused := paused }

def getEngine (fs : BackendEngineFs H) (hash : H) : BackendEngineFs H × Option Nat :=
  match fs.lookup hash with
  | some engine => (fs.touch engine, some engine)
  | none => (fs, none)

def updateTorrent (fs : BackendEngineFs H) (hash : H) (f : Torrent → Torrent) : BackendEngineFs H :=
  { fs with torrents := Function.update fs.torrents hash (f (fs.torrents hash)) }

def setPaused (fs : BackendEngineFs H) (hash : H) (paused : Bool) : BackendEngineFs H :=
  fs.updateTorrent hash fun torrent => { torrent with paused }

def reconcileFilePriorities (fs : BackendEngineFs H) (hash : H) (activeFile : Option Nat) :
    BackendEngineFs H :=
  fs.updateTorrent hash fun torrent => { torrent with wanted := activeFile }

def setActiveFile (fs : BackendEngineFs H) (activeFile : Option (H × Nat)) : BackendEngineFs H :=
  { fs with activeFile }

def select (fs : BackendEngineFs H) (hash : H) (selection : Option MultiFileActiveSelection) :
    BackendEngineFs H :=
  { fs with activeMultifileFiles := Function.update fs.activeMultifileFiles hash selection }

def selectedFile (fs : BackendEngineFs H) (hash : H) : Option Nat :=
  (fs.activeMultifileFiles hash).map (·.fileIdx)

def isMultifile (fs : BackendEngineFs H) (hash : H) : Bool := 1 < (fs.torrents hash).fileCount

def leaseActive (fs : BackendEngineFs H) (hash : H) (fileIdx now : Nat) : Bool :=
  match fs.activePlaybackLeases.lookup (hash, fileIdx) with
  | some expiresAt => leaseIsActive expiresAt now
  | none => false

def anyLeaseActive (fs : BackendEngineFs H) (hash : H) (now : Nat) : Bool :=
  fs.activePlaybackLeases.any fun lease => lease.1.1 == hash && leaseIsActive lease.2 now

def fileActive (fs : BackendEngineFs H) (hash : H) : Bool :=
  fs.activeFileStreams.any fun stream => stream.1 == hash

def removeLease (fs : BackendEngineFs H) (key : H × Nat) : BackendEngineFs H :=
  { fs with activePlaybackLeases := fs.activePlaybackLeases.filter fun lease => lease.1 != key }

def insertLease (fs : BackendEngineFs H) (key : H × Nat) (expiresAt : Nat) : BackendEngineFs H :=
  { fs with
    activePlaybackLeases :=
      (key, expiresAt) :: fs.activePlaybackLeases.filter fun lease => lease.1 != key }

end BackendEngineFs

inductive CleanupOrigin where
  -- Spawned by `schedule_file_cleanup_after`, with the generation it found selected for the file.
  | delayed (scheduledGeneration : Option Nat)
  -- Part of the periodic loop, for a lease that has expired.
  | leaseExpired
deriving DecidableEq, Repr

structure Cleanup (H : Type) where
  hash : H
  fileIdx : Nat
  origin : CleanupOrigin
deriving DecidableEq, Repr

inductive CleanupStage where
  | checkStreams
  | checkLease
  | takeSelection
  -- `plan` is the file that stays selected.
  | activeFile (plan : Option Nat)
  | lookup (plan : Option Nat)
  | fileCount (plan : Option Nat)
  | reconcile (plan : Option Nat)
  | clearFileStreaming
deriving DecidableEq, Repr

namespace Cleanup

def mayRemove (cleanup : Cleanup H) (selection : MultiFileActiveSelection) : Bool :=
  match cleanup.origin with
  | .delayed scheduledGeneration => scheduledGeneration == some selection.generation
  | .leaseExpired => true

def advance (cleanup : Cleanup H) (fs : BackendEngineFs H) (ok : Bool) :
    CleanupStage → BackendEngineFs H × Option CleanupStage
  | .checkStreams =>
      if (cleanup.hash, cleanup.fileIdx) ∈ fs.activeFileStreams then (fs, none)
      else
        match cleanup.origin with
        | .delayed _ => (fs, some .checkLease)
        | .leaseExpired => (fs, some .takeSelection)
  | .checkLease =>
      if fs.leaseActive cleanup.hash cleanup.fileIdx fs.now then (fs, none)
      else (fs, some .takeSelection)
  | .takeSelection =>
      match fs.activeMultifileFiles cleanup.hash with
      | some selection =>
          if selection.fileIdx = cleanup.fileIdx then
            if cleanup.mayRemove selection then
              (fs.select cleanup.hash none, some (.activeFile none))
            else (fs, none)
          else (fs, some (.activeFile (some selection.fileIdx)))
      | none => (fs, some (.activeFile none))
  | .activeFile plan =>
      (if fs.activeFile = some (cleanup.hash, cleanup.fileIdx) then
          fs.setActiveFile (plan.map fun fileIdx => (cleanup.hash, fileIdx))
        else fs,
        some (.lookup plan))
  | .lookup plan =>
      match fs.lookup cleanup.hash with
      | some _ => if fs.native then (fs, none) else (fs, some (.fileCount plan))
      | none => (fs, none)
  | .fileCount plan =>
      if fs.isMultifile cleanup.hash then (fs, some (.reconcile plan))
      else (fs, some .clearFileStreaming)
  | .reconcile plan =>
      (if ok then fs.reconcileFilePriorities cleanup.hash plan else fs, none)
  | .clearFileStreaming => (fs, none)

end Cleanup

inductive PauseOrigin where
  -- Spawned by `schedule_torrent_pause_after`.
  | delayed
  -- Part of the periodic loop, which has read the clock and holds the engine.
  | periodic (now engine : Nat)
deriving DecidableEq, Repr

structure IdlePause (H : Type) where
  hash : H
  origin : PauseOrigin
deriving DecidableEq, Repr

inductive PauseStage where
  | checkSeeding
  | hashActive
  -- `active` tells whether one of the earlier readings has found activity.
  | fileActive (active : Bool)
  | playbackActive (active : Bool)
  | multifileActive (active : Bool)
  | lookup
  | stats (engine : Nat)
  | swapFlag (engine : Nat)
  | pause (engine : Nat)
  | restoreFlag (engine : Nat)
deriving DecidableEq, Repr

namespace IdlePause

def readerActive (fs : BackendEngineFs H) (engine : Nat) : Bool :=
  0 < (fs.arcs engine).activeStreams

def advance (task : IdlePause H) (fs : BackendEngineFs H) (ok : Bool) :
    PauseStage → BackendEngineFs H × Option PauseStage
  | .checkSeeding => if fs.seedingEnabled then (fs, none) else (fs, some .hashActive)
  | .hashActive => (fs, some (.fileActive (decide (task.hash ∈ fs.activeStreams))))
  | .fileActive active => (fs, some (.playbackActive (active || fs.fileActive task.hash)))
  | .playbackActive active =>
      let now := match task.origin with
        | .delayed => fs.now
        | .periodic now _ => now
      (fs, some (.multifileActive (active || fs.anyLeaseActive task.hash now)))
  | .multifileActive active =>
      let active := active || (fs.activeMultifileFiles task.hash).isSome
      match task.origin with
      | .delayed => if active then (fs, none) else (fs, some .lookup)
      | .periodic _ engine =>
          if active || readerActive fs engine then (fs, none) else (fs, some (.stats engine))
  | .lookup =>
      match fs.lookup task.hash with
      | some engine => if readerActive fs engine then (fs, none) else (fs, some (.stats engine))
      | none => (fs, none)
  | .stats engine =>
      if (fs.torrents task.hash).hasMetadata then (fs, some (.swapFlag engine)) else (fs, none)
  | .swapFlag engine =>
      let fs := match task.origin with
        | .delayed => fs.touch engine
        | .periodic _ _ => fs
      if (fs.arcs engine).idlePaused then (fs, none)
      else (fs.setIdlePaused engine true, some (.pause engine))
  | .pause engine =>
      if ok then (fs.setPaused task.hash true, none) else (fs, some (.restoreFlag engine))
  | .restoreFlag engine => (fs.setIdlePaused engine false, none)

end IdlePause

structure RemovalCheck (H : Type) where
  hash : H
  engine : Nat
  now : Nat
deriving DecidableEq, Repr

inductive RemovalStage where
  | age
  | streamCount (active : Bool)
  | fileStreamCount (active : Bool)
  | leaseCount (active : Bool)
  | activeFile (active : Bool)
  | multifile (active : Bool)
deriving DecidableEq, Repr

namespace RemovalCheck

/-- Reads one of the fields: where the check goes on, or whether the torrent is to be removed. -/
def advance (check : RemovalCheck H) (fs : BackendEngineFs H) : RemovalStage → Bool ⊕ RemovalStage
  | .age =>
      let entry := fs.arcs check.engine
      if check.now - entry.lastAccessed ≤ inactiveTorrentRemoveTimeout then .inl false
      else .inr (.streamCount (decide (0 < entry.activeStreams)))
  | .streamCount active => .inr (.fileStreamCount (active || decide (check.hash ∈ fs.activeStreams)))
  | .fileStreamCount active => .inr (.leaseCount (active || fs.fileActive check.hash))
  | .leaseCount active => .inr (.activeFile (active || fs.anyLeaseActive check.hash check.now))
  | .activeFile active =>
      .inr (.multifile (active || (fs.activeFile.map (·.1)) == some check.hash))
  | .multifile active => .inl (!(active || (fs.activeMultifileFiles check.hash).isSome))

end RemovalCheck

structure Activation (H : Type) where
  hash : H
  fileIdx : Nat
  keepFileDownloading : Bool
  -- The caller is `on_stream_start`, which counts the stream afterwards.
  counts : Bool
deriving DecidableEq, Repr

/-- Where the call stands. An `await` lies between any two stages. -/
inductive ActivationStage where
  | lookup
  | nativeFile
  | fileCount (engine : Nat)
  | resume (engine : Nat) (multifile : Bool)
  | clearFlag (engine : Nat) (multifile : Bool)
  | keepDownloading
  | activeFile (multifile : Bool)
  -- From here on in `activate_multifile_file`.
  | multifileLookup
  | multifileCount (engine : Nat)
  | nextGeneration (engine : Nat)
  | select (engine generation : Nat)
  | dropLeases (engine : Nat)
  | dropStreams (engine : Nat)
  | multifileActive (engine : Nat)
  | multifileResume (engine : Nat)
  | multifileClearFlag (engine : Nat)
  | reconcileCount
  | reconcile
deriving DecidableEq, Repr

namespace Activation

def afterResume (call : Activation H) (multifile : Bool) : ActivationStage :=
  if call.keepFileDownloading && !multifile then .keepDownloading else .activeFile multifile

-- One section of the call, and where it stands after it if it has not returned. `ok` is what the
-- backend answers where the section asks it for something.
def advance (call : Activation H) (fs : BackendEngineFs H) (ok : Bool) :
    ActivationStage → BackendEngineFs H × Option ActivationStage
  | .lookup =>
      match fs.getEngine call.hash with
      | (fs, none) => (fs, some (.activeFile false))
      | (fs, some engine) =>
          if fs.native then (fs, some .nativeFile) else (fs, some (.fileCount engine))
  | .nativeFile => (fs.setActiveFile (some (call.hash, call.fileIdx)), none)
  | .fileCount engine => (fs, some (.resume engine (fs.isMultifile call.hash)))
  | .resume engine multifile =>
      if ok then (fs.setPaused call.hash false, some (.clearFlag engine multifile))
      else (fs, some (call.afterResume multifile))
  | .clearFlag engine multifile =>
      (fs.setIdlePaused engine false, some (call.afterResume multifile))
  | .keepDownloading => (fs, some (.activeFile false))
  | .activeFile multifile =>
      (fs.setActiveFile (some (call.hash, call.fileIdx)),
        if multifile then some .multifileLookup else none)
  | .multifileLookup =>
      match fs.getEngine call.hash with
      | (fs, none) => (fs, none)
      | (fs, some engine) => (fs, some (.multifileCount engine))
  | .multifileCount engine =>
      if fs.isMultifile call.hash then (fs, some (.nextGeneration engine)) else (fs, none)
  | .nextGeneration engine =>
      let generation := (fs.priorityGeneration + 1) % 2 ^ 64
      ({ fs with priorityGeneration := generation }, some (.select engine generation))
  | .select engine generation =>
      (fs.select call.hash (some ⟨call.fileIdx, generation⟩), some (.dropLeases engine))
  | .dropLeases engine =>
      ({ fs with
          activePlaybackLeases := fs.activePlaybackLeases.filter fun lease =>
            lease.1.1 != call.hash || lease.1.2 == call.fileIdx },
        some (.dropStreams engine))
  | .dropStreams engine =>
      ({ fs with
          activeFileStreams := fs.activeFileStreams.filter fun stream =>
            stream.1 != call.hash || stream.2 == call.fileIdx },
        some (.multifileActive engine))
  | .multifileActive engine =>
      (fs.setActiveFile (some (call.hash, call.fileIdx)), some (.multifileResume engine))
  | .multifileResume engine =>
      let fs := fs.touch engine
      if ok then (fs.setPaused call.hash false, some (.multifileClearFlag engine))
      else (fs, some .reconcileCount)
  | .multifileClearFlag engine => (fs.setIdlePaused engine false, some .reconcileCount)
  | .reconcileCount =>
      if fs.native then (fs, none)
      else if fs.isMultifile call.hash then (fs, some .reconcile)
      else (fs, none)
  | .reconcile =>
      (if ok then fs.reconcileFilePriorities call.hash (some call.fileIdx) else fs, none)

end Activation

end StreamServer.EngineFs
