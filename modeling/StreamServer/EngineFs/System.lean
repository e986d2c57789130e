import StreamServer.EngineFs.State

set_option autoImplicit false

namespace StreamServer.EngineFs

variable {H : Type} [DecidableEq H]

-- Where the periodic loop stands. While it scans or pauses it holds the read lock of the engines.
inductive PeriodicStage (H : Type) where
  | sleeping (due : Nat)
  | expiring (now : Nat) (current : Option (Cleanup H × CleanupStage)) (rest : List (H × Nat))
  | scanning (now : Nat) (current : Option (RemovalCheck H × RemovalStage))
      (rest : List (H × Nat)) (toRemove : List H)
  | removing (now : Nat) (toRemove : List H)
  | dropping (now : Nat) (toRemove : List H)
  | seedingPolicy (now : Nat)
  | pausing (now : Nat) (current : Option (IdlePause H × PauseStage)) (rest : List (H × Nat))
deriving DecidableEq, Repr

/-- A call that is being served, or a spawned task, at one of its awaits. -/
inductive Task (H : Type) where
  -- `on_stream_start`
  | streamStart (hash : H) (fileIdx : Nat)
  | nativeTouch (hash : H) (fileIdx : Nat)
  | nativeFile (hash : H) (fileIdx : Nat) (counts : Bool)
  | countTorrent (hash : H) (fileIdx : Nat)
  | countFile (hash : H) (fileIdx : Nat)
  | activation (call : Activation H) (stage : ActivationStage)
  -- `activate_multifile_file_for_playback`
  | playbackLookup (hash : H) (fileIdx : Nat)
  -- `on_stream_end`
  | endTorrent (hash : H) (fileIdx : Nat)
  | endFile (hash : H) (fileIdx hashRemaining : Nat)
  | endLookup (hash : H) (fileIdx hashRemaining fileRemaining : Nat)
  -- `schedule_file_cleanup_after`, with the pause that `end_hls_playback` schedules after it
  | cleanupLookup (hash : H) (fileIdx : Nat) (thenPause : Bool)
  | cleanupGeneration (hash : H) (fileIdx : Nat) (thenPause : Bool)
  -- `refresh_hls_playback` and `refresh_existing_hls_playback`
  | refreshHls (hash : H) (fileIdx now : Nat)
  | insertLease (hash : H) (fileIdx now : Nat) (engine : Option Nat)
  | refreshExistingHls (hash : H) (fileIdx now : Nat)
  | extendLease (hash : H) (fileIdx now : Nat) (engine : Option Nat)
  -- `end_hls_playback`
  | endHls (hash : H) (fileIdx : Nat)
  | endHlsLookup (hash : H) (fileIdx : Nat) (removed : Bool)
  -- spawned tasks
  | cleanupDue (due : Nat) (task : Cleanup H)
  | cleanup (task : Cleanup H) (stage : CleanupStage)
  | pauseDue (due : Nat) (hash : H)
  | pause (task : IdlePause H) (stage : PauseStage)
  -- what `set_seeding_enabled` spawns
  | reseedLock
  | reseed (rest : List (H × Nat))
  | reseedResume (hash : H) (engine : Nat) (rest : List (H × Nat))
  | reseedRestore (engine : Nat) (rest : List (H × Nat))
  -- `add_torrent`, with the handle from the backend
  | insertEngine (hash : H)
  | periodic (stage : PeriodicStage H)
deriving DecidableEq, Repr

namespace PeriodicStage

def afterScan (now : Nat) (toRemove : List H) : PeriodicStage H :=
  if toRemove.isEmpty then .seedingPolicy now else .removing now toRemove

def expired (fs : BackendEngineFs H) : List (H × Nat) :=
  (fs.activePlaybackLeases.filter fun lease => !leaseIsActive lease.2 fs.now).map (·.1)

def advance (fs : BackendEngineFs H) (ok : Bool) :
    PeriodicStage H → Option (BackendEngineFs H × PeriodicStage H)
  | .sleeping due =>
      if due ≤ fs.now then
        some ({ fs with
            activePlaybackLeases :=
              fs.activePlaybackLeases.filter fun lease => leaseIsActive lease.2 fs.now },
          .expiring fs.now none (expired fs))
      else none
  | .expiring now none ((hash, fileIdx) :: rest) =>
      some (fs, .expiring now (some (⟨hash, fileIdx, .leaseExpired⟩, .checkStreams)) rest)
  | .expiring now none [] => some (fs, .scanning now none fs.engines [])
  | .expiring now (some (cleanup, stage)) rest =>
      let (fs, next) := cleanup.advance fs ok stage
      some (fs, .expiring now (next.map fun stage => (cleanup, stage)) rest)
  | .scanning now none ((hash, engine) :: rest) toRemove =>
      some (fs, .scanning now (some (⟨hash, engine, now⟩, .age)) rest toRemove)
  | .scanning now none [] toRemove => some (fs, afterScan now toRemove)
  | .scanning now (some (check, stage)) rest toRemove =>
      match check.advance fs stage with
      | .inr stage => some (fs, .scanning now (some (check, stage)) rest toRemove)
      | .inl true => some (fs, .scanning now none rest (toRemove ++ [check.hash]))
      | .inl false => some (fs, .scanning now none rest toRemove)
  | .removing now toRemove =>
      some ({ fs with
          engines := fs.engines.filter fun entry => decide (entry.1 ∉ toRemove)
          removed := fun hash => decide (hash ∈ toRemove) || fs.removed hash },
        .dropping now toRemove)
  | .dropping now (hash :: rest) =>
      -- `remove_torrent` of the backend; a failure is only logged.
      some (if ok then fs.updateTorrent hash fun torrent => { torrent with inSession := false }
        else fs,
        .dropping now rest)
  | .dropping now [] => some (fs, .seedingPolicy now)
  | .seedingPolicy now =>
      if fs.seedingEnabled then some (fs, .sleeping (fs.now + periodicInterval))
      else some (fs, .pausing now none fs.engines)
  | .pausing now none ((hash, engine) :: rest) =>
      if fs.native then some (fs, .pausing now none rest)
      else some (fs, .pausing now (some (⟨hash, .periodic now engine⟩, .hashActive)) rest)
  | .pausing _ none [] => some (fs, .sleeping (fs.now + periodicInterval))
  | .pausing now (some (task, stage)) rest =>
      let (fs, next) := task.advance fs ok stage
      some (fs, .pausing now (next.map fun stage => (task, stage)) rest)

def holdsEngines : PeriodicStage H → Bool
  | .scanning .. | .pausing .. => true
  | _ => false

end PeriodicStage

namespace Task

/-- Where an activation goes on to: `on_stream_start` counts the stream, other callers are done. -/
def afterActivation (call : Activation H) : Option ActivationStage → List (Task H)
  | some stage => [.activation call stage]
  | none => if call.counts then [.countTorrent call.hash call.fileIdx] else []

def schedulePause (fs : BackendEngineFs H) (hash : H) : Task H :=
  .pauseDue (fs.now + inactiveTorrentPauseGrace) hash

def leaseTtl (fs : BackendEngineFs H) (engine : Option Nat) : Nat :=
  if engine.isSome && fs.native then libtorrentHlsPlaybackLeaseTtl else hlsPlaybackLeaseTtl

def afterRefresh (fs : BackendEngineFs H) (hash : H) (fileIdx : Nat) (native : List (Task H)) :
    Option Nat → BackendEngineFs H × List (Task H)
  | some engine =>
      if fs.native then (fs.touch engine, native)
      else (fs, [.activation ⟨hash, fileIdx, true, false⟩ .lookup])
  | none => (fs, [])

/-- One section of a task: the state after it and what the task has become, with what it spawned. -/
def advance (fs : BackendEngineFs H) (ok : Bool) :
    Task H → Option (BackendEngineFs H × List (Task H))
  | .streamStart hash fileIdx =>
      let (fs, engine) := fs.getEngine hash
      if engine.isSome && fs.native then some (fs, [.nativeTouch hash fileIdx])
      else some (fs, [.activation ⟨hash, fileIdx, false, true⟩ .lookup])
  | .nativeTouch hash fileIdx => some ((fs.getEngine hash).1, [.nativeFile hash fileIdx true])
  | .nativeFile hash fileIdx counts =>
      some (fs.setActiveFile (some (hash, fileIdx)),
        if counts then [.countTorrent hash fileIdx] else [])
  | .countTorrent hash fileIdx =>
      some ({ fs with activeStreams := hash :: fs.activeStreams }, [.countFile hash fileIdx])
  | .countFile hash fileIdx =>
      some ({ fs with
          activeFileStreams := (hash, fileIdx) :: fs.activeFileStreams
          watched := (hash, fileIdx) :: fs.watched }, [])
  | .activation call stage =>
      let (fs, next) := call.advance fs ok stage
      some (fs, afterActivation call next)
  | .playbackLookup hash fileIdx =>
      let (fs, engine) := fs.getEngine hash
      if engine.isSome && fs.native then some (fs, [])
      else some (fs, [.activation ⟨hash, fileIdx, false, false⟩ .multifileLookup])
  | .endTorrent hash fileIdx =>
      let streams := fs.activeStreams.erase hash
      some ({ fs with activeStreams := streams }, [.endFile hash fileIdx (streams.count hash)])
  | .endFile hash fileIdx hashRemaining =>
      let streams := fs.activeFileStreams.erase (hash, fileIdx)
      some ({ fs with activeFileStreams := streams },
        [.endLookup hash fileIdx hashRemaining (streams.count (hash, fileIdx))])
  | .endLookup hash fileIdx hashRemaining fileRemaining =>
      let (fs, engine) := fs.getEngine hash
      if engine.isSome && fs.native || fileRemaining != 0 then some (fs, [])
      else
        some (fs, (if hashRemaining = 0 then [schedulePause fs hash] else []) ++
          [.cleanupLookup hash fileIdx false])
  | .cleanupLookup hash fileIdx thenPause =>
      let (fs, engine) := fs.getEngine hash
      if engine.isSome && fs.native then
        some (fs, if thenPause then [schedulePause fs hash] else [])
      else some (fs, [.cleanupGeneration hash fileIdx thenPause])
  | .cleanupGeneration hash fileIdx thenPause =>
      let scheduled := (fs.activeMultifileFiles hash).filter fun selection =>
        selection.fileIdx == fileIdx
      some (fs,
        .cleanupDue (fs.now + fileCleanupDelay)
            ⟨hash, fileIdx, .delayed (scheduled.map (·.generation))⟩ ::
          if thenPause then [schedulePause fs hash] else [])
  | .refreshHls hash fileIdx now =>
      let (fs, engine) := fs.getEngine hash
      some (fs, [.insertLease hash fileIdx now engine])
  | .insertLease hash fileIdx now engine =>
      some (afterRefresh (fs.insertLease (hash, fileIdx) (now + leaseTtl fs engine)) hash fileIdx
        [.nativeFile hash fileIdx false] engine)
  | .refreshExistingHls hash fileIdx now =>
      let (fs, engine) := fs.getEngine hash
      some (fs, [.extendLease hash fileIdx now engine])
  | .extendLease hash fileIdx now engine =>
      if fs.leaseActive hash fileIdx now then
        some (afterRefresh (fs.insertLease (hash, fileIdx) (now + leaseTtl fs engine)) hash fileIdx
          [] engine)
      else some (fs.removeLease (hash, fileIdx), [])
  | .endHls hash fileIdx =>
      let removed := (fs.activePlaybackLeases.lookup (hash, fileIdx)).isSome
      some (fs.removeLease (hash, fileIdx), [.endHlsLookup hash fileIdx removed])
  | .endHlsLookup hash fileIdx removed =>
      let (fs, engine) := fs.getEngine hash
      if engine.isSome && fs.native || !removed then some (fs, [])
      else some (fs, [.cleanupLookup hash fileIdx true])
  | .cleanupDue due task => if due ≤ fs.now then some (fs, [.cleanup task .checkStreams]) else none
  | .cleanup task stage =>
      let (fs, next) := task.advance fs ok stage
      some (fs, (next.map (Task.cleanup task)).toList)
  | .pauseDue due hash =>
      if due ≤ fs.now then some (fs, [.pause ⟨hash, .delayed⟩ .checkSeeding]) else none
  | .pause task stage =>
      let (fs, next) := task.advance fs ok stage
      some (fs, (next.map (Task.pause task)).toList)
  | .reseedLock => some (fs, [.reseed fs.engines])
  | .reseed [] => some (fs, [])
  | .reseed ((hash, engine) :: rest) =>
      if !fs.native && (fs.arcs engine).idlePaused then
        some (fs.setIdlePaused engine false, [.reseedResume hash engine rest])
      else some (fs, [.reseed rest])
  | .reseedResume hash engine rest =>
      if ok then some (fs.setPaused hash false, [.reseed rest])
      else some (fs, [.reseedRestore engine rest])
  | .reseedRestore engine rest => some (fs.setIdlePaused engine true, [.reseed rest])
  | .insertEngine hash =>
      match fs.lookup hash with
      | some engine => some (fs.touch engine, [])
      | none =>
          some ({ fs with
              engines := (hash, fs.created) :: fs.engines
              arcs := Function.update fs.arcs fs.created ⟨fs.now, 0, false⟩
              created := fs.created + 1
              removed := Function.update fs.removed hash false }, [])
  | .periodic stage => do
      let (fs, stage) ← stage.advance fs ok
      return (fs, [.periodic stage])

def holdsEngines : Task H → Bool
  | .periodic stage => stage.holdsEngines
  | .reseed _ | .reseedResume .. | .reseedRestore .. => true
  | _ => false

def writesEngines : Task H → Bool
  | .insertEngine _ | .periodic (.removing ..) => true
  | _ => false

/-- Calls are dropped with the request they serve; what was spawned runs to its end. -/
def isCall : Task H → Bool
  | .streamStart .. | .nativeTouch .. | .nativeFile .. | .countTorrent .. | .countFile ..
  | .activation .. | .playbackLookup .. | .refreshHls .. | .insertLease .. | .refreshExistingHls ..
  | .extendLease .. | .endHls .. | .endHlsLookup .. | .insertEngine _ => true
  | .cleanupLookup _ _ thenPause | .cleanupGeneration _ _ thenPause => thenPause
  | _ => false

end Task

structure System (H : Type) where
  fs : BackendEngineFs H
  tasks : List (Task H)

inductive Action (H : Type) where
  | tick
  | streamStart (hash : H) (fileIdx : Nat)
  | streamEnd (hash : H) (fileIdx : Nat)
  | activateMultifileFileForPlayback (hash : H) (fileIdx : Nat)
  | refreshHlsPlayback (hash : H) (fileIdx : Nat)
  | refreshExistingHlsPlayback (hash : H) (fileIdx : Nat)
  | endHlsPlayback (hash : H) (fileIdx : Nat)
  | addTorrent (hash : H) (fileCount : Nat)
  | resolveMetadata (hash : H) (fileCount : Nat)
  | removeEngine (hash : H)
  | setSeedingEnabled (enabled : Bool)
  | readerOpens (engine : Nat)
  | readerCloses (engine : Nat)
  -- The maps are iterated in an order of their own.
  | rehash (engines : List (H × Nat)) (leases : List ((H × Nat) × Nat))
  | advance (index : Nat) (ok : Bool)
  | abandon (index : Nat)
deriving DecidableEq, Repr

def Action.advances (index count : Nat) : List (Action H) :=
  List.replicate count (.advance index true)

namespace System

def new (native : Bool) : System H where
  fs := .new native
  tasks := [.periodic (.sleeping periodicInterval)]

def call (system : System H) (task : Task H) : System H :=
  { system with tasks := system.tasks ++ [task] }

def enginesFree (system : System H) : Bool := !system.tasks.any Task.holdsEngines

def step (system : System H) : Action H → Option (System H)
  | .tick => some { system with fs := { system.fs with now := system.fs.now + 1 } }
  | .streamStart hash fileIdx => some (system.call (.streamStart hash fileIdx))
  | .streamEnd hash fileIdx =>
      if system.fs.watched.contains (hash, fileIdx) then
        some
          { fs := { system.fs with watched := system.fs.watched.erase (hash, fileIdx) }
            tasks := system.tasks ++ [.endTorrent hash fileIdx] }
      else none
  | .activateMultifileFileForPlayback hash fileIdx =>
      some (system.call (.playbackLookup hash fileIdx))
  | .refreshHlsPlayback hash fileIdx =>
      some (system.call (.refreshHls hash fileIdx system.fs.now))
  | .refreshExistingHlsPlayback hash fileIdx =>
      some (system.call (.refreshExistingHls hash fileIdx system.fs.now))
  | .endHlsPlayback hash fileIdx => some (system.call (.endHls hash fileIdx))
  | .addTorrent hash fileCount =>
      -- A torrent that is in the session is only looked up.
      let fs := if (system.fs.torrents hash).inSession then system.fs
        else system.fs.updateTorrent hash fun _ => ⟨true, fileCount, false, none⟩
      some { fs, tasks := system.tasks ++ [.insertEngine hash] }
  | .resolveMetadata hash fileCount =>
      if (system.fs.torrents hash).hasMetadata then none
      else
        some { system with
          fs := system.fs.updateTorrent hash fun torrent => { torrent with fileCount } }
  | .removeEngine hash =>
      if system.enginesFree then
        some { system with
          fs := { system.fs with
            engines := system.fs.engines.filter fun entry => entry.1 != hash } }
      else none
  | .setSeedingEnabled enabled =>
      some
        { fs := { system.fs with seedingEnabled := enabled }
          tasks := system.tasks ++ if enabled then [.reseedLock] else [] }
  | .readerOpens engine =>
      some { system with
        fs := system.fs.updateEngine engine fun entry =>
          { entry with activeStreams := entry.activeStreams + 1 } }
  | .readerCloses engine =>
      some { system with
        fs := system.fs.updateEngine engine fun entry =>
          { entry with activeStreams := entry.activeStreams - 1 } }
  | .rehash engines leases =>
      if engines.Perm system.fs.engines ∧ leases.Perm system.fs.activePlaybackLeases then
        some { system with fs := { system.fs with engines, activePlaybackLeases := leases } }
      else none
  | .advance index ok => do
      let task ← system.tasks[index]?
      if task.writesEngines && !system.enginesFree then none
      else do
        let (fs, next) ← task.advance system.fs ok
        return { fs, tasks := system.tasks.eraseIdx index ++ next }
  | .abandon index => do
      let task ← system.tasks[index]?
      if task.isCall then return { system with tasks := system.tasks.eraseIdx index } else none

end System

omit [DecidableEq H] in
theorem perm_of_getElem? {tasks : List (Task H)} {index : Nat} {task : Task H}
    (found : tasks[index]? = some task) : tasks.Perm (task :: tasks.eraseIdx index) := by
  obtain ⟨inside, rfl⟩ := List.getElem?_eq_some_iff.mp found
  exact (List.getElem_cons_eraseIdx_perm inside).symm

end StreamServer.EngineFs
