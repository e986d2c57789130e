import StreamServer.EngineFs.System

set_option autoImplicit false

namespace StreamServer.EngineFs

open BackendEngineFs

variable {H : Type} [DecidableEq H]

-- What one section of each task does, a constructor for each of its ends.

inductive CleanupMove (fs : BackendEngineFs H) (ok : Bool) (cleanup : Cleanup H) :
    CleanupStage → BackendEngineFs H → Option CleanupStage → Prop where
  | streaming : CleanupMove fs ok cleanup .checkStreams fs none
  | checkStreams (target : CleanupStage)
      (absent : (cleanup.hash, cleanup.fileIdx) ∉ fs.activeFileStreams)
      (reached : target = .checkLease ∨ target = .takeSelection) :
      CleanupMove fs ok cleanup .checkStreams fs (some target)
  | leased : CleanupMove fs ok cleanup .checkLease fs none
  | checkLease : CleanupMove fs ok cleanup .checkLease fs (some .takeSelection)
  | takeSelection (selected : fs.selectedFile cleanup.hash = some cleanup.fileIdx) :
      CleanupMove fs ok cleanup .takeSelection (fs.select cleanup.hash none) (some (.activeFile none))
  | reselected : CleanupMove fs ok cleanup .takeSelection fs none
  | elsewhere : CleanupMove fs ok cleanup .takeSelection fs
      (some (.activeFile (fs.selectedFile cleanup.hash)))
  | activeFile (plan : Option Nat) :
      CleanupMove fs ok cleanup (.activeFile plan)
        (if fs.activeFile = some (cleanup.hash, cleanup.fileIdx) then
          fs.setActiveFile (plan.map fun fileIdx => (cleanup.hash, fileIdx))
        else fs) (some (.lookup plan))
  | unmanaged (plan : Option Nat) : CleanupMove fs ok cleanup (.lookup plan) fs none
  | lookup (plan : Option Nat) (own : fs.native = false) :
      CleanupMove fs ok cleanup (.lookup plan) fs (some (.fileCount plan))
  | fileCount (plan : Option Nat) :
      CleanupMove fs ok cleanup (.fileCount plan) fs (some (.reconcile plan))
  | single (plan : Option Nat) (single : fs.isMultifile cleanup.hash = false) :
      CleanupMove fs ok cleanup (.fileCount plan) fs (some .clearFileStreaming)
  | unreconciled (plan : Option Nat) : CleanupMove fs ok cleanup (.reconcile plan) fs none
  | reconcile (plan : Option Nat) :
      CleanupMove fs ok cleanup (.reconcile plan) (fs.reconcileFilePriorities cleanup.hash plan) none
  | clearFileStreaming : CleanupMove fs ok cleanup .clearFileStreaming fs none

theorem Cleanup.advance_move (cleanup : Cleanup H) (fs : BackendEngineFs H) (ok : Bool)
    (stage : CleanupStage) :
    CleanupMove fs ok cleanup stage (cleanup.advance fs ok stage).1 (cleanup.advance fs ok stage).2 := by
  cases stage with
  | checkStreams =>
    simp only [advance]
    split
    next => exact .streaming
    next absent =>
      split
      next => exact .checkStreams _ absent (.inl rfl)
      next => exact .checkStreams _ absent (.inr rfl)
  | checkLease =>
    simp only [advance]
    split
    next => exact .leased
    next => exact .checkLease
  | takeSelection =>
    have other : CleanupMove fs ok cleanup .takeSelection fs
        (some (.activeFile (fs.selectedFile cleanup.hash))) := .elsewhere
    simp only [advance]
    split
    next selection found =>
      rw [selectedFile, found, Option.map_some] at other
      split
      next same =>
        split
        next => exact .takeSelection (by rw [selectedFile, found, Option.map_some, same])
        next => exact .reselected
      next => exact other
    next found =>
      rw [selectedFile, found, Option.map_none] at other
      exact other
  | activeFile plan => exact .activeFile plan
  | lookup plan =>
    simp only [advance]
    split
    next =>
      split
      next => exact .unmanaged plan
      next own => exact .lookup plan (Bool.eq_false_iff.mpr own)
    next => exact .unmanaged plan
  | fileCount plan =>
    simp only [advance]
    split
    next => exact .fileCount plan
    next single => exact .single plan (Bool.eq_false_iff.mpr single)
  | reconcile plan =>
    simp only [advance]
    split
    next => exact .reconcile plan
    next => exact .unreconciled plan
  | clearFileStreaming => exact .clearFileStreaming

inductive PauseMove (fs : BackendEngineFs H) (ok : Bool) (task : IdlePause H) :
    PauseStage → BackendEngineFs H → Option PauseStage → Prop where
  | seeding : PauseMove fs ok task .checkSeeding fs none
  | checkSeeding : PauseMove fs ok task .checkSeeding fs (some .hashActive)
  | hashActive :
      PauseMove fs ok task .hashActive fs
        (some (.fileActive (decide (task.hash ∈ fs.activeStreams))))
  | fileActive (active : Bool) :
      PauseMove fs ok task (.fileActive active) fs
        (some (.playbackActive (active || fs.fileActive task.hash)))
  | playbackActive (active leased : Bool) :
      PauseMove fs ok task (.playbackActive active) fs (some (.multifileActive (active || leased)))
  | busy (active : Bool) : PauseMove fs ok task (.multifileActive active) fs none
  | multifileActive (target : PauseStage)
      (reached : target = .lookup ∨ ∃ engine, target = .stats engine) :
      PauseMove fs ok task (.multifileActive false) fs (some target)
  | gone : PauseMove fs ok task .lookup fs none
  | lookup (engine : Nat) : PauseMove fs ok task .lookup fs (some (.stats engine))
  | unknown (engine : Nat) : PauseMove fs ok task (.stats engine) fs none
  | stats (engine : Nat) : PauseMove fs ok task (.stats engine) fs (some (.swapFlag engine))
  | flagged (engine : Nat) (after : BackendEngineFs H)
      (touched : after = fs ∨ after = fs.touch engine) :
      PauseMove fs ok task (.swapFlag engine) after none
  | swapFlag (engine : Nat) (after : BackendEngineFs H)
      (touched : after = fs ∨ after = fs.touch engine) :
      PauseMove fs ok task (.swapFlag engine) (after.setIdlePaused engine true) (some (.pause engine))
  | pause (engine : Nat) :
      PauseMove fs ok task (.pause engine) (fs.setPaused task.hash true) none
  | unpaused (engine : Nat) :
      PauseMove fs ok task (.pause engine) fs (some (.restoreFlag engine))
  | restoreFlag (engine : Nat) :
      PauseMove fs ok task (.restoreFlag engine) (fs.setIdlePaused engine false) none

theorem IdlePause.advance_move (task : IdlePause H) (fs : BackendEngineFs H) (ok : Bool)
    (stage : PauseStage) :
    PauseMove fs ok task stage (task.advance fs ok stage).1 (task.advance fs ok stage).2 := by
  cases stage with
  | checkSeeding =>
    simp only [advance]
    split
    next => exact .seeding
    next => exact .checkSeeding
  | hashActive => exact .hashActive
  | fileActive active => exact .fileActive active
  | playbackActive active => exact .playbackActive active _
  | multifileActive active =>
    cases origin : task.origin with
    | delayed =>
      simp only [advance, origin]
      split
      next => exact .busy active
      next idle =>
        simp only [Bool.or_eq_true, not_or, Bool.not_eq_true] at idle
        obtain ⟨rfl, -⟩ := idle
        exact .multifileActive _ (.inl rfl)
    | periodic now engine =>
      simp only [advance, origin]
      split
      next => exact .busy active
      next idle =>
        simp only [Bool.or_eq_true, not_or, Bool.not_eq_true] at idle
        obtain ⟨⟨rfl, -⟩, -⟩ := idle
        exact .multifileActive _ (.inr ⟨engine, rfl⟩)
  | lookup =>
    simp only [advance]
    split
    next engine found =>
      split
      next => exact .gone
      next => exact .lookup engine
    next => exact .gone
  | stats engine =>
    simp only [advance]
    split
    next => exact .stats engine
    next => exact .unknown engine
  | swapFlag engine =>
    cases origin : task.origin with
    | delayed =>
      simp only [advance, origin]
      split
      next => exact .flagged engine _ (.inr rfl)
      next => exact .swapFlag engine _ (.inr rfl)
    | periodic now other =>
      simp only [advance, origin]
      split
      next => exact .flagged engine _ (.inl rfl)
      next => exact .swapFlag engine _ (.inl rfl)
  | pause engine =>
    simp only [advance]
    split
    next => exact .pause engine
    next => exact .unpaused engine
  | restoreFlag engine => exact .restoreFlag engine

inductive ActivationMove (fs : BackendEngineFs H) (ok : Bool) (call : Activation H) :
    ActivationStage → BackendEngineFs H → Option ActivationStage → Prop where
  | absent (missing : fs.lookup call.hash = none) :
      ActivationMove fs ok call .lookup fs (some (.activeFile false))
  | lookupNative (engine : Nat) (native : fs.native = true) :
      ActivationMove fs ok call .lookup (fs.touch engine) (some .nativeFile)
  | lookup (engine : Nat) :
      ActivationMove fs ok call .lookup (fs.touch engine) (some (.fileCount engine))
  | nativeFile :
      ActivationMove fs ok call .nativeFile (fs.setActiveFile (some (call.hash, call.fileIdx))) none
  | fileCount (engine : Nat) :
      ActivationMove fs ok call (.fileCount engine) fs
        (some (.resume engine (fs.isMultifile call.hash)))
  | resume (engine : Nat) (multifile : Bool) :
      ActivationMove fs ok call (.resume engine multifile) (fs.setPaused call.hash false)
        (some (.clearFlag engine multifile))
  | unresumed (engine : Nat) (multifile : Bool) (fails : ok = false) :
      ActivationMove fs ok call (.resume engine multifile) fs (some (call.afterResume multifile))
  | clearFlag (engine : Nat) (multifile : Bool) :
      ActivationMove fs ok call (.clearFlag engine multifile) (fs.setIdlePaused engine false)
        (some (call.afterResume multifile))
  | keepDownloading : ActivationMove fs ok call .keepDownloading fs (some (.activeFile false))
  | activeFile :
      ActivationMove fs ok call (.activeFile true)
        (fs.setActiveFile (some (call.hash, call.fileIdx))) (some .multifileLookup)
  | singleFile :
      ActivationMove fs ok call (.activeFile false)
        (fs.setActiveFile (some (call.hash, call.fileIdx))) none
  | multifileAbsent (missing : fs.lookup call.hash = none) :
      ActivationMove fs ok call .multifileLookup fs none
  | multifileLookup (engine : Nat) :
      ActivationMove fs ok call .multifileLookup (fs.touch engine) (some (.multifileCount engine))
  | multifileSingle (engine : Nat) (single : fs.isMultifile call.hash = false) :
      ActivationMove fs ok call (.multifileCount engine) fs none
  | multifileCount (engine : Nat) :
      ActivationMove fs ok call (.multifileCount engine) fs (some (.nextGeneration engine))
  | nextGeneration (engine : Nat) :
      ActivationMove fs ok call (.nextGeneration engine)
        { fs with priorityGeneration := (fs.priorityGeneration + 1) % 2 ^ 64 }
        (some (.select engine ((fs.priorityGeneration + 1) % 2 ^ 64)))
  | select (engine generation : Nat) :
      ActivationMove fs ok call (.select engine generation)
        (fs.select call.hash (some ⟨call.fileIdx, generation⟩)) (some (.dropLeases engine))
  | dropLeases (engine : Nat) :
      ActivationMove fs ok call (.dropLeases engine)
        { fs with
          activePlaybackLeases := fs.activePlaybackLeases.filter fun lease =>
            lease.1.1 != call.hash || lease.1.2 == call.fileIdx } (some (.dropStreams engine))
  | dropStreams (engine : Nat) :
      ActivationMove fs ok call (.dropStreams engine)
        { fs with
          activeFileStreams := fs.activeFileStreams.filter fun stream =>
            stream.1 != call.hash || stream.2 == call.fileIdx } (some (.multifileActive engine))
  | multifileActive (engine : Nat) :
      ActivationMove fs ok call (.multifileActive engine)
        (fs.setActiveFile (some (call.hash, call.fileIdx))) (some (.multifileResume engine))
  | multifileResume (engine : Nat) :
      ActivationMove fs ok call (.multifileResume engine)
        ((fs.touch engine).setPaused call.hash false) (some (.multifileClearFlag engine))
  | multifileUnresumed (engine : Nat) (fails : ok = false) :
      ActivationMove fs ok call (.multifileResume engine) (fs.touch engine) (some .reconcileCount)
  | multifileClearFlag (engine : Nat) :
      ActivationMove fs ok call (.multifileClearFlag engine) (fs.setIdlePaused engine false)
        (some .reconcileCount)
  | skipped (reason : fs.native = true ∨ fs.isMultifile call.hash = false) :
      ActivationMove fs ok call .reconcileCount fs none
  | reconcileCount (own : fs.native = false) :
      ActivationMove fs ok call .reconcileCount fs (some .reconcile)
  | reconcile :
      ActivationMove fs ok call .reconcile
        (if ok then fs.reconcileFilePriorities call.hash (some call.fileIdx) else fs) none

theorem BackendEngineFs.getEngine_of_none {fs : BackendEngineFs H} {hash : H}
    (missing : fs.lookup hash = none) : fs.getEngine hash = (fs, none) := by
  rw [getEngine, missing]

theorem BackendEngineFs.getEngine_of_some {fs : BackendEngineFs H} {hash : H} {engine : Nat}
    (found : fs.lookup hash = some engine) : fs.getEngine hash = (fs.touch engine, some engine) := by
  rw [getEngine, found]

@[simp]
theorem BackendEngineFs.getEngine_native (fs : BackendEngineFs H) (hash : H) :
    (fs.getEngine hash).1.native = fs.native := by
  unfold getEngine
  split <;> rfl

theorem Activation.advance_move (call : Activation H) (fs : BackendEngineFs H) (ok : Bool)
    (stage : ActivationStage) :
    ActivationMove fs ok call stage (call.advance fs ok stage).1 (call.advance fs ok stage).2 := by
  cases stage with
  | lookup =>
    cases found : fs.lookup call.hash with
    | none =>
      rw [advance, getEngine_of_none found]
      exact .absent found
    | some engine =>
      rw [advance, getEngine_of_some found]
      simp only
      split
      next native => exact .lookupNative engine native
      next => exact .lookup engine
  | nativeFile => exact .nativeFile
  | fileCount engine => exact .fileCount engine
  | resume engine multifile =>
    cases ok with
    | true => exact .resume engine multifile
    | false => exact .unresumed engine multifile rfl
  | clearFlag engine multifile => exact .clearFlag engine multifile
  | keepDownloading => exact .keepDownloading
  | activeFile multifile =>
    cases multifile with
    | true => exact .activeFile
    | false => exact .singleFile
  | multifileLookup =>
    cases found : fs.lookup call.hash with
    | none =>
      rw [advance, getEngine_of_none found]
      exact .multifileAbsent found
    | some engine =>
      rw [advance, getEngine_of_some found]
      exact .multifileLookup engine
  | multifileCount engine =>
    simp only [advance]
    split
    next => exact .multifileCount engine
    next single => exact .multifileSingle engine (Bool.eq_false_iff.mpr single)
  | nextGeneration engine => exact .nextGeneration engine
  | select engine generation => exact .select engine generation
  | dropLeases engine => exact .dropLeases engine
  | dropStreams engine => exact .dropStreams engine
  | multifileActive engine => exact .multifileActive engine
  | multifileResume engine =>
    cases ok with
    | true => exact .multifileResume engine
    | false => exact .multifileUnresumed engine rfl
  | multifileClearFlag engine => exact .multifileClearFlag engine
  | reconcileCount =>
    simp only [advance]
    split
    next native => exact .skipped (.inl native)
    next other =>
      split
      next => exact .reconcileCount (Bool.eq_false_iff.mpr other)
      next single => exact .skipped (.inr (Bool.eq_false_iff.mpr single))
  | reconcile => exact .reconcile

inductive PeriodicMove (fs : BackendEngineFs H) (ok : Bool) :
    PeriodicStage H → BackendEngineFs H → PeriodicStage H → Prop where
  | wakes (due : Nat) :
      PeriodicMove fs ok (.sleeping due)
        { fs with
          activePlaybackLeases :=
            fs.activePlaybackLeases.filter fun lease => leaseIsActive lease.2 fs.now }
        (.expiring fs.now none (PeriodicStage.expired fs))
  | expiring (now : Nat) (hash : H) (fileIdx : Nat) (rest : List (H × Nat)) :
      PeriodicMove fs ok (.expiring now none ((hash, fileIdx) :: rest)) fs
        (.expiring now (some (⟨hash, fileIdx, .leaseExpired⟩, .checkStreams)) rest)
  | expired (now : Nat) :
      PeriodicMove fs ok (.expiring now none []) fs (.scanning now none fs.engines [])
  | cleans (now : Nat) (cleanup : Cleanup H) (stage : CleanupStage) (rest : List (H × Nat)) :
      PeriodicMove fs ok (.expiring now (some (cleanup, stage)) rest) (cleanup.advance fs ok stage).1
        (.expiring now ((cleanup.advance fs ok stage).2.map fun stage => (cleanup, stage)) rest)
  | scanning (now : Nat) (hash : H) (engine : Nat) (rest : List (H × Nat)) (toRemove : List H) :
      PeriodicMove fs ok (.scanning now none ((hash, engine) :: rest) toRemove) fs
        (.scanning now (some (⟨hash, engine, now⟩, .age)) rest toRemove)
  | scannedNone (now : Nat) : PeriodicMove fs ok (.scanning now none [] []) fs (.seedingPolicy now)
  | scanned (now : Nat) (toRemove : List H) :
      PeriodicMove fs ok (.scanning now none [] toRemove) fs (.removing now toRemove)
  | checks (now : Nat) (check : RemovalCheck H) (scan target : RemovalStage) (rest : List (H × Nat))
      (toRemove : List H) (moved : check.advance fs scan = .inr target) :
      PeriodicMove fs ok (.scanning now (some (check, scan)) rest toRemove) fs
        (.scanning now (some (check, target)) rest toRemove)
  | condemns (now : Nat) (check : RemovalCheck H) (scan : RemovalStage) (rest : List (H × Nat))
      (toRemove : List H) (removes : check.advance fs scan = .inl true) :
      PeriodicMove fs ok (.scanning now (some (check, scan)) rest toRemove) fs
        (.scanning now none rest (toRemove ++ [check.hash]))
  | spares (now : Nat) (check : RemovalCheck H) (scan : RemovalStage) (rest : List (H × Nat))
      (toRemove : List H) :
      PeriodicMove fs ok (.scanning now (some (check, scan)) rest toRemove) fs
        (.scanning now none rest toRemove)
  | removing (now : Nat) (toRemove : List H) :
      PeriodicMove fs ok (.removing now toRemove)
        { fs with
          engines := fs.engines.filter fun entry => decide (entry.1 ∉ toRemove)
          removed := fun hash => decide (hash ∈ toRemove) || fs.removed hash }
        (.dropping now toRemove)
  | dropping (now : Nat) (hash : H) (rest : List H) :
      PeriodicMove fs ok (.dropping now (hash :: rest))
        (if ok then fs.updateTorrent hash fun torrent => { torrent with inSession := false } else fs)
        (.dropping now rest)
  | dropped (now : Nat) : PeriodicMove fs ok (.dropping now []) fs (.seedingPolicy now)
  | seeding (now : Nat) :
      PeriodicMove fs ok (.seedingPolicy now) fs (.sleeping (fs.now + periodicInterval))
  | seedingPolicy (now : Nat) :
      PeriodicMove fs ok (.seedingPolicy now) fs (.pausing now none fs.engines)
  | skips (now : Nat) (hash : H) (engine : Nat) (rest : List (H × Nat)) :
      PeriodicMove fs ok (.pausing now none ((hash, engine) :: rest)) fs (.pausing now none rest)
  | pausing (now : Nat) (hash : H) (engine : Nat) (rest : List (H × Nat)) :
      PeriodicMove fs ok (.pausing now none ((hash, engine) :: rest)) fs
        (.pausing now (some (⟨hash, .periodic now engine⟩, .hashActive)) rest)
  | paused (now : Nat) :
      PeriodicMove fs ok (.pausing now none []) fs (.sleeping (fs.now + periodicInterval))
  | pauses (now : Nat) (task : IdlePause H) (stage : PauseStage) (rest : List (H × Nat)) :
      PeriodicMove fs ok (.pausing now (some (task, stage)) rest) (task.advance fs ok stage).1
        (.pausing now ((task.advance fs ok stage).2.map fun stage => (task, stage)) rest)

theorem PeriodicStage.advance_move {fs after : BackendEngineFs H} {ok : Bool}
    {stage next : PeriodicStage H} (taken : stage.advance fs ok = some (after, next)) :
    PeriodicMove fs ok stage after next := by
  cases stage with
  | sleeping due =>
    simp only [advance] at taken
    split at taken <;> cases taken
    exact .wakes due
  | expiring now current rest =>
    cases current with
    | none =>
      cases rest <;> cases taken
      · exact .expired now
      · exact .expiring ..
    | some current => cases taken; exact .cleans ..
  | scanning now current rest toRemove =>
    cases current with
    | none =>
      cases rest with
      | cons => cases taken; exact .scanning ..
      | nil => cases toRemove <;> cases taken <;> constructor
    | some current =>
      obtain ⟨check, scan⟩ := current
      simp only [advance] at taken
      split at taken <;> cases taken
      next target moved => exact .checks _ _ _ _ _ _ moved
      next removes => exact .condemns _ _ _ _ _ removes
      next => exact .spares ..
  | removing => cases taken; exact .removing ..
  | dropping now toRemove =>
    cases toRemove <;> cases taken
    · exact .dropped now
    · exact .dropping ..
  | seedingPolicy now =>
    simp only [advance] at taken
    split at taken <;> cases taken
    · exact .seeding now
    · exact .seedingPolicy now
  | pausing now current rest =>
    cases current with
    | none =>
      cases rest with
      | nil => cases taken; exact .paused now
      | cons head rest =>
        simp only [advance] at taken
        split at taken <;> cases taken
        · exact .skips ..
        · exact .pausing ..
    | some current => cases taken; exact .pauses ..

inductive RefreshMove (fs : BackendEngineFs H) (hash : H) (fileIdx : Nat) (native : List (Task H)) :
    Option Nat → BackendEngineFs H → List (Task H) → Prop where
  | unknown : RefreshMove fs hash fileIdx native none fs []
  | native (engine : Nat) : RefreshMove fs hash fileIdx native (some engine) (fs.touch engine) native
  | activates (engine : Nat) :
      RefreshMove fs hash fileIdx native (some engine) fs
        [.activation ⟨hash, fileIdx, true, false⟩ .lookup]

inductive TaskMove (fs : BackendEngineFs H) (ok : Bool) :
    Task H → BackendEngineFs H → List (Task H) → Prop where
  | streamStartNative (hash : H) (fileIdx : Nat) (native : fs.native = true) :
      TaskMove fs ok (.streamStart hash fileIdx) (fs.getEngine hash).1 [.nativeTouch hash fileIdx]
  | streamStart (hash : H) (fileIdx : Nat) :
      TaskMove fs ok (.streamStart hash fileIdx) (fs.getEngine hash).1
        [.activation ⟨hash, fileIdx, false, true⟩ .lookup]
  | nativeTouch (hash : H) (fileIdx : Nat) :
      TaskMove fs ok (.nativeTouch hash fileIdx) (fs.getEngine hash).1
        [.nativeFile hash fileIdx true]
  | nativeStarted (hash : H) (fileIdx : Nat) :
      TaskMove fs ok (.nativeFile hash fileIdx true) (fs.setActiveFile (some (hash, fileIdx)))
        [.countTorrent hash fileIdx]
  | nativeFile (hash : H) (fileIdx : Nat) :
      TaskMove fs ok (.nativeFile hash fileIdx false) (fs.setActiveFile (some (hash, fileIdx))) []
  | countTorrent (hash : H) (fileIdx : Nat) :
      TaskMove fs ok (.countTorrent hash fileIdx)
        { fs with activeStreams := hash :: fs.activeStreams } [.countFile hash fileIdx]
  | countFile (hash : H) (fileIdx : Nat) :
      TaskMove fs ok (.countFile hash fileIdx)
        { fs with
          activeFileStreams := (hash, fileIdx) :: fs.activeFileStreams
          watched := (hash, fileIdx) :: fs.watched } []
  | activation (call : Activation H) (stage : ActivationStage) :
      TaskMove fs ok (.activation call stage) (call.advance fs ok stage).1
        (Task.afterActivation call (call.advance fs ok stage).2)
  | playbackNative (hash : H) (fileIdx : Nat) :
      TaskMove fs ok (.playbackLookup hash fileIdx) (fs.getEngine hash).1 []
  | playbackLookup (hash : H) (fileIdx : Nat) :
      TaskMove fs ok (.playbackLookup hash fileIdx) (fs.getEngine hash).1
        [.activation ⟨hash, fileIdx, false, false⟩ .multifileLookup]
  | endTorrent (hash : H) (fileIdx : Nat) :
      TaskMove fs ok (.endTorrent hash fileIdx)
        { fs with activeStreams := fs.activeStreams.erase hash }
        [.endFile hash fileIdx ((fs.activeStreams.erase hash).count hash)]
  | endFile (hash : H) (fileIdx hashRemaining : Nat) :
      TaskMove fs ok (.endFile hash fileIdx hashRemaining)
        { fs with activeFileStreams := fs.activeFileStreams.erase (hash, fileIdx) }
        [.endLookup hash fileIdx hashRemaining
          ((fs.activeFileStreams.erase (hash, fileIdx)).count (hash, fileIdx))]
  | ended (hash : H) (fileIdx hashRemaining fileRemaining : Nat) :
      TaskMove fs ok (.endLookup hash fileIdx hashRemaining fileRemaining) (fs.getEngine hash).1 []
  | endLookup (hash : H) (fileIdx hashRemaining fileRemaining : Nat) :
      TaskMove fs ok (.endLookup hash fileIdx hashRemaining fileRemaining) (fs.getEngine hash).1
        ((if hashRemaining = 0 then [Task.schedulePause (fs.getEngine hash).1 hash] else []) ++
          [.cleanupLookup hash fileIdx false])
  | cleanupNative (hash : H) (fileIdx : Nat) (thenPause : Bool) :
      TaskMove fs ok (.cleanupLookup hash fileIdx thenPause) (fs.getEngine hash).1
        (if thenPause then [Task.schedulePause (fs.getEngine hash).1 hash] else [])
  | cleanupLookup (hash : H) (fileIdx : Nat) (thenPause : Bool) :
      TaskMove fs ok (.cleanupLookup hash fileIdx thenPause) (fs.getEngine hash).1
        [.cleanupGeneration hash fileIdx thenPause]
  | cleanupGeneration (hash : H) (fileIdx : Nat) (thenPause : Bool) (cleanup : Cleanup H) :
      TaskMove fs ok (.cleanupGeneration hash fileIdx thenPause) fs
        (.cleanupDue (fs.now + fileCleanupDelay) cleanup ::
          if thenPause then [Task.schedulePause fs hash] else [])
  | refreshHls (hash : H) (fileIdx now : Nat) :
      TaskMove fs ok (.refreshHls hash fileIdx now) (fs.getEngine hash).1
        [.insertLease hash fileIdx now (fs.getEngine hash).2]
  | insertLease (hash : H) (fileIdx now expiresAt : Nat) (engine : Option Nat)
      (after : BackendEngineFs H) (next : List (Task H))
      (refreshed : RefreshMove (fs.insertLease (hash, fileIdx) expiresAt) hash fileIdx
        [.nativeFile hash fileIdx false] engine after next) :
      TaskMove fs ok (.insertLease hash fileIdx now engine) after next
  | refreshExistingHls (hash : H) (fileIdx now : Nat) :
      TaskMove fs ok (.refreshExistingHls hash fileIdx now) (fs.getEngine hash).1
        [.extendLease hash fileIdx now (fs.getEngine hash).2]
  | extendLease (hash : H) (fileIdx now expiresAt : Nat) (engine : Option Nat)
      (after : BackendEngineFs H) (next : List (Task H))
      (refreshed : RefreshMove (fs.insertLease (hash, fileIdx) expiresAt) hash fileIdx [] engine after
        next) :
      TaskMove fs ok (.extendLease hash fileIdx now engine) after next
  | leaseGone (hash : H) (fileIdx now : Nat) (engine : Option Nat) :
      TaskMove fs ok (.extendLease hash fileIdx now engine) (fs.removeLease (hash, fileIdx)) []
  | endHls (hash : H) (fileIdx : Nat) (removed : Bool) :
      TaskMove fs ok (.endHls hash fileIdx) (fs.removeLease (hash, fileIdx))
        [.endHlsLookup hash fileIdx removed]
  | endedHls (hash : H) (fileIdx : Nat) (removed : Bool) :
      TaskMove fs ok (.endHlsLookup hash fileIdx removed) (fs.getEngine hash).1 []
  | endHlsLookup (hash : H) (fileIdx : Nat) (removed : Bool) :
      TaskMove fs ok (.endHlsLookup hash fileIdx removed) (fs.getEngine hash).1
        [.cleanupLookup hash fileIdx true]
  | cleanupDue (due : Nat) (cleanup : Cleanup H) :
      TaskMove fs ok (.cleanupDue due cleanup) fs [.cleanup cleanup .checkStreams]
  | cleanup (cleanup : Cleanup H) (stage : CleanupStage) :
      TaskMove fs ok (.cleanup cleanup stage) (cleanup.advance fs ok stage).1
        ((cleanup.advance fs ok stage).2.map (Task.cleanup cleanup)).toList
  | pauseDue (due : Nat) (hash : H) :
      TaskMove fs ok (.pauseDue due hash) fs [.pause ⟨hash, .delayed⟩ .checkSeeding]
  | pause (task : IdlePause H) (stage : PauseStage) :
      TaskMove fs ok (.pause task stage) (task.advance fs ok stage).1
        ((task.advance fs ok stage).2.map (Task.pause task)).toList
  | reseedLock : TaskMove fs ok .reseedLock fs [.reseed fs.engines]
  | reseeded : TaskMove fs ok (.reseed []) fs []
  | reseed (hash : H) (engine : Nat) (rest : List (H × Nat)) :
      TaskMove fs ok (.reseed ((hash, engine) :: rest)) (fs.setIdlePaused engine false)
        [.reseedResume hash engine rest]
  | reseedRunning (hash : H) (engine : Nat) (rest : List (H × Nat)) :
      TaskMove fs ok (.reseed ((hash, engine) :: rest)) fs [.reseed rest]
  | reseedResume (hash : H) (engine : Nat) (rest : List (H × Nat)) :
      TaskMove fs ok (.reseedResume hash engine rest) (fs.setPaused hash false) [.reseed rest]
  | reseedFailed (hash : H) (engine : Nat) (rest : List (H × Nat)) :
      TaskMove fs ok (.reseedResume hash engine rest) fs [.reseedRestore engine rest]
  | reseedRestore (engine : Nat) (rest : List (H × Nat)) :
      TaskMove fs ok (.reseedRestore engine rest) (fs.setIdlePaused engine true) [.reseed rest]
  | engineKnown (hash : H) (engine : Nat) :
      TaskMove fs ok (.insertEngine hash) (fs.touch engine) []
  | insertEngine (hash : H) :
      TaskMove fs ok (.insertEngine hash)
        { fs with
          engines := (hash, fs.created) :: fs.engines
          arcs := Function.update fs.arcs fs.created ⟨fs.now, 0, false⟩
          created := fs.created + 1
          removed := Function.update fs.removed hash false } []
  | periodic (stage next : PeriodicStage H) (after : BackendEngineFs H)
      (taken : stage.advance fs ok = some (after, next)) :
      TaskMove fs ok (.periodic stage) after [.periodic next]

namespace Task

variable {fs after : BackendEngineFs H} {ok : Bool} {next : List (Task H)}

omit [DecidableEq H] in
theorem afterRefresh_move (hash : H) (fileIdx : Nat) (native : List (Task H)) (engine : Option Nat)
    (refreshed : afterRefresh fs hash fileIdx native engine = (after, next)) :
    RefreshMove fs hash fileIdx native engine after next := by
  cases engine with
  | none => cases refreshed; exact .unknown
  | some engine =>
    simp only [afterRefresh] at refreshed
    split at refreshed <;> cases refreshed
    · exact .native engine
    · exact .activates engine

theorem advance_move {task : Task H} (taken : task.advance fs ok = some (after, next)) :
    TaskMove fs ok task after next := by
  cases task with
  | streamStart hash fileIdx =>
    simp only [advance] at taken
    split at taken <;> cases taken
    next native =>
      rw [getEngine_native, Bool.and_eq_true] at native
      exact .streamStartNative hash fileIdx native.2
    next => exact .streamStart hash fileIdx
  | nativeTouch hash fileIdx => cases taken; exact .nativeTouch hash fileIdx
  | nativeFile hash fileIdx counts =>
    cases counts <;> cases taken
    · exact .nativeFile hash fileIdx
    · exact .nativeStarted hash fileIdx
  | countTorrent hash fileIdx => cases taken; exact .countTorrent hash fileIdx
  | countFile hash fileIdx => cases taken; exact .countFile hash fileIdx
  | activation call stage => cases taken; exact .activation call stage
  | playbackLookup hash fileIdx =>
    simp only [advance] at taken
    split at taken <;> cases taken
    · exact .playbackNative hash fileIdx
    · exact .playbackLookup hash fileIdx
  | endTorrent hash fileIdx => cases taken; exact .endTorrent hash fileIdx
  | endFile hash fileIdx hashRemaining => cases taken; exact .endFile hash fileIdx hashRemaining
  | endLookup =>
    simp only [advance] at taken
    split at taken <;> cases taken
    · exact .ended ..
    · exact .endLookup ..
  | cleanupLookup =>
    simp only [advance] at taken
    split at taken <;> cases taken
    · exact .cleanupNative ..
    · exact .cleanupLookup ..
  | cleanupGeneration => cases taken; exact .cleanupGeneration ..
  | refreshHls => cases taken; exact .refreshHls ..
  | insertLease hash fileIdx now engine =>
    exact .insertLease _ _ _ _ _ _ _ (afterRefresh_move _ _ _ _ (Option.some.inj taken))
  | refreshExistingHls => cases taken; exact .refreshExistingHls ..
  | extendLease hash fileIdx now engine =>
    simp only [advance] at taken
    split at taken
    · exact .extendLease _ _ _ _ _ _ _ (afterRefresh_move _ _ _ _ (Option.some.inj taken))
    · cases taken
      exact .leaseGone ..
  | endHls => cases taken; exact .endHls ..
  | endHlsLookup =>
    simp only [advance] at taken
    split at taken <;> cases taken
    · exact .endedHls ..
    · exact .endHlsLookup ..
  | cleanupDue =>
    simp only [advance] at taken
    split at taken <;> cases taken
    exact .cleanupDue ..
  | cleanup => cases taken; exact .cleanup ..
  | pauseDue =>
    simp only [advance] at taken
    split at taken <;> cases taken
    exact .pauseDue ..
  | pause => cases taken; exact .pause ..
  | reseedLock => cases taken; exact .reseedLock
  | reseed rest =>
    cases rest with
    | nil => cases taken; exact .reseeded
    | cons head rest =>
      simp only [advance] at taken
      split at taken <;> cases taken
      · exact .reseed ..
      · exact .reseedRunning ..
  | reseedResume =>
    cases ok <;> cases taken
    · exact .reseedFailed ..
    · exact .reseedResume ..
  | reseedRestore => cases taken; exact .reseedRestore ..
  | insertEngine hash =>
    simp only [advance] at taken
    split at taken <;> cases taken
    · exact .engineKnown ..
    · exact .insertEngine hash
  | periodic stage =>
    obtain ⟨reached, moved, same⟩ := Option.bind_eq_some_iff.mp taken
    cases same
    exact .periodic _ _ _ moved

end Task

end StreamServer.EngineFs
