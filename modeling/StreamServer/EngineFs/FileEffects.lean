import StreamServer.EngineFs.Moves
import StreamServer.EngineFs.Teardown

set_option autoImplicit false

namespace StreamServer.EngineFs

variable {H : Type}

theorem Cleanup.Spares.congr {before after : BackendEngineFs H} {cleanup : Cleanup H} {fileIdx : Nat}
    {stage : CleanupStage} (spared : cleanup.Spares before fileIdx stage)
    (selected : after.selectedFile cleanup.hash = some fileIdx ↔
      before.selectedFile cleanup.hash = some fileIdx)
    (multifile : after.isMultifile cleanup.hash = before.isMultifile cleanup.hash) :
    cleanup.Spares after fileIdx stage := by
  cases stage with
  | checkStreams => trivial
  | _ => simpa only [Cleanup.Spares, ne_eq, selected, multifile] using spared

namespace BackendEngineFs

structure SameFiles (before after : BackendEngineFs H) : Prop where
  native : after.native = before.native
  watched : after.watched = before.watched
  streams : after.activeFileStreams = before.activeFileStreams
  selections : after.activeMultifileFiles = before.activeMultifileFiles
  fileCount : ∀ hash, (after.torrents hash).fileCount = (before.torrents hash).fileCount
  wanted : ∀ hash, after.wanted hash = before.wanted hash

namespace SameFiles

variable {before after : BackendEngineFs H}

theorem refl (fs : BackendEngineFs H) : SameFiles fs fs :=
  ⟨rfl, rfl, rfl, rfl, fun _ => rfl, fun _ => rfl⟩

theorem trans {middle : BackendEngineFs H} (earlier : SameFiles before middle)
    (later : SameFiles middle after) : SameFiles before after where
  native := later.native.trans earlier.native
  watched := later.watched.trans earlier.watched
  streams := later.streams.trans earlier.streams
  selections := later.selections.trans earlier.selections
  fileCount := fun hash => (later.fileCount hash).trans (earlier.fileCount hash)
  wanted := fun hash => (later.wanted hash).trans (earlier.wanted hash)

theorem selectedFile (same : SameFiles before after) (hash : H) :
    after.selectedFile hash = before.selectedFile hash := by
  simp only [BackendEngineFs.selectedFile, same.selections]

theorem isMultifile (same : SameFiles before after) (hash : H) :
    after.isMultifile hash = before.isMultifile hash := by
  simp only [BackendEngineFs.isMultifile, same.fileCount]

theorem spares (same : SameFiles before after) {cleanup : Cleanup H} {fileIdx : Nat}
    {stage : CleanupStage} (spared : cleanup.Spares before fileIdx stage) :
    cleanup.Spares after fileIdx stage :=
  spared.congr (by rw [same.selectedFile]) (same.isMultifile _)

theorem touch (fs : BackendEngineFs H) (engine : Nat) : SameFiles fs (fs.touch engine) :=
  ⟨rfl, rfl, rfl, rfl, fun _ => rfl, fun _ => rfl⟩

theorem setIdlePaused (fs : BackendEngineFs H) (engine : Nat) (paused : Bool) :
    SameFiles fs (fs.setIdlePaused engine paused) :=
  ⟨rfl, rfl, rfl, rfl, fun _ => rfl, fun _ => rfl⟩

theorem setActiveFile (fs : BackendEngineFs H) (activeFile : Option (H × Nat)) :
    SameFiles fs (fs.setActiveFile activeFile) :=
  ⟨rfl, rfl, rfl, rfl, fun _ => rfl, fun _ => rfl⟩

variable [DecidableEq H]

theorem updateTorrent (fs : BackendEngineFs H) (hash : H) {f : Torrent → Torrent}
    (fileCount : ∀ torrent, (f torrent).fileCount = torrent.fileCount)
    (wanted : ∀ torrent, (f torrent).wanted = torrent.wanted) :
    SameFiles fs (fs.updateTorrent hash f) := by
  refine ⟨rfl, rfl, rfl, rfl, fun other => ?_, fun other => ?_⟩
  · by_cases same : other = hash
    · simp [BackendEngineFs.updateTorrent, same, fileCount]
    · simp [BackendEngineFs.updateTorrent, same]
  · by_cases same : other = hash
    · simp [BackendEngineFs.updateTorrent, BackendEngineFs.wanted, same, wanted]
    · simp [BackendEngineFs.updateTorrent, BackendEngineFs.wanted, same]

theorem setPaused (fs : BackendEngineFs H) (hash : H) (paused : Bool) :
    SameFiles fs (fs.setPaused hash paused) :=
  .updateTorrent fs hash (fun _ => rfl) fun _ => rfl

theorem insertLease (fs : BackendEngineFs H) (key : H × Nat) (expiresAt : Nat) :
    SameFiles fs (fs.insertLease key expiresAt) :=
  ⟨rfl, rfl, rfl, rfl, fun _ => rfl, fun _ => rfl⟩

theorem getEngine (fs : BackendEngineFs H) (hash : H) : SameFiles fs (fs.getEngine hash).1 := by
  unfold BackendEngineFs.getEngine
  split
  · exact .touch fs _
  · exact .refl fs

end SameFiles

end BackendEngineFs

open BackendEngineFs

variable [DecidableEq H]

structure Cleanup.Continues (cleanup : Cleanup H) (target : Option CleanupStage)
    (next : List (Task H)) : Prop where
  endings : Task.endings next = []
  selections : Task.selections next = []
  reconciles : ∀ follow ∈ next, follow.reconciles = false
  cleanups : Task.cleanups next = (target.map fun stage => (cleanup, stage)).toList

inductive Effect (fs : BackendEngineFs H) (ok : Bool) :
    Task H → BackendEngineFs H → List (Task H) → Prop where
  | quiet {task after next} (same : SameFiles fs after)
      (endings : Task.endings next = task.ending.toList)
      (selections : Task.selections next = task.selecting.toList)
      (cleanups : ∀ follow ∈ next, ∀ cleanup stage, follow.cleanup? = some (cleanup, stage) →
        stage = .checkStreams)
      (reconciles : ∀ follow ∈ next, follow.reconciles = true → fs.native = false) :
      Effect fs ok task after next
  | counted (hash fileIdx) :
      Effect fs ok (.countFile hash fileIdx)
        { fs with
          activeFileStreams := (hash, fileIdx) :: fs.activeFileStreams
          watched := (hash, fileIdx) :: fs.watched } []
  | ended (hash fileIdx hashRemaining fileRemaining) :
      Effect fs ok (.endFile hash fileIdx hashRemaining)
        { fs with activeFileStreams := fs.activeFileStreams.erase (hash, fileIdx) }
        [.endLookup hash fileIdx hashRemaining fileRemaining]
  | selected (call engine generation) :
      Effect fs ok (.activation call (.select engine generation))
        (fs.select call.hash (some ⟨call.fileIdx, generation⟩))
        [.activation call (.dropLeases engine)]
  | dropped (call engine) :
      Effect fs ok (.activation call (.dropStreams engine))
        { fs with
          activeFileStreams := fs.activeFileStreams.filter fun stream =>
            stream.1 != call.hash || stream.2 == call.fileIdx }
        [.activation call (.multifileActive engine)]
  | skipped (call) (reason : fs.native = true ∨ fs.isMultifile call.hash = false) :
      Effect fs ok (.activation call .reconcileCount) fs (Task.afterActivation call none)
  | reconciled (call) :
      Effect fs ok (.activation call .reconcile)
        (if ok then fs.reconcileFilePriorities call.hash (some call.fileIdx) else fs)
        (Task.afterActivation call none)
  | cleaned {task next} (cleanup stage) (inside : task.cleanup? = some (cleanup, stage))
      (continues : cleanup.Continues (cleanup.advance fs ok stage).2 next) :
      Effect fs ok task (cleanup.advance fs ok stage).1 next

namespace Task

structure Plain (task : Task H) : Prop where
  ending : task.ending = none
  selecting : task.selecting = none
  cleanup : task.cleanup? = none
  reconciles : task.reconciles = false

omit [DecidableEq H] in
theorem plain_of_mem_afterActivation {call : Activation H} {follow : Task H}
    (member : follow ∈ afterActivation call none) : follow.Plain := by
  simp only [afterActivation] at member
  split at member
  · cases List.mem_singleton.mp member
    exact ⟨rfl, rfl, rfl, rfl⟩
  · cases member

end Task

namespace Effect

variable {fs after : BackendEngineFs H} {ok : Bool} {task : Task H} {next : List (Task H)}
  {call : Activation H} {stage : ActivationStage}

theorem of_plain (same : SameFiles fs after) (ending : task.ending = none)
    (selecting : task.selecting = none) (plain : ∀ follow ∈ next, follow.Plain) :
    Effect fs ok task after next := by
  refine .quiet same ?_ ?_ ?_ ?_
  · rw [ending]
    exact List.filterMap_eq_nil_iff.mpr fun follow member => (plain follow member).ending
  · rw [selecting]
    exact List.filterMap_eq_nil_iff.mpr fun follow member => (plain follow member).selecting
  · intro follow member cleanup stage inside
    rw [(plain follow member).cleanup] at inside
    cases inside
  · intro follow member sets
    rw [(plain follow member).reconciles] at sets
    cases sets

theorem moved {target : ActivationStage} (same : SameFiles fs after)
    (selecting : Task.selecting (.activation call target) = Task.selecting (.activation call stage))
    (reconciles : target = .reconcile → fs.native = false) :
    Effect fs ok (.activation call stage) after [.activation call target] := by
  refine .quiet same rfl ?_ ?_ ?_
  · rw [← selecting]
    cases target <;> rfl
  · intro follow member cleanup stage inside
    cases List.mem_singleton.mp member
    cases inside
  · intro follow member sets
    cases List.mem_singleton.mp member
    cases target with
    | reconcile => exact reconciles rfl
    | _ => cases sets

theorem returned (same : SameFiles fs after)
    (selecting : Task.selecting (.activation call stage) = none) :
    Effect fs ok (.activation call stage) after (Task.afterActivation call none) :=
  .of_plain same rfl selecting fun _ => Task.plain_of_mem_afterActivation

theorem last (same : SameFiles fs after) (ending : task.ending = none)
    (selecting : task.selecting = none) : Effect fs ok task after [] :=
  .of_plain same ending selecting (List.forall_mem_nil _)

theorem followed (same : SameFiles fs after) (ending : task.ending = none)
    (selecting : task.selecting = none) {follow : Task H} (plain : follow.Plain) :
    Effect fs ok task after [follow] :=
  .of_plain same ending selecting (List.forall_mem_singleton.mpr plain)

end Effect

namespace Activation

variable {fs : BackendEngineFs H} {ok : Bool}

theorem advance_effect (call : Activation H) (stage : ActivationStage) :
    Effect fs ok (.activation call stage) (call.advance fs ok stage).1
      (Task.afterActivation call (call.advance fs ok stage).2) := by
  have moved := call.advance_move fs ok stage
  generalize (call.advance fs ok stage).1 = after, (call.advance fs ok stage).2 = next at moved ⊢
  cases moved with
  | absent | fileCount | keepDownloading | multifileCount =>
    exact .moved (.refl fs) rfl ActivationStage.noConfusion
  | lookupNative engine | lookup engine | multifileLookup engine | multifileUnresumed engine =>
    exact .moved (.touch fs engine) rfl ActivationStage.noConfusion
  | nativeFile | singleFile => exact .returned (.setActiveFile fs _) rfl
  | resume => exact .moved (.setPaused fs _ _) rfl ActivationStage.noConfusion
  | unresumed =>
    unfold afterResume
    split <;> exact .moved (.refl fs) rfl ActivationStage.noConfusion
  | clearFlag =>
    unfold afterResume
    split <;> exact .moved (.setIdlePaused fs _ _) rfl ActivationStage.noConfusion
  | activeFile | multifileActive => exact .moved (.setActiveFile fs _) rfl ActivationStage.noConfusion
  | multifileAbsent | multifileSingle => exact .returned (.refl fs) rfl
  | nextGeneration | dropLeases =>
    exact .moved ⟨rfl, rfl, rfl, rfl, fun _ => rfl, fun _ => rfl⟩ rfl ActivationStage.noConfusion
  | select engine generation => exact .selected call engine generation
  | dropStreams engine => exact .dropped call engine
  | multifileResume engine =>
    exact .moved (.trans (.touch fs engine) (.setPaused (fs.touch engine) _ _)) rfl
      ActivationStage.noConfusion
  | multifileClearFlag => exact .moved (.setIdlePaused fs _ _) rfl ActivationStage.noConfusion
  | skipped reason => exact .skipped call reason
  | reconcileCount own => exact .moved (.refl fs) rfl fun _ => own
  | reconcile => exact .reconciled call

end Activation

theorem IdlePause.advance_sameFiles (task : IdlePause H) (fs : BackendEngineFs H) (ok : Bool)
    (stage : PauseStage) : SameFiles fs (task.advance fs ok stage).1 := by
  have untouched {after : BackendEngineFs H} {engine : Nat}
      (touched : after = fs ∨ after = fs.touch engine) : SameFiles fs after := by
    rcases touched with rfl | rfl
    · exact .refl after
    · exact .touch fs engine
  have moved := task.advance_move fs ok stage
  generalize (task.advance fs ok stage).1 = after, (task.advance fs ok stage).2 = next at moved ⊢
  cases moved with
  | flagged _ _ touched => exact untouched touched
  | swapFlag _ _ touched => exact (untouched touched).trans (.setIdlePaused _ _ _)
  | pause => exact .setPaused fs _ _
  | restoreFlag => exact .setIdlePaused fs _ _
  | _ => exact .refl fs

namespace PeriodicStage

variable {fs after : BackendEngineFs H} {ok : Bool} {stage next : PeriodicStage H}

theorem plain_effect (same : SameFiles fs after) (plain : (Task.periodic next).Plain) :
    Effect fs ok (.periodic stage) after [.periodic next] :=
  .followed same rfl rfl plain

theorem advance_effect (taken : stage.advance fs ok = some (after, next)) :
    Effect fs ok (.periodic stage) after [.periodic next] := by
  cases advance_move taken with
  | wakes | removing =>
    exact plain_effect ⟨rfl, rfl, rfl, rfl, fun _ => rfl, fun _ => rfl⟩ ⟨rfl, rfl, rfl, rfl⟩
  | expiring =>
    refine .quiet (.refl fs) rfl rfl ?_ ?_
    · intro follow member cleanup stage inside
      cases List.mem_singleton.mp member
      cases inside
      rfl
    · intro follow member sets
      cases List.mem_singleton.mp member
      cases sets
  | cleans _ cleanup stage =>
    refine .cleaned cleanup stage rfl ⟨rfl, rfl, List.forall_mem_singleton.mpr rfl, ?_⟩
    cases (cleanup.advance fs ok stage).2 <;> rfl
  | dropping _ hash =>
    refine plain_effect ?_ ⟨rfl, rfl, rfl, rfl⟩
    split
    · exact .updateTorrent fs hash (fun _ => rfl) fun _ => rfl
    · exact .refl fs
  | pauses _ task stage => exact plain_effect (task.advance_sameFiles fs ok stage) ⟨rfl, rfl, rfl, rfl⟩
  | expired | scanning | scannedNone | scanned | checks | condemns | spares | dropped | seeding
  | seedingPolicy | skips | pausing | paused =>
    exact plain_effect (.refl fs) ⟨rfl, rfl, rfl, rfl⟩

end PeriodicStage

namespace Task

variable {fs after : BackendEngineFs H} {ok : Bool} {task : Task H} {next : List (Task H)}

theorem refreshed_effect {key : H × Nat} {expiresAt fileIdx : Nat} {hash : H}
    {native : List (Task H)} {engine : Option Nat} (ending : task.ending = none)
    (selecting : task.selecting = none) (plain : ∀ follow ∈ native, follow.Plain)
    (refreshed : RefreshMove (fs.insertLease key expiresAt) hash fileIdx native engine after next) :
    Effect fs ok task after next := by
  have inserted := SameFiles.insertLease fs key expiresAt
  cases refreshed with
  | unknown => exact .last inserted ending selecting
  | native engine => exact .of_plain (inserted.trans (.touch _ engine)) ending selecting plain
  | activates => exact .followed inserted ending selecting ⟨rfl, rfl, rfl, rfl⟩

omit [DecidableEq H] in
theorem plain_of_mem_schedulePause {hash : H} {condition : Bool} {follow : Task H}
    (member : follow ∈ if condition then [schedulePause fs hash] else []) : follow.Plain := by
  split at member
  · cases List.mem_singleton.mp member
    exact ⟨rfl, rfl, rfl, rfl⟩
  · cases member

theorem advance_effect (taken : task.advance fs ok = some (after, next)) :
    Effect fs ok task after next := by
  cases advance_move taken with
  | streamStartNative hash | streamStart hash | nativeTouch hash | playbackLookup hash
  | cleanupLookup hash | refreshHls hash | refreshExistingHls hash | endHlsLookup hash =>
    exact .followed (.getEngine fs hash) rfl rfl ⟨rfl, rfl, rfl, rfl⟩
  | nativeStarted => exact .followed (.setActiveFile fs _) rfl rfl ⟨rfl, rfl, rfl, rfl⟩
  | nativeFile => exact .last (.setActiveFile fs _) rfl rfl
  | countTorrent | endHls =>
    exact .of_plain ⟨rfl, rfl, rfl, rfl, fun _ => rfl, fun _ => rfl⟩ rfl rfl
      (List.forall_mem_singleton.mpr ⟨rfl, rfl, rfl, rfl⟩)
  | countFile hash fileIdx => exact .counted hash fileIdx
  | activation call stage => exact call.advance_effect stage
  | playbackNative hash | ended hash | endedHls hash => exact .last (.getEngine fs hash) rfl rfl
  | endTorrent hash fileIdx =>
    refine .quiet ⟨rfl, rfl, rfl, rfl, fun _ => rfl, fun _ => rfl⟩ rfl rfl ?_ ?_
    · intro follow member cleanup stage inside
      cases List.mem_singleton.mp member
      cases inside
    · intro follow member sets
      cases List.mem_singleton.mp member
      cases sets
  | endFile hash fileIdx hashRemaining => exact .ended hash fileIdx hashRemaining _
  | endLookup hash =>
    refine .of_plain (.getEngine fs hash) rfl rfl fun follow member => ?_
    rcases List.mem_append.mp member with scheduled | cleans
    · split at scheduled
      · cases List.mem_singleton.mp scheduled
        exact ⟨rfl, rfl, rfl, rfl⟩
      · cases scheduled
    · cases List.mem_singleton.mp cleans
      exact ⟨rfl, rfl, rfl, rfl⟩
  | cleanupNative hash =>
    exact .of_plain (.getEngine fs hash) rfl rfl fun _ => plain_of_mem_schedulePause
  | cleanupGeneration =>
    refine .of_plain (.refl fs) rfl rfl fun follow member => ?_
    rcases List.mem_cons.mp member with rfl | scheduled
    · exact ⟨rfl, rfl, rfl, rfl⟩
    · exact plain_of_mem_schedulePause scheduled
  | insertLease _ _ _ _ _ _ _ refreshed =>
    exact refreshed_effect rfl rfl (List.forall_mem_singleton.mpr ⟨rfl, rfl, rfl, rfl⟩) refreshed
  | extendLease _ _ _ _ _ _ _ refreshed =>
    exact refreshed_effect rfl rfl (List.forall_mem_nil _) refreshed
  | leaseGone => exact .last ⟨rfl, rfl, rfl, rfl, fun _ => rfl, fun _ => rfl⟩ rfl rfl
  | cleanupDue =>
    refine .quiet (.refl fs) rfl rfl ?_ ?_
    · intro follow member cleanup stage inside
      cases List.mem_singleton.mp member
      cases inside
      rfl
    · intro follow member sets
      cases List.mem_singleton.mp member
      cases sets
  | cleanup cleanup stage =>
    refine .cleaned cleanup stage rfl ⟨?_, ?_, ?_, ?_⟩
    · cases (cleanup.advance fs ok stage).2 <;> rfl
    · cases (cleanup.advance fs ok stage).2 <;> rfl
    · intro follow member
      obtain ⟨stage, _, rfl⟩ := Option.map_eq_some_iff.mp (Option.mem_toList.mp member)
      rfl
    · cases (cleanup.advance fs ok stage).2 <;> rfl
  | pause task stage =>
    refine .of_plain (task.advance_sameFiles fs ok stage) rfl rfl fun follow member => ?_
    obtain ⟨stage, _, rfl⟩ := Option.map_eq_some_iff.mp (Option.mem_toList.mp member)
    exact ⟨rfl, rfl, rfl, rfl⟩
  | pauseDue | reseedLock | reseedRunning | reseedFailed =>
    exact .followed (.refl fs) rfl rfl ⟨rfl, rfl, rfl, rfl⟩
  | reseeded => exact .last (.refl fs) rfl rfl
  | reseed | reseedRestore => exact .followed (.setIdlePaused fs _ _) rfl rfl ⟨rfl, rfl, rfl, rfl⟩
  | reseedResume => exact .followed (.setPaused fs _ _) rfl rfl ⟨rfl, rfl, rfl, rfl⟩
  | engineKnown hash engine => exact .last (.touch fs engine) rfl rfl
  | insertEngine => exact .last ⟨rfl, rfl, rfl, rfl, fun _ => rfl, fun _ => rfl⟩ rfl rfl
  | periodic stage next _ moved => exact PeriodicStage.advance_effect moved

end Task

end StreamServer.EngineFs
