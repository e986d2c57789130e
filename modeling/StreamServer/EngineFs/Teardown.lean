import StreamServer.EngineFs.System

set_option autoImplicit false

namespace StreamServer.EngineFs

variable {H : Type}

namespace Task

/-- The stream whose end is under way and still counted for its file. -/
def ending : Task H → Option (H × Nat)
  | .endTorrent hash fileIdx | .endFile hash fileIdx _ => some (hash, fileIdx)
  | _ => none

/-- The file an activation has selected and not yet given its priorities. -/
def selecting : Task H → Option (H × Nat)
  | .activation call (.dropLeases _) | .activation call (.dropStreams _)
  | .activation call (.multifileActive _) | .activation call (.multifileResume _)
  | .activation call (.multifileClearFlag _) | .activation call .reconcileCount
  | .activation call .reconcile => some (call.hash, call.fileIdx)
  | _ => none

def cleanup? : Task H → Option (Cleanup H × CleanupStage)
  | .cleanup task stage => some (task, stage)
  | .periodic (.expiring _ current _) => current
  | _ => none

def counting : Task H → Option (H × Nat)
  | .countFile hash fileIdx => some (hash, fileIdx)
  | _ => none

/-- The activation that is about to select its file, and the generation it has drawn. -/
def choosing : Task H → Option (Activation H × Nat)
  | .activation call (.select _ generation) => some (call, generation)
  | _ => none

def prioritizing : Task H → Option (H × Nat)
  | .activation call .reconcile => some (call.hash, call.fileIdx)
  | _ => none

def replanning (task : Task H) : Option H :=
  match task.cleanup? with
  | some (current, .reconcile _) => some current.hash
  | _ => none

def reconciles (task : Task H) : Bool := task.prioritizing.isSome

end Task

def Cleanup.Spares (fs : BackendEngineFs H) (cleanup : Cleanup H) (fileIdx : Nat) :
    CleanupStage → Prop
  | .checkStreams => True
  | .checkLease | .takeSelection =>
      fileIdx = cleanup.fileIdx →
        fs.selectedFile cleanup.hash ≠ some fileIdx ∧ fs.isMultifile cleanup.hash = true
  | .activeFile plan | .lookup plan | .fileCount plan =>
      (fs.isMultifile cleanup.hash = false → fileIdx ≠ cleanup.fileIdx) ∧
        (plan = some fileIdx ↔ fs.selectedFile cleanup.hash = some fileIdx)
  | .reconcile plan => plan = some fileIdx ↔ fs.selectedFile cleanup.hash = some fileIdx
  | .clearFileStreaming => fileIdx ≠ cleanup.fileIdx

instance (fs : BackendEngineFs H) (cleanup : Cleanup H) (fileIdx : Nat) :
    (stage : CleanupStage) → Decidable (cleanup.Spares fs fileIdx stage)
  | .checkStreams => inferInstanceAs (Decidable True)
  | .checkLease | .takeSelection => inferInstanceAs (Decidable (_ → _ ∧ _))
  | .activeFile _ | .lookup _ | .fileCount _ => inferInstanceAs (Decidable (_ ∧ _))
  | .reconcile _ => inferInstanceAs (Decidable (_ ↔ _))
  | .clearFileStreaming => inferInstanceAs (Decidable (_ ≠ _))

def CleanupStage.setsPriorities : CleanupStage → Bool
  | .fileCount _ | .reconcile _ | .clearFileStreaming => true
  | _ => false

def BackendEngineFs.wanted (fs : BackendEngineFs H) (hash : H) : Option Nat :=
  (fs.torrents hash).wanted

variable [DecidableEq H]

def Cleanup.TearsDown (fs : BackendEngineFs H) (ok : Bool) (cleanup : Cleanup H)
    (stage : CleanupStage) (fileIdx : Nat) : Prop :=
  let after := (cleanup.advance fs ok stage).1
  (fs.selectedFile cleanup.hash = some fileIdx ∧
      after.selectedFile cleanup.hash ≠ some fileIdx) ∨
    (fs.wanted cleanup.hash = some fileIdx ∧ after.wanted cleanup.hash ≠ some fileIdx) ∨
    (stage = .clearFileStreaming ∧ cleanup.fileIdx = fileIdx)

def LeavesWatchedFiles (system : System H) : Action H → Prop
  | .advance index ok =>
      ∀ task cleanup stage, system.tasks[index]? = some task →
        task.cleanup? = some (cleanup, stage) → ∀ fileIdx,
        cleanup.TearsDown system.fs ok stage fileIdx → (cleanup.hash, fileIdx) ∉ system.fs.watched
  | _ => True

namespace Task

def endings (tasks : List (Task H)) : List (H × Nat) := tasks.filterMap ending

def selections (tasks : List (Task H)) : List (H × Nat) := tasks.filterMap selecting

def cleanups (tasks : List (Task H)) : List (Cleanup H × CleanupStage) := tasks.filterMap cleanup?

/-- The counter of the file covers its streams that are open or ending. -/
def Covered (fs : BackendEngineFs H) (tasks : List (Task H)) (key : H × Nat) : Prop :=
  fs.watched.count key + (endings tasks).count key ≤ fs.activeFileStreams.count key

-- A stream of the file is counted: no cleanup past its check turns against the file, and the file
-- has its priorities only while it is selected.
def CountsClear (fs : BackendEngineFs H) (tasks : List (Task H)) (stream : H × Nat) : Prop :=
  (∀ current ∈ cleanups tasks, current.1.hash = stream.1 →
    current.1.Spares fs stream.2 current.2) ∧
  (fs.wanted stream.1 = some stream.2 → fs.selectedFile stream.1 = some stream.2)

-- The file is selected: its counter covers its streams, no other activation of the torrent is
-- between its selection and its priorities, and no cleanup past its check turns against a watched
-- file by it.
def SelectsClear (fs : BackendEngineFs H) (tasks : List (Task H)) (call : Activation H)
    (generation : Nat) : Prop :=
  fs.isMultifile call.hash = true ∧ call.hash ∉ (selections tasks).map (·.1) ∧
  Covered fs tasks (call.hash, call.fileIdx) ∧
  ∀ current ∈ cleanups tasks, current.1.hash = call.hash → ∀ stream ∈ fs.watched,
    stream.1 = call.hash →
    current.1.Spares (fs.select call.hash (some ⟨call.fileIdx, generation⟩)) stream.2 current.2

def KeepsClear (fs : BackendEngineFs H) (tasks : List (Task H)) (ok : Bool) (task : Task H) : Prop :=
  (∀ stream ∈ task.counting, CountsClear fs tasks stream) ∧
  (∀ choice ∈ task.choosing, SelectsClear fs tasks choice.1 choice.2) ∧
  (∀ stream ∈ task.prioritizing,
    ok = true ∧ (stream ∈ fs.watched → fs.selectedFile stream.1 = some stream.2)) ∧
  ∀ hash ∈ task.replanning, hash ∉ (selections tasks).map (·.1)

instance (fs : BackendEngineFs H) (tasks : List (Task H)) (key : H × Nat) :
    Decidable (Covered fs tasks key) :=
  inferInstanceAs (Decidable (_ ≤ _))

instance (fs : BackendEngineFs H) (tasks : List (Task H)) (stream : H × Nat) :
    Decidable (CountsClear fs tasks stream) :=
  inferInstanceAs (Decidable (_ ∧ _))

instance (fs : BackendEngineFs H) (tasks : List (Task H)) (call : Activation H) (generation : Nat) :
    Decidable (SelectsClear fs tasks call generation) :=
  inferInstanceAs (Decidable (_ ∧ _))

instance (fs : BackendEngineFs H) (tasks : List (Task H)) (ok : Bool) (task : Task H) :
    Decidable (task.KeepsClear fs tasks ok) :=
  inferInstanceAs (Decidable (_ ∧ _))

end Task

-- The steps of a run that keeps clear of the cleanups. A call is not dropped between its selection
-- and its priorities, and a torrent that has left the session is added again only when its files
-- are not in use.
def KeepsClear (system : System H) : Action H → Prop
  | .advance index ok =>
      ∀ task ∈ system.tasks[index]?, task.KeepsClear system.fs system.tasks ok
  | .abandon index => ∀ task ∈ system.tasks[index]?, task.selecting = none
  | .addTorrent hash _ =>
      (system.fs.torrents hash).inSession = true ∨
        hash ∉ system.fs.watched.map (·.1) ∧ hash ∉ (Task.endings system.tasks).map (·.1) ∧
          hash ∉ (Task.selections system.tasks).map (·.1)
  | _ => True

instance (system : System H) : (action : Action H) → Decidable (KeepsClear system action)
  | .advance index ok =>
      inferInstanceAs (Decidable (∀ task ∈ system.tasks[index]?, Task.KeepsClear _ _ ok task))
  | .abandon index =>
      inferInstanceAs (Decidable (∀ task ∈ system.tasks[index]?, Task.selecting task = none))
  | .addTorrent _ _ => inferInstanceAs (Decidable (_ ∨ _))
  | .tick | .streamStart _ _ | .streamEnd _ _ | .activateMultifileFileForPlayback _ _
  | .refreshHlsPlayback _ _ | .refreshExistingHlsPlayback _ _ | .endHlsPlayback _ _
  | .resolveMetadata _ _ | .removeEngine _ | .setSeedingEnabled _ | .readerOpens _
  | .readerCloses _ | .rehash _ _ => inferInstanceAs (Decidable True)

end StreamServer.EngineFs
