import StreamServer.EngineFs.TeardownSafety

set_option autoImplicit false

namespace StreamServer.EngineFs

open BackendEngineFs Runs

variable {H : Type}

namespace Task

theorem ending_eq_none {task : Task H} {current : Cleanup H × CleanupStage}
    (inside : task.cleanup? = some current) : task.ending = none ∧ task.selecting = none := by
  cases task with
  | cleanup | periodic => exact ⟨rfl, rfl⟩
  | _ => cases inside

variable [DecidableEq H]

variable {fs : BackendEngineFs H} {tasks reordered : List (Task H)} {task : Task H} {ok : Bool}

theorem KeepsClear.absent {cleanup : Cleanup H} {plan : Option Nat}
    (clear : task.KeepsClear fs tasks ok)
    (inside : task.cleanup? = some (cleanup, .reconcile plan)) :
    cleanup.hash ∉ (selections tasks).map (·.1) :=
  clear.2.2.2 cleanup.hash (by rw [replanning, inside]; rfl)

theorem KeepsClear.perm (clear : task.KeepsClear fs tasks ok) (order : tasks.Perm reordered) :
    task.KeepsClear fs reordered ok := by
  have endings : (endings tasks).Perm (endings reordered) := order.filterMap _
  have selections : ((selections tasks).map (·.1)).Perm ((selections reordered).map (·.1)) :=
    (order.filterMap _).map _
  have cleanups : (cleanups tasks).Perm (cleanups reordered) := order.filterMap _
  obtain ⟨counts, selects, prioritizes, replans⟩ := clear
  refine ⟨fun stream member => ?_, fun choice member => ?_, prioritizes, fun hash member => ?_⟩
  · obtain ⟨spared, selected⟩ := counts stream member
    exact ⟨fun current inside => spared current (cleanups.mem_iff.mpr inside), selected⟩
  · obtain ⟨multifile, alone, covered, spared⟩ := selects choice member
    refine ⟨multifile, fun inside => alone (selections.mem_iff.mpr inside), ?_,
      fun current inside => spared current (cleanups.mem_iff.mpr inside)⟩
    simpa only [Covered, endings.count_eq] using covered
  · exact fun inside => replans hash member (selections.mem_iff.mpr inside)

end Task

variable [DecidableEq H]

inductive CleanupStep (fs : BackendEngineFs H) (cleanup : Cleanup H) :
    CleanupStage → BackendEngineFs H → Option CleanupStage → Prop where
  | stops {stage after} (same : SameFiles fs after) : CleanupStep fs cleanup stage after none
  | checks {target} (absent : (cleanup.hash, cleanup.fileIdx) ∉ fs.activeFileStreams)
      (reached : target = .checkLease ∨ target = .takeSelection) :
      CleanupStep fs cleanup .checkStreams fs (some target)
  | moves {stage target after} (same : SameFiles fs after)
      (spares : ∀ fileIdx, cleanup.Spares fs fileIdx stage → cleanup.Spares fs fileIdx target)
      (sets : target.setsPriorities = true → stage.setsPriorities = true ∨ fs.native = false) :
      CleanupStep fs cleanup stage after (some target)
  | removes (selected : fs.selectedFile cleanup.hash = some cleanup.fileIdx) :
      CleanupStep fs cleanup .takeSelection (fs.select cleanup.hash none) (some (.activeFile none))
  | applies (plan) :
      CleanupStep fs cleanup (.reconcile plan) (fs.reconcileFilePriorities cleanup.hash plan) none

theorem Cleanup.advance_step (cleanup : Cleanup H) (fs : BackendEngineFs H) (ok : Bool)
    (stage : CleanupStage) :
    CleanupStep fs cleanup stage (cleanup.advance fs ok stage).1
      (cleanup.advance fs ok stage).2 := by
  have moved := cleanup.advance_move fs ok stage
  generalize (cleanup.advance fs ok stage).1 = after, (cleanup.advance fs ok stage).2 = next at moved ⊢
  cases moved with
  | streaming | leased | reselected | unmanaged | unreconciled | clearFileStreaming =>
    exact .stops (.refl fs)
  | checkStreams _ absent reached => exact .checks absent reached
  | checkLease => exact .moves (.refl fs) (fun _ spared => spared) Bool.noConfusion
  | takeSelection selected => exact .removes selected
  | elsewhere =>
    refine .moves (.refl fs) (fun fileIdx spared => ⟨fun single own => ?_, .rfl⟩) Bool.noConfusion
    rw [(spared own).2] at single
    cases single
  | activeFile =>
    refine .moves ?_ (fun _ spared => spared) Bool.noConfusion
    split
    · exact .setActiveFile fs _
    · exact .refl fs
  | lookup plan own => exact .moves (.refl fs) (fun _ spared => spared) fun _ => .inr own
  | fileCount => exact .moves (.refl fs) (fun _ spared => spared.2) fun _ => .inl rfl
  | single plan single => exact .moves (.refl fs) (fun _ spared => spared.1 single) fun _ => .inl rfl
  | reconcile plan => exact .applies plan

namespace FilesSafe

variable {fs after : BackendEngineFs H} {tasks rest next : List (Task H)} {task : Task H} {ok : Bool}

theorem unselected {hash : H} {fileIdx : Nat} (safe : FilesSafe fs tasks)
    (selected : fs.selectedFile hash = some fileIdx) (unwatched : (hash, fileIdx) ∉ fs.watched) :
    FilesSafe (fs.select hash none) tasks := by
  have cleared : (fs.select hash none).selectedFile hash = none := by simp [select, selectedFile]
  have elsewhere (other : H) (different : other ≠ hash) :
      (fs.select hash none).selectedFile other = fs.selectedFile other := by
    simp [select, selectedFile, different]
  have kept (other : H) (otherIdx : Nat) (watched : (other, otherIdx) ∈ fs.watched) :
      (fs.select hash none).selectedFile other = some otherIdx ↔
        fs.selectedFile other = some otherIdx := by
    by_cases same : other = hash
    · subst same
      rw [cleared, selected]
      constructor
      · intro equal
        cases equal
      · intro equal
        cases equal
        exact absurd watched unwatched
    · rw [elsewhere other same]
  constructor
  · intro other otherIdx condition
    refine safe.covered other otherIdx (condition.imp_left fun selects => ?_)
    by_cases same : other = hash
    · rw [same, cleared] at selects
      cases selects
    · rwa [elsewhere other same] at selects
  · intro other otherIdx member
    obtain ⟨multifile, only⟩ := safe.flights other otherIdx member
    refine ⟨multifile, fun chosen selects => only chosen ?_⟩
    by_cases same : other = hash
    · rw [same, cleared] at selects
      cases selects
    · rwa [elsewhere other same] at selects
  · intro cleanup stage member otherIdx watched
    exact (safe.spared cleanup stage member otherIdx watched).congr (kept _ _ watched) rfl
  · intro other otherIdx absent wanted watched
    exact (kept other otherIdx watched).mpr (safe.prioritized other otherIdx absent wanted watched)
  · exact safe.unplanned
  · exact safe.cleanups
  · exact safe.reconciles

theorem planned {hash : H} {plan : Option Nat} (safe : FilesSafe fs tasks)
    (own : fs.native = false)
    (agrees : ∀ fileIdx, plan = some fileIdx → (hash, fileIdx) ∈ fs.watched →
      fs.selectedFile hash = some fileIdx) :
    FilesSafe (fs.reconcileFilePriorities hash plan) tasks := by
  have fileCount (other : H) : (fs.reconcileFilePriorities hash plan).isMultifile other =
      fs.isMultifile other := by
    by_cases same : other = hash <;>
      simp [reconcileFilePriorities, updateTorrent, isMultifile, same]
  constructor
  · intro other otherIdx condition
    rw [fileCount] at condition
    exact safe.covered other otherIdx condition
  · intro other otherIdx member
    rw [fileCount]
    exact safe.flights other otherIdx member
  · intro cleanup stage member otherIdx watched
    exact (safe.spared cleanup stage member otherIdx watched).congr .rfl (fileCount _)
  · intro other otherIdx absent wanted watched
    by_cases same : other = hash
    · subst same
      refine agrees otherIdx ?_ watched
      simpa [BackendEngineFs.wanted, reconcileFilePriorities, updateTorrent] using wanted
    · refine safe.prioritized other otherIdx absent ?_ watched
      simpa [BackendEngineFs.wanted, reconcileFilePriorities, updateTorrent, same] using wanted
  · intro native
    exact absurd (own.symm.trans native) Bool.noConfusion
  · exact safe.cleanups
  · exact safe.reconciles

theorem passed {cleanup : Cleanup H} {stage : CleanupStage} {target : Option CleanupStage}
    (safe : FilesSafe fs (task :: rest)) (inside : task.cleanup? = some (cleanup, stage))
    (same : SameFiles fs after) (continues : cleanup.Continues target next)
    (spares : ∀ reached, target = some reached →
      (∀ fileIdx, (cleanup.hash, fileIdx) ∈ fs.watched → cleanup.Spares fs fileIdx reached) ∧
        (fs.native = true → reached.setsPriorities = false)) :
    FilesSafe after (rest ++ next) := by
  obtain ⟨ending, selecting⟩ := Task.ending_eq_none inside
  refine safe.retask same (fun key => ?_) (fun key => ?_) (fun other reached member => ?_) ?_
  · simp [ending, continues.endings]
  · simp [selecting, continues.selections]
  · rw [Task.cleanups_append, continues.cleanups] at member
    rcases List.mem_append.mp member with earlier | new
    · left
      rw [Task.cleanups_cons]
      exact List.mem_append_right _ earlier
    · right
      obtain ⟨stage, found, equal⟩ := Option.map_eq_some_iff.mp (Option.mem_toList.mp new)
      cases equal
      exact spares _ found
  · intro _ follow member
    rcases List.mem_append.mp member with earlier | new
    · exact .inl (List.mem_cons_of_mem _ earlier)
    · exact .inr (continues.reconciles follow new)

theorem unwatched_of_removes {cleanup : Cleanup H} (safe : FilesSafe fs (task :: rest))
    (inside : task.cleanup? = some (cleanup, .takeSelection))
    (selected : fs.selectedFile cleanup.hash = some cleanup.fileIdx) :
    (cleanup.hash, cleanup.fileIdx) ∉ fs.watched := by
  intro watched
  have spared := safe.spared cleanup .takeSelection (by simp [inside]) cleanup.fileIdx watched
  exact (spared rfl).1 selected

theorem cleaned {cleanup : Cleanup H} {stage : CleanupStage} (safe : FilesSafe fs (task :: rest))
    (inside : task.cleanup? = some (cleanup, stage))
    (continues : cleanup.Continues (cleanup.advance fs ok stage).2 next) :
    FilesSafe (cleanup.advance fs ok stage).1 (rest ++ next) := by
  have present : (cleanup, stage) ∈ Task.cleanups (task :: rest) := by simp [inside]
  have stepped := cleanup.advance_step fs ok stage
  generalize (cleanup.advance fs ok stage).1 = after, (cleanup.advance fs ok stage).2 = target at *
  cases stepped with
  | stops same => exact safe.passed inside same continues (by rintro _ ⟨⟩)
  | checks absent reached =>
    refine safe.passed inside (.refl fs) continues fun target equal => ?_
    cases equal
    have spared (fileIdx : Nat) (watched : (cleanup.hash, fileIdx) ∈ fs.watched)
        (own : fileIdx = cleanup.fileIdx) :
        fs.selectedFile cleanup.hash ≠ some fileIdx ∧ fs.isMultifile cleanup.hash = true := by
      subst own
      have uncounted := List.count_eq_zero.mpr absent
      have counted := List.count_pos_iff.mpr watched
      by_contra endangered
      have covered := safe.covered cleanup.hash cleanup.fileIdx (by
        by_cases selected : fs.selectedFile cleanup.hash = some cleanup.fileIdx
        · exact .inl selected
        · exact .inr (Bool.eq_false_iff.mpr fun multifile => endangered ⟨selected, multifile⟩))
      rw [Task.Covered, uncounted] at covered
      omega
    rcases reached with rfl | rfl
    · exact ⟨spared, fun _ => rfl⟩
    · exact ⟨spared, fun _ => rfl⟩
  | moves same spares sets =>
    refine safe.passed inside same continues fun target equal => ?_
    cases equal
    refine ⟨fun fileIdx watched => spares fileIdx ?_, fun native => ?_⟩
    · exact safe.spared cleanup stage present fileIdx watched
    · by_contra setting
      rcases sets ((Bool.not_eq_false _).mp setting) with before | own
      · exact absurd ((safe.cleanups native cleanup stage present).symm.trans before) Bool.noConfusion
      · exact absurd (own.symm.trans native) Bool.noConfusion
  | removes selected =>
    have unwatched := safe.unwatched_of_removes inside selected
    have cleared := safe.unselected selected unwatched
    refine cleared.passed inside (.refl _) continues fun target equal => ?_
    cases equal
    refine ⟨fun fileIdx watched => ⟨fun single own => ?_, ?_⟩, fun _ => rfl⟩
    · subst own
      exact unwatched watched
    · simp [select, selectedFile]
  | applies plan =>
    have own : fs.native = false := by
      by_contra native
      exact Bool.noConfusion (safe.cleanups ((Bool.not_eq_false _).mp native) cleanup _ present)
    have applied : FilesSafe (fs.reconcileFilePriorities cleanup.hash plan) (task :: rest) :=
      safe.planned own fun fileIdx equal watched =>
        (safe.spared cleanup _ present fileIdx watched).mp equal
    exact applied.passed inside (.refl _) continues (by rintro _ ⟨⟩)

theorem unwatched_of_tearsDown {cleanup : Cleanup H} {stage : CleanupStage} {fileIdx : Nat}
    (safe : FilesSafe fs (task :: rest)) (inside : task.cleanup? = some (cleanup, stage))
    (clear : task.KeepsClear fs (task :: rest) ok)
    (tears : cleanup.TearsDown fs ok stage fileIdx) : (cleanup.hash, fileIdx) ∉ fs.watched := by
  have present : (cleanup, stage) ∈ Task.cleanups (task :: rest) := by simp [inside]
  have stepped := cleanup.advance_step fs ok stage
  simp only [Cleanup.TearsDown] at tears
  generalize (cleanup.advance fs ok stage).1 = after, (cleanup.advance fs ok stage).2 = target at *
  intro watched
  rcases tears with ⟨selected, unselected⟩ | ⟨wanted, unwanted⟩ | ⟨rfl, rfl⟩
  · cases stepped with
    | stops same | moves same => exact unselected ((same.selectedFile _).trans selected)
    | checks | applies => exact unselected selected
    | removes own =>
      cases own.symm.trans selected
      exact safe.unwatched_of_removes inside own watched
  · cases stepped with
    | stops same | moves same => exact unwanted ((same.wanted _).trans wanted)
    | checks | removes => exact unwanted wanted
    | applies plan =>
      have selected := safe.prioritized _ fileIdx (clear.absent inside) wanted watched
      have planned := (safe.spared cleanup _ present fileIdx watched).mpr selected
      simp [planned, BackendEngineFs.wanted, reconcileFilePriorities, updateTorrent] at unwanted
  · exact safe.spared cleanup _ present _ watched rfl

theorem advance (safe : FilesSafe fs (task :: rest)) (clear : task.KeepsClear fs (task :: rest) ok)
    (taken : task.advance fs ok = some (after, next)) : FilesSafe after (rest ++ next) := by
  cases Task.advance_effect taken with
  | quiet same endings selections cleanups reconciles =>
    exact safe.quiet same endings selections cleanups reconciles
  | counted hash fileIdx =>
    rw [List.append_nil]
    exact safe.counted (clear.1 (hash, fileIdx) rfl)
  | ended => exact safe.ended
  | selected call engine generation => exact safe.selected (clear.2.1 (call, generation) rfl)
  | dropped => exact safe.dropped
  | skipped call reason => exact safe.skipped reason
  | reconciled call =>
    obtain ⟨succeeds, selected⟩ := clear.2.2.1 (call.hash, call.fileIdx) rfl
    exact safe.reconciled succeeds selected
  | cleaned cleanup stage inside continues => exact safe.cleaned inside continues

end FilesSafe

end StreamServer.EngineFs
