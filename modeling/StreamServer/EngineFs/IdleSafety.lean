import StreamServer.EngineFs.Moves

set_option autoImplicit false

namespace StreamServer.EngineFs

open BackendEngineFs

variable {H : Type}

-- Nothing comes any more that resumes the torrent; the torrents of a native backend are not resumed
-- at all.
def ActivationStage.resumed : ActivationStage → Bool
  | .clearFlag _ multifile | .activeFile multifile => !multifile
  | .nativeFile | .keepDownloading | .multifileClearFlag _ | .reconcileCount | .reconcile => true
  | _ => false

def PauseStage.decided : PauseStage → Bool
  | .fileActive active | .playbackActive active | .multifileActive active => !active
  | .lookup | .stats _ | .swapFlag _ | .pause _ => true
  | _ => false

def RemovalStage.decided : RemovalStage → Bool
  | .fileStreamCount active | .leaseCount active | .activeFile active | .multifile active => !active
  | _ => false

namespace Task

/-- The torrent of an `on_stream_start` that has not counted its stream. -/
def starting : Task H → Option H
  | .streamStart hash _ | .nativeTouch hash _ | .nativeFile hash _ true | .countTorrent hash _ =>
      some hash
  | .activation call _ => if call.counts then some call.hash else none
  | _ => none

def found : Task H → Option H
  | .streamStart _ _ => none
  | task => task.starting

/-- As `starting`, once the torrent has been resumed for the last time. -/
def resumed : Task H → Option H
  | .nativeTouch hash _ | .nativeFile hash _ true | .countTorrent hash _ => some hash
  | .activation call stage => if call.counts && stage.resumed then some call.hash else none
  | _ => none

/-- The torrent of a stream that is counted for it and has not started yet or has ended. -/
def counted : Task H → Option H
  | .countFile hash _ | .endTorrent hash _ => some hash
  | _ => none

def pause? : Task H → Option (IdlePause H × PauseStage)
  | .pause task stage => some (task, stage)
  | .periodic (.pausing _ current _) => current
  | _ => none

/-- The torrent of an idle pause between its check and its action. -/
def pausing (task : Task H) : Option H :=
  match task.pause? with
  | some (current, stage) => if stage.decided then some current.hash else none
  | none => none

/-- The torrents whose removal is between its check and its action. -/
def removing : Task H → List H
  | .periodic (.scanning _ (some (check, stage)) _ toRemove) =>
      if stage.decided then check.hash :: toRemove else toRemove
  | .periodic (.scanning _ none _ toRemove) | .periodic (.removing _ toRemove)
  | .periodic (.dropping _ toRemove) => toRemove
  | _ => []

def pauseChecks (task : Task H) : Option H :=
  match task.pause? with
  | some (current, .hashActive) => some current.hash
  | _ => none

def removalChecks : Task H → Option H
  | .periodic (.scanning _ (some (check, .streamCount false)) _ _) => some check.hash
  | _ => none

def looksUp : Task H → Option H
  | .streamStart hash _ => some hash
  | .activation call .lookup | .activation call .multifileLookup =>
      if call.counts then some call.hash else none
  | _ => none

def resumes : Task H → Option H
  | .activation call (.resume _ false) | .activation call (.multifileResume _) =>
      if call.counts then some call.hash else none
  | _ => none

def recounts : Task H → Option H
  | .activation call (.multifileCount _) => if call.counts then some call.hash else none
  | _ => none

theorem starting_of_found {task : Task H} {hash : H} (found : task.found = some hash) :
    task.starting = some hash := by
  cases task with
  | streamStart => cases found
  | _ => exact found

end Task

namespace BackendEngineFs

def paused (fs : BackendEngineFs H) (hash : H) : Bool := (fs.torrents hash).paused

def watchedTorrents (fs : BackendEngineFs H) : List H := fs.watched.map (·.1)

def mapped (fs : BackendEngineFs H) : List H := fs.engines.map (·.1)

end BackendEngineFs

def Quiescent (system : System H) : Prop :=
  ∀ task ∈ system.tasks, task.pausing = none ∧ task.removing = []

instance [DecidableEq H] (system : System H) : Decidable (Quiescent system) :=
  inferInstanceAs (Decidable (∀ task ∈ system.tasks, _))

-- When the idle tasks are at rest, the torrents that are being watched run and have their engines.
def WatchedRunning (system : System H) : Prop :=
  Quiescent system → ∀ hash ∈ system.fs.watchedTorrents,
    system.fs.paused hash = false ∧ system.fs.removed hash = false

section Watched

variable [DecidableEq H]

def Task.KeepsApart (fs : BackendEngineFs H) (tasks : List (Task H)) (ok : Bool) (task : Task H) :
    Prop :=
  (∀ hash ∈ task.pauseChecks, hash ∉ fs.activeStreams →
    fs.native = false ∧ hash ∉ tasks.filterMap Task.resumed) ∧
  (∀ hash ∈ task.removalChecks, hash ∉ fs.activeStreams → hash ∉ tasks.filterMap Task.starting) ∧
  (∀ hash ∈ task.looksUp, hash ∈ fs.mapped) ∧
  (∀ hash ∈ task.resumes, ok = true ∧ hash ∉ tasks.filterMap Task.pausing) ∧
  ∀ hash ∈ task.recounts, fs.isMultifile hash = true

def KeepsApart (system : System H) : Action H → Prop
  | .advance index ok =>
      ∀ task ∈ system.tasks[index]?, task.KeepsApart system.fs system.tasks ok
  | .streamStart hash _ => hash ∉ system.tasks.flatMap Task.removing
  | _ => True

instance (fs : BackendEngineFs H) (tasks : List (Task H)) (ok : Bool) (task : Task H) :
    Decidable (task.KeepsApart fs tasks ok) :=
  inferInstanceAs (Decidable (_ ∧ _))

instance (system : System H) : (action : Action H) → Decidable (KeepsApart system action)
  | .advance index ok =>
      inferInstanceAs (Decidable (∀ task ∈ system.tasks[index]?, Task.KeepsApart _ _ ok task))
  | .streamStart _ _ => inferInstanceAs (Decidable (_ ∉ _))
  | .tick | .abandon _ | .addTorrent _ _ | .streamEnd _ _ | .activateMultifileFileForPlayback _ _
  | .refreshHlsPlayback _ _ | .refreshExistingHlsPlayback _ _ | .endHlsPlayback _ _
  | .resolveMetadata _ _ | .removeEngine _ | .setSeedingEnabled _ | .readerOpens _
  | .readerCloses _ | .rehash _ _ => inferInstanceAs (Decidable True)

end Watched

structure SameActivity (before after : BackendEngineFs H) : Prop where
  native : after.native = before.native
  watched : after.watched = before.watched
  streams : after.activeStreams = before.activeStreams
  removed : after.removed = before.removed
  mapped : ∀ hash ∈ after.mapped, hash ∈ before.mapped
  paused : ∀ hash, after.paused hash = true → before.paused hash = true

namespace SameActivity

variable {before after : BackendEngineFs H}

theorem refl (fs : BackendEngineFs H) : SameActivity fs fs :=
  ⟨rfl, rfl, rfl, rfl, fun _ member => member, fun _ paused => paused⟩

theorem trans {middle : BackendEngineFs H} (earlier : SameActivity before middle)
    (later : SameActivity middle after) : SameActivity before after where
  native := later.native.trans earlier.native
  watched := later.watched.trans earlier.watched
  streams := later.streams.trans earlier.streams
  removed := later.removed.trans earlier.removed
  mapped := fun hash member => earlier.mapped hash (later.mapped hash member)
  paused := fun hash paused => earlier.paused hash (later.paused hash paused)

theorem touch (fs : BackendEngineFs H) (engine : Nat) : SameActivity fs (fs.touch engine) :=
  ⟨rfl, rfl, rfl, rfl, fun _ member => member, fun _ paused => paused⟩

theorem setIdlePaused (fs : BackendEngineFs H) (engine : Nat) (paused : Bool) :
    SameActivity fs (fs.setIdlePaused engine paused) :=
  ⟨rfl, rfl, rfl, rfl, fun _ member => member, fun _ paused => paused⟩

theorem setActiveFile (fs : BackendEngineFs H) (activeFile : Option (H × Nat)) :
    SameActivity fs (fs.setActiveFile activeFile) :=
  ⟨rfl, rfl, rfl, rfl, fun _ member => member, fun _ paused => paused⟩

variable [DecidableEq H]

theorem updateTorrent (fs : BackendEngineFs H) (hash : H) {f : Torrent → Torrent}
    (paused : ∀ torrent, (f torrent).paused = true → torrent.paused = true) :
    SameActivity fs (fs.updateTorrent hash f) := by
  refine ⟨rfl, rfl, rfl, rfl, fun _ member => member, fun other stopped => ?_⟩
  by_cases same : other = hash
  · subst same
    simp only [BackendEngineFs.paused, BackendEngineFs.updateTorrent, Function.update_self] at stopped
    exact paused _ stopped
  · simpa [BackendEngineFs.paused, BackendEngineFs.updateTorrent, same] using stopped

theorem resume (fs : BackendEngineFs H) (hash : H) : SameActivity fs (fs.setPaused hash false) :=
  .updateTorrent fs hash fun _ => Bool.noConfusion

theorem insertLease (fs : BackendEngineFs H) (key : H × Nat) (expiresAt : Nat) :
    SameActivity fs (fs.insertLease key expiresAt) :=
  ⟨rfl, rfl, rfl, rfl, fun _ member => member, fun _ paused => paused⟩

theorem getEngine (fs : BackendEngineFs H) (hash : H) : SameActivity fs (fs.getEngine hash).1 := by
  unfold BackendEngineFs.getEngine
  split
  · exact .touch fs _
  · exact .refl fs

end SameActivity

structure Task.Bystander (task : Task H) : Prop where
  starting : task.starting = none
  resumed : task.resumed = none
  counted : task.counted = none
  pausing : task.pausing = none
  removing : task.removing = []

theorem Task.found_eq_none {task : Task H} (starting : task.starting = none) : task.found = none := by
  cases task with
  | streamStart => rfl
  | _ => exact starting

variable [DecidableEq H]

-- What one section of a task does to the activity of the torrents, and which parts in it are taken
-- up.
structure IdleStep (fs after : BackendEngineFs H) (tasks : List (Task H)) (task : Task H)
    (next : List (Task H)) : Prop where
  native : after.native = fs.native
  owed : ∀ hash,
    after.watchedTorrents.count hash + (next.filterMap Task.counted).count hash +
        fs.activeStreams.count hash ≤
      fs.watchedTorrents.count hash + task.counted.toList.count hash +
        after.activeStreams.count hash
  watched : ∀ hash ∈ after.watchedTorrents,
    hash ∈ fs.watchedTorrents ∨ task.counted = some hash
  counted : ∀ follow ∈ next, ∀ hash, follow.counted = some hash →
    task.resumed = some hash ∧ task.found = some hash
  resumed : ∀ follow ∈ next, ∀ hash, follow.resumed = some hash →
    task.resumed = some hash ∨ fs.native = true ∨
      after.paused hash = false ∧ hash ∉ tasks.filterMap Task.pausing ∧
        ∀ other ∈ next, other.pausing = none
  paused : ∀ hash, after.paused hash = true → fs.paused hash = true ∨ task.pausing = some hash
  pausing : ∀ follow ∈ next, ∀ hash, follow.pausing = some hash →
    task.pausing = some hash ∨
      hash ∉ fs.activeStreams ∧ fs.native = false ∧ hash ∉ tasks.filterMap Task.resumed
  starting : ∀ follow ∈ next, ∀ hash, follow.starting = some hash → task.starting = some hash
  found : ∀ follow ∈ next, ∀ hash, follow.found = some hash →
    task.found = some hash ∨ task.starting = some hash ∧ hash ∈ fs.mapped
  removed : ∀ hash, after.removed hash = true → fs.removed hash = true ∨ hash ∈ task.removing
  removing : ∀ follow ∈ next, ∀ hash ∈ follow.removing,
    hash ∈ task.removing ∨ hash ∉ fs.activeStreams ∧ hash ∉ tasks.filterMap Task.starting
  mapped : ∀ hash ∈ after.mapped,
    after.removed hash = false ∨ hash ∈ fs.mapped ∧ after.removed hash = fs.removed hash

namespace IdleStep

variable {fs after : BackendEngineFs H} {tasks next : List (Task H)} {task : Task H}

theorem owed_of_sameActivity (same : SameActivity fs after)
    (uncounted : ∀ follow ∈ next, follow.counted = none) (hash : H) :
    after.watchedTorrents.count hash + (next.filterMap Task.counted).count hash +
        fs.activeStreams.count hash ≤
      fs.watchedTorrents.count hash + task.counted.toList.count hash +
        after.activeStreams.count hash := by
  rw [List.filterMap_eq_nil_iff.mpr uncounted, watchedTorrents, same.watched, same.streams,
    List.count_nil, watchedTorrents]
  omega

omit [DecidableEq H] in
theorem mapped_of_sameActivity (same : SameActivity fs after) (hash : H)
    (member : hash ∈ after.mapped) :
    after.removed hash = false ∨ hash ∈ fs.mapped ∧ after.removed hash = fs.removed hash :=
  .inr ⟨same.mapped hash member, by rw [same.removed]⟩

theorem of_bystanders (same : SameActivity fs after) (bystanders : ∀ follow ∈ next, follow.Bystander) :
    IdleStep fs after tasks task next where
  native := same.native
  owed := owed_of_sameActivity same fun follow member => (bystanders follow member).counted
  watched := fun hash member => .inl (by rwa [watchedTorrents, same.watched] at member)
  counted := fun follow member hash counted => by
    rw [(bystanders follow member).counted] at counted
    cases counted
  resumed := fun follow member hash resumed => by
    rw [(bystanders follow member).resumed] at resumed
    cases resumed
  paused := fun hash paused => .inl (same.paused hash paused)
  pausing := fun follow member hash pausing => by
    rw [(bystanders follow member).pausing] at pausing
    cases pausing
  starting := fun follow member hash starting => by
    rw [(bystanders follow member).starting] at starting
    cases starting
  found := fun follow member hash found => by
    rw [Task.found_eq_none (bystanders follow member).starting] at found
    cases found
  removed := fun hash removed => .inl (by rwa [same.removed] at removed)
  removing := fun follow member hash removing => by
    rw [(bystanders follow member).removing] at removing
    cases removing
  mapped := mapped_of_sameActivity same

theorem last (same : SameActivity fs after) : IdleStep fs after tasks task [] :=
  .of_bystanders same (List.forall_mem_nil _)

theorem followed (same : SameActivity fs after) {follow : Task H} (bystander : follow.Bystander) :
    IdleStep fs after tasks task [follow] :=
  .of_bystanders same (List.forall_mem_singleton.mpr bystander)

theorem of_start {follow : Task H} (same : SameActivity fs after) (counted : follow.counted = none)
    (pausing : follow.pausing = none) (removing : follow.removing = [])
    (starting : ∀ hash, follow.starting = some hash → task.starting = some hash)
    (found : ∀ hash, follow.found = some hash →
      task.found = some hash ∨ task.starting = some hash ∧ hash ∈ fs.mapped)
    (resumed : ∀ hash, follow.resumed = some hash → task.resumed = some hash ∨ fs.native = true ∨
      after.paused hash = false ∧ hash ∉ tasks.filterMap Task.pausing) :
    IdleStep fs after tasks task [follow] where
  native := same.native
  owed := owed_of_sameActivity same (List.forall_mem_singleton.mpr counted)
  watched := fun hash member => .inl (by rwa [watchedTorrents, same.watched] at member)
  counted := List.forall_mem_singleton.mpr fun hash counts => by
    rw [counted] at counts
    cases counts
  resumed := List.forall_mem_singleton.mpr fun hash resumes =>
    (resumed hash resumes).imp_right fun reason => reason.imp_right fun gained =>
      ⟨gained.1, gained.2, List.forall_mem_singleton.mpr pausing⟩
  paused := fun hash paused => .inl (same.paused hash paused)
  pausing := List.forall_mem_singleton.mpr fun hash pauses => by
    rw [pausing] at pauses
    cases pauses
  starting := List.forall_mem_singleton.mpr starting
  found := List.forall_mem_singleton.mpr found
  removed := fun hash removed => .inl (by rwa [same.removed] at removed)
  removing := List.forall_mem_singleton.mpr fun hash removes => by
    rw [removing] at removes
    cases removes
  mapped := mapped_of_sameActivity same

end IdleStep

namespace Activation

variable {fs after : BackendEngineFs H} {tasks : List (Task H)} {call : Activation H}
  {stage : ActivationStage} {ok : Bool}

theorem moves {target : ActivationStage} (same : SameActivity fs after)
    (resumed : call.counts = true → target.resumed = true → stage.resumed = true ∨
      fs.native = true ∨
      after.paused call.hash = false ∧ call.hash ∉ tasks.filterMap Task.pausing) :
    IdleStep fs after tasks (.activation call stage) [.activation call target] := by
  refine .of_start same rfl rfl rfl (fun hash starts => starts) (fun hash found => .inl found) ?_
  intro hash resumes
  simp only [Task.resumed, Option.ite_none_right_eq_some, Bool.and_eq_true, Option.some.injEq]
    at resumes ⊢
  obtain ⟨⟨counts, reached⟩, rfl⟩ := resumes
  exact (resumed counts reached).imp_left fun earlier => ⟨⟨counts, earlier⟩, rfl⟩

theorem returns (same : SameActivity fs after)
    (resumed : call.counts = true → stage.resumed = true) :
    IdleStep fs after tasks (.activation call stage) (Task.afterActivation call none) := by
  simp only [Task.afterActivation]
  split
  next counts =>
    have starts : Task.starting (.activation call stage) = some call.hash := by
      simp [Task.starting, counts]
    refine .of_start same rfl rfl rfl (fun hash starting => ?_) (fun hash found => .inl ?_)
      fun hash resumes => .inl ?_
    · cases starting
      exact starts
    · cases found
      exact starts
    · cases resumes
      simp [Task.resumed, counts, resumed counts]
  next => exact .of_bystanders same (List.forall_mem_nil _)

theorem lookup_ne_none {hash : H} (present : hash ∈ fs.mapped) : fs.lookup hash ≠ none := by
  intro missing
  obtain ⟨entry, member, rfl⟩ := List.mem_map.mp present
  have different := List.lookup_eq_none_iff.mp missing entry member
  simp at different

theorem advance_idle (stage : ActivationStage)
    (apart : (Task.activation call stage).KeepsApart fs tasks ok) :
    IdleStep fs (call.advance fs ok stage).1 tasks (.activation call stage)
      (Task.afterActivation call (call.advance fs ok stage).2) := by
  obtain ⟨-, -, mapped, resuming, recounting⟩ := apart
  have moved := call.advance_move fs ok stage
  generalize (call.advance fs ok stage).1 = after, (call.advance fs ok stage).2 = next at moved
  cases moved with
  | absent missing =>
    refine moves (.refl fs) fun counts _ => ?_
    exact absurd missing (lookup_ne_none (mapped call.hash (by simp [Task.looksUp, counts])))
  | lookupNative engine native => exact moves (.touch fs engine) fun _ _ => .inr (.inl native)
  | lookup engine | multifileLookup engine => exact moves (.touch fs engine) fun _ => Bool.noConfusion
  | nativeFile | singleFile => exact returns (.setActiveFile fs _) fun _ => rfl
  | fileCount | multifileCount => exact moves (.refl fs) fun _ => Bool.noConfusion
  | resume engine multifile =>
    refine moves (.resume fs _) fun counts single => .inr (.inr ⟨?_, ?_⟩)
    · simp [BackendEngineFs.paused, setPaused, updateTorrent]
    · cases multifile with
      | true => cases single
      | false => exact (resuming call.hash (by simp [Task.resumes, counts])).2
  | unresumed engine multifile fails =>
    refine moves (.refl fs) fun counts resumed => ?_
    cases multifile with
    | true =>
      rw [afterResume, Bool.not_true, Bool.and_false] at resumed
      cases resumed
    | false =>
      exact absurd (resuming call.hash (by simp [Task.resumes, counts])).1 (Bool.eq_false_iff.mp fails)
  | clearFlag engine multifile =>
    refine moves (.setIdlePaused fs _ _) fun _ resumed => .inl ?_
    unfold afterResume at resumed
    split at resumed
    next single => exact (Bool.and_eq_true_iff.mp single).2
    next => exact resumed
  | keepDownloading | reconcileCount => exact moves (.refl fs) fun _ _ => .inl rfl
  | activeFile | multifileActive => exact moves (.setActiveFile fs _) fun _ => Bool.noConfusion
  | multifileAbsent missing =>
    refine returns (.refl fs) fun counts => ?_
    exact absurd missing (lookup_ne_none (mapped call.hash (by simp [Task.looksUp, counts])))
  | multifileSingle engine single =>
    refine returns (.refl fs) fun counts => ?_
    have multifile := recounting call.hash (by simp [Task.recounts, counts])
    exact absurd multifile (Bool.eq_false_iff.mp single)
  | nextGeneration | select | dropLeases | dropStreams =>
    exact moves ⟨rfl, rfl, rfl, rfl, fun _ member => member, fun _ paused => paused⟩ fun _ => Bool.noConfusion
  | multifileResume engine =>
    refine moves (.trans (.touch fs engine) (.resume _ _)) fun counts _ => .inr (.inr ⟨?_, ?_⟩)
    · simp [BackendEngineFs.paused, setPaused, updateTorrent]
    · exact (resuming call.hash (by simp [Task.resumes, counts])).2
  | multifileUnresumed engine fails =>
    refine moves (.touch fs engine) fun counts _ => ?_
    exact absurd (resuming call.hash (by simp [Task.resumes, counts])).1 (Bool.eq_false_iff.mp fails)
  | multifileClearFlag => exact moves (.setIdlePaused fs _ _) fun _ _ => .inl rfl
  | skipped => exact returns (.refl fs) fun _ => rfl
  | reconcile =>
    refine returns ?_ fun _ => rfl
    split
    · exact .updateTorrent fs _ fun _ paused => paused
    · exact .refl fs

end Activation

end StreamServer.EngineFs
