import StreamServer.Playback.Actions
import StreamServer.Shared.Runs

set_option autoImplicit false

namespace StreamServer.Playback

open TorrentPlaybackState Store Runs

variable {H : Type}

def PhaseWritesCurrent (coordinator : Coordinator H) : Prop :=
  ∀ entry state, coordinator.store.state? entry = some state →
    ∀ write ∈ state.phaseWrites, write.captured = write.current

def NoWriteBack (tasks : List (Task H)) (entry : Nat) : Prop :=
  ∀ task ∈ tasks, ∀ target ∈ task.writingBack, target.1 ≠ entry

-- A generation starts only at an entry to which no `end_hls` is about to write `PausedIdle` back,
-- and an `end_hls` that found the entry already paused still sees its own generation when it finds
-- seeding disabled.
def WriteBackUndisturbed [DecidableEq H] (coordinator : Coordinator H) : Action H → Prop
  | .task index _ => ∀ task, coordinator.tasks[index]? = some task →
      (∀ entry, task.begins coordinator.store = some entry → NoWriteBack coordinator.tasks entry) ∧
      ∀ infoHash entry generation, task = .endCheckSeeding infoHash entry generation true →
        coordinator.store.seedingEnabled = false →
          (coordinator.store.state? entry).map (·.generation) = some generation
  | .worker _ _ => ∀ entry, coordinator.worker.begins coordinator.store = some entry →
      NoWriteBack coordinator.tasks entry
  | _ => True

def WriteBacksCurrent (coordinator : Coordinator H) : Prop :=
  ∀ task ∈ coordinator.tasks, ∀ target ∈ task.writingBack,
    (coordinator.store.state? target.1).map (·.generation) = some target.2

section States

-- Entries come from the entries before, or are new. At all but the entry of `begun` the generation
-- stays, and every phase written on the way is written in the current generation.
structure StatesFrom (begun : Option Nat) (before after : Store H) : Prop where
  length : before.cells.length ≤ after.cells.length
  states : ∀ entry state, after.state? entry = some state →
    (∃ previous, before.state? entry = some previous ∧ WritesCurrent previous state ∧
      (begun ≠ some entry → state.generation = previous.generation)) ∨
    before.state? entry = none ∧ state.phaseWrites = []

variable {begun : Option Nat} {before after : Store H}

theorem StatesFrom.of_eq (length : after.cells.length = before.cells.length)
    (states : ∀ entry, after.state? entry = before.state? entry) : StatesFrom begun before after :=
  ⟨length.ge, fun entry state found =>
    .inl ⟨state, states entry ▸ found, .refl state, fun _ => rfl⟩⟩

theorem StatesFrom.of_sectionStep (step : SectionStep before after) :
    StatesFrom begun before after := by
  refine ⟨step.length.ge, fun entry state found => .inl ?_⟩
  obtain ⟨previous, present, updated⟩ := step.states entry state found
  exact ⟨previous, present, updated.writesCurrent, fun _ => updated.generation_eq⟩

theorem StatesFrom.of_beginStep {entry : Nat} (step : BeginStep entry before after) :
    StatesFrom (some entry) before after := by
  refine ⟨step.length.ge, fun other state found => .inl ?_⟩
  obtain ⟨previous, present, updated⟩ := step.states other state found
  refine ⟨previous, present, ?_⟩
  split at updated
  next same => exact ⟨updated.writesCurrent, fun different => absurd (congrArg some same.symm) different⟩
  next =>
    subst updated
    exact ⟨.refl state, fun _ => rfl⟩

theorem StatesFrom.of_updateState {entry : Nat} {f : TorrentPlaybackState → TorrentPlaybackState}
    (writes : ∀ state, before.state? entry = some state → WritesCurrent state (f state))
    (generation : ∀ state, (f state).generation = state.generation) :
    StatesFrom begun before (before.updateState entry f) := by
  refine ⟨by simp [updateState, updateCell], fun other state found => .inl ?_⟩
  rw [state?_updateState] at found
  obtain ⟨previous, present, rfl⟩ := Option.map_eq_some_iff.mp found
  refine ⟨previous, present, ?_⟩
  split
  next same => exact ⟨writes previous (same ▸ present), fun _ => generation previous⟩
  next => exact ⟨.refl previous, fun _ => rfl⟩

theorem StatesFrom.of_entry [DecidableEq H] (store : Store H) (infoHash : H) :
    StatesFrom begun store (store.entry infoHash).2 := by
  unfold Store.entry
  split
  next => exact .of_eq rfl fun _ => rfl
  next =>
    refine ⟨by simp, fun entry state found => ?_⟩
    by_cases inside : entry < store.cells.length
    · refine .inl ⟨state, ?_, .refl state, fun _ => rfl⟩
      simpa [Store.state?, List.getElem?_append_left inside] using found
    · refine .inr ⟨(store.state?_eq_none_iff entry).mpr (Nat.le_of_not_lt inside), ?_⟩
      obtain ⟨cell, present, rfl⟩ := Option.map_eq_some_iff.mp found
      simp only [List.getElem?_append_right (Nat.le_of_not_lt inside),
        List.getElem?_singleton] at present
      split at present <;> cases present
      rfl

theorem StatesFrom.of_dropPermit [DecidableEq H] (origin : StatesFrom begun before after) (id : Nat) :
    StatesFrom begun before (after.dropPermit id) := by
  obtain ⟨-, cells⟩ := dropPermit_frame after id
  refine ⟨cells ▸ origin.length, fun entry state found => origin.states entry state ?_⟩
  simpa [Store.state?, cells] using found

theorem StatesFrom.of_issued {infoHash : H} {entry : Nat} {state next : TorrentPlaybackState}
    {permit : LibtorrentPlaybackPermit H}
    (issued : Issued before after infoHash entry state next permit)
    (found : before.state? entry = some state)
    (generation : begun ≠ some entry → next.generation = state.generation) :
    StatesFrom begun before after := by
  refine ⟨issued.length.ge, fun other updated present => .inl ?_⟩
  rw [issued.states other] at present
  obtain ⟨previous, earlier, rfl⟩ := Option.map_eq_some_iff.mp present
  refine ⟨previous, earlier, ?_⟩
  split
  next same =>
    subst same
    cases found.symm.trans earlier
    exact ⟨issued.writes, generation⟩
  next => exact ⟨.refl previous, fun _ => rfl⟩

theorem StatesFrom.generation_eq (origin : StatesFrom begun before after) {entry generation : Nat}
    (other : begun ≠ some entry)
    (current : (before.state? entry).map (·.generation) = some generation) :
    (after.state? entry).map (·.generation) = some generation := by
  obtain ⟨previous, present, rfl⟩ := Option.map_eq_some_iff.mp current
  have inside := Nat.lt_of_lt_of_le (lt_of_state? present) origin.length
  obtain ⟨state, found⟩ := Option.ne_none_iff_exists'.mp fun absent =>
    Nat.not_le_of_lt inside ((after.state?_eq_none_iff entry).mp absent)
  rcases origin.states entry state found with ⟨earlier, same, -, kept⟩ | ⟨absent, -⟩
  · cases present.symm.trans same
    simp [found, kept other]
  · rw [present] at absent
    cases absent

theorem phaseWritesCurrent_of_statesFrom {before after : Coordinator H}
    (origin : StatesFrom begun before.store after.store) (written : PhaseWritesCurrent before) :
    PhaseWritesCurrent after := by
  intro entry state found write member
  rcases origin.states entry state found with ⟨previous, present, ⟨writes, appended, fresh⟩, -⟩ | new
  · rw [appended] at member
    rcases List.mem_append.mp member with old | added
    · exact written entry previous present write old
    · exact fresh write added
  · simp [new.2] at member

theorem writeBacksCurrent_of_statesFrom {before after : Coordinator H}
    (origin : StatesFrom begun before.store after.store)
    (undisturbed : ∀ entry, begun = some entry → NoWriteBack before.tasks entry)
    (tasks : ∀ task ∈ after.tasks, task ∈ before.tasks ∨ ∀ target ∈ task.writingBack,
      begun ≠ some target.1 ∧
        (before.store.state? target.1).map (·.generation) = some target.2)
    (current : WriteBacksCurrent before) : WriteBacksCurrent after := by
  intro task member target writes
  rcases tasks task member with earlier | new
  · exact origin.generation_eq (fun same => undisturbed target.1 same task earlier target writes rfl)
      (current task earlier target writes)
  · obtain ⟨other, generation⟩ := new target writes
    exact origin.generation_eq other generation

end States

section Steps

variable [DecidableEq H]

theorem TaskStep.statesFrom {before after : Store H} {task : Task H} {rest : Option (Task H)}
    (step : TaskStep before task after rest)
    (current : ∀ target ∈ task.writingBack,
      (before.state? target.1).map (·.generation) = some target.2) :
    StatesFrom (task.begins before) before after := by
  cases step with
  | lookup infoHash next => exact .of_entry before infoHash
  | sections _ _ step => exact .of_sectionStep step
  | began entry _ _ begins step => exact begins ▸ .of_beginStep step
  | failed next id step => exact .of_dropPermit (.of_sectionStep step) id
  | issued infoHash entry fileCount start complete state selection _ _ starts found selected =>
    obtain ⟨next, permit, issued, -, unchanged⟩ := startSelect_issued selected
    refine .of_issued issued found fun other => unchanged ?_
    cases changed : selection.changed with
    | false => rfl
    | true => simp [starts, Task.begins, found, selected, changed] at other
  | wroteBack entry generation writes =>
    subst writes
    refine .of_updateState (fun state found => ?_) fun _ => rfl
    have same : state.generation = generation := by
      simpa [found] using current (entry, generation) rfl
    exact same ▸ writesCurrent_writePhase state .pausedIdle

theorem WorkerStep.statesFrom {before after : Store H} {worker rest : Worker H}
    (step : WorkerStep before worker after rest) :
    StatesFrom (worker.begins before) before after := by
  cases step with
  | lookup infoHash => exact .of_entry before infoHash
  | sections _ _ step => exact .of_sectionStep step
  | began entry _ _ begins step => exact begins ▸ .of_beginStep step
  | released permit entry applied =>
    have frame (state : TorrentPlaybackState) := state.releasePlayback_frame permit.generation
      permit.streamId permit.foreground before.now
    exact .of_updateState (fun state _ => writesCurrent_of_eq (frame state).2.2.2)
      fun state => (frame state).2.2.1

variable {before after : Coordinator H} {action : Action H}

theorem step_phases (current : WriteBacksCurrent before) (written : PhaseWritesCurrent before)
    (undisturbed : WriteBackUndisturbed before action) (taken : before.step action = some after) :
    WriteBacksCurrent after ∧ PhaseWritesCurrent after := by
  cases step_cases taken with
  | quiet _ _ quiet =>
    have origin : StatesFrom none before.store after.store := .of_eq quiet.length quiet.states
    refine ⟨writeBacksCurrent_of_statesFrom origin (by simp) (fun task member => ?_) current,
      phaseWritesCurrent_of_statesFrom origin written⟩
    rcases quiet.tasks task member with earlier | ⟨-, idle⟩
    · exact .inl earlier
    · exact .inr (by simp [idle])
  | task index outcome task store rest present step =>
    obtain ⟨alone, still⟩ := undisturbed task present
    have origin := step.statesFrom (current task (List.mem_of_getElem? present))
    refine ⟨writeBacksCurrent_of_statesFrom origin alone (fun other member => ?_) current,
      phaseWritesCurrent_of_statesFrom origin written⟩
    have earlierOrNext : other ∈ before.tasks ∨ other ∈ rest := mem_continueTask member
    refine earlierOrNext.imp id fun new target writes => ?_
    -- Only the check of seeding leads to a write back.
    cases step with
    | lookup infoHash next looked quiet =>
      cases new
      simp [quiet] at writes
    | sections _ _ step quiet writing =>
      obtain ⟨disabled, infoHash, rfl⟩ := writing other new target writes
      exact ⟨by simp [Task.begins], still infoHash target.1 target.2 rfl disabled⟩
    | began entry _ _ begins step quiet => simp [(quiet other new).2] at writes
    | issued infoHash entry fileCount start complete state selection _ _ starts found selected
        quiet => simp [(quiet other new).2] at writes
    | failed | wroteBack => cases new
  | worker outcome attempt store worker step =>
    have origin := step.statesFrom
    exact ⟨writeBacksCurrent_of_statesFrom origin undisturbed (fun task member => .inl member) current,
      phaseWritesCurrent_of_statesFrom origin written⟩
  | registered infoHash =>
    have origin : StatesFrom none before.store (before.store.entry infoHash).2 :=
      .of_entry before.store infoHash
    exact ⟨writeBacksCurrent_of_statesFrom origin (by simp) (fun task member => .inl member) current,
      phaseWritesCurrent_of_statesFrom origin written⟩
  | removed infoHash entry =>
    have origin : StatesFrom none before.store
        { before.store with entries := before.store.entries.erase infoHash } :=
      .of_eq rfl fun _ => rfl
    refine ⟨writeBacksCurrent_of_statesFrom origin (by simp) (fun task member => ?_) current,
      phaseWritesCurrent_of_statesFrom origin written⟩
    rcases List.mem_append.mp member with earlier | new
    · exact .inl earlier
    · cases List.mem_singleton.mp new
      exact .inr (by simp [Task.writingBack])

theorem always_phaseWritesCurrent (actions : List (Action H))
    (undisturbed : Meets WriteBackUndisturbed Coordinator.step Coordinator.new actions) :
    Always PhaseWritesCurrent Coordinator.step Coordinator.new actions := by
  have both : Always
      (fun coordinator => WriteBacksCurrent coordinator ∧ PhaseWritesCurrent coordinator)
      Coordinator.step Coordinator.new actions :=
    always_of_meets
      (fun _ _ _ ⟨current, written⟩ permitted taken => step_phases current written permitted taken)
      ⟨by simp [WriteBacksCurrent, Coordinator.new],
        by simp [PhaseWritesCurrent, Coordinator.new, Store.state?]⟩ undisturbed
  exact both.mono fun _ held => held.2

end Steps

-- A complete file is watched over HLS with seeding off, so that the phase stays `PausedIdle`, and
-- the playback ends: up to the point where `end_hls` is about to write `PausedIdle` back.
def endHlsUpToWriteBack : List (Action Nat) :=
  let outcome : Outcome := ⟨true, false, 0, []⟩
  [.setSeedingEnabled false, .call (.refreshEntry 7 2 0 true), .task 0 outcome, .task 0 outcome,
    .abandon 0, .call (.endEntry 7 0), .task 0 outcome, .task 0 outcome, .task 0 outcome]

theorem end_hls_undisturbed :
    Meets WriteBackUndisturbed Coordinator.step Coordinator.new
        (endHlsUpToWriteBack ++ [.task 0 ⟨true, false, 0, []⟩]) ∧
      Always PhaseWritesCurrent Coordinator.step Coordinator.new
        (endHlsUpToWriteBack ++ [.task 0 ⟨true, false, 0, []⟩]) := by
  have undisturbed : Meets WriteBackUndisturbed Coordinator.step Coordinator.new
      (endHlsUpToWriteBack ++ [.task 0 ⟨true, false, 0, []⟩]) := by
    refine meets_cons rfl trivial (meets_cons rfl trivial (meets_cons rfl ?_ (meets_cons rfl ?_
      (meets_cons rfl trivial (meets_cons rfl trivial (meets_cons rfl ?_ (meets_cons rfl ?_
      (meets_cons rfl ?_ (meets_cons rfl ?_ trivial)))))))))
    -- No other call is in flight, and only the check of seeding has anything to see.
    all_goals
      rintro task ⟨⟩
      refine ⟨fun entry begins other member target writes => ?_, ?_⟩
      · first
        | cases begins
          done
        | cases List.mem_singleton.mp member
          cases writes
      · rintro infoHash entry generation ⟨⟩
        try exact fun _ => rfl
  exact ⟨undisturbed, always_phaseWritesCurrent _ undisturbed⟩

theorem stale_end_hls_overwrites_active :
    ∃ final state, run Coordinator.step Coordinator.new (endHlsUpToWriteBack ++
        [.call (.startEntry 7 2 ⟨1, 0, .directInitial⟩ false), .task 1 ⟨true, false, 0, []⟩,
          .task 1 ⟨true, false, 0, []⟩, .task 0 ⟨true, false, 0, []⟩]) = some final ∧
      final.store.state? 0 = some state ∧ state.generation = 3 ∧ state.phase = .pausedIdle ∧
      ⟨2, 3⟩ ∈ state.phaseWrites ∧ ¬ PhaseWritesCurrent final := by
  refine ⟨_, _, rfl, rfl, rfl, rfl, ?_, fun current => ?_⟩
  · decide
  · have same := current 0 _ rfl ⟨2, 3⟩ (by decide)
    cases same

end StreamServer.Playback
