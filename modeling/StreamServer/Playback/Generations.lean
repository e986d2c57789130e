import StreamServer.Playback.Fencing

set_option autoImplicit false

namespace StreamServer.Playback

open CancellationTokens CancellationTokens.Tokens TorrentPlaybackState Store Runs

variable {H : Type}

structure Fenced (store : Store H) : Prop where
  bounded : ∀ entry fence, store.fence? entry = some fence → fence.1 ≤ 2 ^ 64 - 1
  issued : ∀ entry fence, store.fence? entry = some fence → store.tokens.Issued fence.2
  distinct : ∀ left right leftFence rightFence, store.fence? left = some leftFence →
    store.fence? right = some rightFence → leftFence.2 = rightFence.2 → left = right

/-- The entry keeps its generation and token, or has moved on and the old token is cancelled. -/
structure Advances (entry : Nat) (before after : Store H) : Prop where
  tokens : ∀ token, before.tokens.isCancelled token = true → after.tokens.isCancelled token = true
  fences : ∀ fence, before.fence? entry = some fence → ∃ next, after.fence? entry = some next ∧
    fence.1 ≤ next.1 ∧ (next = fence ∨ after.tokens.isCancelled fence.2 = true)

def Live (entry : Nat) (store : Store H) : Prop :=
  ∀ fence, store.fence? entry = some fence → store.tokens.isCancelled fence.2 = false

theorem le_saturatingSucc {generation : Nat} (bounded : generation ≤ 2 ^ 64 - 1) :
    generation ≤ saturatingSucc generation := by
  unfold saturatingSucc
  omega

theorem fence?_cells_length (store : Store H) : store.fence? store.cells.length = none := by
  simp [fence?, Store.state?]

section Steps

variable {teardown : Option Nat} {before after : Store H}

theorem Fenced.fresh (fenced : Fenced before) {tokens : Tokens} {entry generation : Nat}
    (inside : ∀ other fence, before.fence? other = some fence → tokens.Issued fence.2)
    (bounded : generation ≤ 2 ^ 64 - 1) (created : after.tokens = tokens.create.2)
    (fences : ∀ other, after.fence? other =
      if other = entry then some (generation, tokens.create.1) else before.fence? other) :
    Fenced after := by
  have unused (other : Nat) (fence : Nat × Token) (found : before.fence? other = some fence) :
      fence.2 ≠ tokens.create.1 := Nat.ne_of_lt (inside other fence found)
  constructor <;> simp only [fences, created]
  · intro other fence found
    split at found
    · cases found
      exact bounded
    · exact fenced.bounded other fence found
  · intro other fence found
    split at found
    · cases found
      exact tokens.issued_fresh
    · exact tokens.issued_create (inside other fence found)
  · intro left right leftFence rightFence leftFound rightFound same
    split at leftFound <;> split at rightFound
    · omega
    · cases leftFound
      exact absurd same.symm (unused right rightFence rightFound)
    · cases rightFound
      exact absurd same (unused left leftFence leftFound)
    · exact fenced.distinct left right leftFence rightFence leftFound rightFound same

theorem FenceStep.fenced (step : FenceStep teardown before after) (fenced : Fenced before) :
    Fenced after := by
  cases step with
  | kept tokens fences =>
    constructor <;> simp only [fences, tokens]
    · exact fenced.bounded
    · exact fenced.issued
    · exact fenced.distinct
  | created tokens fences => exact fenced.fresh fenced.issued (Nat.zero_le _) tokens fences
  | rotated entry generation token found tokens fences =>
    refine fenced.fresh (fun other fence present => ?_) (Nat.min_le_right _ _) tokens fences
    exact (before.tokens.issued_cancel token fence.2).mpr (fenced.issued other fence present)
  | cancelled entry generation token torn found tokens fences =>
    constructor <;> simp only [fences, tokens, issued_cancel]
    · exact fenced.bounded
    · exact fenced.issued
    · exact fenced.distinct

theorem FenceStep.advances (step : FenceStep teardown before after) (fenced : Fenced before)
    (entry : Nat) : Advances entry before after := by
  cases step with
  | kept tokens fences =>
    refine ⟨fun token cancelled => tokens ▸ cancelled, fun fence found => ?_⟩
    exact ⟨fence, (fences entry).trans found, le_refl _, .inl rfl⟩
  | created tokens fences =>
    refine ⟨fun token cancelled => ?_, fun fence found => ?_⟩
    · rw [tokens, isCancelled_create]
      exact cancelled
    · refine ⟨fence, (fences entry).trans ?_, le_refl _, .inl rfl⟩
      split
      next new =>
        rw [new, fence?_cells_length] at found
        cases found
      next => exact found
  | rotated target generation token present tokens fences =>
    refine ⟨fun other cancelled => ?_, fun fence found => ?_⟩
    · rw [tokens, isCancelled_create]
      exact (isCancelled_cancel _ _ _).mpr (.inr cancelled)
    · by_cases same : entry = target
      · subst same
        cases found.symm.trans present
        refine ⟨_, (fences entry).trans (if_pos rfl), ?_, .inr ?_⟩
        · exact le_saturatingSucc (fenced.bounded entry _ present)
        · rw [tokens, isCancelled_create]
          exact isCancelled_cancel_self _ _ (fenced.issued entry _ present)
      · exact ⟨fence, (fences entry).trans ((if_neg same).trans found), le_refl _, .inl rfl⟩
  | cancelled target generation token torn present tokens fences =>
    refine ⟨fun other cancelled => ?_, fun fence found => ?_⟩
    · rw [tokens]
      exact (isCancelled_cancel _ _ _).mpr (.inr cancelled)
    · exact ⟨fence, (fences entry).trans found, le_refl _, .inl rfl⟩

theorem FenceStep.live (step : FenceStep teardown before after) (fenced : Fenced before) {entry : Nat}
    (live : Live entry before) (untouched : teardown ≠ some entry) : Live entry after := by
  -- A token beyond all issued ones reads as not cancelled.
  have unissued (tokens : Tokens) : tokens.isCancelled tokens.create.1 = false := by
    simp [Tokens.isCancelled, Tokens.create]
  have others (target generation : Nat) (token : Token)
      (present : before.fence? target = some (generation, token)) (different : entry ≠ target)
      (fence : Nat × Token) (found : before.fence? entry = some fence) :
      (before.tokens.cancel token).isCancelled fence.2 = false := by
    rw [isCancelled_cancel_of_ne]
    · exact live fence found
    · intro same
      exact different (fenced.distinct entry target _ _ found present same)
  intro fence found
  cases step with
  | kept tokens fences =>
    rw [fences entry] at found
    rw [tokens]
    exact live fence found
  | created tokens fences =>
    rw [fences entry] at found
    rw [tokens, isCancelled_create]
    split at found
    · cases found
      exact unissued before.tokens
    · exact live fence found
  | rotated target generation token present tokens fences =>
    rw [fences entry] at found
    rw [tokens, isCancelled_create]
    split at found
    · cases found
      exact unissued (before.tokens.cancel token)
    · exact others target generation token present ‹_› fence found
  | cancelled target generation token torn present tokens fences =>
    rw [fences entry] at found
    rw [tokens]
    exact others target generation token present
      (fun same => untouched (same ▸ torn)) fence found

theorem Advances.trans {entry : Nat} {middle : Store H} (first : Advances entry before middle)
    (second : Advances entry middle after) : Advances entry before after := by
  refine ⟨fun token cancelled => second.tokens token (first.tokens token cancelled),
    fun fence found => ?_⟩
  obtain ⟨next, present, later, moved⟩ := first.fences fence found
  obtain ⟨last, final, latest, movedAgain⟩ := second.fences next present
  refine ⟨last, final, later.trans latest, ?_⟩
  rcases moved with rfl | cancelled
  · exact movedAgain
  · exact .inr (second.tokens fence.2 cancelled)

end Steps

section Permits

variable [DecidableEq H]

theorem permits_dropPermit {store : Store H} {id : Nat} {permit : LibtorrentPlaybackPermit H}
    (member : permit ∈ (store.dropPermit id).permits) : permit ∈ store.permits := by
  unfold Store.dropPermit at member
  split at member
  · exact member
  · exact List.mem_of_mem_erase member

@[simp] theorem permits_entry (store : Store H) (infoHash : H) :
    (store.entry infoHash).2.permits = store.permits := by
  unfold Store.entry
  split <;> rfl

theorem step_permits {before after : Coordinator H} {action : Action H}
    (taken : before.step action = some after) (permit : LibtorrentPlaybackPermit H)
    (member : permit ∈ after.store.permits) :
    permit ∈ before.store.permits ∨
      after.store.fence? permit.issuer = some (permit.generation, permit.cancellation) := by
  cases step_move taken with
  | task index outcome task store rest present stepped =>
    cases stepTask_cases stepped with
    | lookup infoHash => exact .inl (by simpa using member)
    | sections _ _ step => exact .inl (step.permits ▸ member)
    | began entry _ _ begins step => exact .inl (step.permits ▸ member)
    | failed next id step => exact .inl (step.permits ▸ permits_dropPermit member)
    | wroteBack => exact .inl member
    | issued infoHash entry fileCount start complete state selection _ _ starts found selected =>
      obtain ⟨priority, issued, rfl, issuer, generation, cancellation, rfl⟩ :=
        startSelect_selected selected
      rcases List.mem_append.mp member with earlier | new
      · exact .inl earlier
      · cases List.mem_singleton.mp new
        refine .inr ?_
        rw [issuer, generation, cancellation]
        exact (fence?_setState found _ entry).trans (if_pos rfl)
  | worker outcome attempt store worker stepped =>
    cases stepWorker_cases stepped with
    | lookup infoHash => exact .inl (by simpa using member)
    | sections _ _ step => exact .inl (step.permits ▸ member)
    | began entry _ _ begins step => exact .inl (step.permits ▸ member)
    | released => exact .inl member
  | abandoned index task unlocked _ released =>
    have kept : unlocked.permits = before.store.permits := by
      subst released
      cases task.heldOperation <;> rfl
    cases owned : task.permit with
    | none => simpa [owned, kept] using Or.inl member
    | some id =>
      rw [← kept]
      exact .inl (permits_dropPermit (by simpa [owned] using member))
  | droppedPermit id => exact .inl (permits_dropPermit member)
  | registered infoHash => exact .inl (by simpa using member)
  | called | replaced | droppedMetadata | received | seedingTick | ticked | unmapped | removed
  | layoutLoaded | seedingSet | verified | invalidated | nativeSet | advanced =>
    exact .inl member

end Permits

section Commands

def Worker.carries : Worker H → Option Nat
  | .replaceEntry _ _ generation .. | .replaceLock _ _ generation ..
  | .replaceState _ _ generation .. => some generation
  | .releaseEntry permit | .releaseLock permit _ | .releaseState permit _ => some permit.generation
  | _ => none

structure SameGeneration (before after : TorrentPlaybackState) : Prop where
  generation : after.generation = before.generation
  windows : after.priorityWindows = before.priorityWindows
  direct : after.directPermits.count before.generation = before.directPermits.count before.generation
  foreground : after.foregroundPermits.count before.generation =
    before.foregroundPermits.count before.generation
  metadata : after.metadataPermits = before.metadataPermits

theorem SameGeneration.refl (state : TorrentPlaybackState) : SameGeneration state state :=
  ⟨rfl, rfl, rfl, rfl, rfl⟩

theorem scheduleIdleIfNeeded_sameGeneration (state : TorrentPlaybackState) (now : Nat) :
    SameGeneration state (state.scheduleIdleIfNeeded now) := by
  unfold scheduleIdleIfNeeded
  split <;> exact ⟨rfl, rfl, rfl, rfl, rfl⟩

theorem releasePlayback_sameGeneration (state : TorrentPlaybackState) {generation : Nat}
    (streamId : Nat) (foreground : Bool) (now : Nat) (older : generation < state.generation) :
    SameGeneration state (state.releasePlayback generation streamId foreground now).1 := by
  have different : state.generation ≠ generation := Nat.ne_of_gt older
  obtain ⟨current, windows, direct, foregrounds, metadata⟩ := scheduleIdleIfNeeded_sameGeneration
    { state with
      directPermits := state.directPermits.release generation
      foregroundPermits :=
        if foreground then state.foregroundPermits.release generation
        else state.foregroundPermits } now
  simp only [releasePlayback, different, if_false]
  refine ⟨current, windows, direct.trans ?_, foregrounds.trans ?_, metadata⟩
  · simp [PermitCounters.count_release, different]
  · cases foreground <;> simp [PermitCounters.count_release, different]

theorem state?_entry [DecidableEq H] {store : Store H} {entry : Nat} {state : TorrentPlaybackState}
    (found : store.state? entry = some state) (infoHash : H) :
    (store.entry infoHash).2.state? entry = some state := by
  unfold Store.entry
  split
  next => exact found
  next => simpa [Store.state?, List.getElem?_append_left (lt_of_state? found)] using found

theorem state?_tryLock {before after : Store H} {locked : Nat}
    (taken : before.tryLock locked = some after) (entry : Nat) :
    after.state? entry = before.state? entry := by
  obtain ⟨cell, -, equal⟩ := Option.bind_eq_some_iff.mp taken
  split at equal <;> cases equal
  exact state?_lock before locked entry

theorem state?_updateState_same {store : Store H} {entry : Nat} {state : TorrentPlaybackState}
    (found : store.state? entry = some state) (target : Nat)
    (f : TorrentPlaybackState → TorrentPlaybackState)
    (same : entry = target → SameGeneration state (f state)) :
    ∃ next, (store.updateState target f).state? entry = some next ∧ SameGeneration state next := by
  rw [state?_updateState, found]
  by_cases equal : entry = target
  · exact ⟨f state, by simp [equal], same equal⟩
  · exact ⟨state, by simp [equal], .refl state⟩

theorem stepWorker_stale_command [DecidableEq H] {before after : Store H} {outcome : Outcome}
    {attempt entry generation : Nat} {worker rest : Worker H} {state : TorrentPlaybackState}
    (taken : stepWorker before outcome attempt worker = some (after, rest))
    (found : before.state? entry = some state) (carries : worker.carries = some generation)
    (older : generation < state.generation) :
    ∃ next, after.state? entry = some next ∧ SameGeneration state next := by
  cases stepWorker_move taken with
  | replaceEntry infoHash => exact ⟨state, state?_entry found infoHash, .refl state⟩
  | releaseEntry permit => exact ⟨state, state?_entry found permit.infoHash, .refl state⟩
  | replaceLock _ _ _ _ _ _ lockable | releaseLock _ _ _ lockable =>
    exact ⟨state, (state?_tryLock lockable entry).trans found, .refl state⟩
  | replaceState target fileIdx _ _ _ current present =>
    cases carries
    simp only [state?_unlock]
    refine state?_updateState_same found target _ ?_
    rintro rfl
    cases found.symm.trans present
    have stale : state.selectionIsCurrent fileIdx generation = false := by
      simp [selectionIsCurrent, Nat.ne_of_gt older]
    simpa [stale] using SameGeneration.refl state
  | releaseState permit target =>
    cases carries
    exact state?_updateState_same found target _ fun _ =>
      (releasePlayback_sameGeneration state permit.streamId permit.foreground before.now older)
  | _ => cases carries

end Commands

section Runs

variable [DecidableEq H]

/-- Every held permit carries the fence of the entry that issued it, or one that is cancelled. -/
def PermitsFenced (store : Store H) : Prop :=
  ∀ permit ∈ store.permits, ∃ fence, store.fence? permit.issuer = some fence ∧
    permit.generation ≤ fence.1 ∧
      (fence = (permit.generation, permit.cancellation) ∨
        store.tokens.isCancelled permit.cancellation = true)

theorem step_permitsFenced {before after : Coordinator H} {action : Action H}
    (fenced : Fenced before.store) (permits : PermitsFenced before.store)
    (taken : before.step action = some after) : PermitsFenced after.store := by
  intro permit member
  rcases step_permits taken permit member with held | current
  · obtain ⟨fence, found, older, same⟩ := permits permit held
    have advances := (step_fence taken).advances fenced permit.issuer
    obtain ⟨next, present, later, moved⟩ := advances.fences fence found
    refine ⟨next, present, older.trans later, ?_⟩
    rcases same with rfl | cancelled
    · exact moved
    · exact .inr (advances.tokens _ cancelled)
  · exact ⟨_, current, le_refl _, .inl rfl⟩

theorem run_fenced {actions : List (Action H)} {final : Coordinator H}
    (reached : run Coordinator.step Coordinator.new actions = some final) :
    Fenced final.store ∧ PermitsFenced final.store := by
  have initial : Fenced (Coordinator.new (H := H)).store ∧
      PermitsFenced (Coordinator.new (H := H)).store := by
    refine ⟨⟨?_, ?_, ?_⟩, ?_⟩ <;> simp [Coordinator.new, fence?, Store.state?, PermitsFenced]
  have always : Always (fun coordinator => Fenced coordinator.store ∧ PermitsFenced coordinator.store)
      Coordinator.step Coordinator.new actions :=
    always_of_preserved
      (fun _ _ _ both taken =>
        ⟨(step_fence taken).fenced both.1, step_permitsFenced both.1 both.2 taken⟩)
      actions initial
  exact always.last reached

theorem run_advances {middle final : Coordinator H} {actions : List (Action H)}
    (fenced : Fenced middle.store) (entry : Nat)
    (continued : run Coordinator.step middle actions = some final) :
    Advances entry middle.store final.store := by
  induction actions generalizing middle with
  | nil =>
    cases Option.some.inj continued
    exact ⟨fun _ cancelled => cancelled, fun fence found => ⟨fence, found, le_refl _, .inl rfl⟩⟩
  | cons action rest ih =>
    obtain ⟨next, taken, later⟩ := Option.bind_eq_some_iff.mp continued
    have step := step_fence taken
    exact (step.advances fenced entry).trans (ih (step.fenced fenced) later)

theorem run_live {middle final : Coordinator H} {actions : List (Action H)}
    (fenced : Fenced middle.store) {entry : Nat} (live : Live entry middle.store)
    (untouched : Meets (fun coordinator action => action.tearsDown coordinator ≠ some entry)
      Coordinator.step middle actions)
    (continued : run Coordinator.step middle actions = some final) : Live entry final.store := by
  induction actions generalizing middle with
  | nil =>
    cases Option.some.inj continued
    exact live
  | cons action rest ih =>
    obtain ⟨next, taken, later⟩ := Option.bind_eq_some_iff.mp continued
    obtain ⟨permitted, rest⟩ := untouched next taken
    have step := step_fence taken
    exact ih (step.fenced fenced) (step.live fenced live permitted) rest later

theorem generations_fence_old_selections {earlier later : List (Action H)}
    {middle final : Coordinator H} {entry : Nat} {current : TorrentPlaybackState}
    (reached : run Coordinator.step Coordinator.new earlier = some middle)
    (continued : run Coordinator.step middle later = some final)
    (found : final.store.state? entry = some current) :
    (∀ old, middle.store.state? entry = some old →
      old.generation ≤ current.generation ∧
        (old.generation < current.generation →
          final.store.tokens.isCancelled old.cancellation = true)) ∧
    (∀ permit ∈ final.store.permits, permit.issuer = entry →
      permit.generation < current.generation →
        final.store.tokens.isCancelled permit.cancellation = true) ∧
    ((∀ old, middle.store.state? entry = some old →
        middle.store.tokens.isCancelled old.cancellation = false) →
      Meets (fun coordinator action => action.tearsDown coordinator ≠ some entry)
        Coordinator.step middle later →
      final.store.tokens.isCancelled current.cancellation = false) ∧
    ∀ outcome attempt after generation,
      final.step (.worker outcome attempt) = some after →
      final.worker.carries = some generation → generation < current.generation →
        ∃ next, after.store.state? entry = some next ∧ SameGeneration current next := by
  obtain ⟨fenced, -⟩ := run_fenced reached
  have whole : run Coordinator.step Coordinator.new (earlier ++ later) = some final := by
    rw [run_append, reached]
    exact continued
  have fence : final.store.fence? entry = some current.fence := by simp [fence?, found]
  refine ⟨fun old present => ?_, fun permit member issuer older => ?_, fun live untouched => ?_, ?_⟩
  · have advances := run_advances fenced entry continued
    obtain ⟨next, same, grown, moved⟩ := advances.fences old.fence (by simp [fence?, present])
    cases fence.symm.trans same
    refine ⟨grown, fun newer => moved.resolve_left fun unmoved => ?_⟩
    exact Nat.ne_of_gt newer (congrArg Prod.fst unmoved)
  · obtain ⟨next, same, -, moved⟩ := (run_fenced whole).2 permit member
    rw [issuer, fence] at same
    cases same
    refine moved.resolve_left fun unmoved => ?_
    exact Nat.ne_of_gt older (congrArg Prod.fst unmoved)
  · refine run_live fenced (fun fence present => ?_) untouched continued current.fence fence
    obtain ⟨old, earlier, rfl⟩ := Option.map_eq_some_iff.mp present
    exact live old earlier
  · intro outcome attempt after generation taken carries older
    obtain ⟨⟨store, worker⟩, stepped, equal⟩ := Option.map_eq_some_iff.mp taken
    obtain rfl := equal
    exact stepWorker_stale_command stepped found carries older

end Runs

-- File 0 is played and its permit asks for a window; file 1 is selected before the worker takes the
-- command.
def windowCommandBeforeSwitch : List (Action Nat) :=
  let outcome : Outcome := ⟨true, false, 0, []⟩
  [.call (.startEntry 7 2 ⟨0, 0, .directInitial⟩ false), .task 0 outcome, .task 0 outcome,
    .replaceWindow 0 [⟨3, 7, none⟩]]

def switchBeforeWindowCommand : List (Action Nat) :=
  let outcome : Outcome := ⟨true, false, 0, []⟩
  [.call (.startEntry 7 2 ⟨1, 1, .directInitial⟩ false), .task 1 outcome, .task 1 outcome, .receive,
    .worker outcome 0, .worker outcome 0]

theorem window_command_after_switch_is_fenced :
    ∃ middle final old current after next,
      run Coordinator.step Coordinator.new windowCommandBeforeSwitch = some middle ∧
      run Coordinator.step middle switchBeforeWindowCommand = some final ∧
      middle.store.state? 0 = some old ∧ final.store.state? 0 = some current ∧
      old.generation = 1 ∧ current.generation = 2 ∧
      final.store.tokens.isCancelled old.cancellation = true ∧
      final.step (.worker ⟨true, false, 0, []⟩ 0) = some after ∧
      after.store.state? 0 = some next ∧ next.priorityWindows = current.priorityWindows := by
  obtain ⟨middle, final, old, current, after, reached, continued, before, found, first, second, taken,
      carries⟩ : ∃ middle final old current after,
      run Coordinator.step Coordinator.new windowCommandBeforeSwitch = some middle ∧
      run Coordinator.step middle switchBeforeWindowCommand = some final ∧
      middle.store.state? 0 = some old ∧ final.store.state? 0 = some current ∧
      old.generation = 1 ∧ current.generation = 2 ∧
      final.step (.worker ⟨true, false, 0, []⟩ 0) = some after ∧ final.worker.carries = some 1 :=
    ⟨_, _, _, _, _, rfl, rfl, rfl, rfl, rfl, rfl, rfl, rfl⟩
  obtain ⟨tokens, -, -, commands⟩ := generations_fence_old_selections reached continued found
  obtain ⟨next, kept, same⟩ := commands _ _ after 1 taken carries (by omega)
  exact ⟨middle, final, old, current, after, next, reached, continued, before, found, first, second,
    (tokens old before).2 (by omega), taken, kept, same.windows⟩

end StreamServer.Playback
