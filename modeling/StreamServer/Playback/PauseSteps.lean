import Mathlib.Algebra.Order.BigOperators.Group.List
import Mathlib.Algebra.Order.Group.Nat
import StreamServer.Playback.Generations

set_option autoImplicit false

namespace StreamServer.Playback

open CancellationTokens TorrentPlaybackState Store Runs

variable {H : Type}

/-- Something is left that sets the idle deadline when it ends, or the deadline is set. -/
def TorrentPlaybackState.Armed (state : TorrentPlaybackState) : Prop :=
  state.idleDeadline ≠ none ∨ state.hlsLastActivity ≠ none ∨ 0 < state.activePlaybackPermits ∨
    0 < state.metadataPermits

def Task.pausing : Task H → Option (Nat × Nat)
  | .endCheckSeeding _ entry generation _ | .endKeepActive entry generation
  | .endWriteBack entry generation => some (entry, generation)
  | .endPause call _ => some (call.entry, call.generation)
  | _ => none

def PauseCall.target (call : PauseCall H) : Nat × Nat := (call.entry, call.generation)

def unsettled (attempts : List (PauseCall H × Progress PausePc)) : List (Nat × Nat) :=
  attempts.filterMap fun attempt =>
    if attempt.2 = .returned true then none else some attempt.1.target

def Worker.pausing : Worker H → List (Nat × Nat)
  | .verifiedPause call _ => [call.target]
  | .verifiedFailed entry generation => [(entry, generation)]
  | .scan _ _ due => due.map PauseCall.target
  | .join attempts => unsettled attempts
  | .settle failed => failed.map PauseCall.target
  | _ => []

def Coordinator.PauseInFlight (coordinator : Coordinator H) (entry generation : Nat) : Prop :=
  (∃ task ∈ coordinator.tasks, task.pausing = some (entry, generation)) ∨
    (entry, generation) ∈ coordinator.worker.pausing

/-- Seeding is off, and the worker is through with the command that said so. -/
def Coordinator.SeedingDisabled (coordinator : Coordinator H) (entry : Nat) : Prop :=
  coordinator.store.seedingEnabled = false ∧
    .seedingEnabled false ∉ coordinator.store.queue ∧
    ∀ entries, coordinator.worker = .seedingOff entries → entry ∉ entries

section States

def Rearms (before after : TorrentPlaybackState) : Prop :=
  after.phase = .pausePending → after.Armed ∨
    before.phase = .pausePending ∧ before.generation = after.generation ∧ ¬ before.Armed

theorem Rearms.refl (state : TorrentPlaybackState) : Rearms state state := by
  intro pending
  by_cases armed : state.Armed
  · exact .inl armed
  · exact .inr ⟨pending, rfl, armed⟩

theorem Undisturbed.rearms {before after : TorrentPlaybackState}
    (undisturbed : Undisturbed before after) : Rearms before after := by
  intro pending
  have same : after.Armed ↔ before.Armed := by
    simp only [Armed, activePlaybackPermits, undisturbed.idleDeadline, undisturbed.hlsLastActivity,
      undisturbed.directPermits, undisturbed.metadataPermits]
  have earlier : before.phase = .pausePending :=
    undisturbed.phase.elim (fun kept => kept ▸ pending) fun settled => absurd pending settled
  by_cases armed : before.Armed
  · exact .inl (same.mpr armed)
  · exact .inr ⟨earlier, undisturbed.generation.symm, armed⟩

theorem armed_scheduleIdleIfNeeded (state : TorrentPlaybackState) (now : Nat) :
    (state.scheduleIdleIfNeeded now).Armed := by
  unfold scheduleIdleIfNeeded
  split
  next active =>
    simp only [hasActivity, Bool.or_eq_true, decide_eq_true_eq, hlsIsActive] at active
    rcases active with (playing | fetching) | watching
    · exact .inr (.inr (.inl playing))
    · exact .inr (.inr (.inr fetching))
    · refine .inr (.inl fun absent => ?_)
      have none : state.hlsLastActivity = none := absent
      simp [none] at watching
  next => exact .inl nofun

theorem activePlaybackPermits_pos {counters : PermitCounters} {generation : Nat}
    (counted : 0 < counters.count generation) :
    0 < (counters.entries.map fun counter => counter.2).sum := by
  unfold PermitCounters.count at counted
  cases present : counters.lookup generation with
  | none => simp [present] at counted
  | some held =>
    rw [present] at counted
    have member : held ∈ counters.entries.map fun counter => counter.2 :=
      List.mem_map.mpr ⟨⟨generation, held⟩, AList.mem_lookup_iff.mp present, rfl⟩
    exact Nat.lt_of_lt_of_le counted (List.le_sum_of_mem member)

theorem armed_select (state : TorrentPlaybackState) (tokens : Tokens) (now fileIdx : Nat)
    (priority : Int) (directPermit hlsActivity networkRequired foreground : Bool)
    (active : directPermit = true ∨ hlsActivity = true) :
    (state.select tokens now fileIdx priority directPermit hlsActivity networkRequired
      foreground).2.1.Armed := by
  rcases active with rfl | rfl
  · have counters := (select_counters state tokens now fileIdx priority true hlsActivity networkRequired
      foreground).1
    refine .inr (.inr (.inl ?_))
    rw [activePlaybackPermits, counters, if_pos rfl]
    exact activePlaybackPermits_pos (by rw [PermitCounters.count_acquire, if_pos rfl]; omega)
  · refine .inr (.inl ?_)
    simp only [select]
    cases directPermit <;> cases networkRequired <;> exact Option.some_ne_none _

theorem rearms_expireHls (state : TorrentPlaybackState) (now : Nat) :
    Rearms state (state.expireHls now) := by
  unfold expireHls
  split
  next => exact fun _ => .inl (.inl nofun)
  next => exact .refl state

end States

section Tasks

variable [DecidableEq H] {before after : Store H} {outcome : Outcome}

def Task.givesUp (store : Store H) (outcome : Outcome) : Task H → Prop
  | .endPause call pc => (performPause store outcome.ok call pc).map (·.2) = some (.returned false)
  | _ => False

abbrev RearmStep (before after : Store H) : Prop :=
  StatesBy (fun _ => Rearms) before after

omit [DecidableEq H] in
theorem QuietStep.rearms (step : QuietStep before after) : RearmStep before after :=
  ⟨step.entries, step.queue, step.permits, step.length, fun entry state found =>
    (step.states entry state found).imp fun _ ⟨present, undisturbed⟩ =>
      ⟨present, undisturbed.rearms⟩⟩

omit [DecidableEq H] in
theorem RearmStep.setState {entry : Nat} {previous state : TorrentPlaybackState}
    (found : before.state? entry = some previous) (rearms : Rearms previous state) :
    RearmStep before (before.setState entry state) :=
  StatesBy.updateState (fun _ state _ => .refl state) fun present same => by
    rw [found] at same
    cases same
    exact rearms

def TaskRetries (before : Store H) (outcome : Outcome) (task : Task H) (rest : Option (Task H))
    (entry : Nat) (state : TorrentPlaybackState) : Prop :=
  state.Armed ∨ (∃ next ∈ rest, next.pausing = some (entry, state.generation)) ∨
    ∃ previous, before.state? entry = some previous ∧ previous.phase = .pausePending ∧
      previous.generation = state.generation ∧ ¬ previous.Armed ∧
      (task.pausing = some (entry, state.generation) → task.givesUp before outcome)

theorem taskRetries_of_rearms {task : Task H} {rest : Option (Task H)} {entry : Nat}
    {state : TorrentPlaybackState} (step : RearmStep before after)
    (found : after.state? entry = some state) (pending : state.phase = .pausePending)
    (other : task.pausing ≠ some (entry, state.generation)) :
    TaskRetries before outcome task rest entry state := by
  obtain ⟨previous, present, rearms⟩ := step.states entry state found
  rcases rearms pending with armed | ⟨earlier, generation, unarmed⟩
  · exact .inl armed
  · exact .inr (.inr ⟨previous, present, earlier, generation, unarmed, fun same => absurd same other⟩)

theorem taskRetries_elsewhere {task : Task H} {rest : Option (Task H)} {entry : Nat}
    {state : TorrentPlaybackState} (step : RearmStep before after)
    (found : after.state? entry = some state) (pending : state.phase = .pausePending)
    (other : task.pausing = none) : TaskRetries before outcome task rest entry state :=
  taskRetries_of_rearms step found pending (by simp [other])

omit [DecidableEq H] in
theorem state?_setState {entry : Nat} {previous : TorrentPlaybackState}
    (present : before.state? entry = some previous) (state : TorrentPlaybackState) (other : Nat) :
    (before.setState entry state).state? other =
      if other = entry then some state else before.state? other := by
  rw [setState, state?_updateState]
  by_cases same : other = entry
  · subst same
    simp [present]
  · simp [same]

theorem rearmStep_entry {store : Store H} {infoHash : H} {entry : Nat} {state : TorrentPlaybackState}
    (found : (store.entry infoHash).2.state? entry = some state)
    (pending : state.phase = .pausePending) : store.state? entry = some state := by
  unfold Store.entry at found
  split at found
  next => exact found
  next =>
    by_cases inside : entry < store.cells.length
    · simpa [Store.state?, List.getElem?_append_left inside] using found
    · obtain ⟨cell, present, rfl⟩ := Option.map_eq_some_iff.mp found
      simp only [List.getElem?_append_right (Nat.le_of_not_lt inside),
        List.getElem?_singleton] at present
      split at present <;> cases present
      cases pending

omit [DecidableEq H] in
theorem keepActiveForSeeding_settled {entry generation : Nat} {state : TorrentPlaybackState}
    (found : (before.updateState entry (·.keepActiveForSeeding generation)).state? entry = some state)
    (current : state.generation = generation) : state.phase ≠ .pausePending := by
  rw [state?_updateState] at found
  obtain ⟨previous, -, rfl⟩ := Option.map_eq_some_iff.mp found
  rw [if_pos rfl] at current ⊢
  unfold keepActiveForSeeding at current ⊢
  split
  next => rintro ⟨⟩
  next unsettled =>
    rw [if_neg unsettled] at current
    exact fun pending => unsettled ⟨current, pending⟩

omit [DecidableEq H] in
theorem rearmStep_acquireMetadata {target : Nat} {previous : TorrentPlaybackState}
    (earlier : before.state? target = some previous) (hasMetadata : Bool) :
    RearmStep before (before.setState target (previous.acquireMetadata hasMetadata)) := by
  refine RearmStep.setState earlier fun _ => .inl (.inr (.inr (.inr ?_)))
  cases hasMetadata <;> exact Nat.succ_pos _

theorem stepTask_retries {task : Task H} {rest : Option (Task H)} {entry : Nat}
    {state : TorrentPlaybackState} (taken : stepTask before outcome task = some (after, rest))
    (found : after.state? entry = some state) (pending : state.phase = .pausePending) :
    TaskRetries before outcome task rest entry state := by
  have same : RearmStep before before := (QuietStep.refl before).rearms
  cases stepTask_move taken with
  | startEntry infoHash | refreshEntry infoHash | endEntry infoHash | metadataEntry infoHash
  | reannounceEntry infoHash =>
    exact taskRetries_elsewhere same (rearmStep_entry found pending) pending rfl
  | refused | endUnrelated | removeCancel | reannounceStale | reannounceCheck =>
    exact taskRetries_elsewhere same found pending rfl
  | selected _ target _ start complete previous _ _ present selected =>
    obtain ⟨priority, permit, -, -, -, -, rfl⟩ := startSelect_selected selected
    have armed := armed_select previous before.tokens before.now start.fileIdx priority true false
      (!complete || before.seedingEnabled) start.intent.isForeground (.inl rfl)
    have step : RearmStep before (before.setState target (previous.select before.tokens before.now
        start.fileIdx priority true false (!complete || before.seedingEnabled)
        start.intent.isForeground).2.1) := RearmStep.setState present fun _ => .inl armed
    exact taskRetries_elsewhere step found pending rfl
  | activating _ _ _ _ _ activated | activated _ _ _ _ _ activated =>
    exact taskRetries_elsewhere (activateSelection_quiet activated).rearms found pending rfl
  | activationFailed _ id _ next activated =>
    have kept : (next.dropPermit id).state? entry = next.state? entry := by
      rw [Store.state?, (dropPermit_frame next _).2, Store.state?]
    exact taskRetries_elsewhere (activateSelection_quiet activated).rearms (kept ▸ found) pending rfl
  | refreshed _ target _ fileIdx complete previous present
  | reselected _ target _ fileIdx complete previous present =>
    have armed := armed_select previous before.tokens before.now fileIdx (if complete then 0 else 1)
      false true (!complete || before.seedingEnabled) false (.inr rfl)
    have step : RearmStep before
        (before.setState target (before.reselect previous fileIdx complete).2.1) :=
      RearmStep.setState present fun _ => .inl armed
    exact taskRetries_elsewhere step found pending rfl
  | endBegun _ target _ _ present =>
    have updated := (state?_setState present _ entry).symm.trans found
    split at updated
    next here =>
      cases updated
      subst here
      exact .inr (.inl ⟨_, rfl, rfl⟩)
    next => exact taskRetries_elsewhere same updated pending rfl
  | endSeeding _ target generation | endPaused _ target generation | endRunning _ target generation =>
    by_cases here : (target, generation) = (entry, state.generation)
    · exact .inr (.inl ⟨_, rfl, congrArg some here⟩)
    · exact taskRetries_of_rearms same found pending fun equal => here (Option.some.inj equal)
  | endKeepActive target generation =>
    have step : QuietStep before (before.updateState target (·.keepActiveForSeeding generation)) :=
      QuietStep.updateState fun state => keepActiveForSeeding_undisturbed state generation
    refine taskRetries_of_rearms (QuietStep.rearms step) found pending ?_
    rintro ⟨⟩
    exact keepActiveForSeeding_settled found rfl pending
  | endWriteBack target generation =>
    have step : RearmStep before (before.updateState target (·.writePhase generation .pausedIdle)) :=
      StatesBy.updateState (fun _ state _ => .refl state) (by rintro _ - ⟨⟩)
    refine taskRetries_of_rearms step found pending fun same => ?_
    have here : entry = target := (Prod.mk.inj (Option.some.inj same)).1.symm
    simp only [state?_updateState, here, if_true] at found
    obtain ⟨previous, -, rfl⟩ := Option.map_eq_some_iff.mp found
    cases pending
  | endPause call _ _ _ paused =>
    by_cases here : call.target = (entry, state.generation)
    · exact .inr (.inl ⟨_, rfl, congrArg some here⟩)
    · exact taskRetries_of_rearms (performPause_quiet paused).rearms found pending fun same =>
        here (Option.some.inj same)
  | ended call _ _ ok paused =>
    have step := (performPause_quiet paused).rearms
    by_cases here : call.target = (entry, state.generation)
    · cases ok with
      | true =>
        obtain ⟨rfl, generation⟩ := Prod.mk.inj here
        exact absurd pending (performPause_settled paused found generation.symm)
      | false =>
        obtain ⟨previous, present, rearms⟩ := step.states entry state found
        rcases rearms pending with armed | ⟨earlier, generation, unarmed⟩
        · exact .inl armed
        · exact .inr (.inr ⟨previous, present, earlier, generation, unarmed, fun _ => by
            simp [Task.givesUp, paused]⟩)
    · exact taskRetries_of_rearms step found pending fun same => here (Option.some.inj same)
  | metadataLock _ _ _ lockable =>
    exact taskRetries_elsewhere (QuietStep.of_tryLock lockable).rearms found pending rfl
  | metadataAbsent _ target => exact taskRetries_elsewhere (same.unlock target) found pending rfl
  | metadataKnown _ target torrent previous _ earlier =>
    have step := rearmStep_acquireMetadata earlier torrent.hasMetadata
    exact taskRetries_elsewhere ((step.metadataPermits _).unlock target) found pending rfl
  | metadataFetched _ target torrent previous _ earlier =>
    have step := rearmStep_acquireMetadata earlier torrent.hasMetadata
    exact taskRetries_elsewhere (step.metadataPermits _) found pending rfl
  | metadataAnnounce infoHash target =>
    have step : QuietStep before (before.updateState target ({ · with metadataAnnounced := true })) :=
      QuietStep.updateState fun _ => ⟨rfl, rfl, rfl, rfl, rfl, .inl rfl⟩
    exact taskRetries_elsewhere (QuietStep.rearms ((step.setNative infoHash _).unlock target)) found
      pending rfl
  | reannounceState target =>
    refine taskRetries_elsewhere (QuietStep.rearms (QuietStep.updateState fun state => ?_)) found
      pending rfl
    split <;> exact ⟨rfl, rfl, rfl, rfl, rfl, .inl rfl⟩

end Tasks

theorem mem_continueTask_next {tasks : List (Task H)} {index : Nat} {task next : Task H}
    {rest : Option (Task H)} (present : tasks[index]? = some task) (continues : next ∈ rest) :
    next ∈ continueTask tasks index rest := by
  cases continues
  obtain ⟨inside, -⟩ := List.getElem?_eq_some_iff.mp present
  exact List.mem_set inside next

theorem mem_continueTask_of_mem {tasks : List (Task H)} {index : Nat} {task other : Task H}
    (rest : Option (Task H)) (present : tasks[index]? = some task) (member : other ∈ tasks) :
    other ∈ continueTask tasks index rest ∨ other = task := by
  obtain ⟨position, inside, rfl⟩ := List.getElem_of_mem member
  by_cases here : position = index
  · subst here
    rw [List.getElem?_eq_getElem inside] at present
    exact .inr (Option.some.inj present)
  · refine .inl ?_
    cases rest with
    | none => exact List.mem_eraseIdx_iff_getElem.mpr ⟨position, inside, here, rfl⟩
    | some next =>
      refine List.mem_of_getElem? (i := position) ?_
      simp only [continueTask]
      rw [List.getElem?_set_ne (Ne.symm here), List.getElem?_eq_getElem inside]

section Workers

variable [DecidableEq H] {before after : Store H} {outcome : Outcome}

def Worker.turnsSeedingOff : Worker H → Option Nat
  | .seedingOff (entry :: _) => some entry
  | _ => none

def WorkerRetries (before : Store H) (worker rest : Worker H) (entry : Nat)
    (state : TorrentPlaybackState) : Prop :=
  state.Armed ∨ (entry, state.generation) ∈ rest.pausing ∨
    (∃ infoHash entries, worker = .seedingOnState infoHash entry entries) ∨
    ∃ previous, before.state? entry = some previous ∧ previous.phase = .pausePending ∧
      previous.generation = state.generation ∧ ¬ previous.Armed ∧
      (entry, state.generation) ∉ worker.pausing ∧
      ∀ entries, worker ≠ .seedingOff (entry :: entries)

omit [DecidableEq H] in
theorem workerRetries_of_rearms {worker rest : Worker H} {entry : Nat} {state : TorrentPlaybackState}
    (step : RearmStep before after) (found : after.state? entry = some state)
    (pending : state.phase = .pausePending) (other : (entry, state.generation) ∉ worker.pausing)
    (running : ∀ entries, worker ≠ .seedingOff (entry :: entries)) :
    WorkerRetries before worker rest entry state := by
  obtain ⟨previous, present, rearms⟩ := step.states entry state found
  rcases rearms pending with armed | ⟨earlier, generation, unarmed⟩
  · exact .inl armed
  · exact .inr (.inr (.inr ⟨previous, present, earlier, generation, unarmed, other, running⟩))

omit [DecidableEq H] in
theorem workerRetries_elsewhere {worker rest : Worker H} {entry : Nat} {state : TorrentPlaybackState}
    (step : RearmStep before after) (found : after.state? entry = some state)
    (pending : state.phase = .pausePending) (idle : worker.pausing = [])
    (running : worker.turnsSeedingOff = none) : WorkerRetries before worker rest entry state := by
  refine workerRetries_of_rearms step found pending (by simp [idle]) ?_
  rintro entries rfl
  cases running

omit [DecidableEq H] in
theorem mem_unsettled {attempts : List (PauseCall H × Progress PausePc)} {target : Nat × Nat} :
    target ∈ unsettled attempts ↔
      ∃ attempt ∈ attempts, attempt.2 ≠ .returned true ∧ attempt.1.target = target := by
  simp only [unsettled, List.mem_filterMap]
  constructor
  · rintro ⟨attempt, member, equal⟩
    split at equal
    · cases equal
    · exact ⟨attempt, member, ‹_›, Option.some.inj equal⟩
  · rintro ⟨attempt, member, unsettled, rfl⟩
    exact ⟨attempt, member, if_neg unsettled⟩

theorem scanIdle_decides (state : TorrentPlaybackState) (tokens : Tokens) (now : Nat) :
    (state.scanIdle tokens now).1 = none ∧ (state.scanIdle tokens now).2.1 = state.expireHls now ∨
      ∃ generation, (state.scanIdle tokens now).1 = some generation ∧
        (state.scanIdle tokens now).2.1.generation = generation := by
  unfold scanIdle
  simp only
  split
  · exact .inl ⟨rfl, rfl⟩
  · split
    · exact .inr ⟨_, rfl, rfl⟩
    · exact .inr ⟨_, rfl, rfl⟩

omit [DecidableEq H] in
theorem scan_retries {infoHash : H} {target : Nat} {entries : List (H × Nat)} {scanNow : Nat}
    {due : List (PauseCall H)} {entry : Nat} {previous state : TorrentPlaybackState}
    (present : before.state? target = some previous)
    (found : (before.setState target (previous.scanIdle before.tokens scanNow).2.1).state? entry =
      some state)
    (pending : state.phase = .pausePending) :
    WorkerRetries before (.scan ((infoHash, target) :: entries) scanNow due)
      (.scan entries scanNow
        (due ++ ((previous.scanIdle before.tokens scanNow).1.map fun generation =>
          ⟨infoHash, target, generation, true⟩).toList)) entry state := by
  have same : RearmStep before before := (QuietStep.refl before).rearms
  have decides := scanIdle_decides previous before.tokens scanNow
  generalize previous.scanIdle before.tokens scanNow = scanned at found decides
  by_cases listed : (entry, state.generation) ∈ due.map PauseCall.target
  · refine .inr (.inl ?_)
    rw [Worker.pausing, List.map_append]
    exact List.mem_append_left _ listed
  · have updated := (state?_setState present scanned.2.1 entry).symm.trans found
    split at updated
    next here =>
      subst here
      cases updated
      rcases decides with ⟨-, expired⟩ | ⟨generation, decided, current⟩
      · have rearms : Rearms previous scanned.2.1 := expired ▸ rearms_expireHls previous scanNow
        exact workerRetries_of_rearms (RearmStep.setState present rearms) found pending listed (by rintro _ ⟨⟩)
      · exact .inr (.inl (by simp [Worker.pausing, PauseCall.target, decided, current]))
    next => exact workerRetries_of_rearms same updated pending listed (by rintro _ ⟨⟩)

theorem join_retries {attempts : List (PauseCall H × Progress PausePc)} {attempt entry : Nat}
    {call : PauseCall H} {pc : PausePc} {progress : Progress PausePc} {ok : Bool}
    {state : TorrentPlaybackState} (present : attempts[attempt]? = some (call, .running pc))
    (paused : performPause before ok call pc = some (after, progress))
    (found : after.state? entry = some state) (pending : state.phase = .pausePending) :
    WorkerRetries before (.join attempts) (.join (attempts.set attempt (call, progress))) entry
      state := by
  by_cases listed : (entry, state.generation) ∈ unsettled attempts
  · refine .inr (.inl (mem_unsettled.mpr ?_))
    obtain ⟨other, member, running, target⟩ := mem_unsettled.mp listed
    obtain ⟨index, inside, rfl⟩ := List.getElem_of_mem member
    by_cases here : index = attempt
    · subst here
      rw [List.getElem?_eq_getElem inside, Option.some.injEq] at present
      rw [present] at target
      obtain ⟨rfl, generation⟩ := Prod.mk.inj target
      refine ⟨(call, progress), List.mem_set inside _, ?_, target⟩
      rintro rfl
      exact performPause_settled paused found generation.symm pending
    · refine ⟨attempts[index], ?_, running, target⟩
      exact List.mem_of_getElem? (by
        rw [List.getElem?_set_ne (Ne.symm here), List.getElem?_eq_getElem inside])
  · exact workerRetries_of_rearms (performPause_quiet paused).rearms found pending listed (by rintro _ ⟨⟩)

omit [DecidableEq H] in
theorem joined_retries {attempts : List (PauseCall H × Progress PausePc)} {entry : Nat}
    {state : TorrentPlaybackState}
    (finished : (attempts.all fun attempt => attempt.2 matches .returned _) = true)
    (found : before.state? entry = some state) (pending : state.phase = .pausePending) :
    WorkerRetries before (.join attempts) (.settle (failedAttempts attempts)) entry state := by
  by_cases listed : (entry, state.generation) ∈ unsettled attempts
  · refine .inr (.inl ?_)
    obtain ⟨other, member, running, target⟩ := mem_unsettled.mp listed
    have returned := List.all_eq_true.mp finished other member
    refine List.mem_map.mpr ⟨other.1, List.mem_filterMap.mpr ⟨other, member, ?_⟩, target⟩
    obtain ⟨call, _ | (_ | _)⟩ := other
    · simp at returned
    · rfl
    · exact absurd rfl running
  · exact workerRetries_of_rearms (QuietStep.refl before).rearms found pending listed (by rintro _ ⟨⟩)

omit [DecidableEq H] in
theorem settle_retries {call : PauseCall H} {failed : List (PauseCall H)} {entry : Nat}
    {state : TorrentPlaybackState}
    (found : (before.updateState call.entry (·.idlePauseFailed call.generation before.now)).state?
      entry = some state)
    (pending : state.phase = .pausePending) :
    WorkerRetries before (.settle (call :: failed)) (.settle failed) entry state := by
  by_cases listed : (entry, state.generation) ∈ failed.map PauseCall.target
  · exact .inr (.inl listed)
  · have rearms (previous : TorrentPlaybackState) :
        Rearms previous (previous.idlePauseFailed call.generation before.now) := by
      unfold idlePauseFailed
      split
      · exact fun _ => .inl (.inl (Option.some_ne_none _))
      · exact .refl previous
    by_cases here : (entry, state.generation) = call.target
    · obtain ⟨rfl, current⟩ := Prod.mk.inj here
      simp only [state?_updateState, if_true] at found
      obtain ⟨previous, -, rfl⟩ := Option.map_eq_some_iff.mp found
      unfold idlePauseFailed at current ⊢
      split
      next => exact .inl (.inl (Option.some_ne_none _))
      next moved =>
        rw [if_neg moved] at current
        exact absurd current moved
    · refine workerRetries_of_rearms (StatesBy.updateState (fun _ state _ => .refl state)
        fun previous _ => rearms previous) found pending ?_ (by rintro _ ⟨⟩)
      simp only [Worker.pausing, List.map_cons, List.mem_cons, not_or]
      exact ⟨here, listed⟩

theorem stepWorker_retries {attempt : Nat} {worker rest : Worker H} {entry : Nat}
    {state : TorrentPlaybackState}
    (taken : stepWorker before outcome attempt worker = some (after, rest))
    (found : after.state? entry = some state) (pending : state.phase = .pausePending) :
    WorkerRetries before worker rest entry state := by
  have same : RearmStep before before := (QuietStep.refl before).rearms
  cases stepWorker_move taken with
  | replaceEntry infoHash | metadataEntry infoHash | releaseEntry permit =>
    exact workerRetries_elsewhere same (rearmStep_entry found pending) pending rfl rfl
  | replaceLock _ _ _ _ _ _ lockable | releaseLock _ _ _ lockable | seedingOn _ _ _ _ lockable =>
    exact workerRetries_elsewhere (QuietStep.of_tryLock lockable).rearms found pending rfl rfl
  | seededOff | seededOn | verifiedComplete | verifiedIncomplete | verifiedStale | settled =>
    exact workerRetries_elsewhere same found pending rfl rfl
  | replaceState target _ _ _ _ _ present =>
    refine workerRetries_elsewhere
      (QuietStep.rearms ((QuietStep.setState present ?_).unlock target)) found pending rfl rfl
    split <;> exact ⟨rfl, rfl, rfl, rfl, rfl, .inl rfl⟩
  | releaseState | metadataState =>
    refine workerRetries_elsewhere (StatesBy.updateState (fun _ state _ => .refl state)
      fun _ _ _ => .inl ?_) found pending rfl rfl
    exact armed_scheduleIdleIfNeeded _ before.now
  | releaseNative target | seedingOnGone _ target =>
    exact workerRetries_elsewhere (same.unlock target) found pending rfl rfl
  | seedingOff target =>
    by_cases here : entry = target
    · subst here
      simp only [state?_updateState, if_true] at found
      obtain ⟨previous, -, rfl⟩ := Option.map_eq_some_iff.mp found
      exact .inl (armed_scheduleIdleIfNeeded previous before.now)
    · refine workerRetries_of_rearms (StatesBy.updateState (fun _ state _ => .refl state)
        fun state _ _ => .inl (armed_scheduleIdleIfNeeded state before.now)) found pending
        List.not_mem_nil ?_
      rintro others ⟨⟩
      exact here rfl
  | seedingOnPaused infoHash target entries previous present =>
    by_cases here : entry = target
    · subst here
      exact .inr (.inr (.inl ⟨infoHash, entries, rfl⟩))
    · have updated := (state?_setState present { previous with idleDeadline := none } entry).symm.trans
        found
      rw [if_neg here] at updated
      exact workerRetries_elsewhere same updated pending rfl rfl
  | seedingOnState infoHash target entries previous present =>
    by_cases here : entry = target
    · subst here
      exact .inr (.inr (.inl ⟨infoHash, entries, rfl⟩))
    · rw [state?_unlock, state?_setState present, if_neg here] at found
      exact workerRetries_elsewhere same found pending rfl rfl
  | seedingOnResume infoHash target =>
    have step : QuietStep before (before.updateState target ({ · with phase := .active })) :=
      QuietStep.updateState fun _ => ⟨rfl, rfl, rfl, rfl, rfl, .inr (by rintro ⟨⟩)⟩
    exact workerRetries_elsewhere (QuietStep.rearms ((step.setNative infoHash _).unlock target))
      found pending rfl rfl
  | verifiedState _ target piece previous present =>
    have step : QuietStep before (before.setState target (previous.markPieceVerified piece)) :=
      QuietStep.setState present ⟨rfl, rfl, rfl, rfl, rfl, .inl rfl⟩
    exact workerRetries_elsewhere (QuietStep.rearms step) found pending rfl rfl
  | verifiedPending _ target _ previous present =>
    have updated := (state?_setState present _ entry).symm.trans found
    split at updated
    next here =>
      cases updated
      subst here
      exact .inr (.inl (by simp [Worker.pausing, PauseCall.target, writePhase]))
    next => exact workerRetries_elsewhere same updated pending rfl rfl
  | verifiedPause call _ _ _ paused =>
    by_cases here : (entry, state.generation) = call.target
    · exact .inr (.inl (by simp [Worker.pausing, here]))
    · exact workerRetries_of_rearms (performPause_quiet paused).rearms found pending
        (by simpa [Worker.pausing] using here) (by rintro _ ⟨⟩)
  | verifiedPaused call _ _ paused =>
    by_cases here : (entry, state.generation) = call.target
    · obtain ⟨rfl, generation⟩ := Prod.mk.inj here
      exact absurd pending (performPause_settled paused found generation)
    · exact workerRetries_of_rearms (performPause_quiet paused).rearms found pending
        (by simpa [Worker.pausing] using here) (by rintro _ ⟨⟩)
  | verifiedUnpaused call _ _ paused =>
    by_cases here : (entry, state.generation) = call.target
    · exact .inr (.inl (by simpa [Worker.pausing, PauseCall.target] using here))
    · exact workerRetries_of_rearms (performPause_quiet paused).rearms found pending
        (by simpa [Worker.pausing] using here) (by rintro _ ⟨⟩)
  | verifiedFailed target generation =>
    by_cases here : (entry, state.generation) = (target, generation)
    · obtain ⟨rfl, current⟩ := Prod.mk.inj here
      simp only [state?_updateState, if_true] at found
      obtain ⟨previous, -, rfl⟩ := Option.map_eq_some_iff.mp found
      split at pending
      next => cases pending
      next moved =>
        rw [if_neg moved] at current
        exact absurd current moved
    · refine workerRetries_of_rearms
        (QuietStep.rearms (QuietStep.updateState fun state => ?_)) found pending
        (by simpa [Worker.pausing] using here) (by rintro _ ⟨⟩)
      split
      · exact ⟨rfl, rfl, rfl, rfl, rfl, .inr (by rintro ⟨⟩)⟩
      · exact .refl state
  | scanned scanNow due =>
    by_cases listed : (entry, state.generation) ∈ due.map PauseCall.target
    · refine .inr (.inl ?_)
      simpa [Worker.pausing, unsettled, List.filterMap_map, Function.comp_def] using listed
    · exact workerRetries_of_rearms same found pending listed (by rintro _ ⟨⟩)
  | scan _ _ _ _ _ _ present => exact scan_retries present found pending
  | join _ _ _ _ _ present paused => exact join_retries present paused found pending
  | joined _ finished => exact joined_retries finished found pending
  | settle => exact settle_retries found pending

end Workers

end StreamServer.Playback
