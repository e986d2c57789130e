import StreamServer.Playback.Extensions
import StreamServer.Playback.PauseSteps

set_option autoImplicit false

namespace StreamServer.Playback

open TorrentPlaybackState Store Runs

variable {H : Type} [DecidableEq H]

-- An entry that is pending a pause nobody is working on, with seeding off and no activity, has its
-- idle deadline set when the next tick looks at it.
def PendingPauseRetried (coordinator : Coordinator H) : Prop :=
  ∀ infoHash entry state, coordinator.store.entries.lookup infoHash = some entry →
    coordinator.store.state? entry = some state → state.phase = .pausePending →
    (∀ generation, ¬ coordinator.PauseInFlight entry generation) →
    coordinator.SeedingDisabled entry → state.hasActivity coordinator.store.now = false →
      (state.expireHls coordinator.store.now).idleDeadline ≠ none

/-- The entry has left the pause of this generation behind, or is armed, or seeding is on. -/
def Coordinator.CanGiveUp (coordinator : Coordinator H) (entry generation : Nat) : Prop :=
  ∀ state, coordinator.store.state? entry = some state → state.generation = generation →
    state.phase = .pausePending → state.Armed ∨ ¬ coordinator.SeedingDisabled entry

-- An `end_hls` whose pause fails, or which is dropped after it began the pause, leaves no entry
-- unarmed.
def EndHlsLeavesArmed (coordinator : Coordinator H) : Action H → Prop
  | .task index outcome => ∀ task entry generation, coordinator.tasks[index]? = some task →
      task.pausing = some (entry, generation) → task.givesUp coordinator.store outcome →
        coordinator.CanGiveUp entry generation
  | .abandon index => ∀ task entry generation, coordinator.tasks[index]? = some task →
      task.pausing = some (entry, generation) → coordinator.CanGiveUp entry generation
  | _ => True

def seedings (queue : List (PlaybackCommand H)) : List Bool :=
  queue.filterMap fun command =>
    match command with
    | .seedingEnabled enabled => some enabled
    | _ => none

def Worker.enablesSeeding : Worker H → Bool
  | .seedingOn .. | .seedingOnState .. | .seedingOnResume .. => true
  | _ => false

/-- With seeding off, a command that turns it on is followed by one that turns it off. -/
def SeedingOrdered (coordinator : Coordinator H) : Prop :=
  coordinator.store.seedingEnabled = false →
    (seedings coordinator.store.queue).getLast? ≠ some true ∧
      (coordinator.worker.enablesSeeding = true → .seedingEnabled false ∈ coordinator.store.queue)

def PendingRetried (coordinator : Coordinator H) : Prop :=
  ∀ infoHash entry state, coordinator.store.entries.lookup infoHash = some entry →
    coordinator.store.state? entry = some state → state.phase = .pausePending →
      state.Armed ∨ coordinator.PauseInFlight entry state.generation ∨
        ¬ coordinator.SeedingDisabled entry

omit [DecidableEq H] in
theorem mem_seedings {queue : List (PlaybackCommand H)} {enabled : Bool} :
    enabled ∈ seedings queue ↔ .seedingEnabled enabled ∈ queue := by
  simp only [seedings, List.mem_filterMap]
  constructor
  · rintro ⟨command, member, equal⟩
    split at equal <;> cases equal
    exact member
  · intro member
    exact ⟨_, member, rfl⟩

omit [DecidableEq H] in
theorem getLast?_seedings_cons {queue : List (PlaybackCommand H)} {enabled : Bool}
    (command : PlaybackCommand H) (last : (seedings queue).getLast? = some enabled) :
    (seedings (command :: queue)).getLast? = some enabled := by
  cases command with
  | seedingEnabled first =>
    show (first :: seedings queue).getLast? = some enabled
    rw [List.getLast?_cons, last]
    rfl
  | _ => exact last

omit [DecidableEq H] in
theorem mem_of_getLast?_seedings {queue : List (PlaybackCommand H)}
    (last : (seedings (.seedingEnabled true :: queue)).getLast? ≠ some true) :
    .seedingEnabled false ∈ queue := by
  have nonempty : seedings queue ≠ [] := by
    intro empty
    refine last ?_
    show (true :: seedings queue).getLast? = some true
    rw [empty]
    rfl
  have final := List.getLast?_eq_some_getLast nonempty
  generalize (seedings queue).getLast nonempty = enabled at final
  cases enabled with
  | true => exact absurd (getLast?_seedings_cons _ final) last
  | false => exact mem_seedings.mp (List.mem_of_getLast? final)

theorem pendingPauseRetried_of_retried {coordinator : Coordinator H}
    (retried : PendingRetried coordinator) : PendingPauseRetried coordinator := by
  intro infoHash entry state mapped found pending idle disabled inactive
  simp only [hasActivity, Bool.or_eq_false_iff, decide_eq_false_iff_not, not_lt,
    Nat.le_zero] at inactive
  obtain ⟨⟨playback, metadata⟩, watching⟩ := inactive
  rcases retried infoHash entry state mapped found pending with armed | flight | seeding
  · unfold expireHls
    rcases armed with deadline | watched | playing | fetching
    · split
      · exact Option.some_ne_none _
      · exact deadline
    · rw [if_pos]
      · exact Option.some_ne_none _
      · simp [watching, Option.isSome_iff_ne_none, watched]
    · omega
    · omega
  · exact absurd flight (idle state.generation)
  · exact absurd disabled seeding

section Transfer

variable {before after : Coordinator H} {entry : Nat}

omit [DecidableEq H] in
theorem seedingDisabled_of_after
    (seeding : after.store.seedingEnabled = before.store.seedingEnabled)
    (queue : .seedingEnabled false ∈ before.store.queue →
      .seedingEnabled false ∈ after.store.queue ∨
        ∃ entries, after.worker = .seedingOff entries ∧ entry ∈ entries)
    (worker : ∀ entries, before.worker = .seedingOff entries → entry ∈ entries →
      ∃ entries, after.worker = .seedingOff entries ∧ entry ∈ entries)
    (disabled : after.SeedingDisabled entry) : before.SeedingDisabled entry := by
  obtain ⟨off, handled, through⟩ := disabled
  refine ⟨seeding ▸ off, fun waiting => ?_, fun entries handling listed => ?_⟩
  · rcases queue waiting with still | ⟨entries, handling, listed⟩
    · exact handled still
    · exact through entries handling listed
  · obtain ⟨rest, still, listed⟩ := worker entries handling listed
    exact through rest still listed

theorem retried_of_earlier {infoHash : H} {state previous : TorrentPlaybackState}
    (retried : PendingRetried before) (mapped : before.store.entries.lookup infoHash = some entry)
    (found : before.store.state? entry = some previous) (pending : previous.phase = .pausePending)
    (same : previous.generation = state.generation) (unarmed : ¬ previous.Armed)
    (flight : before.PauseInFlight entry state.generation →
      after.PauseInFlight entry state.generation ∨ before.CanGiveUp entry state.generation)
    (seeding : after.SeedingDisabled entry → before.SeedingDisabled entry) :
    after.PauseInFlight entry state.generation ∨ ¬ after.SeedingDisabled entry := by
  rcases retried infoHash entry previous mapped found pending with armed | pausing | enabled
  · exact absurd armed unarmed
  · rcases flight (same ▸ pausing) with still | canGiveUp
    · exact .inl still
    · rcases canGiveUp previous found same pending with armed | enabled
      · exact absurd armed unarmed
      · exact .inr fun disabled => enabled (seeding disabled)
  · exact .inr fun disabled => enabled (seeding disabled)

omit [DecidableEq H] in
theorem seedingOrdered_of_append (ordered : SeedingOrdered before)
    (seeding : after.store.seedingEnabled = before.store.seedingEnabled)
    (added : List (PlaybackCommand H)) (queue : after.store.queue = before.store.queue ++ added)
    (other : seedings added = [])
    (worker : after.worker.enablesSeeding = true → before.worker.enablesSeeding = true) :
    SeedingOrdered after := by
  intro off
  obtain ⟨last, enabling⟩ := ordered (seeding ▸ off)
  have same : seedings after.store.queue = seedings before.store.queue := by
    rw [queue, seedings, List.filterMap_append]
    exact (congrArg _ other).trans (List.append_nil _)
  refine ⟨same ▸ last, fun enables => ?_⟩
  rw [queue]
  exact List.mem_append_left _ (enabling (worker enables))

theorem quiet_retries (retried : PendingRetried before) (ordered : SeedingOrdered before)
    (states : ∀ entry state, after.store.state? entry = some state → state.phase = .pausePending →
      before.store.state? entry = some state)
    (entries : ∀ infoHash entry, after.store.entries.lookup infoHash = some entry →
      before.store.entries.lookup infoHash = some entry ∨ before.store.cells.length ≤ entry)
    (tasks : ∀ task ∈ before.tasks, task ∈ after.tasks)
    (worker : after.worker = before.worker ∨
      before.worker = .idle ∧ after.worker.enablesSeeding = false)
    (seeding : after.store.seedingEnabled = before.store.seedingEnabled)
    (added : List (PlaybackCommand H)) (queue : after.store.queue = before.store.queue ++ added)
    (other : seedings added = []) : PendingRetried after ∧ SeedingOrdered after := by
  refine ⟨fun infoHash entry state mapped found pending => ?_,
    seedingOrdered_of_append ordered seeding added queue other fun enables => ?_⟩
  · have present := states entry state found pending
    have mappedBefore := (entries infoHash entry mapped).resolve_right
      (Nat.not_le_of_lt (lt_of_state? present))
    by_cases armed : state.Armed
    · exact .inl armed
    · refine .inr (retried_of_earlier retried mappedBefore present pending rfl armed
        (fun flight => .inl ?_) ?_)
      · rcases flight with ⟨task, member, pausing⟩ | listed
        · exact .inl ⟨task, tasks task member, pausing⟩
        · rcases worker with same | ⟨idle, -⟩
          · exact .inr (same ▸ listed)
          · rw [idle] at listed
            cases listed
      · refine seedingDisabled_of_after seeding
          (fun waiting => .inl (queue ▸ List.mem_append_left _ waiting)) fun entries handling listed => ?_
        rcases worker with same | ⟨idle, -⟩
        · exact ⟨entries, same ▸ handling, listed⟩
        · rw [idle] at handling
          cases handling
  · rcases worker with same | ⟨-, off⟩
    · exact same ▸ enables
    · rw [off] at enables
      cases enables

end Transfer

section Steps

variable {before after : Coordinator H}

theorem task_retries {index : Nat} {outcome : Outcome} {task : Task H} {store : Store H}
    {rest : Option (Task H)} (retried : PendingRetried before) (ordered : SeedingOrdered before)
    (allowed : EndHlsLeavesArmed before (.task index outcome))
    (present : before.tasks[index]? = some task)
    (stepped : stepTask before.store outcome task = some (store, rest)) :
    PendingRetried { before with store, tasks := continueTask before.tasks index rest } ∧
      SeedingOrdered { before with store, tasks := continueTask before.tasks index rest } := by
  obtain ⟨seeding, ⟨released, queue⟩, entries, -⟩ := stepTask_extends stepped
  have waiting (command : PlaybackCommand H) (member : command ∈ before.store.queue) :
      command ∈ store.queue := queue ▸ List.mem_append_left _ member
  refine ⟨fun infoHash entry state mapped found pending => ?_, ?_⟩
  · rcases stepTask_retries stepped found pending with
      armed | ⟨next, continues, pausing⟩ | ⟨previous, earlier, still, same, unarmed, gaveUp⟩
    · exact .inl armed
    · exact .inr (.inl (.inl ⟨next, mem_continueTask_next present continues, pausing⟩))
    · have mappedBefore := (entries infoHash entry mapped).resolve_right
        (Nat.not_le_of_lt (lt_of_state? earlier))
      refine .inr (retried_of_earlier retried mappedBefore earlier still same unarmed
        (fun flight => ?_) (seedingDisabled_of_after seeding (fun member => .inl (waiting _ member))
          fun entries handling listed => ⟨entries, handling, listed⟩))
      rcases flight with ⟨other, member, pausing⟩ | listed
      · rcases mem_continueTask_of_mem rest present member with kept | rfl
        · exact .inl (.inl ⟨other, kept, pausing⟩)
        · exact .inr (allowed other entry state.generation present pausing (gaveUp pausing))
      · exact .inl (.inr listed)
  · refine seedingOrdered_of_append ordered seeding _ queue ?_ id
    simp [seedings]

theorem abandon_store {task : Task H} {unlocked : Store H}
    (released : unlocked = task.heldOperation.elim before.store before.store.unlock) :
    (∀ entry, (task.permit.elim unlocked unlocked.dropPermit).state? entry =
        before.store.state? entry) ∧
      Extends before.store (task.permit.elim unlocked unlocked.dropPermit) := by
  obtain ⟨states, extension⟩ : (∀ entry, unlocked.state? entry = before.store.state? entry) ∧
      Extends before.store unlocked := by
    subst released
    cases task.heldOperation with
    | none => exact ⟨fun _ => rfl, extends_of_entries rfl rfl rfl⟩
    | some entry => exact ⟨by simp, extends_of_entries rfl rfl rfl⟩
  cases task.permit with
  | none => exact ⟨states, extension⟩
  | some id =>
    refine ⟨fun entry => ?_, extension.dropPermit id⟩
    simpa [Store.state?, (dropPermit_frame unlocked id).2] using states entry

theorem abandon_retries {index : Nat} {task : Task H} {store : Store H}
    (retried : PendingRetried before) (ordered : SeedingOrdered before)
    (allowed : EndHlsLeavesArmed before (.abandon index))
    (present : before.tasks[index]? = some task)
    (states : ∀ entry, store.state? entry = before.store.state? entry)
    (extension : Extends before.store store) :
    PendingRetried { before with store, tasks := before.tasks.eraseIdx index } ∧
      SeedingOrdered { before with store, tasks := before.tasks.eraseIdx index } := by
  obtain ⟨seeding, ⟨released, queue⟩, entries, -⟩ := extension
  refine ⟨fun infoHash entry state mapped found pending => ?_, ?_⟩
  · have earlier := (states entry).symm.trans found
    have mappedBefore := (entries infoHash entry mapped).resolve_right
      (Nat.not_le_of_lt (lt_of_state? earlier))
    by_cases armed : state.Armed
    · exact .inl armed
    · refine .inr (retried_of_earlier retried mappedBefore earlier pending rfl armed
        (fun flight => ?_) (seedingDisabled_of_after seeding
          (fun member => .inl (queue ▸ List.mem_append_left _ member))
          fun entries handling listed => ⟨entries, handling, listed⟩))
      rcases flight with ⟨other, member, pausing⟩ | listed
      · rcases mem_continueTask_of_mem none present member with kept | rfl
        · exact .inl (.inl ⟨other, kept, pausing⟩)
        · exact .inr (allowed other entry state.generation present pausing)
      · exact .inl (.inr listed)
  · refine seedingOrdered_of_append ordered seeding _ queue ?_ id
    simp [seedings]

theorem stepWorker_enablesSeeding {store next : Store H} {outcome : Outcome} {attempt : Nat}
    {worker rest : Worker H} (taken : stepWorker store outcome attempt worker = some (next, rest))
    (enables : rest.enablesSeeding = true) : worker.enablesSeeding = true := by
  cases stepWorker_move taken with
  | seedingOn | seedingOnPaused | seedingOnState | seedingOnGone | seedingOnResume => rfl
  | verifiedState => split at enables <;> cases enables
  | _ => cases enables

theorem worker_retries {outcome : Outcome} {attempt : Nat} {store : Store H} {worker : Worker H}
    (retried : PendingRetried before) (ordered : SeedingOrdered before)
    (stepped : stepWorker before.store outcome attempt before.worker = some (store, worker)) :
    PendingRetried { before with store, worker } ∧ SeedingOrdered { before with store, worker } := by
  obtain ⟨seeding, -, queue⟩ := stepWorker_constants stepped
  obtain ⟨-, -, entries, -⟩ := stepWorker_extends stepped
  refine ⟨fun infoHash entry state mapped found pending => ?_, ?_⟩
  · rcases stepWorker_retries stepped found pending with
      armed | listed | ⟨enabling, others, enables⟩ |
      ⟨previous, earlier, still, same, unarmed, other, running⟩
    · exact .inl armed
    · exact .inr (.inl (.inr listed))
    · refine .inr (.inr fun disabled => ?_)
      obtain ⟨off, handled, -⟩ := disabled
      have waits := (ordered (seeding ▸ off)).2 (by rw [enables]; rfl)
      exact handled (queue ▸ waits)
    · have mappedBefore := (entries infoHash entry mapped).resolve_right
        (Nat.not_le_of_lt (lt_of_state? earlier))
      refine .inr (retried_of_earlier retried mappedBefore earlier still same unarmed
        (fun flight => .inl ?_) (seedingDisabled_of_after seeding (fun member => .inl (queue ▸ member))
          fun listed handling member => ?_))
      · exact flight.elim .inl fun listed => absurd listed other
      · rw [handling] at stepped
        cases listed with
        | nil => cases member
        | cons target others =>
          rcases List.mem_cons.mp member with rfl | later
          · exact absurd handling (running others)
          · cases stepped
            exact ⟨others, rfl, later⟩
  · refine seedingOrdered_of_append ordered seeding [] (by simp [queue]) rfl fun enables => ?_
    exact stepWorker_enablesSeeding stepped enables

theorem receive_retries {command : PlaybackCommand H} {queue : List (PlaybackCommand H)}
    (retried : PendingRetried before) (ordered : SeedingOrdered before)
    (idle : before.worker = .idle) (waiting : before.store.queue = command :: queue) :
    PendingRetried { before with
        store := { before.store with queue }
        worker := receive { before.store with queue } command } ∧
      SeedingOrdered { before with
        store := { before.store with queue }
        worker := receive { before.store with queue } command } := by
  refine ⟨fun infoHash entry state mapped found pending => ?_, fun off => ?_⟩
  · by_cases armed : state.Armed
    · exact .inl armed
    · refine .inr (retried_of_earlier retried mapped found pending rfl armed (fun flight => .inl ?_) ?_)
      · rcases flight with ⟨task, member, pausing⟩ | listed
        · exact .inl ⟨task, member, pausing⟩
        · rw [idle] at listed
          cases listed
      · refine seedingDisabled_of_after rfl (fun member => ?_) fun entries handling => ?_
        · rw [waiting] at member
          rcases List.mem_cons.mp member with rfl | later
          · refine .inr ⟨_, rfl, List.mem_map.mpr ⟨⟨infoHash, entry⟩, ?_, rfl⟩⟩
            exact AList.mem_lookup_iff.mp mapped
          · exact .inl later
        · rw [idle] at handling
          cases handling
  · obtain ⟨last, -⟩ := ordered off
    rw [waiting] at last
    refine ⟨fun enabled => last (getLast?_seedings_cons command enabled), fun enables => ?_⟩
    · cases command with
      | seedingEnabled enabled =>
        cases enabled with
        | false => cases enables
        | true => exact mem_of_getLast?_seedings last
      | pieceVerified infoHash piece =>
        simp only [receive] at enables
        split at enables <;> cases enables
      | _ => cases enables

theorem step_retries {action : Action H} (retried : PendingRetried before)
    (ordered : SeedingOrdered before) (allowed : EndHlsLeavesArmed before action)
    (taken : before.step action = some after) : PendingRetried after ∧ SeedingOrdered after := by
  cases step_move taken with
  | task _ _ _ _ _ present stepped => exact task_retries retried ordered allowed present stepped
  | abandoned index task unlocked present released =>
    obtain ⟨states, extension⟩ := abandon_store released
    exact abandon_retries retried ordered allowed present states extension
  | worker _ _ _ _ stepped => exact worker_retries retried ordered stepped
  | received _ _ idle waiting => exact receive_retries retried ordered idle waiting
  | seedingSet enabled =>
    refine ⟨fun infoHash entry state mapped found pending => .inr (.inr fun disabled => ?_), fun off => ?_⟩
    · obtain ⟨off, handled, -⟩ := disabled
      cases show enabled = false from off
      exact handled (List.mem_append_right _ (List.mem_singleton_self _))
    · cases show enabled = false from off
      refine ⟨?_, fun _ => List.mem_append_right _ (List.mem_singleton_self _)⟩
      simp [send, seedings]
  | seedingTick | unmapped => exact ⟨retried, ordered⟩
  | ticked idle =>
    exact quiet_retries retried ordered (fun _ _ found _ => found) (fun _ _ found => .inl found)
      (fun _ member => member) (.inr ⟨idle, rfl⟩) rfl [] (by simp) rfl
  | called task =>
    exact quiet_retries retried ordered (fun _ _ found _ => found) (fun _ _ found => .inl found)
      (fun _ member => List.mem_append_left _ member) (.inl rfl) rfl [] (by simp) rfl
  | droppedPermit id =>
    obtain ⟨seeding, ⟨released, queue⟩, entries, -⟩ :=
      (extends_of_entries rfl rfl rfl : Extends before.store before.store).dropPermit id
    refine quiet_retries retried ordered (fun entry state found _ => ?_) entries
      (fun _ member => member) (.inl rfl) seeding _ queue (by simp [seedings])
    simpa [Store.state?, (dropPermit_frame before.store id).2] using found
  | registered infoHash =>
    obtain ⟨seeding, ⟨released, queue⟩, entries, -⟩ := extends_entry before.store infoHash
    exact quiet_retries retried ordered (fun _ _ found pending => rearmStep_entry found pending) entries
      (fun _ member => member) (.inl rfl) seeding _ queue (by simp [seedings])
  | removed infoHash =>
    refine quiet_retries retried ordered (fun _ _ found _ => found) (fun other entry found => .inl ?_)
      (fun _ member => List.mem_append_left _ member) (.inl rfl) rfl [] (by simp) rfl
    by_cases same : other = infoHash
    · subst same
      simp at found
    · exact (AList.lookup_erase_ne same).symm.trans found
  | layoutLoaded entry fileCount =>
    refine quiet_retries retried ordered (fun other state found _ => ?_) (fun _ _ found => .inl found)
      (fun _ member => member) (.inl rfl) rfl [] (by simp [updateCell]) rfl
    rwa [state?_updateCell] at found
    exact fun _ => rfl
  | replaced | droppedMetadata | verified | invalidated =>
    exact quiet_retries retried ordered (fun _ _ found _ => found) (fun _ _ found => .inl found)
      (fun _ member => member) (.inl rfl) rfl [_] rfl rfl
  | nativeSet | advanced =>
    exact quiet_retries retried ordered (fun _ _ found _ => found) (fun _ _ found => .inl found)
      (fun _ member => member) (.inl rfl) rfl [] (by simp [Store.setNative]) rfl

theorem always_pendingPauseRetried (actions : List (Action H))
    (armed : Meets EndHlsLeavesArmed Coordinator.step Coordinator.new actions) :
    Always PendingPauseRetried Coordinator.step Coordinator.new actions := by
  have both : Always (fun coordinator => PendingRetried coordinator ∧ SeedingOrdered coordinator)
      Coordinator.step Coordinator.new actions :=
    always_of_meets
      (fun _ _ _ ⟨retried, ordered⟩ permitted taken => step_retries retried ordered permitted taken)
      ⟨by simp [PendingRetried, Coordinator.new], nofun⟩ armed
  exact both.mono fun _ held => pendingPauseRetried_of_retried held.1

end Steps

-- Seeding is off and file 0 is watched over HLS; the playback ends, up to the point where the pause
-- of `end_hls` waits for its confirmation.
def endHlsUpToConfirmation : List (Action Nat) :=
  let outcome : Outcome := ⟨true, false, 0, []⟩
  [.setSeedingEnabled false, .receive, .worker outcome 0, .setNative 7 (some ⟨false, true⟩),
    .call (.refreshEntry 7 1 0 false), .task 0 outcome, .task 0 outcome, .abandon 0,
    .call (.endEntry 7 0), .task 0 outcome, .task 0 outcome, .task 0 outcome, .task 0 outcome,
    .task 0 outcome, .task 0 outcome, .task 0 outcome]

theorem end_hls_confirmed_is_retried :
    Meets EndHlsLeavesArmed Coordinator.step Coordinator.new
        (endHlsUpToConfirmation ++ [.task 0 ⟨true, false, 0, []⟩]) ∧
      Always PendingPauseRetried Coordinator.step Coordinator.new
        (endHlsUpToConfirmation ++ [.task 0 ⟨true, false, 0, []⟩]) := by
  have armed : Meets EndHlsLeavesArmed Coordinator.step Coordinator.new
      (endHlsUpToConfirmation ++ [.task 0 ⟨true, false, 0, []⟩]) := by
    refine meets_cons rfl trivial (meets_cons rfl trivial (meets_cons rfl trivial (meets_cons rfl trivial
      (meets_cons rfl trivial (meets_cons rfl ?_ (meets_cons rfl ?_ (meets_cons rfl ?_
      (meets_cons rfl trivial (meets_cons rfl ?_ (meets_cons rfl ?_ (meets_cons rfl ?_
      (meets_cons rfl ?_ (meets_cons rfl ?_ (meets_cons rfl ?_ (meets_cons rfl ?_
      (meets_cons rfl ?_ trivial))))))))))))))))
    -- The abandoned refresh has begun no pause, and no section of the pause fails.
    all_goals
      rintro task entry generation ⟨⟩
      nofun
  exact ⟨armed, always_pendingPauseRetried _ armed⟩

theorem failed_end_hls_is_not_retried :
    ∃ final state, run Coordinator.step Coordinator.new
        (endHlsUpToConfirmation ++ [.task 0 ⟨false, false, 0, []⟩]) = some final ∧
      final.store.entries.lookup 7 = some 0 ∧ final.store.state? 0 = some state ∧
      state.phase = .pausePending ∧ state.idleDeadline = none ∧ final.tasks = [] ∧
      final.worker = .idle ∧ final.store.queue = [] ∧ final.store.seedingEnabled = false ∧
      ¬ PendingPauseRetried final := by
  refine ⟨_, _, rfl, rfl, rfl, rfl, rfl, rfl, rfl, rfl, rfl, fun retried => ?_⟩
  refine retried 7 0 _ rfl rfl rfl ?_ ⟨rfl, ?_, nofun⟩ rfl rfl
  · rintro generation (⟨task, member, -⟩ | member) <;> cases member
  · exact List.not_mem_nil

end StreamServer.Playback
