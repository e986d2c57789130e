import StreamServer.Playback.MetadataPause

set_option autoImplicit false

namespace StreamServer.Playback

open TorrentPlaybackState Store Runs

variable {H : Type}

theorem continueTask_perm {tasks : List (Task H)} {index : Nat} {task : Task H}
    (present : tasks[index]? = some task) (rest : Option (Task H)) :
    ∃ others, tasks.Perm (task :: others) ∧
      (continueTask tasks index rest).Perm (rest.toList ++ others) := by
  obtain ⟨inside, rfl⟩ := List.getElem?_eq_some_iff.mp present
  refine ⟨tasks.eraseIdx index, (List.getElem_cons_eraseIdx_perm inside).symm, ?_⟩
  cases rest with
  | none => exact .refl _
  | some next => exact List.set_perm_cons_eraseIdx inside next

variable [DecidableEq H]

def Coordinator.touches (coordinator : Coordinator H) : Action H → Option Nat
  | .task index _ => (coordinator.tasks[index]?.bind Task.acquiresMetadata).map (·.2)
  | .worker _ _ => coordinator.worker.lowersMetadata
  | _ => none

variable {infoHash : H} {before after : Coordinator H} {action : Action H}

theorem step_metadataFrame (taken : before.step action = some after)
    (mapped : action ≠ .removeTorrent infoHash) :
    MetadataFrame infoHash (before.touches action) before.store after.store := by
  cases action with
  | task index outcome =>
    obtain ⟨task, present, continued⟩ := Option.bind_eq_some_iff.mp taken
    obtain ⟨⟨store, rest⟩, stepped, equal⟩ := Option.bind_eq_some_iff.mp continued
    obtain rfl := Option.some.inj equal
    refine (stepTask_extends stepped).metadataFrame ?_
    simpa [Coordinator.touches, present] using (stepTask_metadata stepped).2
  | worker outcome attempt =>
    obtain ⟨⟨store, worker⟩, stepped, rfl⟩ := Option.map_eq_some_iff.mp taken
    exact (stepWorker_extends stepped).metadataFrame (stepWorker_metadata stepped).2
  | dropMetadataPermit index =>
    obtain ⟨permit, -, rest⟩ := Option.bind_eq_some_iff.mp taken
    cases rest
    exact ⟨fun _ mapped => mapped, fun _ mapped => .inl mapped, counterStep_of_states fun _ => rfl⟩
  | _ => exact (step_unmoved taken mapped rfl).1.frame

theorem target_of_mapped {coordinator : Coordinator H} (coherent : EntriesCoherent coordinator)
    {target : H × Nat} (mapped : coordinator.store.entries.lookup target.1 = some target.2) :
    target.2 < coordinator.store.cells.length ∧
      (target.1 = infoHash ↔ coordinator.store.entries.lookup infoHash = some target.2) := by
  obtain ⟨inside, own⟩ := (coherent false).mapped target.1 target.2 mapped
  refine ⟨inside, fun same => same ▸ mapped, fun found => ?_⟩
  exact (own infoHash found).symm

theorem lookup_entry_self (store : Store H) (other : H) :
    (store.entry other).2.entries.lookup other = some (store.entry other).1 := by
  rw [lookup_entry, if_pos rfl]

theorem step_targets (covered : MetadataCovered infoHash before)
    (taken : before.step action = some after) (mapped : action ≠ .removeTorrent infoHash)
    {target : H × Nat} (aims : (∃ task ∈ after.tasks, task.fetching = some target) ∨
      target ∈ after.worker.scanning) :
    target.2 < after.store.cells.length ∧
      (target.1 = infoHash ↔ after.store.entries.lookup infoHash = some target.2) := by
  have frame := step_metadataFrame taken mapped
  have transfer (earlier : target.2 < before.store.cells.length ∧
      (target.1 = infoHash ↔ before.store.entries.lookup infoHash = some target.2)) :
      target.2 < after.store.cells.length ∧
        (target.1 = infoHash ↔ after.store.entries.lookup infoHash = some target.2) := by
    refine ⟨(step_fence taken).inside covered.fenced earlier.1, fun same => ?_, fun found => ?_⟩
    · exact frame.kept target.2 (earlier.2.mp same)
    · exact earlier.2.mpr ((frame.fresh target.2 found).resolve_right (Nat.not_le_of_lt earlier.1))
  have coherent := step_coherent covered.coherent taken
  have ofTask {task : Task H} (member : task ∈ before.tasks) (fetches : task.fetching = some target) :=
    transfer (covered.targets target (.inl ⟨task, member, fetches⟩))
  have ofWorker (member : target ∈ before.worker.scanning) :=
    transfer (covered.targets target (.inr member))
  cases action with
  | task index outcome =>
    obtain ⟨task, present, continued⟩ := Option.bind_eq_some_iff.mp taken
    obtain ⟨⟨store, rest⟩, stepped, equal⟩ := Option.bind_eq_some_iff.mp continued
    obtain rfl := Option.some.inj equal
    have was := List.mem_of_getElem? present
    rcases aims with ⟨other, member, fetches⟩ | scanned
    · rcases mem_continueTask member with earlier | next
      · exact ofTask earlier fetches
      · cases next
        rcases stepTask_fetching stepped fetches with
          ⟨-, -, found, rfl⟩ | ⟨rfl, -⟩ | ⟨torrent, rfl, -, -, -⟩
        · refine target_of_mapped coherent ?_
          rw [found]
          exact lookup_entry_self before.store target.1
        · exact ofTask was rfl
        · exact ofTask was rfl
    · exact ofWorker scanned
  | worker outcome attempt =>
    obtain ⟨⟨store, worker⟩, stepped, rfl⟩ := Option.map_eq_some_iff.mp taken
    rcases aims with ⟨other, member, fetches⟩ | scanned
    · exact ofTask member fetches
    · exact ofWorker ((stepWorker_atMetadata stepped).1 target scanned)
  | dropMetadataPermit index =>
    obtain ⟨permit, -, rest⟩ := Option.bind_eq_some_iff.mp taken
    cases rest
    rcases aims with ⟨other, member, fetches⟩ | scanned
    · exact ofTask member fetches
    · exact ofWorker scanned
  | _ =>
    have unmoved := (step_unmoved taken mapped rfl).1
    rcases aims with ⟨other, member, fetches⟩ | scanned
    · rcases unmoved.fetching other member with earlier | nothing
      · exact ofTask earlier fetches
      · rw [nothing] at fetches
        cases fetches
    · rcases unmoved.scanning target scanned with earlier | found
      · exact ofWorker earlier
      · exact transfer (target_of_mapped covered.coherent found)

theorem releasesFor_elsewhere (infoHash : H) {worker : Worker H} (store : Store H) (elsewhere : worker.atMetadata = false) :
    worker.releasesFor store infoHash = 0 ∧ worker.lowersMetadata = none := by
  cases worker with
  | metadataEntry | metadataState => cases elsewhere
  | _ => exact ⟨rfl, rfl⟩

theorem step_releasing (covered : MetadataCovered infoHash before)
    (taken : before.step action = some after) (mapped : action ≠ .removeTorrent infoHash) {entry : Nat}
    (releases : after.worker.lowersMetadata = some entry) : entry < after.store.cells.length := by
  have ofWorker (earlier : before.worker.lowersMetadata = some entry) : entry < after.store.cells.length :=
    (step_fence taken).inside covered.fenced (covered.releasing entry earlier)
  have coherent := step_coherent covered.coherent taken
  cases action with
  | task index outcome =>
    obtain ⟨task, present, continued⟩ := Option.bind_eq_some_iff.mp taken
    obtain ⟨⟨store, rest⟩, stepped, equal⟩ := Option.bind_eq_some_iff.mp continued
    obtain rfl := Option.some.inj equal
    exact ofWorker releases
  | worker outcome attempt =>
    obtain ⟨⟨store, worker⟩, stepped, rfl⟩ := Option.map_eq_some_iff.mp taken
    rcases (stepWorker_atMetadata stepped).2 with ⟨other, -, rfl, rfl⟩ | ⟨_, -, rfl, -⟩ | ⟨-, quiet⟩
    · cases releases
      exact ((coherent false).mapped other _ (lookup_entry_self before.store other)).1
    · cases releases
    · cases (releasesFor_elsewhere infoHash store quiet).2.symm.trans releases
  | dropMetadataPermit index =>
    obtain ⟨permit, -, rest⟩ := Option.bind_eq_some_iff.mp taken
    cases rest
    exact ofWorker releases
  | _ => exact ofWorker ((step_unmoved taken mapped rfl).1.releasing entry releases)

theorem metadataCount_mapped {store : Store H} {entry : Nat}
    (mapped : store.entries.lookup infoHash = some entry) :
    store.metadataCount infoHash = (store.metadataCount? entry).getD 0 := by
  rw [Store.metadataCount, mapped]
  rfl

theorem heldMetadata_append (infoHash : H) (store : Store H) (permit : LibtorrentMetadataPermit H)
    {next : Store H} (appended : next.metadataPermits = store.metadataPermits ++ [permit]) :
    next.heldMetadata infoHash =
      store.heldMetadata infoHash + if permit.infoHash = infoHash then 1 else 0 := by
  rw [Store.heldMetadata, appended, List.countP_append, List.countP_singleton]
  simp [Store.heldMetadata]

theorem dropMetadataPermit_counts (infoHash : H) {store : Store H} {index : Nat}
    {permit : LibtorrentMetadataPermit H} (found : store.metadataPermits[index]? = some permit) :
    let dropped := ({ store with metadataPermits := store.metadataPermits.eraseIdx index } : Store H).send
      (.releaseMetadata permit)
    dropped.heldMetadata infoHash + (if permit.infoHash = infoHash then 1 else 0) =
        store.heldMetadata infoHash ∧
      dropped.queuedMetadata infoHash =
        store.queuedMetadata infoHash + if permit.infoHash = infoHash then 1 else 0 := by
  obtain ⟨inside, rfl⟩ := List.getElem?_eq_some_iff.mp found
  have split := (List.getElem_cons_eraseIdx_perm inside).countP_eq (·.infoHash == infoHash)
  constructor
  · simpa [List.countP_cons, Store.heldMetadata, Store.send] using split
  · simp [Store.queuedMetadata, Store.send, PlaybackCommand.releasesMetadata, List.countP_singleton]

theorem step_counted (covered : MetadataCovered infoHash before)
    (taken : before.step action = some after) (mapped : action ≠ .removeTorrent infoHash) :
    after.unreleasedMetadata infoHash ≤ after.store.metadataCount infoHash := by
  have frame := step_metadataFrame taken mapped
  have counted := covered.counted
  have coherent := step_coherent covered.coherent taken
  have moved : before.worker.releasesFor after.store infoHash ≤
      before.worker.releasesFor before.store infoHash := releasesFor_le frame covered.releasing
  have grown (untouched : ∀ entry, before.store.entries.lookup infoHash = some entry →
      before.touches action ≠ some entry) :
      before.store.metadataCount infoHash ≤ after.store.metadataCount infoHash :=
    metadataCount_le frame untouched
  unfold Coordinator.unreleasedMetadata at counted ⊢
  cases action with
  | task index outcome =>
    obtain ⟨task, present, continued⟩ := Option.bind_eq_some_iff.mp taken
    obtain ⟨⟨store, rest⟩, stepped, equal⟩ := Option.bind_eq_some_iff.mp continued
    obtain rfl := Option.some.inj equal
    obtain ⟨released, queue⟩ := (stepTask_extends stepped).queue
    have queued : store.queuedMetadata infoHash = before.store.queuedMetadata infoHash :=
      queuedMetadata_releases infoHash released queue
    simp only at moved ⊢
    cases acquires : task.acquiresMetadata with
    | none =>
      have held : store.heldMetadata infoHash = before.store.heldMetadata infoHash := by
        rw [Store.heldMetadata, (stepTask_constants stepped).2 acquires]
        rfl
      have count := grown (by simp [Coordinator.touches, present, acquires])
      simp only at count
      omega
    | some target =>
      obtain ⟨other, entry⟩ := target
      obtain rfl : task = .metadataAcquire other entry := by
        cases task <;> cases acquires
        rfl
      obtain ⟨-, own⟩ := covered.targets (other, entry) (.inl ⟨_, List.mem_of_getElem? present, rfl⟩)
      simp only at own
      have other_grown (different : other ≠ infoHash) :
          before.store.metadataCount infoHash ≤ store.metadataCount infoHash := by
        refine grown fun mappedEntry found touched => different (own.mpr ?_)
        have same : entry = mappedEntry := by
          simpa [Coordinator.touches, present, Task.acquiresMetadata] using touched
        rw [same]
        exact found
      obtain ⟨-, entries, ⟨-, -, permits, counters⟩ |
        ⟨torrent, state, -, found, permits, counters, -⟩⟩ := stepTask_acquires stepped
      · have held : store.heldMetadata infoHash = before.store.heldMetadata infoHash := by
          rw [Store.heldMetadata, permits]
          rfl
        by_cases same : other = infoHash
        · have mappedBefore := own.mp same
          have mappedAfter : store.entries.lookup infoHash = some entry := entries ▸ mappedBefore
          rw [metadataCount_mapped mappedAfter, counters, ← metadataCount_mapped mappedBefore]
          omega
        · have count := other_grown same
          omega
      · have held := heldMetadata_append infoHash before.store _ permits
        by_cases same : other = infoHash
        · have mappedBefore := own.mp same
          have mappedAfter : store.entries.lookup infoHash = some entry := entries ▸ mappedBefore
          have before_count : before.store.metadataCount infoHash = state.metadataPermits := by
            rw [metadataCount_mapped mappedBefore, metadataCount?, found]
            rfl
          have after_count : store.metadataCount infoHash = state.metadataPermits + 1 := by
            rw [metadataCount_mapped mappedAfter, counters]
            rfl
          simp only [same, if_true] at held
          omega
        · have count := other_grown same
          simp only [same, if_false] at held
          omega
  | worker outcome attempt =>
    obtain ⟨⟨store, worker⟩, stepped, rfl⟩ := Option.map_eq_some_iff.mp taken
    obtain ⟨-, permits, queue⟩ := stepWorker_constants stepped
    have held : store.heldMetadata infoHash = before.store.heldMetadata infoHash := by
      rw [Store.heldMetadata, permits]
      rfl
    have queued : store.queuedMetadata infoHash = before.store.queuedMetadata infoHash := by
      rw [Store.queuedMetadata, queue]
      rfl
    simp only at grown ⊢
    rcases (stepWorker_atMetadata stepped).2 with
      ⟨other, was, rfl, rfl⟩ | ⟨entry, was, rfl, rfl⟩ | ⟨idleBefore, idleAfter⟩
    · have count := grown (by simp [Coordinator.touches, was, Worker.lowersMetadata])
      have released : (Worker.metadataState (before.store.entry other).1).releasesFor
          (before.store.entry other).2 infoHash ≤ before.worker.releasesFor before.store infoHash := by
        simp only [was, Worker.releasesFor]
        split
        next found =>
          have own := (coherent false).mapped other _ (lookup_entry_self before.store other)
          rw [if_pos (own.2 infoHash found).symm]
        next => exact Nat.zero_le _
      omega
    · simp only [was, Worker.releasesFor] at counted ⊢
      by_cases own : before.store.entries.lookup infoHash = some entry
      · rw [if_pos own, metadataCount_mapped own] at counted
        have ownAfter : (before.store.updateState entry
            (·.releaseMetadata before.store.now)).entries.lookup infoHash = some entry := own
        have lowered : (before.store.updateState entry (·.releaseMetadata before.store.now)).metadataCount
            infoHash = (before.store.metadataCount? entry).getD 0 - 1 := by
          rw [metadataCount_mapped ownAfter, metadataCount?, metadataCount?, state?_updateState]
          cases before.store.state? entry with
          | none => rfl
          | some state => simp [releaseMetadata, scheduleIdleIfNeeded_metadataPermits]
        omega
      · have count := grown fun mappedEntry found touched => own (by
          simpa [Coordinator.touches, was, Worker.lowersMetadata, found] using touched.symm)
        omega
    · obtain ⟨releasedBefore, lowers⟩ := releasesFor_elsewhere infoHash before.store idleBefore
      have count := grown (by simp [Coordinator.touches, lowers])
      have releasedAfter := (releasesFor_elsewhere infoHash store idleAfter).1
      omega
  | dropMetadataPermit index =>
    obtain ⟨permit, found, rest⟩ := Option.bind_eq_some_iff.mp taken
    cases rest
    have count := grown (by simp [Coordinator.touches])
    obtain ⟨held, queued⟩ := dropMetadataPermit_counts infoHash found
    simp only at moved count ⊢
    omega
  | _ =>
    have unmoved := (step_unmoved taken mapped rfl).1
    have count := grown (by simp [Coordinator.touches])
    have queued := unmoved.queued
    have still : after.worker.releasesFor after.store infoHash ≤
        after.worker.releasesFor before.store infoHash :=
      releasesFor_le unmoved.frame fun entry releases =>
        covered.releasing entry (unmoved.releasing entry releases)
    rw [unmoved.held]
    omega

theorem step_held_le (taken : before.step action = some after) (mapped : action ≠ .removeTorrent infoHash)
    (other : before.acquiresMetadata action ≠ some infoHash) :
    after.store.heldMetadata infoHash ≤ before.store.heldMetadata infoHash := by
  cases action with
  | task index outcome =>
    obtain ⟨task, present, continued⟩ := Option.bind_eq_some_iff.mp taken
    obtain ⟨⟨store, rest⟩, stepped, equal⟩ := Option.bind_eq_some_iff.mp continued
    obtain rfl := Option.some.inj equal
    cases acquires : task.acquiresMetadata with
    | none =>
      have same := (stepTask_constants stepped).2 acquires
      simp [Store.heldMetadata, same]
    | some target =>
      obtain ⟨acquired, entry⟩ := target
      obtain rfl : task = .metadataAcquire acquired entry := by
        cases task <;> cases acquires
        rfl
      have different : acquired ≠ infoHash := by
        simpa [Coordinator.acquiresMetadata, present, Task.acquiresMetadata] using other
      obtain ⟨-, -, ⟨-, -, permits, -⟩ | ⟨torrent, state, -, -, permits, -, -⟩⟩ :=
        stepTask_acquires stepped
      · simp [Store.heldMetadata, permits]
      · have held := heldMetadata_append infoHash before.store _ permits
        simp only [different, if_false] at held
        exact held.le
  | worker outcome attempt =>
    obtain ⟨⟨store, worker⟩, stepped, rfl⟩ := Option.map_eq_some_iff.mp taken
    simp [Store.heldMetadata, (stepWorker_constants stepped).2.1]
  | dropMetadataPermit index =>
    obtain ⟨permit, found, rest⟩ := Option.bind_eq_some_iff.mp taken
    cases rest
    have held := (dropMetadataPermit_counts infoHash found).1
    simp only at held ⊢
    omega
  | _ => exact (step_unmoved taken mapped rfl).1.held.le

omit [DecidableEq H] in
theorem scanIdle_uncounted {state : TorrentPlaybackState} {tokens : CancellationTokens.Tokens}
    {now generation : Nat} (due : (state.scanIdle tokens now).1 = some generation) :
    state.metadataPermits = 0 := by
  rw [← expireHls_metadataPermits state now]
  unfold scanIdle at due
  simp only at due
  split at due
  next => cases due
  next isDue =>
    simp only [idlePauseDue, hasActivity, Bool.not_eq_true', Bool.not_eq_false, Bool.and_eq_true,
      Bool.or_eq_false_iff, decide_eq_false_iff_not, Nat.not_lt] at isDue
    exact Nat.le_zero.mp isDue.1.1.1.2

theorem held_of_due (covered : MetadataCovered infoHash before)
    (due : before.findsDue action = some infoHash) : before.store.heldMetadata infoHash = 0 := by
  cases action with
  | worker outcome attempt =>
    simp only [Coordinator.findsDue] at due
    cases scans : before.worker with
    | scan entries scanNow decided =>
      rw [scans] at due
      cases entries with
      | nil => cases due
      | cons target entries =>
        obtain ⟨state, found, decides⟩ := Option.bind_eq_some_iff.mp due
        obtain ⟨generation, dueNow, own⟩ := Option.map_eq_some_iff.mp decides
        have aimed := covered.targets target (.inr (by simp [scans, Worker.scanning]))
        have counted := covered.counted
        rw [metadataCount_mapped (aimed.2.mp own), metadataCount?, found] at counted
        simp only [Option.map_some, Option.getD_some, scanIdle_uncounted dueNow] at counted
        unfold Coordinator.unreleasedMetadata at counted
        omega
    | _ =>
      rw [scans] at due
      cases due
  | _ => cases due

theorem step_pending (covered : MetadataCovered infoHash before)
    (allowed : RespectsMetadata infoHash before action) (taken : before.step action = some after)
    {pause : DecidedPause H} (pausing : pause ∈ after.pauses) (own : pause.1.infoHash = infoHash)
    (still : after.store.willPause pause) : after.store.heldMetadata infoHash = 0 := by
  have settled (none : before.store.heldMetadata infoHash = 0)
      (other : before.acquiresMetadata action ≠ some infoHash) :
      after.store.heldMetadata infoHash = 0 :=
    Nat.le_zero.mp (none ▸ step_held_le taken allowed.mapped other)
  rcases step_pause covered.fenced covered.reached taken pausing still with
    ⟨earlier, member, same, will⟩ | decided | due
  · have ownEarlier : earlier.1.infoHash = infoHash := same ▸ own
    refine settled (covered.pending earlier member ownEarlier will) fun acquires => ?_
    exact (allowed.acquired acquires).1 earlier member ownEarlier will
  · rw [own] at decided
    refine settled (allowed.decided decided) fun acquires => ?_
    cases action with
    | task index outcome =>
      obtain ⟨task, present, decides⟩ := Option.bind_eq_some_iff.mp decided
      simp only [Coordinator.acquiresMetadata, present, Option.bind_some] at acquires
      cases task with
      | metadataAcquire => cases decides
      | _ => cases acquires
    | _ => cases acquires
  · rw [own] at due
    refine settled (held_of_due covered due) fun acquires => ?_
    cases action <;> first | cases due | cases acquires

omit [DecidableEq H] in
theorem pause_of_moves {coordinator : Coordinator H} {pause : DecidedPause H}
    (moves : coordinator.moves action = some pause) : pause ∈ coordinator.pauses := by
  cases action with
  | task index outcome =>
    obtain ⟨task, present, pauses⟩ := Option.bind_eq_some_iff.mp moves
    refine List.mem_append_left _ (List.mem_filterMap.mpr ⟨task, ?_, pauses⟩)
    exact List.mem_of_getElem? present
  | worker outcome attempt =>
    refine List.mem_append_right _ ?_
    simp only [Coordinator.moves] at moves
    cases at_ : coordinator.worker with
    | verifiedPause call pc =>
      rw [at_] at moves
      cases moves
      exact List.mem_singleton.mpr rfl
    | join attempts =>
      rw [at_] at moves
      obtain ⟨attempt, present, running⟩ := Option.bind_eq_some_iff.mp moves
      exact List.mem_filterMap.mpr ⟨attempt, List.mem_of_getElem? present, running⟩
    | _ =>
      rw [at_] at moves
      cases moves
  | _ => cases moves

theorem held_of_pauses (covered : MetadataCovered infoHash before)
    (pauses : nativelyPauses (before.moves action) = some infoHash) :
    before.store.heldMetadata infoHash = 0 := by
  cases moves : before.moves action with
  | none =>
    rw [moves] at pauses
    cases pauses
  | some pause =>
    rw [moves] at pauses
    obtain ⟨call, pc⟩ := pause
    cases pc <;> cases pauses
    exact covered.pending _ (pause_of_moves moves) rfl trivial

theorem acquires_of_announces {store next : Store H} {outcome : Outcome} {task rest : Task H}
    (stepped : stepTask store outcome task = some (next, some rest))
    (announces : rest.announces infoHash = true) : task.acquiresMetadata ≠ none := by
  cases rest with
  | metadataAnnounce other entry isPaused =>
    rcases stepTask_fetching stepped rfl with
      ⟨-, absurd, -⟩ | ⟨-, absurd⟩ | ⟨torrent, rfl, -, -, -⟩
    · cases absurd
    · cases absurd
    · exact Option.some_ne_none _
  | _ => cases announces

theorem step_announcing (covered : MetadataCovered infoHash before)
    (allowed : RespectsMetadata infoHash before action) (taken : before.step action = some after) :
    after.announcing infoHash ≤ after.store.heldMetadata infoHash := by
  have bounded := covered.announcing
  cases action with
  | task index outcome =>
    obtain ⟨task, present, continued⟩ := Option.bind_eq_some_iff.mp taken
    obtain ⟨⟨store, rest⟩, stepped, equal⟩ := Option.bind_eq_some_iff.mp continued
    obtain rfl := Option.some.inj equal
    obtain ⟨others, earlier, later⟩ := continueTask_perm present rest
    have countBefore := earlier.countP_eq (·.announces infoHash)
    have countAfter := later.countP_eq (·.announces infoHash)
    simp only [List.countP_cons, List.countP_append] at countBefore countAfter
    simp only [Coordinator.announcing] at bounded ⊢
    rw [countAfter]
    cases acquires : task.acquiresMetadata with
    | none =>
      have quiet : rest.toList.countP (·.announces infoHash) = 0 := by
        rw [List.countP_eq_zero]
        intro next member announces
        obtain rfl := Option.mem_toList.mp member
        exact absurd acquires (acquires_of_announces stepped announces)
      rw [Store.heldMetadata, (stepTask_constants stepped).2 acquires]
      simp only [Store.heldMetadata] at bounded
      omega
    | some target =>
      obtain ⟨other, entry⟩ := target
      obtain rfl : task = .metadataAcquire other entry := by
        cases task <;> cases acquires
        rfl
      have silent : (Task.metadataAcquire other entry).announces infoHash = false := rfl
      obtain ⟨-, -, ⟨-, rfl, permits, -⟩ | ⟨torrent, state, -, -, permits, -, rfl⟩⟩ :=
        stepTask_acquires stepped
      · rw [Store.heldMetadata, permits]
        simp only [Store.heldMetadata] at bounded
        simp only [silent, Bool.false_eq_true, if_false] at countBefore
        simp only [Option.toList_none, List.countP_nil]
        omega
      · have held := heldMetadata_append infoHash before.store _ permits
        have announced : (if torrent.hasMetadata then none
            else some (Task.metadataAnnounce other entry torrent.isPaused)).toList.countP
              (·.announces infoHash) ≤ if other = infoHash then 1 else 0 := by
          cases torrent.hasMetadata <;> simp [Task.announces, List.countP_singleton]
        simp only [silent, Bool.false_eq_true, if_false] at countBefore held
        omega
  | worker outcome attempt =>
    obtain ⟨⟨store, worker⟩, stepped, rfl⟩ := Option.map_eq_some_iff.mp taken
    rw [Store.heldMetadata, (stepWorker_constants stepped).2.1]
    exact bounded
  | dropMetadataPermit index =>
    obtain ⟨permit, found, rest⟩ := Option.bind_eq_some_iff.mp taken
    cases rest
    have held := (dropMetadataPermit_counts infoHash found).1
    have fewer := allowed.dropped index permit rfl found
    simp only [Coordinator.announcing] at held fewer bounded ⊢
    split at held
    next own =>
      have room := fewer own
      omega
    next => omega
  | _ =>
    have unmoved := (step_unmoved taken allowed.mapped rfl).1
    have fewer := unmoved.announcing
    rw [unmoved.held]
    omega

theorem step_unpaused (covered : MetadataCovered infoHash before)
    (allowed : RespectsMetadata infoHash before action) (taken : before.step action = some after)
    {entry : Nat} (announces : .metadataAnnounce infoHash entry false ∈ after.tasks) :
    after.store.Unpaused infoHash := by
  have held (earlier : .metadataAnnounce infoHash entry false ∈ before.tasks) :
      0 < before.announcing infoHash ∧ nativelyPauses (before.moves action) ≠ some infoHash := by
    have positive : 0 < before.announcing infoHash :=
      List.countP_pos_iff.mpr ⟨_, earlier, by simp [Task.announces]⟩
    refine ⟨positive, fun pauses => ?_⟩
    have bounded := covered.announcing
    rw [held_of_pauses covered pauses] at bounded
    omega
  cases action with
  | task index outcome =>
    obtain ⟨task, present, continued⟩ := Option.bind_eq_some_iff.mp taken
    obtain ⟨⟨store, rest⟩, stepped, equal⟩ := Option.bind_eq_some_iff.mp continued
    obtain rfl := Option.some.inj equal
    rcases mem_continueTask announces with earlier | next
    · refine (stepTask_metadata stepped).1 infoHash ?_ (covered.unpaused entry earlier)
      simpa [Coordinator.moves, present] using (held earlier).2
    · cases next
      rcases stepTask_fetching stepped rfl with
        ⟨-, absurd, -⟩ | ⟨-, absurd⟩ | ⟨torrent, -, found, native, announced⟩
      · cases absurd
      · cases absurd
      · intro other present
        rw [native, found] at present
        cases present
        exact (Task.metadataAnnounce.inj announced).2.2.symm
  | worker outcome attempt =>
    obtain ⟨⟨store, worker⟩, stepped, rfl⟩ := Option.map_eq_some_iff.mp taken
    exact (stepWorker_metadata stepped).1 infoHash (held announces).2 (covered.unpaused entry announces)
  | dropMetadataPermit index =>
    obtain ⟨permit, found, rest⟩ := Option.bind_eq_some_iff.mp taken
    cases rest
    exact covered.unpaused entry announces
  | _ =>
    obtain ⟨unmoved, native⟩ := step_unmoved taken allowed.mapped rfl
    have earlier := (unmoved.fetching _ announces).resolve_right (Option.some_ne_none _)
    have unpaused := covered.unpaused entry earlier
    rcases native with same | ⟨other, torrent, set, stored⟩
    · exact fun found present => unpaused found (same ▸ present)
    · intro found present
      rw [stored] at present
      by_cases own : infoHash = other
      · subst own
        simp only [Store.setNative, Function.update_self] at present
        exact allowed.native found (by rw [set, present]) (held earlier).1
      · simp only [Store.setNative, Function.update_of_ne own] at present
        exact unpaused found present

theorem step_covered (covered : MetadataCovered infoHash before)
    (allowed : RespectsMetadata infoHash before action) (taken : before.step action = some after) :
    MetadataCovered infoHash after where
  coherent := step_coherent covered.coherent taken
  fenced := (step_fence taken).fenced covered.fenced
  reached := step_reached covered.fenced covered.reached taken
  targets _ aims := step_targets covered taken allowed.mapped aims
  releasing _ releases := step_releasing covered taken allowed.mapped releases
  counted := step_counted covered taken allowed.mapped
  pending _ pausing own still := step_pending covered allowed taken pausing own still
  announcing := step_announcing covered allowed taken
  unpaused _ announces := step_unpaused covered allowed taken announces

theorem undisturbed_of_covered (covered : MetadataCovered infoHash before)
    (allowed : RespectsMetadata infoHash before action) :
    MetadataUndisturbed infoHash before action := by
  refine ⟨fun issues => ?_, fun returns after taken => ?_⟩
  · exact held_of_pauses covered (Option.filter_eq_some_iff.mp issues).1
  cases action with
  | task index outcome =>
    obtain ⟨task, present, continued⟩ := Option.bind_eq_some_iff.mp taken
    obtain ⟨⟨store, rest⟩, stepped, equal⟩ := Option.bind_eq_some_iff.mp continued
    obtain rfl := Option.some.inj equal
    simp only [Coordinator.returnsMetadata, present] at returns
    cases task with
    | metadataAcquire other entry =>
      simp only [Option.ite_none_right_eq_some, Option.some.injEq] at returns
      obtain ⟨has, rfl⟩ := returns
      obtain ⟨native, -⟩ := stepTask_acquires stepped
      intro torrent found
      rw [native] at found
      rw [found] at has
      refine (allowed.acquired ?_).2 torrent found has
      simp [Coordinator.acquiresMetadata, present, Task.acquiresMetadata]
    | metadataAnnounce other entry isPaused =>
      cases returns
      cases stepped
      intro torrent found
      simp only [Store.setNative, Store.unlock, Store.updateCell, Function.update_self] at found
      obtain ⟨earlier, was, rfl⟩ := Option.map_eq_some_iff.mp found
      cases isPaused with
      | true => rfl
      | false => exact covered.unpaused entry (List.mem_of_getElem? present) earlier was
    | _ => cases returns
  | _ => cases returns

theorem metadataCovered_new (infoHash : H) : MetadataCovered infoHash Coordinator.new where
  coherent := entriesCoherent_new
  fenced := ⟨nofun, nofun, nofun⟩
  reached := nofun
  targets := by simp [Coordinator.new, Worker.scanning]
  releasing := nofun
  counted := Nat.zero_le _
  pending := nofun
  announcing := le_refl _
  unpaused := nofun

theorem meets_metadataUndisturbed (infoHash : H) (actions : List (Action H))
    (respects : Meets (RespectsMetadata infoHash) Coordinator.step Coordinator.new actions) :
    Meets (MetadataUndisturbed infoHash) Coordinator.step Coordinator.new actions :=
  meets_of_meets (fun _ _ _ covered allowed taken => step_covered covered allowed taken)
    (fun _ _ _ covered allowed _ => undisturbed_of_covered covered allowed)
    (metadataCovered_new infoHash) respects

-- Seeding is off. A torrent without metadata is fetched for and let go, and has been idle for long
-- enough: its pause is decided.
def idlePauseDecided : List (Action Nat) :=
  let outcome : Outcome := ⟨true, false, 0, []⟩
  [.setNative 7 (some ⟨true, false⟩), .setSeedingEnabled false, .receive, .worker outcome 0,
    .call (.metadataEntry 7), .task 0 outcome, .task 0 outcome, .task 0 outcome, .task 0 outcome,
    .dropMetadataPermit 0, .receive, .worker outcome 0, .worker outcome 0, .advance 15000, .tick,
    .worker outcome 0, .worker outcome 0]

def idlePausePerformed : List (Action Nat) :=
  let outcome : Outcome := ⟨true, false, 0, []⟩
  [.worker outcome 0, .worker outcome 0, .worker outcome 0, .worker outcome 0]

theorem fetch_then_idle_pause_is_undisturbed :
    Meets (RespectsMetadata 7) Coordinator.step Coordinator.new
        (idlePauseDecided ++ idlePausePerformed) ∧
      Meets (MetadataUndisturbed 7) Coordinator.step Coordinator.new
        (idlePauseDecided ++ idlePausePerformed) := by
  have respects : Meets (RespectsMetadata 7) Coordinator.step Coordinator.new
      (idlePauseDecided ++ idlePausePerformed) := by
    refine meets_cons rfl ?_ (meets_cons rfl ?_ (meets_cons rfl ?_ (meets_cons rfl ?_ (meets_cons rfl ?_
      (meets_cons rfl ?_ (meets_cons rfl ?_ (meets_cons rfl ⟨?_, nofun, nofun, nofun, nofun⟩
      (meets_cons rfl ?_ (meets_cons rfl ⟨nofun, nofun, nofun, ?_, nofun⟩ (meets_cons rfl ?_
      (meets_cons rfl ?_ (meets_cons rfl ?_ (meets_cons rfl ?_ (meets_cons rfl ?_ (meets_cons rfl ?_
      (meets_cons rfl ?_ (meets_cons rfl ?_ (meets_cons rfl ?_ (meets_cons rfl ?_
      (meets_cons rfl ?_ trivial))))))))))))))))))))
    case refine_8 =>
      refine fun _ => ⟨nofun, ?_⟩
      rintro torrent ⟨⟩
      nofun
    case refine_10 =>
      rintro index permit ⟨⟩ - -
      decide
    all_goals exact ⟨nofun, nofun, nofun, nofun, nofun⟩
  exact ⟨respects, meets_metadataUndisturbed 7 _ respects⟩

/-- The same pause, when the torrent is fetched for again before it is performed. -/
def fetchOverDecidedPause : List (Action Nat) :=
  let outcome : Outcome := ⟨true, false, 0, []⟩
  idlePauseDecided ++ [.call (.metadataEntry 7), .task 0 outcome, .task 0 outcome, .task 0 outcome,
    .task 0 outcome]

theorem idle_pause_stops_a_metadata_fetch :
    ∃ state next, run Coordinator.step Coordinator.new
        (fetchOverDecidedPause ++ idlePausePerformed.dropLast) = some state ∧
      state.step (.worker ⟨true, false, 0, []⟩ 0) = some next ∧
      state.issuesPause (.worker ⟨true, false, 0, []⟩ 0) = some 7 ∧
      state.store.heldMetadata 7 = 1 ∧ next.store.native 7 = some ⟨true, false⟩ ∧
      ¬ MetadataUndisturbed 7 state (.worker ⟨true, false, 0, []⟩ 0) := by
  refine ⟨_, _, rfl, rfl, rfl, rfl, rfl, fun undisturbed => ?_⟩
  exact absurd (undisturbed.1 rfl) (by decide)

end StreamServer.Playback
