import StreamServer.Playback.MetadataCalls

set_option autoImplicit false

namespace StreamServer.Playback

open TorrentPlaybackState Store Runs

variable {H : Type} [DecidableEq H]

namespace Coordinator

def moves (coordinator : Coordinator H) : Action H → Option (DecidedPause H)
  | .task index _ => coordinator.tasks[index]?.bind Task.pause
  | .worker _ attempt => coordinator.worker.moves attempt
  | _ => none

/-- The torrent that the step pauses natively: `perform_pause` leaves a paused one alone. -/
def issuesPause (coordinator : Coordinator H) (action : Action H) : Option H :=
  (nativelyPauses (coordinator.moves action)).filter fun infoHash =>
    (coordinator.store.native infoHash).any (!·.isPaused)

def acquiresMetadata (coordinator : Coordinator H) : Action H → Option H
  | .task index _ => (coordinator.tasks[index]?.bind Task.acquiresMetadata).map (·.1)
  | _ => none

def returnsMetadata (coordinator : Coordinator H) : Action H → Option H
  | .task index _ =>
      match coordinator.tasks[index]? with
      | some (.metadataAcquire infoHash _) =>
          if (coordinator.store.native infoHash).any (·.hasMetadata) then some infoHash else none
      | some (.metadataAnnounce infoHash _ _) => some infoHash
      | _ => none
  | _ => none

def announcing (coordinator : Coordinator H) (infoHash : H) : Nat :=
  coordinator.tasks.countP (·.announces infoHash)

end Coordinator

/-- No native pause while a metadata permit is out, and no permit for a torrent left paused. -/
def MetadataUndisturbed (infoHash : H) (coordinator : Coordinator H) (action : Action H) : Prop :=
  (coordinator.issuesPause action = some infoHash → coordinator.store.heldMetadata infoHash = 0) ∧
    (coordinator.returnsMetadata action = some infoHash →
      ∀ next, coordinator.step action = some next → next.store.Unpaused infoHash)

structure RespectsMetadata (infoHash : H) (coordinator : Coordinator H) (action : Action H) :
    Prop where
  -- A permit is made out only when no decided pause of the torrent can still get through, and a
  -- torrent that has its metadata, which is not resumed, is running.
  acquired : coordinator.acquiresMetadata action = some infoHash →
    (∀ pause ∈ coordinator.pauses, pause.1.infoHash = infoHash →
      ¬ coordinator.store.willPause pause) ∧
    ∀ torrent, coordinator.store.native infoHash = some torrent → torrent.hasMetadata = true →
      torrent.isPaused = false
  -- `end_hls` and the pauses of a complete file do not look at the metadata permits.
  decided : coordinator.decides action = some infoHash →
    coordinator.store.heldMetadata infoHash = 0
  mapped : action ≠ .removeTorrent infoHash
  -- A permit is dropped by a caller that was given it, and nothing else pauses the torrent between
  -- the reading of its status and the return of the permit.
  dropped : ∀ index permit, action = .dropMetadataPermit index →
    coordinator.store.metadataPermits[index]? = some permit → permit.infoHash = infoHash →
    coordinator.announcing infoHash < coordinator.store.heldMetadata infoHash
  native : ∀ torrent, action = .setNative infoHash (some torrent) →
    0 < coordinator.announcing infoHash → torrent.isPaused = false

structure MetadataCovered (infoHash : H) (coordinator : Coordinator H) : Prop where
  coherent : EntriesCoherent coordinator
  fenced : Fenced coordinator.store
  reached : GenerationsReached coordinator
  targets : ∀ target, (∃ task ∈ coordinator.tasks, task.fetching = some target) ∨
    target ∈ coordinator.worker.scanning → target.2 < coordinator.store.cells.length ∧
      (target.1 = infoHash ↔ coordinator.store.entries.lookup infoHash = some target.2)
  releasing : ∀ entry, coordinator.worker.lowersMetadata = some entry →
    entry < coordinator.store.cells.length
  counted : coordinator.unreleasedMetadata infoHash ≤ coordinator.store.metadataCount infoHash
  pending : ∀ pause ∈ coordinator.pauses, pause.1.infoHash = infoHash →
    coordinator.store.willPause pause → coordinator.store.heldMetadata infoHash = 0
  announcing : coordinator.announcing infoHash ≤ coordinator.store.heldMetadata infoHash
  unpaused : ∀ entry, .metadataAnnounce infoHash entry false ∈ coordinator.tasks →
    coordinator.store.Unpaused infoHash

def Action.movesMetadata : Action H → Bool
  | .task _ _ | .worker _ _ | .dropMetadataPermit _ => true
  | _ => false

structure Unmoved (infoHash : H) (before after : Coordinator H) : Prop where
  frame : MetadataFrame infoHash none before.store after.store
  held : after.store.heldMetadata infoHash = before.store.heldMetadata infoHash
  queued : after.store.queuedMetadata infoHash + after.worker.releasesFor before.store infoHash ≤
    before.store.queuedMetadata infoHash + before.worker.releasesFor before.store infoHash
  fetching : ∀ task ∈ after.tasks, task ∈ before.tasks ∨ task.fetching = none
  announcing : after.announcing infoHash ≤ before.announcing infoHash
  scanning : ∀ target ∈ after.worker.scanning, target ∈ before.worker.scanning ∨
    before.store.entries.lookup target.1 = some target.2
  releasing : ∀ entry, after.worker.lowersMetadata = some entry →
    before.worker.lowersMetadata = some entry

section Steps

variable {infoHash : H} {before after : Coordinator H} {action : Action H}

theorem releasesFor_le {touched : Option Nat} {store next : Store H} {worker : Worker H}
    (frame : MetadataFrame infoHash touched store next)
    (inside : ∀ entry, worker.lowersMetadata = some entry → entry < store.cells.length) :
    worker.releasesFor next infoHash ≤ worker.releasesFor store infoHash := by
  cases worker with
  | metadataState entry =>
    simp only [Worker.releasesFor]
    split
    next mapped =>
      rcases frame.fresh entry mapped with earlier | outside
      · simp [earlier]
      · exact absurd (inside entry rfl) (Nat.not_lt_of_le outside)
    next => exact Nat.zero_le _
  | _ => exact le_refl _

theorem unmoved_of_store {store : Store H} (entries : store.entries = before.store.entries)
    (counters : CounterStep none before.store store)
    (held : store.metadataPermits = before.store.metadataPermits)
    (queued : store.queuedMetadata infoHash = before.store.queuedMetadata infoHash) :
    Unmoved infoHash before { before with store } where
  frame := ⟨fun _ mapped => entries ▸ mapped, fun _ mapped => .inl (entries ▸ mapped), counters⟩
  held := by simp [Store.heldMetadata, held]
  queued := by simp [queued]
  fetching := fun _ member => .inl member
  announcing := le_refl _
  scanning := fun _ member => .inl member
  releasing := fun _ same => same

theorem Unmoved.tasks {tasks : List (Task H)} (unmoved : Unmoved infoHash before after)
    (fetching : ∀ task ∈ tasks, task ∈ before.tasks ∨ task.fetching = none)
    (announcing : tasks.countP (·.announces infoHash) ≤ before.announcing infoHash) :
    Unmoved infoHash before { after with tasks } :=
  { unmoved with fetching, announcing }

theorem queuedMetadata_send (store : Store H) {command : PlaybackCommand H}
    (other : command.releasesMetadata infoHash = false) :
    (store.send command).queuedMetadata infoHash = store.queuedMetadata infoHash := by
  simp [Store.queuedMetadata, Store.send, other]

theorem queuedMetadata_dropPermit (store : Store H) (id : Nat) :
    (store.dropPermit id).queuedMetadata infoHash = store.queuedMetadata infoHash := by
  unfold Store.dropPermit
  split
  next => rfl
  next permit found => exact queuedMetadata_send _ rfl

theorem receive_releasesFor (infoHash : H) (store : Store H) (command : PlaybackCommand H) :
    (receive store command).releasesFor store infoHash =
      (if command.releasesMetadata infoHash then 1 else 0) ∧
    (receive store command).scanning = [] ∧ (receive store command).lowersMetadata = none := by
  cases command with
  | seedingEnabled enabled => cases enabled <;> exact ⟨rfl, rfl, rfl⟩
  | releaseMetadata permit =>
    refine ⟨?_, rfl, rfl⟩
    simp [receive, Worker.releasesFor, PlaybackCommand.releasesMetadata]
  | pieceVerified infoHash piece =>
    simp only [receive]
    split <;> exact ⟨rfl, rfl, rfl⟩
  | _ => exact ⟨rfl, rfl, rfl⟩

theorem step_unmoved (taken : before.step action = some after) (mapped : action ≠ .removeTorrent infoHash)
    (unmoving : action.movesMetadata = false) :
    Unmoved infoHash before after ∧ (after.store.native = before.store.native ∨
      ∃ other torrent, action = .setNative other torrent ∧
        after.store = before.store.setNative other torrent) := by
  have same : Unmoved infoHash before before :=
    unmoved_of_store rfl (counterStep_of_states fun _ => rfl) rfl rfl
  cases step_move taken with
  | task | worker | droppedMetadata => cases unmoving
  | called task isCall =>
    have quiet : task.fetching = none ∧ task.announces infoHash = false := by
      cases task <;> simp [Task.isCall, Task.fetching, Task.announces] at isCall ⊢
    refine ⟨same.tasks (fun other member => ?_) (by simp [Coordinator.announcing, quiet.2]), .inl rfl⟩
    rcases List.mem_append.mp member with earlier | new
    · exact .inl earlier
    · cases List.mem_singleton.mp new
      exact .inr quiet.1
  | abandoned index task store _ released =>
    obtain ⟨entries, states, held, native, queue⟩ : store.entries = before.store.entries ∧
        (∀ entry, store.state? entry = before.store.state? entry) ∧
        store.metadataPermits = before.store.metadataPermits ∧
        store.native = before.store.native ∧ store.queue = before.store.queue := by
      subst released
      cases task.heldOperation with
      | none => exact ⟨rfl, fun _ => rfl, rfl, rfl, rfl⟩
      | some entry => exact ⟨rfl, by simp, rfl, rfl, rfl⟩
    have queued : store.queuedMetadata infoHash = before.store.queuedMetadata infoHash := by
      simp [Store.queuedMetadata, queue]
    have fewer : (before.tasks.eraseIdx index).countP (·.announces infoHash) ≤
        before.announcing infoHash := (List.eraseIdx_sublist before.tasks index).countP_le
    have earlier (other : Task H) (member : other ∈ before.tasks.eraseIdx index) :
        other ∈ before.tasks ∨ other.fetching = none := .inl (List.mem_of_mem_eraseIdx member)
    cases task.permit with
    | none =>
      have unmoved : Unmoved infoHash before { before with store } :=
        unmoved_of_store entries (counterStep_of_states states) held queued
      exact ⟨unmoved.tasks earlier fewer, .inl native⟩
    | some id =>
      obtain ⟨sameEntries, sameCells⟩ := dropPermit_frame store id
      have unmoved : Unmoved infoHash before { before with store := store.dropPermit id } := by
        refine unmoved_of_store (sameEntries.trans entries) (counterStep_of_states fun entry => ?_)
          ((storeFrame_dropPermit store id).metadataPermits.trans held) (Eq.trans ?_ queued)
        · simpa [Store.state?, sameCells] using states entry
        · exact queuedMetadata_dropPermit store id
      exact ⟨unmoved.tasks earlier fewer, .inl ((native_dropPermit store id).trans native)⟩
  | droppedPermit id =>
    obtain ⟨sameEntries, sameCells⟩ := dropPermit_frame before.store id
    refine ⟨unmoved_of_store sameEntries (counterStep_of_states fun entry => ?_)
      (storeFrame_dropPermit before.store id).metadataPermits
      (queuedMetadata_dropPermit before.store id), .inl (native_dropPermit before.store id)⟩
    simp [Store.state?, sameCells]
  | received command queue idle waiting =>
    obtain ⟨released, unscanned, fresh⟩ :=
      receive_releasesFor infoHash { before.store with queue } command
    have frame : MetadataFrame infoHash none before.store { before.store with queue } :=
      ⟨fun _ mapped => mapped, fun _ mapped => .inl mapped, counterStep_of_states fun _ => rfl⟩
    refine ⟨{ same with frame, queued := ?_, scanning := ?_, releasing := ?_ }, .inl rfl⟩
    · have counts : before.store.queuedMetadata infoHash =
          queue.countP (·.releasesMetadata infoHash) +
            if command.releasesMetadata infoHash then 1 else 0 := by
        rw [Store.queuedMetadata, waiting, List.countP_cons]
      have moved : (receive { before.store with queue } command).releasesFor before.store infoHash =
          if command.releasesMetadata infoHash then 1 else 0 := released
      rw [counts, moved, idle]
      exact Nat.le_add_right _ _
    · simp [unscanned]
    · simp [fresh]
  | seedingTick | unmapped => exact ⟨same, .inl rfl⟩
  | ticked idle =>
    refine ⟨{ same with
      queued := ?_, scanning := fun target member => .inr ?_, releasing := ?_ }, .inl rfl⟩
    · simp [idle, Worker.releasesFor]
    · obtain ⟨entry, found, rfl⟩ := List.mem_map.mp member
      exact AList.mem_lookup_iff.mpr found
    · simp [Worker.lowersMetadata]
  | registered other =>
    have frame : MetadataFrame infoHash none before.store (before.store.entry other).2 :=
      (extends_entry before.store other).metadataFrame (counterStep_entry before.store other)
    obtain ⟨-, held, queue, native, -⟩ := entry_constants before.store other
    refine ⟨{ same with frame, held := ?_, queued := ?_ }, .inl native⟩
    · rw [Store.heldMetadata, held]
      rfl
    · rw [Store.queuedMetadata, queue]
      exact le_refl _
  | removed other =>
    have different : infoHash ≠ other := fun same => mapped (same ▸ rfl)
    have kept : (before.store.entries.erase other).lookup infoHash =
        before.store.entries.lookup infoHash := AList.lookup_erase_ne different
    have frame : MetadataFrame infoHash none before.store
        { before.store with entries := before.store.entries.erase other } :=
      ⟨fun _ mapped => kept.trans mapped, fun _ mapped => .inl (kept.symm.trans mapped),
        counterStep_of_states fun _ => rfl⟩
    refine ⟨{ same with frame, fetching := fun task member => ?_, announcing := ?_ }, .inl rfl⟩
    · rcases List.mem_append.mp member with earlier | new
      · exact .inl earlier
      · cases List.mem_singleton.mp new
        exact .inr rfl
    · simp [Coordinator.announcing, Task.announces]
  | layoutLoaded entry fileCount =>
    exact ⟨unmoved_of_store rfl (counterStep_of_states fun other =>
      before.store.state?_updateCell entry other _ fun _ => rfl) rfl rfl, .inl rfl⟩
  | replaced | seedingSet | verified | invalidated =>
    exact ⟨unmoved_of_store rfl (counterStep_of_states fun _ => rfl) rfl (queuedMetadata_send _ rfl),
      .inl rfl⟩
  | nativeSet other torrent =>
    exact ⟨unmoved_of_store rfl (counterStep_of_states fun _ => rfl) rfl rfl,
      .inr ⟨other, torrent, rfl, rfl⟩⟩
  | advanced =>
    exact ⟨unmoved_of_store rfl (counterStep_of_states fun _ => rfl) rfl rfl, .inl rfl⟩

end Steps

end StreamServer.Playback
