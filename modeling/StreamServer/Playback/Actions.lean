import StreamServer.Playback.Inversion

set_option autoImplicit false

namespace StreamServer.Playback

open CancellationTokens TorrentPlaybackState Store

variable {H : Type}

def releases (queue : List (PlaybackCommand H)) : List (LibtorrentPlaybackPermit H) :=
  queue.filterMap fun command =>
    match command with
    | .releasePlayback permit => some permit
    | _ => none

def Store.pending (store : Store H) : List (LibtorrentPlaybackPermit H) :=
  store.permits ++ releases store.queue

/-- Issued and not yet released: a release counts when the worker has applied it. -/
def Coordinator.outstanding (coordinator : Coordinator H) : List (LibtorrentPlaybackPermit H) :=
  coordinator.store.pending ++ coordinator.worker.unreleased.toList

theorem pending_send (store : Store H) (command : PlaybackCommand H)
    (other : releases [command] = []) : (store.send command).pending = store.pending := by
  have split : releases (store.queue ++ [command]) = releases store.queue ++ releases [command] :=
    List.filterMap_append
  simp [Store.pending, Store.send, split, other]

theorem pending_dropPermit [DecidableEq H] (store : Store H) (id : Nat) :
    (store.dropPermit id).pending.Perm store.pending := by
  unfold Store.dropPermit
  split
  next => exact .refl _
  next permit found =>
    have member := List.mem_of_find?_eq_some found
    have moved : (store.permits.erase permit ++ releases store.queue ++ [permit]).Perm
        (store.permits ++ releases store.queue) :=
      (List.perm_append_singleton _ _).trans
        ((List.perm_cons_erase member).symm.append_right _)
    simpa [Store.pending, Store.send, releases] using moved

theorem dropPermit_frame [DecidableEq H] (store : Store H) (id : Nat) :
    (store.dropPermit id).entries = store.entries ∧ (store.dropPermit id).cells = store.cells := by
  unfold Store.dropPermit
  split <;> exact ⟨rfl, rfl⟩

structure QuietAction (before after : Coordinator H) : Prop where
  entries : after.store.entries = before.store.entries
  length : after.store.cells.length = before.store.cells.length
  states : ∀ entry, after.store.state? entry = before.store.state? entry
  outstanding : after.outstanding.Perm before.outstanding
  tasks : ∀ task ∈ after.tasks, task ∈ before.tasks ∨ task.starting = none ∧ task.writingBack = none
  releasing : ∀ target ∈ after.worker.releasing, before.worker.releasing = some target

variable [DecidableEq H]

inductive ActionStep (before : Coordinator H) : Action H → Coordinator H → Prop where
  | quiet (action : Action H) (after : Coordinator H) (step : QuietAction before after) :
      ActionStep before action after
  | task (index : Nat) (outcome : Outcome) (task : Task H) (store : Store H)
      (rest : Option (Task H)) (present : before.tasks[index]? = some task)
      (step : TaskStep before.store task store rest) :
      ActionStep before (.task index outcome)
        { before with store, tasks := continueTask before.tasks index rest }
  | worker (outcome : Outcome) (attempt : Nat) (store : Store H) (worker : Worker H)
      (step : WorkerStep before.store before.worker store worker) :
      ActionStep before (.worker outcome attempt) { before with store, worker }
  | registered (infoHash : H) :
      ActionStep before (.registerTorrent infoHash)
        { before with store := (before.store.entry infoHash).2 }
  | removed (infoHash : H) (entry : Nat) :
      ActionStep before (.removeTorrent infoHash)
        { before with
          store := { before.store with entries := before.store.entries.erase infoHash }
          tasks := before.tasks ++ [.removeCancel entry] }

section Inversion

variable {before after : Coordinator H}

omit [DecidableEq H] in
theorem QuietAction.of_store {store : Store H} (entries : store.entries = before.store.entries)
    (length : store.cells.length = before.store.cells.length)
    (states : ∀ entry, store.state? entry = before.store.state? entry)
    (pending : store.pending.Perm before.store.pending) :
    QuietAction before { before with store } :=
  ⟨entries, length, states, pending.append_right _, fun _ member => .inl member, fun _ has => has⟩

theorem QuietAction.abandon {task : Task H} {unlocked : Store H} (index : Nat)
    (released : unlocked = task.heldOperation.elim before.store before.store.unlock) :
    QuietAction before { before with
      store := task.permit.elim unlocked unlocked.dropPermit
      tasks := before.tasks.eraseIdx index } := by
  obtain ⟨entries, length, states, pending⟩ : unlocked.entries = before.store.entries ∧
      unlocked.cells.length = before.store.cells.length ∧
      (∀ entry, unlocked.state? entry = before.store.state? entry) ∧
      unlocked.pending = before.store.pending := by
    subst released
    cases task.heldOperation with
    | none => exact ⟨rfl, rfl, fun _ => rfl, rfl⟩
    | some entry => exact ⟨rfl, by simp [Store.unlock, updateCell], by simp, rfl⟩
  have fewer (other : Task H) (member : other ∈ before.tasks.eraseIdx index) :
      other ∈ before.tasks ∨ other.starting = none ∧ other.writingBack = none :=
    .inl (List.mem_of_mem_eraseIdx member)
  cases task.permit with
  | none => exact ⟨entries, length, states, .of_eq (by simp [Coordinator.outstanding, pending]),
      fewer, fun _ has => has⟩
  | some id =>
    obtain ⟨sameEntries, sameCells⟩ := dropPermit_frame unlocked id
    refine ⟨sameEntries.trans entries, by simpa [sameCells] using length, fun entry => ?_, ?_, fewer,
      fun _ has => has⟩
    · simpa [Store.state?, sameCells] using states entry
    · exact ((pending_dropPermit unlocked id).trans (.of_eq pending)).append_right _

omit [DecidableEq H] in
theorem unreleased_of_releasing {worker : Worker H} {target : LibtorrentPlaybackPermit H × Nat}
    (has : target ∈ worker.releasing) : target.1 ∈ worker.unreleased := by
  cases worker <;> simp [Worker.releasing] at has <;> simp [← has, Worker.unreleased]

theorem receive_unreleased (store : Store H) (command : PlaybackCommand H) :
    (receive store command).unreleased.toList = releases [command] ∧
      (receive store command).releasing = none := by
  cases command with
  | seedingEnabled enabled => cases enabled <;> exact ⟨rfl, rfl⟩
  | pieceVerified infoHash piece =>
    simp only [receive]
    split <;> exact ⟨rfl, rfl⟩
  | _ => exact ⟨rfl, rfl⟩

theorem QuietAction.receive {command : PlaybackCommand H} {queue : List (PlaybackCommand H)}
    (idle : before.worker = .idle) (waiting : before.store.queue = command :: queue) :
    QuietAction before { before with
      store := { before.store with queue }
      worker := Playback.receive { before.store with queue } command } := by
  obtain ⟨received, fresh⟩ := receive_unreleased { before.store with queue } command
  refine ⟨rfl, rfl, fun _ => rfl, ?_, fun _ member => .inl member, by simp [fresh]⟩
  have split : releases (command :: queue) = releases [command] ++ releases queue :=
    List.filterMap_append (l := [command])
  have nothing : (Worker.idle : Worker H).unreleased.toList = [] := rfl
  simp only [Coordinator.outstanding, Store.pending, waiting, idle, received, split, nothing,
    List.append_nil, List.append_assoc]
  exact List.perm_append_comm.append_left _

theorem step_cases {action : Action H} (taken : before.step action = some after) :
    ActionStep before action after := by
  have same : QuietAction before before :=
    ⟨rfl, rfl, fun _ => rfl, .refl _, fun _ member => .inl member, fun _ has => has⟩
  cases step_move taken with
  | called task isCall =>
    refine .quiet _ _ ⟨rfl, rfl, fun _ => rfl, .refl _, fun other member => ?_, fun _ has => has⟩
    rcases List.mem_append.mp member with earlier | new
    · exact .inl earlier
    · cases List.mem_singleton.mp new
      cases task <;> simp [Task.starting, Task.writingBack, Task.isCall] at isCall ⊢
  | task index outcome task store rest present stepped =>
    exact .task index outcome task store rest present (stepTask_cases stepped)
  | abandoned index task unlocked _ released => exact .quiet _ _ (.abandon index released)
  | droppedPermit id =>
    obtain ⟨entries, cells⟩ := dropPermit_frame before.store id
    exact .quiet _ _ (.of_store entries (by rw [cells]) (by simp [Store.state?, cells])
      (pending_dropPermit before.store id))
  | received command queue idle waiting => exact .quiet _ _ (.receive idle waiting)
  | seedingTick | unmapped => exact .quiet _ _ same
  | ticked idle =>
    refine .quiet _ _ ⟨rfl, rfl, fun _ => rfl, .of_eq ?_, fun _ member => .inl member, ?_⟩
    · simp [Coordinator.outstanding, idle, Worker.unreleased]
    · simp [Worker.releasing]
  | worker outcome attempt store worker stepped =>
    exact .worker outcome attempt store worker (stepWorker_cases stepped)
  | registered infoHash => exact .registered infoHash
  | removed infoHash entry => exact .removed infoHash entry
  | layoutLoaded entry fileCount =>
    exact .quiet _ _ (.of_store rfl (by simp [updateCell])
      (fun other => before.store.state?_updateCell entry other _ fun _ => rfl) (.refl _))
  | replaced | droppedMetadata | seedingSet | verified | invalidated =>
    exact .quiet _ _ (.of_store rfl rfl (fun _ => rfl) (.of_eq (pending_send _ _ rfl)))
  | nativeSet | advanced => exact .quiet _ _ (.of_store rfl rfl (fun _ => rfl) (.refl _))

end Inversion

end StreamServer.Playback
