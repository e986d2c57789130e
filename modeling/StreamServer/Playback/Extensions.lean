import StreamServer.Playback.Fencing

set_option autoImplicit false

namespace StreamServer.Playback

open CancellationTokens TorrentPlaybackState Store

variable {H : Type}

structure Extends (before after : Store H) [DecidableEq H] : Prop where
  seedingEnabled : after.seedingEnabled = before.seedingEnabled
  queue : ∃ released : List (LibtorrentPlaybackPermit H),
    after.queue = before.queue ++ released.map .releasePlayback
  entries : ∀ infoHash entry, after.entries.lookup infoHash = some entry →
    before.entries.lookup infoHash = some entry ∨ before.cells.length ≤ entry
  kept : ∀ infoHash entry, before.entries.lookup infoHash = some entry →
    after.entries.lookup infoHash = some entry

def Task.acquiresMetadata : Task H → Option (H × Nat)
  | .metadataAcquire infoHash entry => some (infoHash, entry)
  | _ => none

variable [DecidableEq H] {before after : Store H} {outcome : Outcome}

@[simp] theorem entry_constants (store : Store H) (infoHash : H) :
    (store.entry infoHash).2.seedingEnabled = store.seedingEnabled ∧
      (store.entry infoHash).2.metadataPermits = store.metadataPermits ∧
      (store.entry infoHash).2.queue = store.queue ∧
      (store.entry infoHash).2.native = store.native ∧
      (store.entry infoHash).2.now = store.now := by
  unfold Store.entry
  split <;> exact ⟨rfl, rfl, rfl, rfl, rfl⟩

theorem lookup_entry (store : Store H) (infoHash other : H) :
    (store.entry infoHash).2.entries.lookup other =
      if other = infoHash then some (store.entry infoHash).1 else store.entries.lookup other := by
  unfold Store.entry
  by_cases same : other = infoHash
  · subst same
    cases present : store.entries.lookup other <;> simp [present]
  · cases present : store.entries.lookup infoHash <;>
      simp [same, AList.lookup_insert_ne same]

theorem entry_found_or_new (store : Store H) (infoHash : H) :
    store.entries.lookup infoHash = some (store.entry infoHash).1 ∨
      store.entries.lookup infoHash = none ∧ (store.entry infoHash).1 = store.cells.length := by
  unfold Store.entry
  cases present : store.entries.lookup infoHash with
  | some entry => exact .inl rfl
  | none => exact .inr ⟨rfl, rfl⟩

theorem extends_entry (store : Store H) (infoHash : H) : Extends store (store.entry infoHash).2 := by
  refine ⟨(entry_constants store infoHash).1, ⟨[], by simp⟩, fun other entry found => ?_, fun other entry found => ?_⟩
  · rw [lookup_entry] at found
    split at found
    next same =>
      cases found
      rcases entry_found_or_new store infoHash with present | ⟨-, fresh⟩
      · exact .inl (same ▸ present)
      · exact .inr fresh.ge
    next => exact .inl found
  · rw [lookup_entry]
    split
    next same =>
      rcases entry_found_or_new store infoHash with present | ⟨absent, -⟩
      · rw [same, present] at found
        exact found
      · rw [same, absent] at found
        cases found
    next => exact found

theorem extends_of_entries (seedingEnabled : after.seedingEnabled = before.seedingEnabled)
    (queue : after.queue = before.queue) (entries : after.entries = before.entries) :
    Extends before after :=
  ⟨seedingEnabled, ⟨[], by simp [queue]⟩, fun _ _ found => .inl (entries ▸ found),
    fun _ _ found => entries ▸ found⟩

theorem Extends.dropPermit (extension : Extends before after) (id : Nat) :
    Extends before (after.dropPermit id) := by
  obtain ⟨seeding, ⟨released, queue⟩, entries, kept⟩ := extension
  unfold Store.dropPermit
  split
  next => exact ⟨seeding, ⟨released, queue⟩, entries, kept⟩
  next permit found =>
    exact ⟨seeding, ⟨released ++ [permit], by simp [send, queue]⟩, entries, kept⟩

theorem stepTask_constants {task : Task H} {rest : Option (Task H)}
    (taken : stepTask before outcome task = some (after, rest)) :
    after.seedingEnabled = before.seedingEnabled ∧
      (task.acquiresMetadata = none → after.metadataPermits = before.metadataPermits) := by
  have framed (frame : StoreFrame before after) :
      after.seedingEnabled = before.seedingEnabled ∧
        (task.acquiresMetadata = none → after.metadataPermits = before.metadataPermits) :=
    ⟨frame.seedingEnabled, fun _ => frame.metadataPermits⟩
  cases stepTask_move taken with
  | startEntry infoHash | refreshEntry infoHash | endEntry infoHash | metadataEntry infoHash
  | reannounceEntry infoHash =>
    exact ⟨(entry_constants before infoHash).1, fun _ => (entry_constants before infoHash).2.1⟩
  | selected _ _ _ _ _ _ _ _ _ selected =>
    obtain ⟨priority, permit, -, -, -, -, rfl⟩ := startSelect_selected selected
    exact ⟨rfl, fun _ => rfl⟩
  | activating _ _ _ _ _ activated | activated _ _ _ _ _ activated =>
    exact framed (activateSelection_frame activated)
  | activationFailed _ _ _ next activated =>
    have frame := activateSelection_frame activated
    exact ⟨(storeFrame_dropPermit next _).seedingEnabled.trans frame.seedingEnabled,
      fun _ => (storeFrame_dropPermit next _).metadataPermits.trans frame.metadataPermits⟩
  | endPause _ _ _ _ paused | ended _ _ _ _ paused => exact framed (performPause_frame paused)
  | metadataLock _ _ _ lockable => exact framed (storeFrame_tryLock lockable)
  | metadataAbsent | metadataKnown | metadataFetched =>
    exact ⟨rfl, fun other => (Option.some_ne_none _ other).elim⟩
  | refused | refreshed | reselected | endUnrelated | endBegun | endSeeding | endPaused | endRunning
  | endKeepActive | endWriteBack | metadataAnnounce | removeCancel | reannounceStale
  | reannounceCheck | reannounceState =>
    exact ⟨rfl, fun _ => rfl⟩

theorem stepTask_extends {task : Task H} {rest : Option (Task H)}
    (taken : stepTask before outcome task = some (after, rest)) : Extends before after := by
  have seeding := (stepTask_constants taken).1
  cases stepTask_cases taken with
  | lookup infoHash => exact extends_entry before infoHash
  | sections _ _ step => exact extends_of_entries seeding step.queue step.entries
  | began entry _ _ begins step => exact extends_of_entries seeding step.queue step.entries
  | issued infoHash entry fileCount start complete state selection _ _ starts found selected =>
    obtain ⟨next, permit, issued, -⟩ := startSelect_issued selected
    exact extends_of_entries seeding issued.queue issued.entries
  | failed next id step =>
    have frame := storeFrame_dropPermit next id
    exact Extends.dropPermit (extends_of_entries
      (frame.seedingEnabled.symm.trans seeding) step.queue step.entries) id
  | wroteBack => exact extends_of_entries rfl rfl rfl

theorem stepWorker_constants {attempt : Nat} {worker rest : Worker H}
    (taken : stepWorker before outcome attempt worker = some (after, rest)) :
    after.seedingEnabled = before.seedingEnabled ∧
      after.metadataPermits = before.metadataPermits ∧ after.queue = before.queue := by
  have frames (frame : StoreFrame before after) :
      after.seedingEnabled = before.seedingEnabled ∧
        after.metadataPermits = before.metadataPermits := ⟨frame.seedingEnabled, frame.metadataPermits⟩
  have queue : after.queue = before.queue := by
    cases stepWorker_cases taken with
    | lookup infoHash => exact (entry_constants before infoHash).2.2.1
    | sections _ _ step => exact step.queue
    | began entry _ _ begins step => exact step.queue
    | released => rfl
  rw [← and_assoc]
  refine ⟨?_, queue⟩
  cases stepWorker_move taken with
  | replaceEntry infoHash | metadataEntry infoHash =>
    exact ⟨(entry_constants before infoHash).1, (entry_constants before infoHash).2.1⟩
  | releaseEntry permit => exact ⟨(entry_constants before _).1, (entry_constants before _).2.1⟩
  | replaceLock _ _ _ _ _ _ lockable | releaseLock _ _ _ lockable | seedingOn _ _ _ _ lockable =>
    exact frames (storeFrame_tryLock lockable)
  | verifiedPause _ _ _ _ paused | verifiedPaused _ _ _ paused | verifiedUnpaused _ _ _ paused
  | join _ _ _ _ _ _ paused =>
    exact frames (performPause_frame paused)
  | replaceState | releaseState | releaseNative | metadataState | seededOff | seedingOff | seededOn
  | seedingOnPaused | seedingOnState | seedingOnGone | seedingOnResume | verifiedState
  | verifiedComplete | verifiedIncomplete | verifiedStale | verifiedPending | verifiedFailed
  | scanned | scan | joined | settled | settle =>
    exact ⟨rfl, rfl⟩

theorem stepWorker_extends {attempt : Nat} {worker rest : Worker H}
    (taken : stepWorker before outcome attempt worker = some (after, rest)) :
    Extends before after := by
  obtain ⟨seeding, -, queue⟩ := stepWorker_constants taken
  cases stepWorker_cases taken with
  | lookup infoHash => exact extends_entry before infoHash
  | sections _ _ step => exact extends_of_entries seeding queue step.entries
  | began entry _ _ begins step => exact extends_of_entries seeding queue step.entries
  | released => exact extends_of_entries seeding queue rfl

end StreamServer.Playback
