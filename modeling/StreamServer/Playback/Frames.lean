import StreamServer.Playback.Actions

set_option autoImplicit false

namespace StreamServer.Playback

open CancellationTokens TorrentPlaybackState Store

variable {H : Type}

structure StoreFrame (before after : Store H) : Prop where
  tokens : after.tokens = before.tokens
  seedingEnabled : after.seedingEnabled = before.seedingEnabled
  metadataPermits : after.metadataPermits = before.metadataPermits
  now : after.now = before.now

structure Undisturbed (before after : TorrentPlaybackState) : Prop where
  generation : after.generation = before.generation
  idleDeadline : after.idleDeadline = before.idleDeadline
  hlsLastActivity : after.hlsLastActivity = before.hlsLastActivity
  directPermits : after.directPermits = before.directPermits
  metadataPermits : after.metadataPermits = before.metadataPermits
  phase : after.phase = before.phase ∨ after.phase ≠ .pausePending

abbrev QuietStep (before after : Store H) : Prop :=
  StatesBy (fun _ => Undisturbed) before after

theorem Undisturbed.refl (state : TorrentPlaybackState) : Undisturbed state state :=
  ⟨rfl, rfl, rfl, rfl, rfl, .inl rfl⟩

theorem keepActiveForSeeding_undisturbed (state : TorrentPlaybackState) (generation : Nat) :
    Undisturbed state (state.keepActiveForSeeding generation) := by
  unfold keepActiveForSeeding
  split
  · exact ⟨rfl, rfl, rfl, rfl, rfl, .inr nofun⟩
  · exact .refl state

theorem finishPause_undisturbed (state : TorrentPlaybackState) (generation : Nat) (zeros : List Int)
    (clearSelection : Bool) :
    Undisturbed state (state.finishPause generation zeros clearSelection) := by
  unfold finishPause
  split
  · cases clearSelection <;> exact ⟨rfl, rfl, rfl, rfl, rfl, .inr nofun⟩
  · exact .refl state

section Frames

variable {before after : Store H} {outcome : Outcome}

theorem storeFrame_tryLock {entry : Nat} (locked : before.tryLock entry = some after) :
    StoreFrame before after := by
  obtain ⟨cell, -, taken⟩ := Option.bind_eq_some_iff.mp locked
  split at taken <;> cases taken
  exact ⟨rfl, rfl, rfl, rfl⟩

theorem storeFrame_dropPermit [DecidableEq H] (store : Store H) (id : Nat) :
    StoreFrame store (store.dropPermit id) := by
  unfold Store.dropPermit
  split <;> exact ⟨rfl, rfl, rfl, rfl⟩

theorem QuietStep.refl (store : Store H) : QuietStep store store :=
  StatesBy.refl (fun _ state => .refl state) store

theorem QuietStep.updateState {entry : Nat} {f : TorrentPlaybackState → TorrentPlaybackState}
    (updated : ∀ state, Undisturbed state (f state)) :
    QuietStep before (before.updateState entry f) :=
  StatesBy.updateState (fun _ state _ => .refl state) fun state _ => updated state

theorem QuietStep.setState {entry : Nat} {previous state : TorrentPlaybackState}
    (found : before.state? entry = some previous) (updated : Undisturbed previous state) :
    QuietStep before (before.setState entry state) :=
  StatesBy.updateState (fun _ state _ => .refl state) fun present same => by
    rw [found] at same
    cases same
    exact updated

theorem QuietStep.of_tryLock {entry : Nat} (locked : before.tryLock entry = some after) :
    QuietStep before after := by
  obtain ⟨cell, -, taken⟩ := Option.bind_eq_some_iff.mp locked
  split at taken
  · cases taken
  · cases taken
    exact (QuietStep.refl before).congr rfl rfl rfl (by simp [lock, updateCell]) (by simp)

variable [DecidableEq H]

theorem performPause_frame {ok : Bool} {call : PauseCall H} {pc : PausePc}
    {progress : Progress PausePc}
    (taken : performPause before ok call pc = some (after, progress)) : StoreFrame before after := by
  cases performPause_move taken with
  | lockOperation _ locked => exact storeFrame_tryLock locked
  | _ => exact ⟨rfl, rfl, rfl, rfl⟩

theorem performPause_quiet {ok : Bool} {call : PauseCall H} {pc : PausePc}
    {progress : Progress PausePc}
    (taken : performPause before ok call pc = some (after, progress)) : QuietStep before after := by
  have same := QuietStep.refl before
  cases performPause_move taken with
  | keepActive =>
    exact QuietStep.updateState fun state => keepActiveForSeeding_undisturbed state call.generation
  | lockOperation _ locked => exact QuietStep.of_tryLock locked
  | outdated | failed => exact same.unlock call.entry
  | nativePause torrent => exact same.setNative call.infoHash _
  | finish zeros =>
    exact (QuietStep.updateState fun state =>
      finishPause_undisturbed state call.generation zeros call.clearSelection).unlock call.entry
  | seeding | checkSeeding | checkGeneration | confirm | recheck | compareZeros | applyZeros =>
    exact same

-- A pause that returns without an error has settled the generation it was called for, or that
-- generation is over.
theorem performPause_settled {ok : Bool} {call : PauseCall H} {pc : PausePc}
    (taken : performPause before ok call pc = some (after, .returned true))
    {state : TorrentPlaybackState} (found : after.state? call.entry = some state)
    (current : state.generation = call.generation) : state.phase ≠ .pausePending := by
  cases performPause_move taken with
  | keepActive =>
    rw [state?_updateState] at found
    obtain ⟨previous, -, rfl⟩ := Option.map_eq_some_iff.mp found
    simp only [if_true] at current ⊢
    unfold keepActiveForSeeding at current ⊢
    split
    next => nofun
    next unsettled =>
      rw [if_neg unsettled] at current
      exact fun pending => unsettled ⟨current, pending⟩
  | finish zeros =>
    rw [state?_unlock, state?_updateState] at found
    obtain ⟨previous, -, rfl⟩ := Option.map_eq_some_iff.mp found
    simp only [if_true] at current ⊢
    unfold finishPause at current ⊢
    split
    next => cases call.clearSelection <;> nofun
    next moved =>
      rw [if_neg moved] at current
      exact absurd current moved
  | outdated _ previous _ present moved =>
    rw [state?_unlock, present] at found
    cases found
    exact absurd current moved

theorem activateSelection_frame {activation : Activation H} {pc : ActivatePc}
    {progress : Progress ActivatePc}
    (taken : activateSelection before outcome activation pc = some (after, progress)) :
    StoreFrame before after := by
  cases activateSelection_move taken with
  | lockOperation _ locked => exact storeFrame_tryLock locked
  | pausing _ _ _ paused | paused _ _ _ paused => exact performPause_frame paused
  | _ => exact ⟨rfl, rfl, rfl, rfl⟩

theorem activateSelection_quiet {activation : Activation H} {pc : ActivatePc}
    {progress : Progress ActivatePc}
    (taken : activateSelection before outcome activation pc = some (after, progress)) :
    QuietStep before after := by
  have same := QuietStep.refl before
  have unlocked := same.unlock activation.entry
  cases activateSelection_move taken with
  | lockOperation _ locked => exact QuietStep.of_tryLock locked
  | ended | startsPause => exact unlocked
  | went => exact same
  | acknowledged _ _ found | firstPiece _ _ found =>
    exact QuietStep.setState found ⟨rfl, rfl, rfl, rfl, rfl, .inl rfl⟩
  | pausing _ _ _ paused | paused _ _ _ paused => exact performPause_quiet paused
  | windowed state next found set =>
    refine QuietStep.setState found ?_
    obtain rfl | rfl := set <;> exact ⟨rfl, rfl, rfl, rfl, rfl, .inl rfl⟩
  | resumed piece torrent => exact same.setNative activation.infoHash _
  | finished state next found set =>
    refine (QuietStep.setState found ?_).unlock activation.entry
    obtain rfl | rfl := set <;> exact ⟨rfl, rfl, rfl, rfl, rfl, .inl rfl⟩

end Frames

end StreamServer.Playback
