import StreamServer.Playback.Extensions

set_option autoImplicit false

namespace StreamServer.Playback

open CancellationTokens TorrentPlaybackState Store

variable {H : Type}

abbrev DecidedPause (H : Type) := PauseCall H × PausePc

def Task.pause : Task H → Option (DecidedPause H)
  | .endCheckSeeding infoHash entry generation false =>
      some (⟨infoHash, entry, generation, true⟩, .checkSeeding)
  | .endPause call pc => some (call, pc)
  | .activate activation _ (.pause pc) => some (activation.pauseCall, pc)
  | _ => none

def runningPause : PauseCall H × Progress PausePc → Option (DecidedPause H)
  | (call, .running pc) => some (call, pc)
  | (_, .returned _) => none

def Worker.pauses : Worker H → List (DecidedPause H)
  | .verifiedPause call pc => [(call, pc)]
  | .scan _ _ due => due.map (·, .checkSeeding)
  | .join attempts => attempts.filterMap runningPause
  | _ => []

def Worker.moves (attempt : Nat) : Worker H → Option (DecidedPause H)
  | .verifiedPause call pc => some (call, pc)
  | .join attempts => attempts[attempt]?.bind runningPause
  | _ => none

def Worker.lowersMetadata : Worker H → Option Nat
  | .metadataState entry => some entry
  | _ => none

def Coordinator.pauses (coordinator : Coordinator H) : List (DecidedPause H) :=
  coordinator.tasks.filterMap Task.pause ++ coordinator.worker.pauses

/-- The decided pause gets through to the native pause unless the generation changes first. -/
def Store.willPause (store : Store H) (pause : DecidedPause H) : Prop :=
  match pause.2 with
  | .nativePause => True
  | .checkSeeding | .lockOperation | .checkGeneration =>
      (store.state? pause.1.entry).map (·.generation) = some pause.1.generation
  | _ => False

def Store.Unpaused (store : Store H) (infoHash : H) : Prop :=
  ∀ torrent, store.native infoHash = some torrent → torrent.isPaused = false

def nativelyPauses : Option (DecidedPause H) → Option H
  | some (call, .nativePause) => some call.infoHash
  | _ => none

def NativeStep (paused : Option H) (before after : Store H) : Prop :=
  ∀ infoHash, paused ≠ some infoHash → before.Unpaused infoHash → after.Unpaused infoHash

section Native

variable {paused : Option H} {before after : Store H} {outcome : Outcome}

theorem nativeStep_of_eq (same : after.native = before.native) : NativeStep paused before after :=
  fun _ _ unpaused torrent found => unpaused torrent (same ▸ found)

theorem native_tryLock {entry : Nat} (locked : before.tryLock entry = some after) :
    after.native = before.native := by
  obtain ⟨cell, -, taken⟩ := Option.bind_eq_some_iff.mp locked
  split at taken <;> cases taken
  rfl

variable [DecidableEq H]

theorem nativeStep_resume (store : Store H) (infoHash : H) {torrent : Option NativeTorrent}
    (resumed : ∀ native ∈ torrent, native.isPaused = false ∨ store.native infoHash = some native) :
    NativeStep paused store (store.setNative infoHash torrent) := by
  intro other _ unpaused native found
  by_cases same : other = infoHash
  · subst same
    simp only [Store.setNative, Function.update_self] at found
    rcases resumed native found with running | kept
    · exact running
    · exact unpaused native kept
  · simp only [Store.setNative, Function.update_of_ne same] at found
    exact unpaused native found

theorem native_dropPermit (store : Store H) (id : Nat) :
    (store.dropPermit id).native = store.native := by
  unfold Store.dropPermit
  split <;> rfl

theorem performPause_native {ok : Bool} {call : PauseCall H} {pc : PausePc}
    {progress : Progress PausePc}
    (taken : performPause before ok call pc = some (after, progress)) :
    NativeStep (nativelyPauses (some (call, pc))) before after := by
  cases performPause_move taken with
  | nativePause torrent =>
    intro infoHash other unpaused torrent found
    have different : infoHash ≠ call.infoHash := fun same => other (congrArg some same.symm)
    simp only [Store.setNative, Function.update_of_ne different] at found
    exact unpaused torrent found
  | lockOperation _ locked => exact nativeStep_of_eq (native_tryLock locked)
  | _ => exact nativeStep_of_eq rfl

theorem activateSelection_native {activation : Activation H} {permit : Option Nat} {pc : ActivatePc}
    {progress : Progress ActivatePc}
    (taken : activateSelection before outcome activation pc = some (after, progress)) :
    NativeStep (nativelyPauses (Task.activate activation permit pc).pause) before after := by
  cases activateSelection_move taken with
  | lockOperation _ locked => exact nativeStep_of_eq (native_tryLock locked)
  | pausing _ _ _ paused | paused _ _ _ paused => exact performPause_native paused
  | resumed piece torrent =>
    refine nativeStep_resume before activation.infoHash ?_
    rintro native ⟨⟩
    exact .inl rfl
  | _ => exact nativeStep_of_eq rfl

end Native

section Counters

def Store.metadataCount? (store : Store H) (entry : Nat) : Option Nat :=
  (store.state? entry).map (·.metadataPermits)

def CounterStep (touched : Option Nat) (before after : Store H) : Prop :=
  ∀ entry, touched ≠ some entry → after.metadataCount? entry = before.metadataCount? entry ∨
    before.metadataCount? entry = none ∧ after.metadataCount? entry = some 0

variable {touched : Option Nat} {before after : Store H} {outcome : Outcome}

theorem counterStep_of_states (same : ∀ entry, after.state? entry = before.state? entry) :
    CounterStep touched before after :=
  fun entry _ => .inl (by rw [metadataCount?, metadataCount?, same])

theorem counterStep_of_quiet (step : QuietStep before after) : CounterStep touched before after := by
  refine fun entry _ => .inl ?_
  cases found : after.state? entry with
  | none =>
    have absent : before.state? entry = none := by
      rw [state?_eq_none_iff] at found ⊢
      rwa [step.length] at found
    simp [metadataCount?, found, absent]
  | some state =>
    obtain ⟨previous, present, undisturbed⟩ := step.states entry state found
    simp [metadataCount?, found, present, undisturbed.metadataPermits]

theorem counterStep_updateState {target : Nat} {f : TorrentPlaybackState → TorrentPlaybackState}
    (kept : ∀ state, before.state? target = some state →
      touched = some target ∨ (f state).metadataPermits = state.metadataPermits) :
    CounterStep touched before (before.updateState target f) := by
  refine fun entry other => .inl ?_
  rw [metadataCount?, metadataCount?, state?_updateState, Option.map_map]
  refine Option.map_congr fun state found => ?_
  simp only [Function.comp]
  split
  next same =>
    subst same
    exact (kept state found).resolve_left other
  next => rfl

theorem counterStep_setState {target : Nat} {state next : TorrentPlaybackState}
    (found : before.state? target = some state)
    (kept : next.metadataPermits = state.metadataPermits) :
    CounterStep touched before (before.setState target next) :=
  counterStep_updateState fun present same => by
    rw [found] at same
    cases same
    exact .inr kept

theorem CounterStep.congr {next : Store H} (step : CounterStep touched before after)
    (states : ∀ entry, next.state? entry = after.state? entry) : CounterStep touched before next := by
  intro entry other
  rw [show next.metadataCount? entry = after.metadataCount? entry from
    congrArg (Option.map _) (states entry)]
  exact step entry other

theorem counterStep_entry [DecidableEq H] (store : Store H) (infoHash : H) :
    CounterStep touched store (store.entry infoHash).2 := by
  unfold Store.entry
  split
  next => exact counterStep_of_states fun _ => rfl
  next =>
    intro entry _
    by_cases inside : entry < store.cells.length
    · exact .inl (by simp [metadataCount?, Store.state?, List.getElem?_append_left inside])
    · have absent : store.state? entry = none :=
        (store.state?_eq_none_iff entry).mpr (Nat.le_of_not_lt inside)
      by_cases new : entry = store.cells.length
      · subst new
        exact .inr ⟨by simp [metadataCount?, absent],
          by simp [metadataCount?, Store.state?, TorrentPlaybackState.new]⟩
      · have outside : ¬ entry < store.cells.length + 1 := by omega
        exact .inl (by simp [metadataCount?, Store.state?, outside, Nat.le_of_not_lt inside])

theorem select_metadataPermits (state : TorrentPlaybackState) (tokens : Tokens) (now fileIdx : Nat)
    (priority : Int) (directPermit hlsActivity networkRequired foreground : Bool) :
    (state.select tokens now fileIdx priority directPermit hlsActivity networkRequired
      foreground).2.1.metadataPermits = state.metadataPermits := by
  simp only [select]
  cases directPermit <;> cases hlsActivity <;> cases networkRequired <;>
    simp only [acquirePermit, writePhase, bumpGeneration, Bool.false_eq_true, if_false, if_true] <;>
    split <;> rfl

theorem scheduleIdleIfNeeded_metadataPermits (state : TorrentPlaybackState) (now : Nat) :
    (state.scheduleIdleIfNeeded now).metadataPermits = state.metadataPermits := by
  unfold scheduleIdleIfNeeded
  split <;> rfl

theorem expireHls_metadataPermits (state : TorrentPlaybackState) (now : Nat) :
    (state.expireHls now).metadataPermits = state.metadataPermits := by
  unfold expireHls
  split <;> rfl

theorem scanIdle_metadataPermits (state : TorrentPlaybackState) (tokens : Tokens) (now : Nat) :
    (state.scanIdle tokens now).2.1.metadataPermits = state.metadataPermits := by
  have expired := expireHls_metadataPermits state now
  unfold scanIdle
  simp only
  split
  · exact expired
  · split <;> exact expired

end Counters

section Steps

variable [DecidableEq H] {before after : Store H} {outcome : Outcome}

theorem stepTask_metadata {task : Task H} {rest : Option (Task H)}
    (taken : stepTask before outcome task = some (after, rest)) :
    NativeStep (nativelyPauses task.pause) before after ∧
      CounterStep (task.acquiresMetadata.map (·.2)) before after := by
  have unmoved {paused : Option H} {touched : Option Nat} {store : Store H}
      (native : store.native = before.native)
      (states : ∀ entry, store.state? entry = before.state? entry) :
      NativeStep paused before store ∧ CounterStep touched before store :=
    ⟨nativeStep_of_eq native, counterStep_of_states states⟩
  cases stepTask_move taken with
  | startEntry infoHash | refreshEntry infoHash | endEntry infoHash | metadataEntry infoHash
  | reannounceEntry infoHash =>
    exact ⟨nativeStep_of_eq (entry_constants before infoHash).2.2.2.1, counterStep_entry before infoHash⟩
  | refused | endUnrelated | endSeeding | endPaused | endRunning | removeCancel | reannounceStale
  | reannounceCheck =>
    exact unmoved rfl fun _ => rfl
  | selected _ _ _ _ _ _ _ _ found selected =>
    obtain ⟨priority, permit, -, -, -, -, rfl⟩ := startSelect_selected selected
    exact ⟨nativeStep_of_eq rfl, CounterStep.congr
      (counterStep_setState found (select_metadataPermits ..)) fun _ => rfl⟩
  | activating _ _ _ _ _ activated | activated _ _ _ _ _ activated =>
    exact ⟨activateSelection_native activated, counterStep_of_quiet (activateSelection_quiet activated)⟩
  | activationFailed activation id pc next activated =>
    have native : NativeStep (nativelyPauses (Task.activate activation (some id) pc).pause) before next :=
      activateSelection_native activated
    have counters : CounterStep none before next := counterStep_of_quiet (activateSelection_quiet activated)
    refine ⟨fun infoHash other unpaused => ?_, counters.congr fun entry => ?_⟩
    · rw [Store.Unpaused, native_dropPermit]
      exact native infoHash other unpaused
    · simp [Store.state?, (dropPermit_frame next _).2]
  | refreshed _ entry _ fileIdx complete state found | reselected _ entry _ fileIdx complete state found =>
    have counters : CounterStep none before
        (before.setState entry (before.reselect state fileIdx complete).2.1) :=
      counterStep_setState found (select_metadataPermits ..)
    exact ⟨nativeStep_of_eq rfl, counters.congr fun _ => rfl⟩
  | endBegun _ entry _ state found =>
    have counters : CounterStep none before
        (before.setState entry (state.beginPause before.tokens).1) :=
      counterStep_setState found rfl
    exact ⟨nativeStep_of_eq rfl, counters.congr fun _ => rfl⟩
  | endKeepActive _ generation =>
    exact ⟨nativeStep_of_eq rfl, counterStep_of_quiet (QuietStep.updateState fun state =>
      keepActiveForSeeding_undisturbed state generation)⟩
  | endWriteBack => exact ⟨nativeStep_of_eq rfl, counterStep_updateState fun _ _ => .inr rfl⟩
  | endPause _ _ _ _ paused | ended _ _ _ _ paused =>
    exact ⟨performPause_native paused, counterStep_of_quiet (performPause_quiet paused)⟩
  | metadataLock _ _ _ lockable =>
    exact ⟨nativeStep_of_eq (native_tryLock lockable),
      counterStep_of_quiet (QuietStep.of_tryLock lockable)⟩
  | metadataAbsent => exact unmoved rfl (by simp)
  | metadataKnown _ entry torrent state =>
    have counters : CounterStep (some entry) before
        (before.setState entry (state.acquireMetadata torrent.hasMetadata)) :=
      counterStep_updateState fun _ _ => .inl rfl
    exact ⟨nativeStep_of_eq rfl, counters.congr fun other => state?_unlock _ entry other⟩
  | metadataFetched _ entry torrent state =>
    have counters : CounterStep (some entry) before
        (before.setState entry (state.acquireMetadata torrent.hasMetadata)) :=
      counterStep_updateState fun _ _ => .inl rfl
    exact ⟨nativeStep_of_eq rfl, counters.congr fun _ => rfl⟩
  | metadataAnnounce infoHash entry isPaused =>
    have counters : CounterStep none before
        (before.updateState entry ({ · with metadataAnnounced := true })) :=
      counterStep_updateState fun _ _ => .inr rfl
    refine ⟨fun other different unpaused => ?_, counters.congr fun other => state?_unlock _ entry other⟩
    refine nativeStep_resume before infoHash (fun native found => ?_) other different unpaused
    obtain ⟨torrent, present, rfl⟩ := Option.map_eq_some_iff.mp found
    cases isPaused with
    | true => exact .inl rfl
    | false => exact .inr present
  | reannounceState =>
    refine ⟨nativeStep_of_eq rfl, counterStep_updateState fun state _ => .inr ?_⟩
    split <;> rfl

theorem stepWorker_metadata {attempt : Nat} {worker rest : Worker H}
    (taken : stepWorker before outcome attempt worker = some (after, rest)) :
    NativeStep (nativelyPauses (worker.moves attempt)) before after ∧
      CounterStep worker.lowersMetadata before after := by
  have unmoved {paused : Option H} {touched : Option Nat} :
      NativeStep paused before before ∧ CounterStep touched before before :=
    ⟨nativeStep_of_eq rfl, counterStep_of_states fun _ => rfl⟩
  cases stepWorker_move taken with
  | replaceEntry infoHash | metadataEntry infoHash =>
    exact ⟨nativeStep_of_eq (entry_constants before infoHash).2.2.2.1, counterStep_entry before infoHash⟩
  | releaseEntry permit =>
    exact ⟨nativeStep_of_eq (entry_constants before permit.infoHash).2.2.2.1,
      counterStep_entry before permit.infoHash⟩
  | replaceLock _ _ _ _ _ _ lockable | releaseLock _ _ _ lockable | seedingOn _ _ _ _ lockable =>
    exact ⟨nativeStep_of_eq (native_tryLock lockable),
      counterStep_of_quiet (QuietStep.of_tryLock lockable)⟩
  | seededOff | seededOn | verifiedComplete | verifiedIncomplete | verifiedStale | scanned | joined
  | settled =>
    exact unmoved
  | replaceState entry _ _ _ _ _ found =>
    refine ⟨nativeStep_of_eq rfl, CounterStep.congr (counterStep_setState found ?_) fun other =>
      state?_unlock _ entry other⟩
    split <;> rfl
  | releaseState =>
    exact ⟨nativeStep_of_eq rfl, counterStep_updateState fun state _ =>
      .inr (scheduleIdleIfNeeded_metadataPermits _ _)⟩
  | releaseNative | seedingOnGone => exact ⟨nativeStep_of_eq rfl, counterStep_of_states (by simp)⟩
  | metadataState => exact ⟨nativeStep_of_eq rfl, counterStep_updateState fun _ _ => .inl rfl⟩
  | seedingOff =>
    exact ⟨nativeStep_of_eq rfl, counterStep_updateState fun state _ =>
      .inr (scheduleIdleIfNeeded_metadataPermits state _)⟩
  | seedingOnPaused _ _ _ _ found =>
    exact ⟨nativeStep_of_eq rfl, counterStep_setState found rfl⟩
  | seedingOnState _ entry _ state found =>
    have counters : CounterStep none before (before.setState entry { state with idleDeadline := none }) :=
      counterStep_setState found rfl
    exact ⟨nativeStep_of_eq rfl, counters.congr fun other => state?_unlock _ entry other⟩
  | seedingOnResume infoHash entry =>
    have counters : CounterStep none before (before.updateState entry ({ · with phase := .active })) :=
      counterStep_updateState fun _ _ => .inr rfl
    refine ⟨fun other different unpaused => ?_, counters.congr fun other => state?_unlock _ entry other⟩
    refine nativeStep_resume before infoHash (fun native found => ?_) other different unpaused
    cases found
    exact .inl rfl
  | verifiedState _ _ _ _ found => exact ⟨nativeStep_of_eq rfl, counterStep_setState found rfl⟩
  | verifiedPending _ _ _ _ found => exact ⟨nativeStep_of_eq rfl, counterStep_setState found rfl⟩
  | verifiedPause _ _ _ _ paused | verifiedPaused _ _ _ paused | verifiedUnpaused _ _ _ paused =>
    exact ⟨performPause_native paused, counterStep_of_quiet (performPause_quiet paused)⟩
  | verifiedFailed =>
    refine ⟨nativeStep_of_eq rfl, counterStep_updateState fun state _ => .inr ?_⟩
    split <;> rfl
  | scan _ entry _ scanNow _ state found =>
    have counters : CounterStep none before
        (before.setState entry (state.scanIdle before.tokens scanNow).2.1) :=
      counterStep_setState found (scanIdle_metadataPermits state before.tokens scanNow)
    exact ⟨nativeStep_of_eq rfl, counters.congr fun _ => rfl⟩
  | join attempts call pc _ _ present paused =>
    refine ⟨?_, counterStep_of_quiet (performPause_quiet paused)⟩
    rw [show (Worker.join attempts).moves attempt = some (call, pc) by
      simp [Worker.moves, present, runningPause]]
    exact performPause_native paused
  | settle =>
    refine ⟨nativeStep_of_eq rfl, counterStep_updateState fun state _ => .inr ?_⟩
    unfold idlePauseFailed
    split <;> rfl

end Steps

end StreamServer.Playback
