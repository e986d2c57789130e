import StreamServer.Playback.Generations
import StreamServer.Playback.MetadataEffects
import StreamServer.Playback.PauseSteps

set_option autoImplicit false

namespace StreamServer.Playback

open CancellationTokens TorrentPlaybackState Store

variable {H : Type}

def Task.captured : Task H → Option (Nat × Nat)
  | .activate activation _ _ => some (activation.entry, activation.selection.generation)
  | .endCheckSeeding _ entry generation _ => some (entry, generation)
  | .endPause call _ => some call.target
  | _ => none

def Worker.captured : Worker H → List (Nat × Nat)
  | .verifiedComplete _ entry _ generation | .verifiedPending _ entry _ generation =>
      [(entry, generation)]
  | .verifiedPause call _ => [call.target]
  | .scan _ _ due => due.map (·.target)
  | .join attempts => attempts.map (·.1.target)
  | _ => []

def Store.generation? (store : Store H) (entry : Nat) : Option Nat :=
  (store.state? entry).map (·.generation)

def Store.Reached (store : Store H) (target : Nat × Nat) : Prop :=
  ∃ generation, store.generation? target.1 = some generation ∧ target.2 ≤ generation

def Task.decides (store : Store H) : Task H → Option H
  | .endBegin infoHash entry fileIdx =>
      (store.state? entry).bind fun state =>
        if (state.selectedFile ≠ some fileIdx ∧ state.hlsLastActivity = none) ∨
          state.phase = .pausedIdle then none
        else some infoHash
  | .activate activation _ .branchComplete =>
      if activation.complete ∧ ¬ store.seedingEnabled ∧
          store.generation? activation.entry = some activation.selection.generation then
        some activation.infoHash
      else none
  | _ => none

def Worker.decides (store : Store H) : Worker H → Option H
  | .verifiedPending infoHash entry fileIdx generation =>
      (store.state? entry).bind fun state =>
        if !state.selectionIsCurrent fileIdx generation || state.phase != .active then none
        else some infoHash
  | _ => none

/-- The torrent whose idle pause `pause_due_torrents` decides when it looks at the next entry. -/
def Worker.findsDue (store : Store H) : Worker H → Option H
  | .scan ((infoHash, entry) :: _) scanNow _ =>
      (store.state? entry).bind fun state =>
        (state.scanIdle store.tokens scanNow).1.map fun _ => infoHash
  | _ => none

section Stores

variable {before after : Store H} {teardown : Option Nat}

theorem generation?_eq_fence? (store : Store H) (entry : Nat) :
    store.generation? entry = (store.fence? entry).map (·.1) := by
  rw [generation?, fence?, Option.map_map]
  rfl

theorem generation?_setState {entry : Nat} {previous : TorrentPlaybackState}
    (present : before.state? entry = some previous) (state : TorrentPlaybackState) :
    (before.setState entry state).generation? entry = some state.generation := by
  rw [generation?, state?_setState present, if_pos rfl]
  rfl

theorem FenceStep.generation_le (step : FenceStep teardown before after) (fenced : Fenced before)
    {entry generation : Nat} (found : before.generation? entry = some generation) :
    ∃ next, after.generation? entry = some next ∧ generation ≤ next := by
  rw [generation?_eq_fence?] at found
  obtain ⟨fence, present, rfl⟩ := Option.map_eq_some_iff.mp found
  obtain ⟨next, later, older, -⟩ := (step.advances fenced entry).fences fence present
  exact ⟨next.1, by rw [generation?_eq_fence?, later]; rfl, older⟩

theorem Store.Reached.step {target : Nat × Nat} (reached : before.Reached target)
    (step : FenceStep teardown before after) (fenced : Fenced before) : after.Reached target := by
  obtain ⟨generation, found, older⟩ := reached
  obtain ⟨next, later, grown⟩ := step.generation_le fenced found
  exact ⟨next, later, older.trans grown⟩

theorem willPause_of_step {pause : DecidedPause H} (step : FenceStep teardown before after)
    (fenced : Fenced before) (reached : before.Reached pause.1.target)
    (still : after.willPause pause) : before.willPause pause := by
  obtain ⟨call, pc⟩ := pause
  have back (current : after.generation? call.entry = some call.generation) :
      before.generation? call.entry = some call.generation := by
    obtain ⟨generation, found, older⟩ := reached
    obtain ⟨next, later, grown⟩ := step.generation_le fenced found
    cases later.symm.trans current
    rw [show call.generation = generation from Nat.le_antisymm older grown]
    exact found
  cases pc with
  | checkSeeding | lockOperation | checkGeneration => exact back still
  | nativePause => trivial
  | _ => exact still.elim

theorem QuietStep.generation?_eq (step : QuietStep before after) (entry : Nat) :
    after.generation? entry = before.generation? entry := by
  cases found : after.state? entry with
  | none =>
    have absent : before.state? entry = none := by
      rw [state?_eq_none_iff] at found ⊢
      rwa [step.length] at found
    simp [generation?, found, absent]
  | some state =>
    obtain ⟨previous, present, undisturbed⟩ := step.states entry state found
    simp [generation?, found, present, undisturbed.generation]

variable [DecidableEq H]

theorem performPause_willPause {ok : Bool} {call : PauseCall H} {pc next : PausePc}
    (taken : performPause before ok call pc = some (after, .running next))
    (still : after.willPause (call, next)) : before.willPause (call, pc) := by
  have same := (performPause_quiet taken).generation?_eq call.entry
  have back (current : after.generation? call.entry = some call.generation) :
      before.generation? call.entry = some call.generation := same.symm.trans current
  cases performPause_move taken with
  | nativePause => trivial
  | checkSeeding | lockOperation => exact back still
  | checkGeneration state found current =>
    show (before.state? call.entry).map (·.generation) = some call.generation
    rw [found]
    exact congrArg some current
  | seeding | confirm | recheck | applyZeros => exact still.elim
  | compareZeros zeros next reached => obtain rfl | rfl := reached <;> exact still.elim

theorem activateSelection_pause {outcome : Outcome} {activation : Activation H} {pc : ActivatePc}
    {next : PausePc}
    (taken : activateSelection before outcome activation pc = some (after, .running (.pause next)))
    (still : after.willPause (activation.pauseCall, next)) :
    (∃ earlier, pc = .pause earlier ∧ before.willPause (activation.pauseCall, earlier)) ∨
      pc = .branchComplete ∧ activation.complete = true ∧ before.seedingEnabled = false ∧
        before.generation? activation.entry = some activation.selection.generation := by
  cases activateSelection_move taken with
  | went _ _ _ unpausing => exact absurd rfl (unpausing next)
  | startsPause complete disabled =>
    refine .inr ⟨rfl, complete, disabled, ?_⟩
    rw [generation?, ← state?_unlock before activation.entry]
    exact still
  | pausing earlier _ _ paused => exact .inl ⟨earlier, rfl, performPause_willPause paused still⟩

end Stores

section Steps

variable [DecidableEq H] {before after : Store H} {outcome : Outcome}

theorem stepTask_captured {task next : Task H} {target : Nat × Nat}
    (taken : stepTask before outcome task = some (after, some next))
    (captures : next.captured = some target) :
    task.captured = some target ∨ after.generation? target.1 = some target.2 := by
  cases stepTask_move taken with
  | startEntry | refreshEntry | endEntry | endSeeding | endPaused | metadataEntry | metadataLock
  | metadataFetched | reannounceEntry | reannounceCheck =>
    cases captures
  | selected _ _ _ _ _ _ _ _ found selected =>
    cases captures
    obtain ⟨priority, permit, rfl, -, -, -, rfl⟩ := startSelect_selected selected
    exact .inr (generation?_setState found _)
  | activating | endRunning | endPause => exact .inl captures
  | reselected _ _ _ fileIdx complete state found =>
    cases captures
    have current := select_generation state before.tokens before.now fileIdx
      (if complete then 0 else 1) false true (!complete || before.seedingEnabled) false
    rw [← current]
    exact .inr (generation?_setState found _)
  | endBegun _ _ _ state found =>
    cases captures
    exact .inr (generation?_setState found (state.beginPause before.tokens).1)

theorem stepTask_pause {task next : Task H} {pause : DecidedPause H}
    (taken : stepTask before outcome task = some (after, some next))
    (pausing : next.pause = some pause) (still : after.willPause pause) :
    (∃ earlier, task.pause = some earlier ∧ earlier.1 = pause.1 ∧ before.willPause earlier) ∨
      task.decides before = some pause.1.infoHash := by
  cases stepTask_move taken with
  | startEntry | selected | refreshEntry | reselected | endEntry | endSeeding | endPaused
  | metadataEntry | metadataLock | metadataFetched | reannounceEntry | reannounceCheck =>
    cases pausing
  | activating activation _ _ advanced _ activated =>
    cases advanced with
    | pause nextPc =>
      cases pausing
      rcases activateSelection_pause activated still with
        ⟨earlier, rfl, earlierStill⟩ | ⟨rfl, complete, disabled, current⟩
      · exact .inl ⟨(activation.pauseCall, earlier), rfl, rfl, earlierStill⟩
      · exact .inr (by simp [Task.decides, complete, disabled, current, Activation.pauseCall])
    | _ => cases pausing
  | endBegun _ _ _ state found relevant =>
    cases paused : state.phase == .pausedIdle with
    | true => simp [paused, Task.pause] at pausing
    | false =>
      rw [paused] at pausing
      cases pausing
      have running : state.phase ≠ .pausedIdle := by simpa using paused
      exact .inr (by simp only [Task.decides, found, Option.bind_some, relevant, running, or_self,
        if_false])
  | endRunning =>
    cases pausing
    exact .inl ⟨_, rfl, rfl, still⟩
  | endPause call pc _ _ paused =>
    cases pausing
    exact .inl ⟨(call, pc), rfl, rfl, performPause_willPause paused still⟩

theorem stepWorker_captured {attempt : Nat} {worker rest : Worker H} {target : Nat × Nat}
    (taken : stepWorker before outcome attempt worker = some (after, rest))
    (captures : target ∈ rest.captured) :
    target ∈ worker.captured ∨ after.generation? target.1 = some target.2 := by
  cases stepWorker_move taken with
  | verifiedState _ _ _ _ found =>
    split at captures
    · cases List.mem_singleton.mp captures
      exact .inr (generation?_setState found _)
    · cases captures
  | verifiedComplete | verifiedPending | verifiedPause => exact .inl captures
  | scanned => exact .inl (by simpa [Worker.captured, Function.comp_def] using captures)
  | scan _ _ _ scanNow _ state found =>
    have decided := scanIdle_decides state before.tokens scanNow
    generalize state.scanIdle before.tokens scanNow = scan at captures decided
    simp only [Worker.captured, List.map_append, List.mem_append] at captures
    refine captures.imp_right fun new => ?_
    rcases decided with ⟨undecided, -⟩ | ⟨generation, decided, current⟩
    · simp [undecided] at new
    · simp only [decided, Option.map_some, Option.toList_some, List.map_cons, List.map_nil,
        List.mem_singleton] at new
      subst new
      rw [PauseCall.target, ← current]
      exact generation?_setState found scan.2.1
  | join attempts call pc progress _ present =>
    obtain ⟨moved, member, rfl⟩ := List.mem_map.mp captures
    refine .inl (List.mem_map.mpr ?_)
    rcases List.mem_or_eq_of_mem_set member with earlier | rfl
    · exact ⟨moved, earlier, rfl⟩
    · exact ⟨(call, .running pc), List.mem_of_getElem? present, rfl⟩
  | _ => cases captures

theorem stepWorker_pause {attempt : Nat} {worker rest : Worker H} {pause : DecidedPause H}
    (taken : stepWorker before outcome attempt worker = some (after, rest)) (fenced : Fenced before)
    (reached : ∀ target ∈ worker.captured, before.Reached target)
    (pausing : pause ∈ rest.pauses) (still : after.willPause pause) :
    (∃ earlier ∈ worker.pauses, earlier.1 = pause.1 ∧ before.willPause earlier) ∨
      worker.decides before = some pause.1.infoHash ∨
      worker.findsDue before = some pause.1.infoHash := by
  have unmoved (member : pause ∈ worker.pauses) (captures : pause.1.target ∈ worker.captured) :
      (∃ earlier ∈ worker.pauses, earlier.1 = pause.1 ∧ before.willPause earlier) ∨
        worker.decides before = some pause.1.infoHash ∨
        worker.findsDue before = some pause.1.infoHash :=
    .inl ⟨pause, member, rfl, willPause_of_step (stepWorker_fence taken) fenced
      (reached _ captures) still⟩
  cases stepWorker_move taken with
  | verifiedState => split at pausing <;> cases pausing
  | verifiedPending _ _ _ state found current active =>
    cases List.mem_singleton.mp pausing
    exact .inr (.inl (by simp [Worker.decides, found, current, active]))
  | verifiedPause call pc _ _ paused =>
    cases List.mem_singleton.mp pausing
    exact .inl ⟨(call, pc), List.mem_singleton.mpr rfl, rfl, performPause_willPause paused still⟩
  | scanned scanNow due =>
    have member : pause ∈ due.map fun call => (call, PausePc.checkSeeding) := by
      simpa [Worker.pauses, List.filterMap_map, Function.comp_def, runningPause] using pausing
    refine unmoved member ?_
    obtain ⟨call, due, rfl⟩ := List.mem_map.mp member
    exact List.mem_map.mpr ⟨call, due, rfl⟩
  | scan _ _ _ scanNow _ state found =>
    simp only [Worker.pauses, List.map_append, List.mem_append] at pausing
    rcases pausing with earlier | new
    · refine unmoved earlier ?_
      obtain ⟨call, due, rfl⟩ := List.mem_map.mp earlier
      exact List.mem_map.mpr ⟨call, due, rfl⟩
    · refine .inr (.inr ?_)
      cases decided : (state.scanIdle before.tokens scanNow).1 with
      | none => simp [decided] at new
      | some generation =>
        simp only [decided, Option.map_some, Option.toList_some, List.map_cons, List.map_nil,
          List.mem_singleton] at new
        subst new
        simp [Worker.findsDue, found, decided]
  | join attempts call pc progress _ present paused =>
    obtain ⟨moved, member, running⟩ := List.mem_filterMap.mp pausing
    rcases List.mem_or_eq_of_mem_set member with earlier | rfl
    · refine unmoved (List.mem_filterMap.mpr ⟨moved, earlier, running⟩) (List.mem_map.mpr ⟨moved, earlier, ?_⟩)
      obtain ⟨other, progress⟩ := moved
      cases progress <;> cases running
      rfl
    · cases progress <;> cases running
      refine .inl ⟨(call, pc), List.mem_filterMap.mpr ?_, rfl, performPause_willPause paused still⟩
      exact ⟨(call, .running pc), List.mem_of_getElem? present, rfl⟩
  | _ => cases pausing

end Steps

end StreamServer.Playback
