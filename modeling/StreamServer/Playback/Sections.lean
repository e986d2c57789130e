import StreamServer.Playback.Store

set_option autoImplicit false

namespace StreamServer.Playback

open Store

variable {H : Type} [DecidableEq H] {before after : Store H}

/-- What one section of `perform_pause` does, a constructor for each of its ends. -/
inductive PerformPauseMove (before : Store H) (ok : Bool) (call : PauseCall H) :
    PausePc → Store H → Progress PausePc → Prop where
  | seeding (enabled : before.seedingEnabled = true) :
      PerformPauseMove before ok call .checkSeeding before (.running .keepActive)
  | checkSeeding (disabled : before.seedingEnabled = false) :
      PerformPauseMove before ok call .checkSeeding before (.running .lockOperation)
  | keepActive :
      PerformPauseMove before ok call .keepActive
        (before.updateState call.entry (·.keepActiveForSeeding call.generation)) (.returned true)
  | lockOperation (after : Store H) (locked : before.tryLock call.entry = some after) :
      PerformPauseMove before ok call .lockOperation after (.running .checkGeneration)
  | outdated (pc : PausePc) (state : TorrentPlaybackState)
      (checks : pc = .checkGeneration ∨ pc = .recheck)
      (found : before.state? call.entry = some state) (moved : state.generation ≠ call.generation) :
      PerformPauseMove before ok call pc (before.unlock call.entry) (.returned true)
  | checkGeneration (state : TorrentPlaybackState) (found : before.state? call.entry = some state)
      (current : state.generation = call.generation) :
      PerformPauseMove before ok call .checkGeneration before (.running .nativePause)
  | nativePause (torrent : NativeTorrent) (found : before.native call.infoHash = some torrent) :
      PerformPauseMove before ok call .nativePause
        (before.setNative call.infoHash (some { torrent with isPaused := true }))
        (.running .confirm)
  | failed (pc : PausePc) (holds : pc.holdsOperation = true) :
      PerformPauseMove before ok call pc (before.unlock call.entry) (.returned false)
  | confirm (confirmed : ok = true) :
      PerformPauseMove before ok call .confirm before (.running .recheck)
  | recheck : PerformPauseMove before ok call .recheck before (.running .compareZeros)
  | compareZeros (zeros : List Int) (next : PausePc)
      (reached : next = .applyZeros zeros ∨ next = .finish zeros) :
      PerformPauseMove before ok call .compareZeros before (.running next)
  | applyZeros (zeros : List Int) (applied : ok = true) :
      PerformPauseMove before ok call (.applyZeros zeros) before (.running (.finish zeros))
  | finish (zeros : List Int) :
      PerformPauseMove before ok call (.finish zeros)
        ((before.updateState call.entry
          (·.finishPause call.generation zeros call.clearSelection)).unlock call.entry)
        (.returned true)

theorem performPause_move {ok : Bool} {call : PauseCall H} {pc : PausePc}
    {progress : Progress PausePc}
    (taken : performPause before ok call pc = some (after, progress)) :
    PerformPauseMove before ok call pc after progress := by
  cases pc with
  | checkSeeding =>
    simp only [performPause] at taken
    split at taken <;> cases taken
    next enabled => exact .seeding enabled
    next disabled => exact .checkSeeding (Bool.eq_false_iff.mpr disabled)
  | keepActive =>
    cases taken
    exact .keepActive
  | lockOperation =>
    obtain ⟨locked, lockable, equal⟩ := Option.map_eq_some_iff.mp taken
    cases equal
    exact .lockOperation _ lockable
  | checkGeneration =>
    obtain ⟨state, found, equal⟩ := Option.map_eq_some_iff.mp taken
    split at equal <;> cases equal
    next moved => exact .outdated _ state (.inl rfl) found moved
    next current => exact .checkGeneration state found (not_not.mp current)
  | nativePause =>
    simp only [performPause] at taken
    split at taken <;> cases taken
    next => exact .failed _ rfl
    next torrent found => exact .nativePause torrent found
  | confirm =>
    simp only [performPause] at taken
    split at taken <;> cases taken
    next confirmed => exact .confirm confirmed
    next => exact .failed _ rfl
  | recheck =>
    obtain ⟨state, found, equal⟩ := Option.map_eq_some_iff.mp taken
    split at equal <;> cases equal
    next moved => exact .outdated _ state (.inr rfl) found moved
    next => exact .recheck
  | compareZeros =>
    obtain ⟨cell, -, equal⟩ := Option.map_eq_some_iff.mp taken
    simp only at equal
    split at equal <;> cases equal
    next => exact .compareZeros _ _ (.inl rfl)
    next => exact .compareZeros _ _ (.inr rfl)
  | applyZeros zeros =>
    simp only [performPause] at taken
    split at taken <;> cases taken
    next applied => exact .applyZeros zeros applied
    next => exact .failed _ rfl
  | finish zeros =>
    cases taken
    exact .finish zeros

/-- What one section of `activate_selection` does, a constructor for each of its ends. -/
inductive ActivateSelectionMove (before : Store H) (outcome : Outcome) (activation : Activation H) :
    ActivatePc → Store H → Progress ActivatePc → Prop where
  | lockOperation (after : Store H) (locked : before.tryLock activation.entry = some after) :
      ActivateSelectionMove before outcome activation .lockOperation after (.running .checkCurrent)
  | ended (pc : ActivatePc) (ok : Bool) (holds : pc.holdsOperation = true) :
      ActivateSelectionMove before outcome activation pc (before.unlock activation.entry)
        (.returned ok)
  | went (pc next : ActivatePc) (holds : pc.holdsOperation = true)
      (unpausing : ∀ pause, next ≠ .pause pause) :
      ActivateSelectionMove before outcome activation pc before (.running next)
  | acknowledged (desired : List Int) (state : TorrentPlaybackState)
      (found : before.state? activation.entry = some state)
      (current : state.generation = activation.selection.generation) :
      ActivateSelectionMove before outcome activation (.acknowledge desired)
        (before.setState activation.entry { state with acknowledgedPriorities := some desired })
        (.running .branchComplete)
  | startsPause (complete : activation.complete = true)
      (disabled : before.seedingEnabled = false) :
      ActivateSelectionMove before outcome activation .branchComplete
        (before.unlock activation.entry) (.running (.pause .checkSeeding))
  | pausing (pc next : PausePc) (after : Store H)
      (paused : performPause before outcome.ok activation.pauseCall pc =
        some (after, .running next)) :
      ActivateSelectionMove before outcome activation (.pause pc) after (.running (.pause next))
  | paused (pc : PausePc) (after : Store H) (ok : Bool)
      (paused : performPause before outcome.ok activation.pauseCall pc =
        some (after, .returned ok)) :
      ActivateSelectionMove before outcome activation (.pause pc) after (.returned ok)
  | windowed (state next : TorrentPlaybackState)
      (found : before.state? activation.entry = some state)
      (set : next = state ∨ next = { state with priorityWindows :=
        (state.priorityWindows.replace activation.start.streamId outcome.assignments).1 }) :
      ActivateSelectionMove before outcome activation .hotWindow
        (before.setState activation.entry next) (.running (.firstPiece outcome.firstPiece))
  | firstPiece (piece : Int) (state : TorrentPlaybackState)
      (found : before.state? activation.entry = some state) :
      ActivateSelectionMove before outcome activation (.firstPiece piece)
        (before.setState activation.entry { state with selectedFirstPiece := some piece })
        (.running (.resume piece))
  | resumed (piece : Int) (torrent : NativeTorrent)
      (found : before.native activation.infoHash = some torrent) :
      ActivateSelectionMove before outcome activation (.resume piece)
        (before.setNative activation.infoHash (some { torrent with isPaused := false }))
        (.running .firstPiecePresent)
  | finished (state next : TorrentPlaybackState)
      (found : before.state? activation.entry = some state)
      (set : next = state ∨ next = { state with selectedFirstPiece := none }) :
      ActivateSelectionMove before outcome activation .firstPiecePresent
        ((before.setState activation.entry next).unlock activation.entry) (.returned true)

theorem activateSelection_move {outcome : Outcome} {activation : Activation H} {pc : ActivatePc}
    {progress : Progress ActivatePc}
    (taken : activateSelection before outcome activation pc = some (after, progress)) :
    ActivateSelectionMove before outcome activation pc after progress := by
  cases pc with
  | lockOperation =>
    obtain ⟨locked, lockable, equal⟩ := Option.map_eq_some_iff.mp taken
    cases equal
    exact .lockOperation _ lockable
  | checkCurrent =>
    obtain ⟨state, -, equal⟩ := Option.map_eq_some_iff.mp taken
    split at equal
    next =>
      cases equal
      exact .ended _ _ rfl
    next =>
      split at equal <;> cases equal
      next => exact .ended _ _ rfl
      next => exact .went _ _ rfl (by rintro _ ⟨⟩)
  | clearDeadlines =>
    simp only [activateSelection] at taken
    split at taken
    next =>
      cases taken
      exact .ended _ _ rfl
    next =>
      split at taken <;> cases taken
      next => exact .ended _ _ rfl
      next => exact .went _ _ rfl (by rintro _ ⟨⟩)
  | fastPath desired =>
    simp only [activateSelection] at taken
    split at taken <;> cases taken <;> exact .went _ _ rfl (by rintro _ ⟨⟩)
  | fastPathState desired =>
    obtain ⟨state, -, equal⟩ := Option.map_eq_some_iff.mp taken
    split at equal <;> cases equal
    next => exact .ended _ _ rfl
    next => exact .went _ _ rfl (by rintro _ ⟨⟩)
  | comparePriorities desired =>
    obtain ⟨state, -, equal⟩ := Option.map_eq_some_iff.mp taken
    split at equal <;> cases equal <;> exact .went _ _ rfl (by rintro _ ⟨⟩)
  | applyPriorities desired =>
    simp only [activateSelection] at taken
    split at taken <;> cases taken
    next => exact .went _ _ rfl (by rintro _ ⟨⟩)
    next => exact .ended _ _ rfl
  | acknowledge desired =>
    obtain ⟨state, found, equal⟩ := Option.map_eq_some_iff.mp taken
    split at equal <;> cases equal
    next => exact .ended _ _ rfl
    next current => exact .acknowledged desired state found (not_not.mp current)
  | branchComplete =>
    simp only [activateSelection] at taken
    split at taken
    next complete =>
      split at taken <;> cases taken
      next => exact .ended _ _ rfl
      next disabled => exact .startsPause complete (Bool.eq_false_iff.mpr disabled)
    next =>
      cases taken
      exact .went _ _ rfl (by rintro _ ⟨⟩)
  | pause pc =>
    obtain ⟨⟨next, progress⟩, performed, equal⟩ := Option.map_eq_some_iff.mp taken
    cases progress <;> cases equal
    next => exact .pausing pc _ _ performed
    next => exact .paused pc _ _ performed
  | hotWindow =>
    simp only [activateSelection] at taken
    split at taken
    next =>
      obtain ⟨state, found, equal⟩ := Option.map_eq_some_iff.mp taken
      cases equal
      refine .windowed state _ found ?_
      split
      next => exact .inr rfl
      next => exact .inl rfl
    next =>
      cases taken
      exact .ended _ _ rfl
  | firstPiece piece =>
    obtain ⟨state, found, equal⟩ := Option.map_eq_some_iff.mp taken
    split at equal <;> cases equal
    next => exact .ended _ _ rfl
    next => exact .firstPiece piece state found
  | resume piece =>
    simp only [activateSelection] at taken
    split at taken
    next =>
      cases taken
      exact .ended _ _ rfl
    next torrent present =>
      obtain ⟨state, -, equal⟩ := Option.map_eq_some_iff.mp taken
      split at equal <;> cases equal
      next => exact .ended _ _ rfl
      next => exact .resumed piece torrent present
  | firstPiecePresent =>
    obtain ⟨state, found, equal⟩ := Option.map_eq_some_iff.mp taken
    cases equal
    refine .finished state _ found ?_
    split
    next => exact .inr rfl
    next => exact .inl rfl

end StreamServer.Playback
