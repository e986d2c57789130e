import StreamServer.Transcoding.UnixProcesses

set_option autoImplicit false

namespace StreamServer.Transcoding

namespace OwnerPoint

def sent : OwnerPoint → Bool
  | .watching _ | .stopping | .grace | .signalling => false
  | _ => true

def killable : OwnerPoint → Bool
  | .watching _ | .stopping | .grace | .signalling | .marking => true
  | _ => false

def reaped : OwnerPoint → Bool
  | .watching _ | .stopping | .grace | .signalling | .marking | .draining | .waiting => false
  | _ => true

def stdoutJoined : OwnerPoint → Bool
  | .joiningStderr | .completing | .dropping | .dropMarking | .retaining | .done => true
  | _ => false

def stderrJoined : OwnerPoint → Bool
  | .completing | .dropping | .dropMarking | .retaining | .done => true
  | _ => false

def registered : OwnerPoint → Bool
  | .dropping | .dropMarking | .retaining | .done => false
  | _ => true

/-- Two statements between which the owner changes nothing but where it stands. -/
def Alike (point other : OwnerPoint) : Prop :=
  point.sent = other.sent ∧ point.killable = other.killable ∧ point.reaped = other.reaped ∧
    point.stdoutJoined = other.stdoutJoined ∧ point.stderrJoined = other.stderrJoined ∧
      point.registered = other.registered ∧ point ≠ .dropMarking

instance (point other : OwnerPoint) : Decidable (point.Alike other) :=
  inferInstanceAs (Decidable (_ ∧ _))

theorem not_reaped_of_killable {point : OwnerPoint} (killable : point.killable = true) :
    point.reaped = false := by
  cases point <;> first | rfl | cases killable

theorem not_registered {point : OwnerPoint} (unregistered : point.registered = false) :
    point.reaped = true ∧ point.stdoutJoined = true ∧ point.stderrJoined = true := by
  cases point <;> first | exact ⟨rfl, rfl, rfl⟩ | cases unregistered

end OwnerPoint

namespace UnixOwner

structure Fits (state : UnixOwner) (point : OwnerPoint) : Prop where
  signalled : state.owner.identity.finalSignalSent = point.sent
  durable : state.owner.ownership.finalSignalSent = point.sent
  leader : state.leaderReaped = point.reaped
  identified : state.owner.identity.leaderReaped = point.reaped
  child : state.owner.ownership.childReaped = point.reaped
  stdout : decide (state.stdout = .joined) = point.stdoutJoined
  stderr : decide (state.stderr = .joined) = point.stderrJoined
  readers : state.owner.ownership.readersJoined =
    point.stdoutJoined.toNat + point.stderrJoined.toNat
  handle : state.owner.child = point.registered
  registration : state.owner.registration.isSome = point.registered
  -- The drop of an owner has no signal left to send.
  reached : point ≠ .dropMarking

def Sound (state : UnixOwner) : Prop := state.Fits state.point

variable {state after : UnixOwner} {stopped : Bool} {step : OwnerStep}
variable {effect : Option RegistryEffect}

def entry (state : UnixOwner) : RegisteredEntry where
  target := state.owner.identity.processGroup
  retained := false
  cleanupStarted := false
  permit := true
  unixKillable := state.point.killable

inductive Changes (before after : UnixOwner) : Option RegistryEffect → Prop where
  | nothing : after.owner.registration = before.owner.registration →
      after.point.killable = before.point.killable → Changes before after none
  | marked (id : Nat) : before.owner.registration = some id →
      after.owner.registration = some id → after.point.killable = false →
        Changes before after (some (.markFinalSignalSent id))
  | completed (id : Nat) : before.owner.registration = some id →
      after.owner.registration = none → Changes before after (some (.complete id))

structure Advanced (before after : UnixOwner) (effect : Option RegistryEffect) : Prop where
  sound : after.Sound
  group : after.owner.identity.processGroup = before.owner.identity.processGroup
  reaps : before.leaderReaped = true → after.leaderReaped = true
  changes : Changes before after effect

theorem Sound.moved (sound : state.Sound) {point : OwnerPoint} (alike : point.Alike state.point) :
    Advanced state { state with point := point } none := by
  obtain ⟨sent, killable, reaped, stdout, stderr, registered, reached⟩ := alike
  refine ⟨⟨?_, ?_, ?_, ?_, ?_, ?_, ?_, ?_, ?_, ?_, reached⟩, rfl, fun reaped => reaped, .nothing rfl killable⟩
  · exact sound.signalled.trans sent.symm
  · exact sound.durable.trans sent.symm
  · exact sound.leader.trans reaped.symm
  · exact sound.identified.trans reaped.symm
  · exact sound.child.trans reaped.symm
  · exact sound.stdout.trans stdout.symm
  · exact sound.stderr.trans stderr.symm
  · simpa only [stdout, stderr] using sound.readers
  · exact sound.handle.trans registered.symm
  · exact sound.registration.trans registered.symm

theorem Sound.target (sound : state.Sound) : state.owner.identity.finalSignalTarget =
    if state.point.sent = false then some state.owner.identity.processGroup else none := by
  unfold UnixGroupIdentity.finalSignalTarget
  rw [sound.signalled, sound.identified]
  cases state.point <;> rfl

theorem watch_alike (setupFailed stopped expired : Bool) (waitable : Option Bool) (before : Bool) :
    (watch setupFailed stopped expired waitable).Alike (.watching before) := by
  unfold watch
  split
  · exact ⟨rfl, rfl, rfl, rfl, rfl, rfl, by decide⟩
  · split
    · exact ⟨rfl, rfl, rfl, rfl, rfl, rfl, by decide⟩
    · split
      · exact ⟨rfl, rfl, rfl, rfl, rfl, rfl, by decide⟩
      · split <;> exact ⟨rfl, rfl, rfl, rfl, rfl, rfl, by decide⟩

theorem join_some {reader result : DurableUnixReader} (taken : reader.join = some result) :
    reader ≠ .joined ∧ result = .joined := by
  unfold DurableUnixReader.join at taken
  split at taken <;> cases taken
  · exact ⟨by simp, rfl⟩
  · exact ⟨by simp, rfl⟩

theorem finish_joined (reader : DurableUnixReader) :
    decide (reader.finish = .joined) = decide (reader = .joined) := by
  cases reader <;> rfl

theorem canRelease_completing (sound : state.Sound) (here : state.point = .completing) :
    state.owner.ownership.canRelease = true := by
  unfold UnixDurableOwnership.canRelease
  rw [sound.durable, sound.child, sound.readers, here]
  rfl

theorem Sound.stayed (sound : state.Sound) : Advanced state state none :=
  ⟨sound, rfl, fun reaped => reaped, .nothing rfl rfl⟩

theorem Sound.sent (sound : state.Sound) (here : state.point = .signalling) :
    Advanced state { state with owner := state.owner.recordFinalSignal, point := .marking } none := by
  have fits : state.Fits .signalling := here ▸ sound
  have killable : OwnerPoint.marking.killable = state.point.killable := by
    rw [here]
    rfl
  exact ⟨⟨rfl, rfl, fits.leader, fits.identified, fits.child, fits.stdout, fits.stderr,
    fits.readers, fits.handle, fits.registration, by simp⟩, rfl, fun reaped => reaped, .nothing rfl killable⟩

-- The registry is told after the signal and before the leader is waited for.
theorem Sound.told (sound : state.Sound) (here : state.point = .marking) :
    Advanced state { state with point := .draining }
      (state.owner.registration.map RegistryEffect.markFinalSignalSent) := by
  have fits : state.Fits .marking := here ▸ sound
  obtain ⟨id, held⟩ := Option.isSome_iff_exists.mp fits.registration
  rw [held]
  exact ⟨⟨fits.signalled, fits.durable, fits.leader, fits.identified, fits.child, fits.stdout,
    fits.stderr, fits.readers, fits.handle, fits.registration, by simp⟩, rfl, fun reaped => reaped,
    .marked id held held rfl⟩

theorem Sound.reaped (sound : state.Sound) (here : state.point = .waiting) :
    Advanced state { state with
      owner := state.owner.markLeaderReaped, leaderReaped := true, point := .vanishing } none := by
  have fits : state.Fits .waiting := here ▸ sound
  have killable : OwnerPoint.vanishing.killable = state.point.killable := by
    rw [here]
    rfl
  have marked : state.owner.identity.markLeaderReaped =
      some { state.owner.identity with leaderReaped := true } := if_pos fits.signalled
  refine ⟨⟨?_, fits.durable, rfl, ?_, rfl, fits.stdout, fits.stderr, fits.readers, fits.handle,
    fits.registration, by simp⟩, ?_, fun _ => rfl, .nothing rfl killable⟩
  all_goals
    simp only [UnixOwnedProcess.markLeaderReaped, marked, Option.getD_some]
  · exact fits.signalled
  · rfl

theorem Sound.joinedStdout (sound : state.Sound) (here : state.point = .joiningStdout) :
    Advanced state { state with
      owner := state.owner.markReaderJoined, stdout := .joined, point := .joiningStderr } none := by
  have fits : state.Fits .joiningStdout := here ▸ sound
  have killable : OwnerPoint.joiningStderr.killable = state.point.killable := by
    rw [here]
    rfl
  have counted : min (state.owner.ownership.readersJoined + 1) 2 = 1 := by
    rw [fits.readers]
    rfl
  exact ⟨⟨fits.signalled, fits.durable, fits.leader, fits.identified, fits.child, rfl, fits.stderr,
    counted, fits.handle, fits.registration, by simp⟩, rfl, fun reaped => reaped, .nothing rfl killable⟩

theorem Sound.joinedStderr (sound : state.Sound) (here : state.point = .joiningStderr) :
    Advanced state { state with
      owner := state.owner.markReaderJoined, stderr := .joined, point := .completing } none := by
  have fits : state.Fits .joiningStderr := here ▸ sound
  have killable : OwnerPoint.completing.killable = state.point.killable := by
    rw [here]
    rfl
  have counted : min (state.owner.ownership.readersJoined + 1) 2 = 2 := by
    rw [fits.readers]
    rfl
  exact ⟨⟨fits.signalled, fits.durable, fits.leader, fits.identified, fits.child, fits.stdout, rfl,
    counted, fits.handle, fits.registration, by simp⟩, rfl, fun reaped => reaped, .nothing rfl killable⟩

theorem Sound.completed (sound : state.Sound) (here : state.point = .completing) {id : Nat}
    (held : state.owner.registration = some id) :
    Advanced state { state with owner := state.owner.emptied, point := .dropping }
      (some (.complete id)) := by
  have fits : state.Fits .completing := here ▸ sound
  exact ⟨⟨fits.signalled, fits.durable, fits.leader, fits.identified, fits.child, fits.stdout,
    fits.stderr, fits.readers, rfl, rfl, by simp⟩, rfl, fun reaped => reaped, .completed id held rfl⟩

theorem Sound.emptied (sound : state.Sound) (here : state.point = .retaining) :
    Advanced state { state with owner := state.owner.emptied, point := .done } none := by
  have fits : state.Fits .retaining := here ▸ sound
  have killable : OwnerPoint.done.killable = state.point.killable := by
    rw [here]
    rfl
  have unregistered : state.owner.registration = none := by
    simpa [OwnerPoint.registered] using fits.registration
  exact ⟨⟨fits.signalled, fits.durable, fits.leader, fits.identified, fits.child, fits.stdout,
    fits.stderr, fits.readers, rfl, rfl, by simp⟩, rfl, fun reaped => reaped, .nothing unregistered.symm killable⟩

theorem Sound.finished (sound : state.Sound) (stdout : Bool) :
    Advanced state (if stdout then { state with stdout := state.stdout.finish }
      else { state with stderr := state.stderr.finish }) none := by
  cases stdout with
  | false =>
    exact ⟨⟨sound.signalled, sound.durable, sound.leader, sound.identified, sound.child,
      sound.stdout, (finish_joined _).trans sound.stderr, sound.readers, sound.handle,
      sound.registration, sound.reached⟩, rfl, fun reaped => reaped, .nothing rfl rfl⟩
  | true =>
    exact ⟨⟨sound.signalled, sound.durable, sound.leader, sound.identified, sound.child,
      (finish_joined _).trans sound.stdout, sound.stderr, sound.readers, sound.handle,
      sound.registration, sound.reached⟩, rfl, fun reaped => reaped, .nothing rfl rfl⟩

theorem next_advances (sound : state.Sound)
    (taken : state.next stopped state.point step = some (after, effect)) :
    Advanced state after effect := by
  have target := sound.target
  unfold UnixOwner.next at taken
  split at taken
  next setupFailed waitable expired here =>
    cases taken
    apply sound.moved
    rw [here]
    exact watch_alike ..
  next delivered here =>
    cases taken
    apply sound.moved
    rw [here]
    cases delivered <;> decide
  next waitable expired here =>
    cases taken
    apply sound.moved
    rw [here]
    split <;> decide
  next delivered here =>
    rw [here] at target
    cases taken
    simp only [signalGroup, target]
    cases delivered with
    | false =>
      apply sound.moved
      rw [here]
      decide
    | true => exact sound.sent here
  next here =>
    cases taken
    exact sound.told here
  next terminal here =>
    cases taken
    apply sound.moved
    rw [here]
    cases terminal <;> decide
  next exited here =>
    split at taken <;> cases taken
    · exact sound.reaped here
    · exact sound.stayed
  next gone here =>
    cases taken
    apply sound.moved
    rw [here]
    cases gone <;> decide
  next here =>
    obtain ⟨reader, read, same⟩ := Option.map_eq_some_iff.mp taken
    cases same
    rw [(join_some read).2]
    exact sound.joinedStdout here
  next here =>
    obtain ⟨reader, read, same⟩ := Option.map_eq_some_iff.mp taken
    cases same
    rw [(join_some read).2]
    exact sound.joinedStderr here
  next here =>
    rw [canRelease_completing sound here, if_neg (by simp)] at taken
    split at taken
    next absent =>
      have fits : state.Fits .completing := here ▸ sound
      have registered := fits.registration
      rw [absent] at registered
      cases registered
    next id held =>
      cases taken
      exact sound.completed here held
  next delivered here =>
    rw [here] at target
    cases taken
    simp only [signalGroup, target]
    apply sound.moved
    rw [here]
    decide
  next here => exact absurd here sound.reached
  next here =>
    have fits : state.Fits .retaining := here ▸ sound
    have unregistered : state.owner.registration = none := by
      simpa [OwnerPoint.registered] using fits.registration
    rw [unregistered] at taken
    cases taken
    exact sound.emptied here
  next stdout =>
    split at taken <;> cases taken
    next => exact sound.finished true
    next => exact sound.finished false
  next => cases taken

theorem groupSignalled_unreaped (sound : state.Sound) {processGroup : Nat}
    (signalled : state.groupSignalled step = some processGroup) :
    processGroup = state.owner.identity.processGroup ∧ state.leaderReaped = false := by
  have target := sound.target
  have leader := sound.leader
  unfold groupSignalled at signalled
  split at signalled
  · split at signalled
    next here =>
      cases signalled
      rw [here] at leader
      exact ⟨rfl, leader⟩
    next here =>
      rw [here] at target leader
      cases target.symm.trans signalled
      exact ⟨rfl, leader⟩
    next here =>
      rw [here] at target
      cases target.symm.trans signalled
    next => cases signalled
  · cases signalled

theorem handOver_sound (processGroup id : Nat) (stdoutThread stderrThread missingPipe : Bool) :
    (ProcessSupervisor.handOver processGroup id stdoutThread stderrThread missingPipe).Sound := by
  cases stdoutThread <;> cases stderrThread <;>
    exact ⟨rfl, rfl, rfl, rfl, rfl, rfl, rfl, rfl, rfl, rfl, by simp [ProcessSupervisor.handOver]⟩

end UnixOwner

end StreamServer.Transcoding
