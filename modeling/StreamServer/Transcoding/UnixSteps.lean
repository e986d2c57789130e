import StreamServer.Transcoding.UnixRegistry

set_option autoImplicit false

namespace StreamServer.Transcoding

namespace ProcessSupervisor

variable {before next : ProcessSupervisor} {place limit : Nat} {call changed : Call}
variable {state after : UnixOwner}

theorem Sound.bindPermit (sound : before.Sound limit) (present : before.calls[place]? = some call)
    {processGroup id : Nat} (here : call.phase = .registered processGroup id) :
    (before.bindPermit place call processGroup id).Sound limit := by
  have stored : before.entries id = some (registeredUnix processGroup) :=
    (sound.listed place call id _ present (by rw [here]; rfl)).2
  have within := (sound.listed place call id _ present (by rw [here]; rfl)).1
  have named : call.phase.registration = some id := by rw [here]; rfl
  unfold ProcessSupervisor.bindPermit
  rw [stored]
  let changed : Call := { call with phase := .bound processGroup id }
  apply @Sound.moved before _ place limit call changed sound present
  refine ⟨rfl, ?_, ?_, Nat.le_refl _, ?_, ?_, ?_, ?_, ?_, ?_⟩
  · rw [here]
    rfl
  · exact sound.gateLeft present (by rw [here]; rfl) rfl rfl
  · rintro other entry ⟨⟩
    refine ⟨within, (Function.update_self ..).trans ?_⟩
    exact congrArg (Option.map _) stored
  · rintro other ⟨⟩
    exact .inl named
  · intro other apart _
    apply Function.update_of_ne
    rintro rfl
    exact apart named
  · intro other was gone
    exact absurd (named.symm.trans was) gone
  · intro state owned
    cases owned
  · rintro other ⟨⟩
    left
    rw [here]
    rfl

theorem entry_same (group : after.owner.identity.processGroup = state.owner.identity.processGroup)
    (killable : after.point.killable = state.point.killable) : after.entry = state.entry := by
  unfold UnixOwner.entry
  rw [group, killable]

theorem leader_owned {processGroup : Nat}
    (group : after.owner.identity.processGroup = state.owner.identity.processGroup)
    (reaps : state.leaderReaped = true → after.leaderReaped = true)
    (leads : (RunPhase.owned after).leader = some (processGroup, false)) :
    (RunPhase.owned state).leader = some (processGroup, false) := by
  simp only [RunPhase.leader, Option.some.injEq, Prod.mk.injEq] at leads ⊢
  refine ⟨group.symm.trans leads.1, ?_⟩
  cases reaped : state.leaderReaped with
  | false => rfl
  | true => exact absurd (reaps reaped) (by simp [leads.2])

theorem leader_kept {processGroup : Nat} {effect : Option RegistryEffect}
    (here : call.phase = .owned state) (advanced : UnixOwner.Advanced state after effect)
    (leads : (RunPhase.owned after).leader = some (processGroup, false)) :
    call.phase.leader = some (processGroup, false) := by
  rw [here]
  exact leader_owned advanced.group advanced.reaps leads

theorem listed_owned_at (here : call.phase = .owned state) {id : Nat}
    (held : state.owner.registration = some id) : call.phase.listed = some (id, state.entry) := by
  rw [here]
  exact congrArg (Option.map _) held

theorem Sound.marked (sound : before.Sound limit) (present : before.calls[place]? = some call)
    (here : call.phase = .owned state) {id : Nat}
    (advanced : UnixOwner.Advanced state after (some (.markFinalSignalSent id)))
    (was : state.owner.registration = some id) (still : after.owner.registration = some id)
    (unkillable : after.point.killable = false) :
    ((before.applyEffect (.markFinalSignalSent id)).enter place call (.owned after)).Sound limit := by
  have listed := listed_owned_at here was
  obtain ⟨within, stored⟩ := sound.listed place call id _ present listed
  have named := registration_of_listed listed
  let changed : Call := { call with phase := .owned after }
  apply @Sound.moved before _ place limit call changed sound present
  refine ⟨rfl, ?_, ?_, Nat.le_refl _, ?_, ?_, ?_, ?_, ?_, ?_⟩
  · rw [here]
    show before.available + _ = before.available + _
    rw [RunPhase.owns, RunPhase.owns, was, still]
  · exact sound.gateSame present (fun holds => by cases holds) rfl rfl
  · intro other entry shown
    rw [RunPhase.listed, still] at shown
    cases shown
    refine ⟨within, (Function.update_self ..).trans ?_⟩
    rw [stored]
    simp only [Option.map_some, UnixOwner.entry, advanced.group, unkillable]
  · intro other shown
    rw [RunPhase.listed_owned, still] at shown
    cases shown
    exact .inl named
  · intro other apart _
    apply Function.update_of_ne
    rintro rfl
    exact apart named
  · intro other shown gone
    rw [RunPhase.listed_owned, still] at gone
    exact absurd (named.symm.trans shown) gone
  · rintro _ ⟨⟩
    exact advanced.sound
  · exact fun processGroup leads => .inl (leader_kept here advanced leads)

theorem Sound.completed (sound : before.Sound limit) (present : before.calls[place]? = some call)
    (here : call.phase = .owned state) {id : Nat}
    (advanced : UnixOwner.Advanced state after (some (.complete id)))
    (was : state.owner.registration = some id) (gone : after.owner.registration = none) :
    ((before.applyEffect (.complete id)).enter place call (.owned after)).Sound limit := by
  have listed := listed_owned_at here was
  have stored := (sound.listed place call id _ present listed).2
  have named := registration_of_listed listed
  have removed : before.applyEffect (.complete id) =
      (before.setEntry id none).release true := by
    show before.removeEntry id = _
    unfold removeEntry
    rw [stored]
    rfl
  rw [removed]
  let changed : Call := { call with phase := .owned after }
  apply @Sound.moved before _ place limit call changed sound present
  refine ⟨rfl, ?_, ?_, Nat.le_refl _, ?_, ?_, ?_, ?_, ?_, ?_⟩
  · rw [here]
    show before.available + 1 + _ = before.available + _
    rw [RunPhase.owns, RunPhase.owns, was, gone]
    rfl
  · exact sound.gateSame present (fun holds => by cases holds) rfl rfl
  · intro other entry shown
    rw [RunPhase.listed, gone] at shown
    cases shown
  · intro other shown
    rw [RunPhase.listed_owned, gone] at shown
    cases shown
  · intro other apart _
    apply Function.update_of_ne
    rintro rfl
    exact apart named
  · intro other shown _
    cases named.symm.trans shown
    exact Function.update_self ..
  · rintro _ ⟨⟩
    exact advanced.sound
  · exact fun processGroup leads => .inl (leader_kept here advanced leads)

theorem Sound.own (sound : before.Sound limit) (present : before.calls[place]? = some call)
    (here : call.phase = .owned state) {step : OwnerStep}
    (taken : before.own place call state step = some next) : next.Sound limit := by
  have owner := sound.owners place call state present here
  unfold ProcessSupervisor.own at taken
  simp only at taken
  split at taken
  next => cases taken
  next after moved =>
    cases taken
    have advanced := UnixOwner.next_advances owner moved
    cases advanced.changes with
    | nothing registration killable =>
      refine sound.quiet present rfl ?_ ?_ rfl rfl ?_ ?_ ?_
      · rw [here]
        exact congrArg (before.available + ·.isSome.toNat) registration
      · exact sound.gateSame present (fun holds => by cases holds) rfl rfl
      · rw [here]
        simp only [RunPhase.listed, registration, entry_same advanced.group killable]
      · rintro _ ⟨⟩
        exact advanced.sound
      · exact fun processGroup leads => .inl (leader_kept here advanced leads)
  next after effect moved =>
    split at taken
    · cases taken
    · cases taken
      have advanced := UnixOwner.next_advances owner moved
      cases advanced.changes with
      | marked id was still unkillable =>
        exact sound.marked present here advanced was still unkillable
      | completed id was gone => exact sound.completed present here advanced was gone

theorem Sound.handOver (sound : before.Sound limit) (present : before.calls[place]? = some call)
    {processGroup id : Nat} (here : call.phase = .bound processGroup id)
    (stdoutThread stderrThread missingPipe : Bool) :
    (before.enter place call (.owned
      (handOver processGroup id stdoutThread stderrThread missingPipe))).Sound limit := by
  refine sound.quiet present rfl ?_ ?_ rfl rfl ?_ ?_ ?_
  · rw [here]
    rfl
  · exact sound.gateSame present (fun holds => by cases holds) rfl rfl
  · rw [here]
    rfl
  · rintro _ ⟨⟩
    exact UnixOwner.handOver_sound ..
  · rintro other ⟨⟩
    left
    rw [here]
    rfl

theorem Sound.spawn (sound : before.Sound limit) (present : before.calls[place]? = some call)
    (here : call.phase = .cleared) {processGroup : Option Nat}
    (taken : before.spawn place call processGroup = some next) : next.Sound limit := by
  unfold ProcessSupervisor.spawn at taken
  split at taken
  next =>
    cases taken
    refine sound.early present (by rw [here]; exact ⟨rfl, rfl⟩) ⟨rfl, rfl⟩ rfl ?_ ?_ rfl rfl
    · rw [here]
      rfl
    · exact sound.gateLeft present (by rw [here]; rfl) rfl rfl
  next processGroup =>
    split at taken
    · cases taken
    next unused =>
      cases taken
      refine sound.quiet present rfl ?_ ?_ rfl rfl ?_ ?_ ?_
      · rw [here]
        rfl
      · refine sound.gateSame present (fun _ => ⟨by rw [here]; rfl, fun passed => ?_⟩) rfl rfl
        cases passed
      · rw [here]
        rfl
      · intro state owned
        cases owned
      · rintro _ ⟨⟩
        right
        intro other member same
        exact unused (List.any_eq_true.mpr ⟨other, member, by simp [same]⟩)

theorem Sound.advance (sound : before.Sound limit) (present : before.calls[place]? = some call)
    {callStep : CallStep} (taken : before.advance place call call.phase callStep = some next) :
    next.Sound limit := by
  unfold ProcessSupervisor.advance at taken
  split at taken
  next here =>
    cases taken
    exact sound.check present (by rw [here]; exact ⟨rfl, rfl⟩) ⟨rfl, rfl⟩ (by rw [here]; rfl) rfl rfl
  next here =>
    have early : call.phase.Early := by rw [here]; exact ⟨rfl, rfl⟩
    split at taken
    · cases taken
      refine sound.early present early ⟨rfl, rfl⟩ rfl (by rw [here]; rfl) ?_ rfl rfl
      exact sound.gateSame present (fun holds => by cases holds) rfl rfl
    · split at taken <;> cases taken
      refine sound.early present early ⟨rfl, rfl⟩ rfl (by rw [here]; rfl) ?_ rfl rfl
      exact sound.gateSame present (fun holds => by cases holds) rfl rfl
  next here =>
    split at taken <;> cases taken
    next free =>
      refine sound.early present (by rw [here]; exact ⟨rfl, rfl⟩) ⟨rfl, rfl⟩ rfl ?_ ?_ rfl rfl
      · rw [here]
        show before.available - 1 + 1 = before.available
        omega
      · exact sound.gateSame present (fun holds => by cases holds) rfl rfl
  next here =>
    cases taken
    exact sound.check present (by rw [here]; exact ⟨rfl, rfl⟩) ⟨rfl, rfl⟩ (by rw [here]; rfl) rfl rfl
  next succeeds here =>
    have early : call.phase.Early := by rw [here]; exact ⟨rfl, rfl⟩
    split at taken <;> cases taken
    · refine sound.early present early ⟨rfl, rfl⟩ rfl (by rw [here]; rfl) ?_ rfl rfl
      exact sound.gateSame present (fun holds => by cases holds) rfl rfl
    · refine sound.early present early ⟨rfl, rfl⟩ rfl (by rw [here]; rfl) ?_ rfl rfl
      exact sound.gateSame present (fun holds => by cases holds) rfl rfl
  next here =>
    split at taken <;> cases taken
    next free =>
      have early : call.phase.Early := by rw [here]; exact ⟨rfl, rfl⟩
      refine sound.early present early ⟨rfl, rfl⟩ rfl (by rw [here]; rfl) ?_ rfl rfl
      exact gateLocked (by simpa using free) rfl rfl
  next here =>
    have early : call.phase.Early := by rw [here]; exact ⟨rfl, rfl⟩
    have holds : call.phase.holdsGate = true := by rw [here]; rfl
    split at taken <;> cases taken
    next =>
      exact sound.early present early ⟨rfl, rfl⟩ rfl (by rw [here]; rfl)
        (sound.gateLeft present holds rfl rfl) rfl rfl
    next passed =>
      have accepting : before.accepting = true := by
        simp only [isStopping, Bool.or_eq_true, Bool.not_eq_true', not_or] at passed
        simpa using passed.2.2
      exact sound.early present early ⟨rfl, rfl⟩ rfl (by rw [here]; rfl)
        (sound.gateSame present (fun _ => ⟨holds, fun _ => accepting⟩) rfl rfl) rfl rfl
  next here => exact sound.spawn present here taken
  next here =>
    split at taken <;> cases taken
    exact sound.register present here
  next here =>
    split at taken <;> cases taken
    exact sound.bindPermit present here
  next here =>
    cases taken
    exact sound.handOver present here ..
  next here => exact sound.own present here taken
  next => cases taken

theorem Sound.frame (sound : before.Sound limit) (available : next.available = before.available)
    (calls : next.calls = before.calls) (entries : next.entries = before.entries)
    (ids : next.nextId = before.nextId)
    (gate : ∀ place, before.gate = some (.call place) → next.gate = some (.call place) ∧
      next.accepting = before.accepting)
    (closed : ∀ caller, next.gate = some (.cancel caller) → next.accepting = false) :
    next.Sound limit := by
  constructor
  · rw [available, calls]
    exact sound.permits
  · intro place call present holds
    rw [calls] at present
    obtain ⟨held, accepting⟩ := sound.gate place call present holds
    obtain ⟨still, same⟩ := gate place held
    exact ⟨still, fun cleared => same.trans (accepting cleared)⟩
  · exact closed
  · rw [calls]
    exact sound.owners
  · rw [calls, entries, ids]
    exact sound.listed
  · rw [calls]
    exact sound.unique
  · rw [calls, entries]
    exact sound.entries
  · rw [calls]
    exact sound.groups

theorem Sound.flagged (sound : before.Sound limit) (present : before.calls[place]? = some call)
    (same : changed.phase = call.phase) : (before.setCall place changed).Sound limit := by
  refine sound.quiet present rfl (by rw [same]; rfl) ?_ rfl rfl (by rw [same]) ?_ ?_
  · refine sound.gateSame present (fun holds => ?_) rfl rfl
    rw [same] at holds ⊢
    exact ⟨holds, (sound.gate place call present holds).2⟩
  · intro state owned
    exact sound.owners place call state present (same.symm.trans owned)
  · intro processGroup leads
    exact .inl (same ▸ leads)

theorem Sound.dropCaller (sound : before.Sound limit) (present : before.calls[place]? = some call)
    (taken : before.dropCaller place call = some next) : next.Sound limit := by
  unfold ProcessSupervisor.dropCaller at taken
  split at taken
  next here =>
    cases taken
    refine sound.early present (by rw [here]; exact ⟨rfl, rfl⟩) ⟨rfl, rfl⟩ rfl ?_ ?_ rfl rfl
    · rw [here]
      rfl
    · exact sound.gateSame present (fun holds => by cases holds) rfl rfl
  next =>
    cases taken
    exact sound.flagged present rfl
  next => cases taken

theorem Sound.endCancel (sound : before.Sound limit) (taken : before.endCancel = some next) :
    next.Sound limit := by
  unfold ProcessSupervisor.endCancel at taken
  split at taken
  next held =>
    cases taken
    refine sound.frame rfl rfl rfl rfl ?_ ?_
    · intro place other
      rw [held] at other
      cases other
    · intro caller impossible
      cases impossible
  next place held =>
    simp only at taken
    split at taken
    next call present =>
      split at taken
      next permit here =>
        cases taken
        refine sound.early present (by rw [here]; exact ⟨rfl, rfl⟩) ⟨rfl, rfl⟩ rfl ?_ ?_ rfl rfl
        · rw [here]
          rfl
        · refine ⟨fun holds => ?_, fun other _ mine => ?_, fun caller impossible => ?_⟩
          · cases holds
          · rw [held] at mine
            cases mine
          · cases impossible
      next => cases taken
    next => cases taken
  next => cases taken

theorem Sound.reapEntry (sound : before.Sound limit) (id : Nat) (drained : Option Bool) :
    before.reapEntry id drained = before := by
  unfold ProcessSupervisor.reapEntry
  split
  · rfl
  next entry stored =>
    obtain ⟨place, call, present, listed⟩ := sound.entries id entry stored
    have unretained : entry.retained = false := by
      unfold RunPhase.listed at listed
      split at listed
      · cases listed
        rfl
      · cases listed
        rfl
      · obtain ⟨_, _, same⟩ := Option.map_eq_some_iff.mp listed
        cases same
        rfl
      · cases listed
    rw [unretained]
    rfl

theorem Sound.reapOrphan (sound : before.Sound limit) (present : before.calls[place]? = some call) :
    before.reapOrphan place call = none := by
  unfold ProcessSupervisor.reapOrphan
  split
  next state here =>
    have leader := (sound.owners place call state present here).leader
    apply if_neg
    rintro ⟨ended, unreaped⟩
    rw [ended, unreaped] at leader
    cases leader
  · rfl

theorem Sound.called (sound : before.Sound limit) : Sound limit
    { before with calls := before.calls ++ [⟨false, false, .requested⟩] } := by
  have found : ∀ {place : Nat} {call : Call},
      (before.calls ++ [⟨false, false, .requested⟩])[place]? = some call →
        before.calls[place]? = some call ∨ call.phase = .requested := by
    intro place call held
    rcases Lists.getElem?_append_cases held with old | ⟨_, rfl⟩
    · exact .inl old
    · exact .inr rfl
  constructor
  case permits =>
    rw [Lists.countP_append_singleton]
    exact sound.permits
  case gate =>
    intro place call held holds
    rcases found held with old | new
    · exact sound.gate place call old holds
    · rw [new] at holds
      cases holds
  case closed => exact sound.closed
  case owners =>
    intro place call state held owned
    rcases found held with old | new
    · exact sound.owners place call state old owned
    · rw [new] at owned
      cases owned
  case listed =>
    intro place call id entry held named
    rcases found held with old | new
    · exact sound.listed place call id entry old named
    · rw [new] at named
      cases named
  case unique =>
    intro place other call twin id first second named same
    rcases found first with old | new
    · rcases found second with older | newer
      · exact sound.unique place other call twin id old older named same
      · rw [newer] at same
        cases same
    · rw [new] at named
      cases named
  case entries =>
    intro id entry stored
    obtain ⟨place, call, held, named⟩ := sound.entries id entry stored
    refine ⟨place, call, ?_, named⟩
    rw [List.getElem?_append_left (List.getElem?_eq_some_iff.mp held).1]
    exact held
  case groups =>
    intro place other call twin processGroup first second named same
    rcases found first with old | new
    · rcases found second with older | newer
      · exact sound.groups place other call twin processGroup old older named same
      · rw [newer] at same
        cases same
    · rw [new] at named
      cases named

theorem step_sound {action : SupervisorAction} (sound : before.Sound limit)
    (taken : before.step action = some next) : next.Sound limit := by
  have locked : ∀ lock, Sound limit { before with lock := lock } := fun lock =>
    sound.frame rfl rfl rfl rfl (fun _ held => ⟨held, rfl⟩) sound.closed
  cases action with
  | call =>
    cases taken
    exact sound.called
  | cancelOperation place =>
    obtain ⟨call, present, rfl⟩ := Option.map_eq_some_iff.mp taken
    exact sound.flagged present rfl
  | cancelToken =>
    cases taken
    exact sound.frame rfl rfl rfl rfl (fun _ held => ⟨held, rfl⟩) sound.closed
  | dropCaller place =>
    obtain ⟨call, present, dropped⟩ := Option.bind_eq_some_iff.mp taken
    exact sound.dropCaller present dropped
  | beginCancel caller =>
    simp only [step, ProcessSupervisor.beginCancel] at taken
    split at taken <;> cases taken
    next free =>
      simp only [Bool.or_eq_true, not_or] at free
      refine sound.frame rfl rfl rfl rfl ?_ fun _ _ => rfl
      intro place held
      rw [held] at free
      exact absurd rfl free.1
  | endCancel => exact sound.endCancel taken
  | beginForce =>
    simp only [step] at taken
    split at taken <;> cases taken
    exact locked _
  | forceEntry index delivered =>
    simp only [step] at taken
    split at taken
    · split at taken <;> cases taken
      exact locked _
    · cases taken
  | beginReap =>
    simp only [step] at taken
    split at taken <;> cases taken
    exact locked _
  | reapEntry index drained =>
    simp only [step] at taken
    split at taken
    · obtain ⟨id, _, rfl⟩ := Option.map_eq_some_iff.mp taken
      rw [sound.reapEntry id drained]
      exact locked _
    · cases taken
  | unlockEntries =>
    simp only [step] at taken
    split at taken <;> cases taken <;> exact locked _
  | reapOrphan place =>
    obtain ⟨call, present, reaped⟩ := Option.bind_eq_some_iff.mp taken
    rw [sound.reapOrphan present] at reaped
    cases reaped
  | advance place callStep =>
    obtain ⟨call, present, moved⟩ := Option.bind_eq_some_iff.mp taken
    exact sound.advance present moved

theorem sound_of_run {maximum : Nat} {actions : List SupervisorAction} {final : ProcessSupervisor}
    (ran : Runs.run step (withMaxConcurrency maximum) actions = some final) :
    final.Sound (max maximum 1) :=
  Runs.invariant_of_run (fun _ _ _ sound taken => step_sound sound taken) (sound_initial maximum) ran

end ProcessSupervisor

end StreamServer.Transcoding
