import StreamServer.Shared.Runs
import StreamServer.Transcoding.UnixSteps

set_option autoImplicit false

namespace StreamServer.Transcoding

open Runs

namespace RunPhase

def unfinished : RunPhase → Bool
  | .spawned _ | .registered .. | .bound .. => true
  | .owned state =>
      !state.leaderReaped || decide (state.stdout ≠ .joined) || decide (state.stderr ≠ .joined)
  | _ => false

def unreleased (phase : RunPhase) : Bool := phase.unfinished || phase.registration.isSome

/-- The permit is still an argument of the call. -/
def permitInHand : RunPhase → Bool
  | .bound .. | .owned _ => false
  | phase => phase.owns

end RunPhase

namespace ProcessSupervisor

variable {before next : ProcessSupervisor} {place limit : Nat} {call : Call}

/-- The sender means the group of a leader that is not reaped, and no other child has its id. -/
def SignalsLeader (supervisor : ProcessSupervisor) (sender : Sender) (processGroup : Nat) : Prop :=
  ∃ (place : Nat) (call : Call), supervisor.calls[place]? = some call ∧
    call.phase.leader = some (processGroup, false) ∧
      (match sender with
        | .owner owner => owner = place
        | .registry id => call.phase.registration = some id) ∧
        ∀ (other : Nat) (twin : Call), supervisor.calls[other]? = some twin →
          twin.phase.leader = some (processGroup, false) → other = place

def HasEntry (supervisor : ProcessSupervisor) (place : Nat) (call : Call) : Prop :=
  ∃ (id : Nat) (entry : RegisteredEntry), call.phase.registration = some id ∧
    supervisor.entries id = some entry ∧ entry.permit = true ∧
      call.phase.leader.map Prod.fst = some entry.target ∧
        ∀ (other : Nat) (twin : Call), supervisor.calls[other]? = some twin →
          twin.phase.registration = some id → other = place

structure Guarantees (maximum : Nat) (actions : List SupervisorAction)
    (final : ProcessSupervisor) : Prop where
  signals : ∀ (earlier : List SupervisorAction) (action : SupervisorAction)
    (later : List SupervisorAction) (before after : ProcessSupervisor) (sender : Sender)
    (processGroup : Nat), actions = earlier ++ action :: later →
      run step (withMaxConcurrency maximum) earlier = some before →
        before.step action = some after →
          before.groupSignalled action = some (sender, processGroup) →
            before.SignalsLeader sender processGroup
  -- Until it leaves the section that spawns and registers, the call itself has the permit.
  registered : ∀ (place : Nat) (call : Call), final.calls[place]? = some call →
    call.phase.unfinished = true →
      final.HasEntry place call ∨
        final.gate = some (.call place) ∧ call.phase.permitInHand = true
  limited : final.calls.countP (·.phase.unreleased) ≤ max maximum 1
  cancelled : ∀ (earlier : List SupervisorAction) (place processGroup : Nat)
    (later : List SupervisorAction) (before after : ProcessSupervisor),
      actions = earlier ++ .advance place (.spawn (some processGroup)) :: later →
        run step (withMaxConcurrency maximum) earlier = some before →
          before.step (.advance place (.spawn (some processGroup))) = some after →
            ¬ Moment (fun _ action _ => action = .endCancel) step (withMaxConcurrency maximum)
              earlier

theorem leader_of_killable (sound : before.Sound limit) (present : before.calls[place]? = some call)
    {id : Nat} {entry : RegisteredEntry} (listed : call.phase.listed = some (id, entry))
    (killable : entry.unixKillable = true) : call.phase.leader = some (entry.target, false) := by
  unfold RunPhase.listed at listed
  split at listed
  next here =>
    cases listed
    rw [here]
    rfl
  next here =>
    cases listed
    rw [here]
    rfl
  next state here =>
    obtain ⟨_, _, same⟩ := Option.map_eq_some_iff.mp listed
    cases same
    have owner := sound.owners place call state present here
    have unreaped := owner.leader.trans (OwnerPoint.not_reaped_of_killable killable)
    rw [here, RunPhase.leader, unreaped]
    rfl
  next => cases listed

theorem Sound.signals (sound : before.Sound limit) {action : SupervisorAction} {sender : Sender}
    {processGroup : Nat} (signalled : before.groupSignalled action = some (sender, processGroup)) :
    before.SignalsLeader sender processGroup := by
  have alone : ∀ {place : Nat} {call : Call}, before.calls[place]? = some call →
      call.phase.leader = some (processGroup, false) → ∀ (other : Nat) (twin : Call),
        before.calls[other]? = some twin → twin.phase.leader = some (processGroup, false) →
          other = place := fun present leads other twin held same =>
    sound.groups other _ twin _ processGroup held present same leads
  unfold groupSignalled at signalled
  split at signalled
  next place step =>
    obtain ⟨call, present, signalled⟩ := Option.bind_eq_some_iff.mp signalled
    split at signalled
    next state here =>
      obtain ⟨group, mine, same⟩ := Option.map_eq_some_iff.mp signalled
      cases same
      have owner := sound.owners place call state present here
      obtain ⟨rfl, unreaped⟩ := UnixOwner.groupSignalled_unreaped owner mine
      have leads : call.phase.leader = some (state.owner.identity.processGroup, false) := by
        rw [here, ← unreaped]
        rfl
      exact ⟨place, call, present, leads, rfl, alone present leads⟩
    next => cases signalled
  next index _ =>
    split at signalled
    next remaining _ =>
      obtain ⟨id, _, signalled⟩ := Option.bind_eq_some_iff.mp signalled
      obtain ⟨entry, stored, signalled⟩ := Option.bind_eq_some_iff.mp signalled
      split at signalled
      next killable =>
        cases signalled
        obtain ⟨place, call, present, listed⟩ := sound.entries id entry stored
        have leads := leader_of_killable sound present listed killable
        exact ⟨place, call, present, leads, registration_of_listed listed, alone present leads⟩
      next => cases signalled
    next => cases signalled
  next => cases signalled

theorem Sound.hasEntry (sound : before.Sound limit) (present : before.calls[place]? = some call)
    {id : Nat} {entry : RegisteredEntry} (listed : call.phase.listed = some (id, entry))
    (permit : entry.permit = true)
    (target : call.phase.leader.map Prod.fst = some entry.target) : before.HasEntry place call := by
  have named := registration_of_listed listed
  refine ⟨id, entry, named, (sound.listed place call id entry present listed).2, permit, target, ?_⟩
  intro other twin held same
  exact sound.unique other place twin call id held present same named

theorem registered_of_unfinished {state : UnixOwner} (owner : state.Sound)
    (unfinished : (RunPhase.owned state).unfinished = true) :
    state.owner.registration.isSome = true := by
  rw [owner.registration]
  cases registered : state.point.registered with
  | true => rfl
  | false =>
    obtain ⟨reaped, stdout, stderr⟩ := OwnerPoint.not_registered registered
    have first := owner.stdout.trans stdout
    have second := owner.stderr.trans stderr
    simp only [decide_eq_true_eq] at first second
    simp [RunPhase.unfinished, owner.leader.trans reaped, first, second] at unfinished

theorem Sound.registered (sound : before.Sound limit) (present : before.calls[place]? = some call)
    (unfinished : call.phase.unfinished = true) : before.HasEntry place call ∨
      before.gate = some (.call place) ∧ call.phase.permitInHand = true := by
  cases here : call.phase with
  | spawned processGroup =>
    exact .inr ⟨(sound.gate place call present (by rw [here]; rfl)).1, rfl⟩
  | registered processGroup id =>
    exact .inr ⟨(sound.gate place call present (by rw [here]; rfl)).1, rfl⟩
  | bound processGroup id =>
    exact .inl (sound.hasEntry present (by rw [here]; rfl) rfl (by rw [here]; rfl))
  | owned state =>
    rw [here] at unfinished
    have owner := sound.owners place call state present here
    obtain ⟨id, held⟩ := Option.isSome_iff_exists.mp (registered_of_unfinished owner unfinished)
    exact .inl (sound.hasEntry present (listed_owned_at here held) rfl (by rw [here]; rfl))
  | requested | waiting | permitted | admitted | configured | gated | cleared | cancelling | ended =>
    rw [here] at unfinished
    cases unfinished

theorem Sound.owns_of_unreleased (sound : before.Sound limit) (member : call ∈ before.calls)
    (unreleased : call.phase.unreleased = true) : call.phase.owns = true := by
  obtain ⟨place, present⟩ := List.mem_iff_getElem?.mp member
  cases here : call.phase with
  | spawned | registered | bound => rfl
  | owned state =>
    have owner := sound.owners place call state present here
    rw [here, RunPhase.unreleased, RunPhase.listed_owned, Bool.or_eq_true] at unreleased
    rcases unreleased with unfinished | held
    · exact registered_of_unfinished owner unfinished
    · exact held
  | requested | waiting | permitted | admitted | configured | gated | cleared | cancelling | ended =>
    rw [here] at unreleased
    cases unreleased

theorem Sound.limited (sound : before.Sound limit) :
    before.calls.countP (·.phase.unreleased) ≤ limit := by
  have owned : before.calls.countP (·.phase.unreleased) ≤ before.calls.countP (·.phase.owns) := by
    apply List.countP_mono_left
    intro call member unreleased
    exact sound.owns_of_unreleased member unreleased
  have total := sound.permits
  omega

section Cancellation

theorem removeEntry_accepting (supervisor : ProcessSupervisor) (id : Nat) :
    (supervisor.removeEntry id).accepting = supervisor.accepting := by
  unfold removeEntry
  split <;> rfl

theorem applyEffect_accepting (supervisor : ProcessSupervisor) (effect : RegistryEffect) :
    (supervisor.applyEffect effect).accepting = supervisor.accepting := by
  cases effect with
  | complete id => exact removeEntry_accepting supervisor id
  | markFinalSignalSent | retain => rfl

theorem check_accepting (permit : Bool) (passed : RunPhase) :
    (before.check place call permit passed).accepting = before.accepting := by
  unfold ProcessSupervisor.check
  split
  · rfl
  · split <;> rfl

theorem bindPermit_accepting (processGroup id : Nat) :
    (before.bindPermit place call processGroup id).accepting = before.accepting := by
  unfold ProcessSupervisor.bindPermit
  split <;> rfl

theorem advance_accepting {callStep : CallStep}
    (taken : before.advance place call call.phase callStep = some next) :
    next.accepting = before.accepting := by
  unfold ProcessSupervisor.advance at taken
  split at taken
  next =>
    cases taken
    exact check_accepting ..
  next =>
    split at taken
    · cases taken
      rfl
    · split at taken <;> cases taken
      rfl
  next =>
    split at taken <;> cases taken
    rfl
  next =>
    cases taken
    exact check_accepting ..
  next => split at taken <;> cases taken <;> rfl
  next =>
    split at taken <;> cases taken
    rfl
  next => split at taken <;> cases taken <;> rfl
  next =>
    unfold ProcessSupervisor.spawn at taken
    split at taken
    · cases taken
      rfl
    · split at taken <;> cases taken
      rfl
  next =>
    split at taken <;> cases taken
    rfl
  next =>
    split at taken <;> cases taken
    exact bindPermit_accepting ..
  next =>
    cases taken
    rfl
  next =>
    unfold ProcessSupervisor.own at taken
    simp only at taken
    split at taken
    · cases taken
    · cases taken
      rfl
    · split at taken <;> cases taken
      exact applyEffect_accepting ..
  next => cases taken

theorem step_accepting {action : SupervisorAction} (taken : before.step action = some next)
    (closed : before.accepting = false) : next.accepting = false := by
  cases action with
  | call | cancelToken =>
    cases taken
    exact closed
  | cancelOperation place =>
    obtain ⟨call, present, rfl⟩ := Option.map_eq_some_iff.mp taken
    exact closed
  | dropCaller place =>
    obtain ⟨call, present, dropped⟩ := Option.bind_eq_some_iff.mp taken
    unfold ProcessSupervisor.dropCaller at dropped
    split at dropped <;> cases dropped <;> exact closed
  | beginCancel caller =>
    simp only [step, ProcessSupervisor.beginCancel] at taken
    split at taken <;> cases taken
    rfl
  | endCancel =>
    simp only [step, ProcessSupervisor.endCancel] at taken
    split at taken
    · cases taken
      exact closed
    · split at taken
      · split at taken <;> cases taken
        exact closed
      · cases taken
    · cases taken
  | beginForce | beginReap =>
    simp only [step] at taken
    split at taken <;> cases taken
    exact closed
  | forceEntry index delivered =>
    simp only [step] at taken
    split at taken
    · split at taken <;> cases taken
      exact closed
    · cases taken
  | reapEntry index drained =>
    simp only [step] at taken
    split at taken
    · obtain ⟨id, _, rfl⟩ := Option.map_eq_some_iff.mp taken
      show (before.reapEntry id drained).accepting = false
      unfold ProcessSupervisor.reapEntry
      split
      · exact closed
      · split
        · exact (removeEntry_accepting before id).trans closed
        · exact closed
    · cases taken
  | unlockEntries =>
    simp only [step] at taken
    split at taken <;> cases taken <;> exact closed
  | reapOrphan place =>
    obtain ⟨call, present, reaped⟩ := Option.bind_eq_some_iff.mp taken
    unfold ProcessSupervisor.reapOrphan at reaped
    split at reaped
    · split at reaped <;> cases reaped
      exact closed
    · cases reaped
  | advance place callStep =>
    obtain ⟨call, present, moved⟩ := Option.bind_eq_some_iff.mp taken
    exact (advance_accepting moved).trans closed

theorem endCancel_closed (sound : before.Sound limit) (taken : before.endCancel = some next) :
    before.accepting = false := by
  unfold ProcessSupervisor.endCancel at taken
  split at taken
  next held => exact sound.closed none held
  next place held => exact sound.closed (some place) held
  next => cases taken

theorem closed_of_cancelled {maximum : Nat} {actions : List SupervisorAction}
    (ran : run step (withMaxConcurrency maximum) actions = some before)
    (moment : Moment (fun _ action _ => action = .endCancel) step (withMaxConcurrency maximum)
      actions) : before.accepting = false := by
  obtain ⟨earlier, action, later, state, after, rfl, reached, taken, rfl⟩ := moment
  rw [run_append, reached] at ran
  have rest : run step state (.endCancel :: later) = some before := ran
  obtain ⟨middle, same, continued⟩ := Option.bind_eq_some_iff.mp rest
  cases taken.symm.trans same
  have closed := step_accepting taken (endCancel_closed (sound_of_run reached) taken)
  exact invariant_of_run (fun _ _ _ closed taken => step_accepting taken closed) closed continued

theorem spawn_accepting (sound : before.Sound limit) {processGroup : Option Nat}
    (taken : before.step (.advance place (.spawn processGroup)) = some next) :
    before.accepting = true := by
  obtain ⟨call, present, moved⟩ := Option.bind_eq_some_iff.mp taken
  cases here : call.phase with
  | cleared =>
    obtain ⟨_, accepting⟩ := sound.gate place call present (by rw [here]; rfl)
    exact accepting (by rw [here]; rfl)
  | _ =>
    rw [here] at moved
    simp only [ProcessSupervisor.advance, reduceCtorEq] at moved

end Cancellation

theorem supervisor_guarantees {maximum : Nat} {actions : List SupervisorAction}
    {final : ProcessSupervisor}
    (ran : run step (withMaxConcurrency maximum) actions = some final) :
    Guarantees maximum actions final := by
  constructor
  case signals =>
    intro earlier action later before after sender processGroup split reached taken signalled
    exact (sound_of_run reached).signals signalled
  case registered =>
    intro place call present unfinished
    exact (sound_of_run ran).registered present unfinished
  case limited => exact (sound_of_run ran).limited
  case cancelled =>
    intro earlier place processGroup later before after split reached taken moment
    have accepting := spawn_accepting (sound_of_run reached) taken
    rw [closed_of_cancelled reached moment] at accepting
    cases accepting

def admission : List SupervisorAction :=
  .call :: List.map (.advance 0)
    [.check, .acquire, .check, .configure true, .lockGate, .clear, .spawn (some 100)]

def ownership : List SupervisorAction :=
  List.map (.advance 0) [.register, .bindPermit, .handOver true true false] ++
    [.beginForce, .forceEntry 0 true, .unlockEntries] ++
      List.map (fun step => .advance 0 (.own step))
        [.watch (some false) false, .watch (some true) false, .signalGroup true, .tellRegistry,
          .listDescendants true, .tryWait true, .lookDescendants true, .finishReader true,
          .finishReader false, .joinReader, .joinReader, .complete, .signalGroup true, .retain] ++
        [.beginCancel none, .endCancel]

theorem owned_process_is_released : ∃ final,
    run step (withMaxConcurrency 1) (admission ++ ownership) = some final ∧
      final.available = 1 ∧ Guarantees 1 (admission ++ ownership) final := by
  have ran : (run step (withMaxConcurrency 1) (admission ++ ownership)).any (fun final =>
      decide (final.available = 1)) = true := by
    decide +kernel
  obtain ⟨final, reached, available⟩ := (Option.any_eq_true _ _).mp ran
  exact ⟨final, reached, of_decide_eq_true available, supervisor_guarantees reached⟩

-- Between the spawn and the registration, a termination of all entries does not see the process.
theorem spawned_before_registered : ¬ ∀ (maximum : Nat) (actions : List SupervisorAction)
    (final : ProcessSupervisor), run step (withMaxConcurrency maximum) actions = some final →
      ∀ (place : Nat) (call : Call), final.calls[place]? = some call →
        call.phase.unfinished = true → final.HasEntry place call := by
  intro claimed
  have ran : (run step (withMaxConcurrency 1) admission).any (fun final =>
      final.calls[0]?.any (fun call => call.phase.unfinished && call.phase.registration.isNone)) =
        true := by
    decide +kernel
  obtain ⟨final, reached, held⟩ := (Option.any_eq_true _ _).mp ran
  obtain ⟨call, present, spawned⟩ := (Option.any_eq_true _ _).mp held
  rw [Bool.and_eq_true] at spawned
  obtain ⟨id, entry, named, _⟩ := claimed 1 admission final reached 0 call present spawned.1
  rw [named] at spawned
  cases spawned.2

end ProcessSupervisor

end StreamServer.Transcoding
