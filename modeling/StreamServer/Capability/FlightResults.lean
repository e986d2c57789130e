import StreamServer.Capability.FlightAccounts
import StreamServer.Capability.FlightFrame
import StreamServer.Shared.Runs

set_option autoImplicit false

namespace StreamServer.Capability

/-- The result stands in the watch channel. -/
def FlightPhase.answered : FlightPhase → Bool
  | .sent | .leaving | .gone | .abandoned false => true
  | _ => false

/-- Nobody will answer, or only with the shutdown. -/
def FlightPhase.unowned : FlightPhase → Bool
  | .unspawned | .abandoned true => true
  | _ => false

namespace Registry

structure SameFlight (flight after : Flight) : Prop where
  key : after.key = flight.key
  target : after.target = flight.target
  epoch : after.epoch = flight.epoch
  semaphore : after.semaphore = flight.semaphore

structure Shows (flight after : Flight) : Prop where
  same : SameFlight flight after
  shown : after.shown = flight.shown ∧ after.phase.answered = flight.phase.answered ∨
    after.shown.isSome = true ∧ after.phase.answered = true ∧ flight.phase.answered = false
  unowned : after.phase.unowned = true → flight.phase.unowned = true
  registered : after.phase ≠ .registered ∨ after.phase = flight.phase

structure TaskMoves (registry : Registry) (place : Nat) (flight : Flight) (next : Registry) : Prop where
  callers : next.callers = registry.callers
  shutdown : next.shutdown = registry.shutdown
  tasks : ∃ after, next.tasks = registry.tasks.set place after ∧ Shows flight after

theorem shows_inPhase {flight : Flight} {phase : FlightPhase}
    (answered : phase.answered = flight.phase.answered) (unowned : phase.unowned = false)
    (registered : phase ≠ .registered) : Shows flight (flight.inPhase phase) := by
  refine ⟨⟨rfl, rfl, rfl, rfl⟩, .inl ⟨rfl, answered⟩, fun left => ?_, .inl registered⟩
  have left : phase.unowned = true := left
  rw [unowned] at left
  cases left

theorem decrementQueued_tasks (registry : Registry) :
    registry.decrementQueued.tasks = registry.tasks ∧
      registry.decrementQueued.callers = registry.callers ∧
      registry.decrementQueued.shutdown = registry.shutdown := by
  unfold decrementQueued
  split <;> exact ⟨rfl, rfl, rfl⟩

theorem mergeVerification_tasks (registry : Registry) (flight : Flight)
    (verified : VerificationResult) (now : Option StateNow) (preferred : CapabilityKey) :
    (registry.mergeVerification flight.key flight.epoch verified now preferred).2.callers =
        registry.callers ∧
      (registry.mergeVerification flight.key flight.epoch verified now preferred).2.shutdown =
        registry.shutdown := by
  have moved := mergeVerification_move registry flight.key flight.epoch verified now preferred
  generalize registry.mergeVerification flight.key flight.epoch verified now preferred = ended at *
  cases moved <;> exact ⟨rfl, rfl⟩

section Tasks

variable {registry next : Registry} {place : Nat} {flight : Flight}

theorem taskMoves_of {middle : Registry} {phase : FlightPhase} (tasks : middle.tasks = registry.tasks)
    (callers : middle.callers = registry.callers) (shutdown : middle.shutdown = registry.shutdown)
    (answered : phase.answered = flight.phase.answered) (unowned : phase.unowned = false)
    (registered : phase ≠ .registered) :
    TaskMoves registry place flight (middle.setTask place (flight.inPhase phase)) := by
  refine ⟨callers, shutdown, flight.inPhase phase, ?_, shows_inPhase answered unowned registered⟩
  rw [← tasks]
  rfl

theorem taskStep_moves {step : TaskStep}
    (taken : registry.taskStep place flight step = some next) :
    TaskMoves registry place flight next := by
  cases taskStep_move taken with
  | cancelled => exact ⟨rfl, rfl, _, rfl, ⟨rfl, rfl, rfl, rfl⟩, .inl ⟨rfl, rfl⟩, id, .inr rfl⟩
  | leftQueue after dequeued =>
    obtain ⟨tasks, callers, shutdown⟩ := decrementQueued_tasks registry
    cases phase : flight.phase <;> rw [phase] at dequeued <;> cases dequeued <;>
      exact taskMoves_of tasks callers shutdown (by rw [phase]; rfl) rfl (by rintro ⟨⟩)
  | merged now preferred result phase =>
    have tasks := (mergeVerification_ledger registry flight result now preferred).1
    obtain ⟨callers, shutdown⟩ := mergeVerification_tasks registry flight result now preferred
    exact taskMoves_of tasks callers shutdown (by rw [phase]; rfl) rfl (by rintro ⟨⟩)
  | sent result phase =>
    refine ⟨rfl, rfl, _, rfl, ⟨rfl, rfl, rfl, rfl⟩, .inr ⟨rfl, rfl, by rw [phase]; rfl⟩, ?_,
      .inl (by rintro ⟨⟩)⟩
    intro left
    cases left
  | tookDevice _ phase | tookGlobal phase | refused _ phase | refusedHolding _ phase | deferred phase
  | matched phase | outdated phase | exhausted phase | confirmed phase | unconfirmed phase
  | interrupted _ _ phase | calledOff phase | stopped phase | panicked phase | verified _ phase
  | misdirected _ phase | released _ phase | removed phase | exited phase =>
    exact taskMoves_of rfl rfl rfl (by rw [phase]; rfl) rfl (by rintro ⟨⟩)

end Tasks

def Joined (registry : Registry) (caller : Caller) (place : Nat) (flight : Flight) : Prop :=
  registry.tasks[place]? = some flight ∧ flight.key = caller.key ∧ flight.target = caller.target

def Served (registry : Registry) (caller : Caller) : Prop :=
  match caller.phase with
  | .owning place | .waiting place => ∃ flight, registry.Joined caller place flight
  | .received place result => ∃ flight, registry.Joined caller place flight ∧
      (flight.shown = some result ∨
        registry.shutdown = true ∧ result = .nonPassing .serverShutdown)
  | _ => True

structure Delivered (registry : Registry) : Prop where
  shown : ∀ (place : Nat) (flight : Flight), registry.tasks[place]? = some flight →
    flight.shown.isSome = flight.phase.answered
  unowned : ∀ (place : Nat) (flight : Flight), registry.tasks[place]? = some flight → flight.phase.unowned = true →
    registry.shutdown = true
  served : ∀ caller ∈ registry.callers, registry.Served caller
  owned : ∀ (place : Nat) (flight : Flight), registry.tasks[place]? = some flight → flight.phase = .registered →
    ∃ caller ∈ registry.callers, caller.phase = .owning place

theorem delivered_initial (mode : VerifierMode) : (initial mode).Delivered where
  shown _ _ found := by cases found
  unowned _ _ found := by cases found
  served _ member := by cases member
  owned _ _ found := by cases found

def Keeps (before after : Registry) : Prop :=
  ∀ (place : Nat) (flight : Flight), before.tasks[place]? = some flight →
    ∃ later, after.tasks[place]? = some later ∧ SameFlight flight later ∧
      ∀ result, flight.shown = some result → later.shown = some result

theorem Keeps.refl (registry : Registry) : Keeps registry registry :=
  fun _ flight found => ⟨flight, found, ⟨rfl, rfl, rfl, rfl⟩, fun _ => id⟩

theorem Keeps.trans {first second third : Registry} (earlier : Keeps first second)
    (later : Keeps second third) : Keeps first third := by
  intro place flight found
  obtain ⟨middle, there, same, shown⟩ := earlier place flight found
  obtain ⟨final, last, sameLast, shownLast⟩ := later place middle there
  refine ⟨final, last, ⟨?_, ?_, ?_, ?_⟩, fun result holds => shownLast result (shown result holds)⟩
  · rw [sameLast.key, same.key]
  · rw [sameLast.target, same.target]
  · rw [sameLast.epoch, same.epoch]
  · rw [sameLast.semaphore, same.semaphore]

theorem keeps_of_tasks {before after : Registry} (tasks : after.tasks = before.tasks) :
    Keeps before after := by
  intro place flight found
  exact ⟨flight, tasks ▸ found, ⟨rfl, rfl, rfl, rfl⟩, fun _ => id⟩

theorem Keeps.served {before after : Registry} (keeps : Keeps before after)
    (shutdown : before.shutdown = true → after.shutdown = true) {caller : Caller}
    (served : before.Served caller) : after.Served caller := by
  have joined : ∀ {place : Nat} {flight : Flight}, before.Joined caller place flight →
      ∃ later, after.Joined caller place later ∧
        ∀ result, flight.shown = some result → later.shown = some result := by
    rintro place flight ⟨found, key, target⟩
    obtain ⟨later, there, same, shown⟩ := keeps place flight found
    exact ⟨later, ⟨there, same.key.trans key, same.target.trans target⟩, shown⟩
  unfold Served at served ⊢
  split at served
  next place _ =>
    obtain ⟨flight, held⟩ := served
    obtain ⟨later, heldLater, _⟩ := joined held
    exact ⟨later, heldLater⟩
  next place _ =>
    obtain ⟨flight, held⟩ := served
    obtain ⟨later, heldLater, _⟩ := joined held
    exact ⟨later, heldLater⟩
  next place result _ =>
    obtain ⟨flight, held, shown | ⟨stopped, same⟩⟩ := served
    · obtain ⟨later, heldLater, keeps⟩ := joined held
      exact ⟨later, heldLater, .inl (keeps result shown)⟩
    · obtain ⟨later, heldLater, _⟩ := joined held
      exact ⟨later, heldLater, .inr ⟨shutdown stopped, same⟩⟩
  next => trivial

theorem Delivered.congr {before after : Registry} (tasks : after.tasks = before.tasks)
    (callers : after.callers = before.callers)
    (shutdown : before.shutdown = true → after.shutdown = true) (delivered : before.Delivered) :
    after.Delivered := by
  refine ⟨?_, ?_, ?_, ?_⟩
  · rw [tasks]
    exact delivered.shown
  · rw [tasks]
    exact fun place flight found unowned => shutdown (delivered.unowned place flight found unowned)
  · rw [callers]
    exact fun caller member => (keeps_of_tasks tasks).served shutdown (delivered.served caller member)
  · rw [tasks, callers]
    exact delivered.owned

theorem keeps_setTask {registry : Registry} {place : Nat} {flight after : Flight}
    (found : registry.tasks[place]? = some flight) (same : SameFlight flight after)
    (shown : ∀ result, flight.shown = some result → after.shown = some result) :
    Keeps registry (registry.setTask place after) := by
  intro other twin atOther
  by_cases own : other = place
  · subst own
    cases found.symm.trans atOther
    exact ⟨after, List.getElem?_set_self (List.getElem?_eq_some_iff.mp found).1, same, shown⟩
  · refine ⟨twin, ?_, ⟨rfl, rfl, rfl, rfl⟩, fun _ => id⟩
    exact (List.getElem?_set_ne (Ne.symm own)).trans atOther

theorem Delivered.setTask {registry : Registry} {place : Nat} {flight after : Flight}
    (delivered : registry.Delivered) (found : registry.tasks[place]? = some flight)
    (same : SameFlight flight after) (answered : after.shown.isSome = after.phase.answered)
    (shown : ∀ result, flight.shown = some result → after.shown = some result)
    (unowned : after.phase.unowned = true → registry.shutdown = true)
    (registered : after.phase = .registered → flight.phase = .registered) :
    (registry.setTask place after).Delivered := by
  refine ⟨?_, ?_, ?_, ?_⟩
  · intro other twin atOther
    obtain ⟨_, before⟩ | ⟨rfl, rfl⟩ := Lists.getElem?_set_cases atOther
    · exact delivered.shown other twin before
    · exact answered
  · intro other twin atOther left
    obtain ⟨_, before⟩ | ⟨rfl, rfl⟩ := Lists.getElem?_set_cases atOther
    · exact delivered.unowned other twin before left
    · exact unowned left
  · exact fun caller member =>
      (keeps_setTask found same shown).served id (delivered.served caller member)
  · intro other twin atOther phase
    obtain ⟨_, before⟩ | ⟨rfl, rfl⟩ := Lists.getElem?_set_cases atOther
    · exact delivered.owned other twin before phase
    · exact delivered.owned other flight found (registered phase)

theorem Delivered.setCaller {registry : Registry} {place : Nat} {caller after : Caller}
    (delivered : registry.Delivered) (found : registry.callers[place]? = some caller)
    (served : registry.Served after)
    (free : ∀ owned flight, caller.phase = .owning owned → registry.tasks[owned]? = some flight →
      flight.phase ≠ .registered) :
    (registry.setCaller place after).Delivered := by
  refine ⟨delivered.shown, delivered.unowned, ?_, ?_⟩
  · intro other member
    obtain earlier | rfl := List.mem_or_eq_of_mem_set member
    · exact delivered.served other earlier
    · exact served
  · intro other flight atOther phase
    obtain ⟨owner, member, owns⟩ := delivered.owned other flight atOther phase
    refine ⟨owner, Lists.mem_set_of_ne found ?_ member, owns⟩
    rintro rfl
    exact free other flight owns atOther phase

theorem TaskMoves.delivered {registry next : Registry} {place : Nat} {flight : Flight}
    (found : registry.tasks[place]? = some flight) (moves : TaskMoves registry place flight next)
    (delivered : registry.Delivered) : next.Delivered ∧ Keeps registry next := by
  obtain ⟨after, tasks, shows⟩ := moves.tasks
  have known := delivered.shown place flight found
  have answered : after.shown.isSome = after.phase.answered := by
    obtain ⟨shown, answered⟩ | ⟨shown, answered, _⟩ := shows.shown
    · rw [shown, answered, known]
    · rw [shown, answered]
  have shown : ∀ result, flight.shown = some result → after.shown = some result := by
    intro result holds
    obtain ⟨same, _⟩ | ⟨_, _, unanswered⟩ := shows.shown
    · rw [same, holds]
    · rw [holds, unanswered] at known
      cases known
  have unowned : after.phase.unowned = true → registry.shutdown = true := fun left =>
    delivered.unowned place flight found (shows.unowned left)
  have registered : after.phase = .registered → flight.phase = .registered := by
    intro phase
    obtain different | same := shows.registered
    · exact absurd phase different
    · exact same.symm.trans phase
  have moved := delivered.setTask found shows.same answered shown unowned registered
  have sameTasks : next.tasks = (registry.setTask place after).tasks := tasks
  refine ⟨moved.congr sameTasks moves.callers fun stopped => ?_, ?_⟩
  · rw [moves.shutdown]
    exact stopped
  · exact (keeps_setTask found shows.same shown).trans (keeps_of_tasks sameTasks)

end Registry

end StreamServer.Capability
