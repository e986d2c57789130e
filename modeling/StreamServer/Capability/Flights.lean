import StreamServer.Capability.FlightDelivery
import StreamServer.Capability.RegistryFacts

set_option autoImplicit false

namespace StreamServer.Capability

open FlightLedger

namespace Registry

structure Flown (registry : Registry) : Prop where
  fenced : registry.Fenced
  accounted : registry.Accounted
  delivered : registry.Delivered

theorem flown_initial (mode : VerifierMode) : (initial mode).Flown :=
  ⟨fenced_initial mode, accounted_initial mode, delivered_initial mode⟩

theorem SameFlights.ledger {before after : Registry} (same : SameFlights before after) :
    after.ledger = before.ledger := by
  unfold Registry.ledger
  rw [same.flights, same.queued, same.deviceSemaphores, same.semaphores, same.globalPermits,
    same.tasks]

theorem refreshStep_flights {registry next : Registry} {action : RefreshAction}
    (fenced : registry.Fenced) (taken : registry.refreshStep action = some next) :
    SameFlights registry next ∧ (registry.shutdown = true → next.shutdown = true) := by
  cases action with
  | start cause early late =>
    cases taken
    obtain refused | ⟨now, _, started⟩ := startRefresh_effect registry cause early late
    · exact ⟨refused.flights, fun stopped => by rw [refused.shutdown, stopped]⟩
    · exact ⟨started.invalidated.flights, fun stopped => by
        rw [started.invalidated.shutdown, stopped]⟩
  | worker place step =>
    simp only [refreshStep] at taken
    split at taken
    · cases taken
    next worker found =>
      obtain ⟨after, steps⟩ :=
        workerStep_steps (fenced.workers worker (List.mem_of_getElem? found)) taken
      exact ⟨steps.flights, fun stopped => by rw [steps.control.shutdown, stopped]⟩
  | beginShutdown =>
    cases taken
    exact ⟨⟨rfl, rfl, rfl, rfl, rfl, rfl, rfl, rfl⟩, fun _ => rfl⟩
  | shutdownFlights =>
    simp only [refreshStep] at taken
    split at taken
    · cases taken
      exact ⟨⟨rfl, rfl, rfl, rfl, rfl, rfl, rfl, rfl⟩, id⟩
    · cases taken

theorem flightStep_flights {registry next : Registry} {action : FlightAction}
    (accounted : registry.Accounted) (delivered : registry.Delivered)
    (taken : registry.flightStep action = some next) :
    next.Accounted ∧ next.Delivered ∧ Keeps registry next := by
  cases action with
  | call key target =>
    cases taken
    refine ⟨accounted, ⟨delivered.shown, delivered.unowned, ?_, ?_⟩, keeps_of_tasks rfl⟩
    · intro caller member
      obtain earlier | added := List.mem_append.mp member
      · exact delivered.served caller earlier
      · cases List.mem_singleton.mp added
        trivial
    · intro place flight found phase
      obtain ⟨owner, member, owns⟩ := delivered.owned place flight found phase
      exact ⟨owner, List.mem_append_left _ member, owns⟩
  | caller place step =>
    simp only [flightStep] at taken
    split at taken
    · cases taken
    next caller found =>
      exact ⟨callerStep_accounted taken accounted,
        callerStep_delivered accounted delivered found taken⟩
  | task place step =>
    simp only [flightStep] at taken
    split at taken
    · cases taken
    next flight found =>
      exact ⟨taskStep_accounted found taken accounted,
        (taskStep_moves taken).delivered found delivered⟩

theorem step_flown {registry next : Registry} {action : Action} (flown : registry.Flown)
    (taken : registry.step action = some next) : next.Flown ∧ Keeps registry next := by
  have fenced := (step_publishes flown.fenced taken).1
  cases action with
  | refresh action =>
    obtain ⟨same, shutdown⟩ := refreshStep_flights flown.fenced taken
    exact ⟨⟨fenced, accounted_congr same.ledger flown.accounted,
      flown.delivered.congr same.tasks same.callers shutdown⟩, keeps_of_tasks same.tasks⟩
  | flight action =>
    obtain ⟨accounted, delivered, keeps⟩ :=
      flightStep_flights flown.accounted flown.delivered taken
    exact ⟨⟨fenced, accounted, delivered⟩, keeps⟩

theorem run_flown {mode : VerifierMode} {actions : List Action} {registry : Registry}
    (reached : Runs.run step (initial mode) actions = some registry) : registry.Flown :=
  Runs.invariant_of_run (fun _ _ _ flown taken => (step_flown flown taken).1)
    (flown_initial mode) reached

theorem run_keeps {registry later : Registry} {actions : List Action} (flown : registry.Flown)
    (continued : Runs.run step registry actions = some later) : Keeps registry later := by
  have preserved : ∀ before action after, Flown before → step before action = some after →
      Flown after := fun _ _ _ flown taken => (step_flown flown taken).1
  have across : ∀ before action after, Flown before → step before action = some after →
      Keeps before after := fun _ _ _ flown taken => (step_flown flown taken).2
  exact Runs.related_of_run Keeps.refl (fun _ _ _ => Keeps.trans) across preserved flown continued

def FlightPhase.remaining : FlightPhase → Nat
  | .matched => 5
  | .registered | .granted | .verifying => 4
  | .acquiring | .acquiringGlobal | .holding | .verified _ | .stopping => 3
  | .unspawned | .refused _ | .computed _ => 2
  | .finished _ => 1
  | .sent | .leaving | .gone | .abandoned _ => 0

section Progress

variable {registry : Registry} {place : Nat} {flight : Flight}

theorem taskStep_enabled (registry : Registry) (place : Nat) (key : CapabilityKey)
    (waits : 0 < FlightPhase.remaining flight.phase)
    (behind : flight.phase ≠ .registered) :
    ∃ (step : TaskStep) (middle : Registry) (after : Flight),
      step ≠ .cancel ∧ registry.taskStep place flight step = some (middle.setTask place after) ∧
      middle.tasks = registry.tasks ∧ after.phase ≠ .registered ∧
      FlightPhase.remaining after.phase < FlightPhase.remaining flight.phase := by
  have queueLeft := (decrementQueued_tasks registry).1
  cases phase : flight.phase with
  | registered => exact absurd phase behind
  | unspawned =>
    exact ⟨.leaveQueue, _, _, by rintro ⟨⟩, by rw [taskStep, phase]; rfl, queueLeft, by rintro ⟨⟩,
      by simp [Flight.inPhase, FlightPhase.remaining]⟩
  | acquiring =>
    exact ⟨.giveUp .timeout, _, _, by rintro ⟨⟩, by rw [taskStep, phase]; rfl, rfl, by rintro ⟨⟩,
      by simp [Flight.inPhase, FlightPhase.remaining]⟩
  | acquiringGlobal =>
    exact ⟨.giveUp .timeout, registry.releaseSemaphore flight.semaphore, _, by rintro ⟨⟩,
      by rw [taskStep, phase]; rfl, rfl, by rintro ⟨⟩, by simp [Flight.inPhase, FlightPhase.remaining]⟩
  | granted =>
    exact ⟨.leaveQueue, _, _, by rintro ⟨⟩, by rw [taskStep, phase]; rfl, queueLeft, by rintro ⟨⟩,
      by simp [Flight.inPhase, FlightPhase.remaining]⟩
  | refused reason =>
    exact ⟨.leaveQueue, _, _, by rintro ⟨⟩, by rw [taskStep, phase]; rfl, queueLeft, by rintro ⟨⟩,
      by simp [Flight.inPhase, FlightPhase.remaining]⟩
  | holding =>
    exact ⟨.check true, _, _, by rintro ⟨⟩, by rw [taskStep, phase]; rfl, rfl, by rintro ⟨⟩,
      by simp [Flight.inPhase, FlightPhase.remaining]⟩
  | matched =>
    by_cases current : registry.snapshot.identityEpoch = flight.epoch ∧
        registry.snapshot.admits flight.key = true
    · cases counted : nextCounter registry.verifierInvocations with
      | none =>
        exact ⟨.confirm, registry.exhaust, _, by rintro ⟨⟩,
          by rw [taskStep, if_pos phase, if_pos current, counted], rfl, by rintro ⟨⟩,
          by simp [Flight.inPhase, FlightPhase.remaining]⟩
      | some count =>
        exact ⟨.confirm, registry.incrementInvocations, _, by rintro ⟨⟩,
          by rw [taskStep, if_pos phase, if_pos current, counted], rfl, by rintro ⟨⟩,
          by simp [Flight.inPhase, FlightPhase.remaining]⟩
    · exact ⟨.confirm, registry, _, by rintro ⟨⟩, by rw [taskStep, if_pos phase, if_neg current], rfl,
        by rintro ⟨⟩, by simp [Flight.inPhase, FlightPhase.remaining]⟩
  | verifying =>
    exact ⟨.answer none, _, _, by rintro ⟨⟩, by rw [taskStep, phase]; rfl, rfl,
      by rintro ⟨⟩, by simp [answered, Flight.inPhase, FlightPhase.remaining]⟩
  | verified result =>
    exact ⟨.merge none key, _, _, by rintro ⟨⟩, by rw [taskStep, phase],
      (mergeVerification_ledger registry flight result none key).1, by rintro ⟨⟩, Nat.lt_succ_self _⟩
  | stopping =>
    exact ⟨.stop, _, _, by rintro ⟨⟩, by rw [taskStep, phase]; rfl, rfl, by rintro ⟨⟩,
      by simp [Flight.inPhase, FlightPhase.remaining]⟩
  | computed result =>
    exact ⟨.release, { registry.releaseSemaphore flight.semaphore with
      globalPermits := registry.globalPermits + 1 }, _, by rintro ⟨⟩, by rw [taskStep, phase], rfl, by rintro ⟨⟩,
      by simp [Flight.inPhase, FlightPhase.remaining]⟩
  | finished result =>
    exact ⟨.send, _, _, by rintro ⟨⟩, by rw [taskStep, phase], rfl, by rintro ⟨⟩, by simp [FlightPhase.remaining]⟩
  | sent => rw [phase] at waits; cases waits
  | leaving => rw [phase] at waits; cases waits
  | gone => rw [phase] at waits; cases waits
  | abandoned counted => rw [phase] at waits; cases waits

theorem gate_enabled {owner : Nat} {caller : Caller} (found : registry.tasks[place]? = some flight)
    (phase : flight.phase = .registered) (owns : registry.callers[owner]? = some caller)
    (owning : caller.phase = .owning place) :
    ∃ (next : Registry) (after : Flight),
      registry.step (.flight (.caller owner .gate)) = some next ∧
      next.tasks[place]? = some after ∧ next.shutdown = registry.shutdown ∧
      FlightPhase.remaining after.phase < FlightPhase.remaining flight.phase ∧
      ∀ other, other ≠ owner → next.callers[other]? = registry.callers[other]? := by
  have inside := (List.getElem?_eq_some_iff.mp found).1
  have taken : registry.step (.flight (.caller owner .gate)) =
      some (registry.gated owner caller place flight) := by
    simp only [step, flightStep, owns, callerStep, owning, found, phase, if_true]
  by_cases shutdown : registry.shutdown = true
  · have stopped : registry.gated owner caller place flight =
        registry.setTask place (flight.inPhase .unspawned) := if_pos shutdown
    rw [stopped] at taken
    exact ⟨_, _, taken, List.getElem?_set_self inside, rfl,
      by rw [phase]; simp [Flight.inPhase, FlightPhase.remaining], fun _ _ => rfl⟩
  · have spawned : registry.gated owner caller place flight =
        (registry.setTask place { flight with spawned := true, phase := .acquiring }).setCaller owner
          (caller.inPhase (.waiting place)) := if_neg shutdown
    rw [spawned] at taken
    exact ⟨_, _, taken, List.getElem?_set_self inside, rfl,
      by rw [phase]; simp [FlightPhase.remaining],
      fun other apart => List.getElem?_set_ne (Ne.symm apart)⟩

end Progress

section Delivery

-- The steps that bring the caller at `place` the result of the flight it waits for: the flight's
-- own, the gate of the caller that opened it, and its own. None of them shuts the registry down.
inductive Delivering (registry : Registry) (place waited : Nat) : Action → Prop
  | task {step : TaskStep} (own : step ≠ .cancel) :
      Delivering registry place waited (.flight (.task waited step))
  | gate {owner : Nat} {caller : Caller} (owns : registry.callers[owner]? = some caller)
      (owning : caller.phase = .owning waited) :
      Delivering registry place waited (.flight (.caller owner .gate))
  | receive : Delivering registry place waited (.flight (.caller place .receive))
  | receiveShutdown (stopped : registry.shutdown = true) :
      Delivering registry place waited (.flight (.caller place .receiveShutdown))

/-- The caller has the flight's result, or the shutdown's for a flight that nobody answers. -/
def DeliveredTo (place waited : Nat) (caller : Caller) (registry : Registry) : Prop :=
  ∃ flight result, registry.tasks[waited]? = some flight ∧
    registry.callers[place]? = some (caller.inPhase (.received waited result)) ∧
    (flight.shown = some result ∨ flight.phase = .abandoned true ∧ registry.shutdown = true ∧
      result = .nonPassing .serverShutdown)

variable {registry start : Registry} {place waited : Nat} {caller : Caller} {flight : Flight}

theorem receive_enabled {result : EnsureEvidenceResult}
    (found : registry.callers[place]? = some caller) (waits : caller.phase = .waiting waited)
    (present : registry.tasks[waited]? = some flight) (shown : flight.shown = some result) :
    registry.step (.flight (.caller place .receive)) =
      some (registry.setCaller place (caller.inPhase (.received waited result))) := by
  simp only [step, flightStep, found, callerStep, waits, present, Option.bind_some, shown]

theorem receiveShutdown_enabled (found : registry.callers[place]? = some caller)
    (waits : caller.phase = .waiting waited) (shutdown : registry.shutdown = true) :
    registry.step (.flight (.caller place .receiveShutdown)) = some (registry.setCaller place
      (caller.inPhase (.received waited (.nonPassing .serverShutdown)))) := by
  simp only [step, flightStep, found, callerStep, waits, shutdown, if_true]

theorem settled_phase (done : FlightPhase.remaining flight.phase = 0) :
    flight.phase.answered = true ∨ flight.phase = .abandoned true := by
  cases phase : flight.phase <;> rw [phase] at done <;> cases done
  case abandoned counted =>
    cases counted
    · exact .inl rfl
    · exact .inr rfl
  all_goals exact .inl rfl

theorem leads_of_settled (flown : registry.Flown) (found : registry.callers[place]? = some caller)
    (waits : caller.phase = .waiting waited) (present : registry.tasks[waited]? = some flight)
    (done : FlightPhase.remaining flight.phase = 0) (same : registry.shutdown = start.shutdown) :
    Runs.Leads (Delivering start place waited) step (DeliveredTo place waited caller) registry := by
  have inside := (List.getElem?_eq_some_iff.mp found).1
  obtain answered | abandoned := settled_phase done
  · rw [← flown.delivered.shown waited flight present] at answered
    obtain ⟨result, shown⟩ := Option.isSome_iff_exists.mp answered
    exact .after (receive_enabled found waits present shown) .receive
      (.here ⟨flight, result, present, List.getElem?_set_self inside, .inl shown⟩)
  · have shutdown := flown.delivered.unowned waited flight present (by rw [abandoned]; rfl)
    exact .after (receiveShutdown_enabled found waits shutdown) (.receiveShutdown (same ▸ shutdown))
      (.here ⟨flight, _, present, List.getElem?_set_self inside, .inr ⟨abandoned, shutdown, rfl⟩⟩)

-- By induction on what the flight has left to do, once its task runs or its owner answers it.
theorem leads_of_spawned (flown : registry.Flown) (found : registry.callers[place]? = some caller)
    (waits : caller.phase = .waiting waited) (present : registry.tasks[waited]? = some flight)
    (spawned : flight.phase ≠ .registered) (same : registry.shutdown = start.shutdown) :
    Runs.Leads (Delivering start place waited) step (DeliveredTo place waited caller) registry := by
  induction remains : FlightPhase.remaining flight.phase using Nat.strong_induction_on
    generalizing registry flight with
  | _ count ih =>
    by_cases done : FlightPhase.remaining flight.phase = 0
    · exact leads_of_settled flown found waits present done same
    · obtain ⟨task, middle, after, own, advanced, tasks, ahead, fewer⟩ :=
        taskStep_enabled registry waited caller.key (Nat.pos_of_ne_zero done) spawned
      have taken : registry.step (.flight (.task waited task)) =
          some (middle.setTask waited after) := by
        simp only [step, flightStep, present, advanced]
      have moves := taskStep_moves advanced
      have kept : (middle.setTask waited after).callers[place]? = some caller := by
        rw [moves.callers]
        exact found
      have moved : (middle.setTask waited after).tasks[waited]? = some after := by
        refine List.getElem?_set_self ?_
        rw [tasks]
        exact (List.getElem?_eq_some_iff.mp present).1
      exact .after taken (.task own)
        (ih _ (remains ▸ fewer) (step_flown flown taken).1 kept moved ahead
          (moves.shutdown.trans same) rfl)

theorem waiter_receives (flown : registry.Flown) (found : registry.callers[place]? = some caller)
    (waits : caller.phase = .waiting waited) (present : registry.tasks[waited]? = some flight) :
    Runs.Leads (Delivering registry place waited) step (DeliveredTo place waited caller)
      registry := by
  by_cases behind : flight.phase = .registered
  · obtain ⟨owner, member, owns⟩ := flown.delivered.owned waited flight present behind
    obtain ⟨other, atOther⟩ := List.mem_iff_getElem?.mp member
    obtain ⟨next, after, taken, moved, shutdown, fewer, others⟩ :=
      gate_enabled present behind atOther owns
    have apart : place ≠ other := by
      rintro rfl
      cases found.symm.trans atOther
      rw [waits] at owns
      cases owns
    have ahead : after.phase ≠ .registered := by
      intro still
      rw [still, behind] at fewer
      exact Nat.lt_irrefl _ fewer
    exact .after taken (.gate atOther owns)
      (leads_of_spawned (step_flown flown taken).1 ((others place apart).trans found) waits moved
        ahead shutdown)
  · exact leads_of_spawned flown found waits present behind rfl

end Delivery

section Bounds

variable {registry : Registry} (accounted : registry.Accounted)

include accounted

theorem Accounted.in_flight : registry.tasks.countP (fun flight => flight.phase.stage.listed) ≤
    maxInFlightKeys := by
  have bound := accounted.listed_le
  simp only [ledger, List.countP_map] at bound
  exact bound

theorem Accounted.counted : registry.flightState.queued =
    registry.tasks.countP fun flight => flight.phase.stage.queued := by
  have counted := accounted.queued
  simp only [ledger, List.countP_map] at counted
  exact counted

theorem Accounted.global_le : registry.tasks.countP (fun flight => flight.phase = .verifying) ≤
    maxActiveGlobal := by
  have bound := FlightLedger.Exact.global_le accounted
  simp only [ledger, List.countP_map] at bound
  refine Nat.le_trans (List.countP_mono_left fun flight _ verifying => ?_) bound
  simp only [Function.comp, Flight.entry, of_decide_eq_true verifying]
  rfl

theorem Accounted.device_le (device : DeviceId) : registry.tasks.countP (fun flight =>
    flight.key.device = device && decide (flight.phase = .verifying)) ≤ 1 := by
  have bound := accounted.group_le device
  simp only [ledger, List.countP_map] at bound
  refine Nat.le_trans (List.countP_mono_left fun flight _ verifying => ?_) bound
  simp only [Bool.and_eq_true, decide_eq_true_eq] at verifying
  simp only [Function.comp, Flight.entry, verifying.1, verifying.2]
  rfl

theorem Accounted.semaphore_kept {place : Nat} {flight : Flight}
    (found : registry.tasks[place]? = some flight) (listed : flight.phase.stage.listed = true)
    (attached : flight.phase.stage.attached = true) :
    registry.flightState.deviceSemaphores.lookup flight.key.device = some flight.semaphore :=
  accounted.grouped place flight.entry (entries_getElem? found) listed attached

end Bounds

theorem flights_single_bounded_and_answered (mode : VerifierMode) (actions : List Action)
    (registry : Registry) (reached : Runs.run step (initial mode) actions = some registry) :
    (∀ (place other : Nat) (flight twin : Flight), registry.tasks[place]? = some flight →
      registry.tasks[other]? = some twin → flight.phase.stage.listed = true →
      twin.phase.stage.listed = true → flight.key = twin.key → place = other) ∧
    registry.tasks.countP (fun flight => flight.phase.stage.listed) ≤ maxInFlightKeys ∧
    registry.flightState.queued =
      registry.tasks.countP (fun flight => flight.phase.stage.queued) ∧
    (∀ (place : Nat) (flight : Flight), registry.tasks[place]? = some flight →
      flight.phase.dequeued.isSome = true → 0 < registry.flightState.queued) ∧
    (∀ device, registry.tasks.countP (fun flight =>
      flight.key.device = device && decide (flight.phase = .verifying)) ≤ 1) ∧
    registry.tasks.countP (fun flight => flight.phase = .verifying) ≤ maxActiveGlobal ∧
    (∀ (place : Nat) (flight : Flight), registry.tasks[place]? = some flight →
      flight.phase.stage.listed = true → flight.phase.stage.attached = true →
      registry.flightState.deviceSemaphores.lookup flight.key.device = some flight.semaphore) ∧
    (∀ caller ∈ registry.callers, ∀ place result, caller.phase = .received place result →
      ∃ flight, registry.tasks[place]? = some flight ∧ flight.key = caller.key ∧
        flight.target = caller.target ∧ (flight.shown = some result ∨
          registry.shutdown = true ∧ result = .nonPassing .serverShutdown)) ∧
    (∀ (place : Nat) (flight : Flight) result, registry.tasks[place]? = some flight →
      flight.shown = some result → ∀ more later, Runs.run step registry more = some later →
        ∃ same, later.tasks[place]? = some same ∧ same.key = flight.key ∧
          same.shown = some result) ∧
    -- What is past its send has its result, for each of its waiters to take.
    (∀ (place : Nat) (flight : Flight), registry.tasks[place]? = some flight →
      flight.phase.answered = true → ∃ result, flight.shown = some result ∧
        ∀ waiter (caller : Caller), registry.callers[waiter]? = some caller →
          caller.phase = .waiting place → registry.step (.flight (.caller waiter .receive)) =
            some (registry.setCaller waiter (caller.inPhase (.received place result)))) ∧
    (∀ (place waited : Nat) (caller : Caller), registry.callers[place]? = some caller →
      caller.phase = .waiting waited → Runs.Leads (Delivering registry place waited) step
        (DeliveredTo place waited caller) registry) := by
  have flown := run_flown reached
  have accounted := flown.accounted
  refine ⟨?_, accounted.in_flight, accounted.counted, ?_, accounted.device_le, accounted.global_le,
    ?_, ?_, ?_, ?_, ?_⟩
  · intro place other flight twin found beside first second same
    exact accounted.place_unique (entries_getElem? found) (entries_getElem? beside) first second same
  · intro place flight found dequeued
    obtain ⟨after, dequeues⟩ := Option.isSome_iff_exists.mp dequeued
    exact queued_pos found dequeues accounted
  · exact fun place flight => accounted.semaphore_kept
  · intro caller member place result received
    have served := flown.delivered.served caller member
    simp only [Served, received] at served
    obtain ⟨flight, ⟨present, key, target⟩, shown⟩ := served
    exact ⟨flight, present, key, target, shown⟩
  · intro place flight result found shown more later continued
    obtain ⟨same, there, identity, keeps⟩ := run_keeps flown continued place flight found
    exact ⟨same, there, identity.key, keeps result shown⟩
  · intro place flight found answered
    rw [← flown.delivered.shown place flight found] at answered
    obtain ⟨result, shown⟩ := Option.isSome_iff_exists.mp answered
    exact ⟨result, shown, fun waiter caller beside waits =>
      receive_enabled beside waits found shown⟩
  · intro place waited caller found waits
    have served := flown.delivered.served caller (List.mem_of_getElem? found)
    simp only [Served, waits] at served
    obtain ⟨flight, present, _⟩ := served
    exact waiter_receives flown found waits present

def sharedFlight : List Action :=
  firstRefresh ++
    [.flight (.call plainKey .realtime), .flight (.call plainKey .realtime),
      .flight (.caller 0 (.look false (some clockStart))),
      .flight (.caller 1 (.look false (some clockStart))), .flight (.caller 0 .join),
      .flight (.caller 1 .join), .flight (.caller 0 .gate), .flight (.task 0 .takeDevice),
      .flight (.task 0 .takeGlobal), .flight (.task 0 .leaveQueue),
      .flight (.task 0 (.check false)), .flight (.task 0 .confirm)]

theorem shared_flight_is_answered :
    ∃ registry, Runs.run step (initial .activeInjected) sharedFlight = some registry ∧
      registry.tasks.countP (fun flight => flight.phase = .verifying) = 1 ∧
      registry.flightState.queued = 0 ∧ registry.shutdown = false ∧
      registry.tasks.countP (fun flight => flight.phase.stage.listed) ≤ maxInFlightKeys ∧
      ∃ caller, registry.callers[1]? = some caller ∧ caller.phase = .waiting 0 ∧
        Runs.Leads (Delivering registry 1 0) step (DeliveredTo 1 0 caller) registry := by
  have ran : (Runs.run step (initial .activeInjected) sharedFlight).any (fun registry =>
      decide (registry.tasks.countP (fun flight => flight.phase = .verifying) = 1 ∧
        registry.flightState.queued = 0 ∧ registry.shutdown = false ∧
        (registry.callers[1]?).map Caller.phase = some (.waiting 0))) = true := by
    decide +kernel
  obtain ⟨registry, reached, facts⟩ := (Option.any_eq_true _ _).mp ran
  obtain ⟨verifying, queued, running, waits⟩ := of_decide_eq_true facts
  obtain ⟨caller, found, phase⟩ := Option.map_eq_some_iff.mp waits
  obtain ⟨_, bound, _, _, _, _, _, _, _, _, delivered⟩ :=
    flights_single_bounded_and_answered _ _ registry reached
  exact ⟨registry, reached, verifying, queued, running, bound, caller, found, phase,
    delivered 1 0 caller found phase⟩

theorem publications_are_versioned_and_fenced (mode : VerifierMode) (actions : List Action)
    (registry : Registry) (reached : Runs.run step (initial mode) actions = some registry) :
    (∀ more later, Runs.run step registry more = some later →
      registry.snapshot.identityEpoch ≤ later.snapshot.identityEpoch ∧
        (later.snapshot ≠ registry.snapshot →
          registry.snapshot.publicationRevision < later.snapshot.publicationRevision)) ∧
    (∀ action next, registry.step action = some next → next.snapshot ≠ registry.snapshot →
      registry.snapshot.publicationRevision < next.snapshot.publicationRevision ∧
        ∃ now, registry.publishClock action = some now ∧ next.snapshot.validate now = .ok ()) ∧
    (∀ action next, registry.step (.flight action) = some next →
      next.snapshot ≠ registry.snapshot → ∃ flight now, Merges registry action flight now ∧
        registry.snapshot.freshness = .fresh ∧
        registry.snapshot.identityEpoch = flight.epoch) ∧
    (∀ (place : Nat) (flight : Flight), registry.tasks[place]? = some flight →
      ∀ more later, Runs.run step registry more = some later →
        ∃ same, later.tasks[place]? = some same ∧ same.epoch = flight.epoch) := by
  have flown := run_flown reached
  refine ⟨?_, ?_, ?_, ?_⟩
  · intro more later continued
    have grows := run_grows flown.fenced continued
    refine ⟨grows.epoch, fun changed => ?_⟩
    obtain same | grown := grows.revision
    · exact absurd (congrArg RegistryPublication.snapshot same.symm) changed
    · exact grown
  · intro action next taken changed
    cases (step_publishes flown.fenced taken).2 with
    | kept publication =>
      exact absurd (congrArg RegistryPublication.snapshot publication) changed
    | changed now read epoch revision valid => exact ⟨revision, now, read, valid⟩
  · intro action next taken changed
    obtain ⟨flight, now, merges, fresh, epoch, _⟩ := flight_publishes taken fun same =>
      changed (congrArg RegistryPublication.snapshot same)
    exact ⟨flight, now, merges, fresh, epoch⟩
  · intro place flight found more later continued
    obtain ⟨same, there, identity, _⟩ := run_keeps flown continued place flight found
    exact ⟨same, there, identity.epoch⟩

theorem first_refresh_is_versioned :
    ∃ registry, Runs.run step (initial .activeInjected) firstRefresh = some registry ∧
      registry.snapshot.freshness = .fresh ∧ registry.snapshot.publicationRevision = 2 ∧
      ∀ more later, Runs.run step registry more = some later →
        registry.snapshot.identityEpoch ≤ later.snapshot.identityEpoch := by
  have ran : (Runs.run step (initial .activeInjected) firstRefresh).any (fun registry =>
      decide (registry.snapshot.freshness = .fresh ∧
        registry.snapshot.publicationRevision = 2)) = true := by
    decide +kernel
  obtain ⟨registry, reached, facts⟩ := (Option.any_eq_true _ _).mp ran
  obtain ⟨fresh, revision⟩ := of_decide_eq_true facts
  obtain ⟨grows, _⟩ := publications_are_versioned_and_fenced _ _ registry reached
  exact ⟨registry, reached, fresh, revision, fun more later continued =>
    (grows more later continued).1⟩

end Registry

end StreamServer.Capability
