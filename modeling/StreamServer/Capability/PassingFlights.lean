import StreamServer.Capability.Flights
import StreamServer.Capability.PassingEvidence
import StreamServer.Shared.Runs

set_option autoImplicit false

namespace StreamServer.Capability

def FlightPhase.passing : FlightPhase → Bool
  | .computed result | .finished result => result.passing
  | _ => false

def Flight.passing (flight : Flight) : Bool :=
  flight.phase.passing || flight.shown.any EnsureEvidenceResult.passing

def Flight.OnTarget (flight : Flight) : Prop :=
  ∀ verified, flight.phase = .verified verified → verified.target = flight.target

namespace Registry

def Establishes (place : Nat) (key : CapabilityKey) (target : EvidenceTarget) (_ : Registry)
    (action : Action) (next : Registry) : Prop :=
  ∃ now preferred, action = .flight (.task place (.merge (some now) preferred)) ∧
    next.snapshot.Backs key target now

section Tasks

variable {registry next : Registry} {place : Nat} {flight : Flight}

theorem step_evidenceSound {registry next : Registry} {action : Action} (fenced : registry.Fenced)
    (sound : registry.EvidenceSound) (taken : registry.step action = some next) :
    next.EvidenceSound := by
  cases (step_publishes fenced taken).2 with
  | kept publication =>
    unfold EvidenceSound
    rw [snapshot_of_publication publication]
    exact sound
  | changed now read epoch revision valid =>
    intro entry member
    have current := (CapabilitySnapshot.validate_eq_ok.mp valid).2.2
    exact (EvidenceRecord.validate_eq_ok.mp (current entry member)).sound

structure TaskPasses (registry : Registry) (place : Nat) (flight : Flight) (step : TaskStep)
    (next : Registry) : Prop where
  moved : ∃ after : Flight, next.tasks = registry.tasks.set place after ∧ after.key = flight.key ∧
    after.target = flight.target ∧ after.OnTarget ∧
    (after.passing = true → flight.passing = true ∨
      ∃ now preferred, step = .merge (some now) preferred ∧
        next.snapshot.Backs flight.key flight.target now)

theorem passes_inPhase {middle : Registry} {phase : FlightPhase} {step : TaskStep}
    (tasks : middle.tasks = registry.tasks) (unverified : ∀ verified, phase ≠ .verified verified)
    (carried : phase.passing = true → flight.passing = true) :
    TaskPasses registry place flight step (middle.setTask place (flight.inPhase phase)) := by
  refine ⟨flight.inPhase phase, ?_, rfl, rfl, fun verified same => absurd same (unverified verified),
    fun passes => .inl ?_⟩
  · rw [← tasks]
    rfl
  · rcases (Bool.or_eq_true _ _).mp passes with phased | shown
    · exact carried phased
    · exact (Bool.or_eq_true _ _).mpr (.inr shown)

theorem merge_passes (sound : registry.EvidenceSound) (onTarget : flight.OnTarget)
    {verified : VerificationResult} (phase : flight.phase = .verified verified)
    (now : Option StateNow) (preferred : CapabilityKey) :
    TaskPasses registry place flight (.merge now preferred)
      ((registry.mergeVerification flight.key flight.epoch verified now preferred).2.setTask place
        (flight.inPhase (.computed
          (registry.mergeVerification flight.key flight.epoch verified now preferred).1))) := by
  have tasks := (mergeVerification_ledger registry flight verified now preferred).1
  refine ⟨flight.inPhase (.computed
    (registry.mergeVerification flight.key flight.epoch verified now preferred).1), ?_, rfl, rfl,
    (by rintro _ ⟨⟩), fun passes => ?_⟩
  · rw [← tasks]
    rfl
  · rcases (Bool.or_eq_true _ _).mp passes with computed | shown
    · obtain ⟨reading, rfl, backs⟩ := mergeVerification_backs sound computed
      rw [onTarget verified phase] at backs
      exact .inr ⟨reading, preferred, rfl, backs⟩
    · exact .inl ((Bool.or_eq_true _ _).mpr (.inr shown))

theorem taskStep_passes {step : TaskStep} (sound : registry.EvidenceSound)
    (onTarget : flight.OnTarget) (taken : registry.taskStep place flight step = some next) :
    TaskPasses registry place flight step next := by
  cases taskStep_move taken with
  | cancelled => exact ⟨_, rfl, rfl, rfl, onTarget, .inl⟩
  | leftQueue after dequeued =>
    have tasks := (decrementQueued_tasks registry).1
    cases phase : flight.phase <;> rw [phase] at dequeued <;> cases dequeued <;>
      exact passes_inPhase tasks (by rintro _ ⟨⟩) (by rintro ⟨⟩)
  | verified result _ same =>
    refine ⟨flight.inPhase (.verified result), rfl, rfl, rfl, ?_, fun passes => .inl ?_⟩
    · rintro _ ⟨⟩
      exact same
    · rcases (Bool.or_eq_true _ _).mp passes with phased | shown
      · cases phased
      · exact (Bool.or_eq_true _ _).mpr (.inr shown)
  | merged now preferred result phase => exact merge_passes sound onTarget phase now preferred
  | released result phase =>
    refine passes_inPhase rfl (by rintro _ ⟨⟩) fun passes => ?_
    unfold Flight.passing
    rw [phase]
    exact (Bool.or_eq_true _ _).mpr (.inl passes)
  | sent result phase =>
    refine ⟨_, rfl, rfl, rfl, (by rintro _ ⟨⟩), fun passes => .inl ?_⟩
    unfold Flight.passing
    rw [phase]
    exact (Bool.or_eq_true _ _).mpr (.inl passes)
  | _ => exact passes_inPhase rfl (by rintro _ ⟨⟩) (by rintro ⟨⟩)

end Tasks

section Callers

variable {registry next : Registry} {place : Nat} {caller : Caller}

def OnTarget (registry : Registry) : Prop :=
  ∀ (place : Nat) (flight : Flight), registry.tasks[place]? = some flight → flight.OnTarget

def Carries (before after : Registry) : Prop :=
  ∀ (place : Nat) (flight : Flight), after.tasks[place]? = some flight → flight.OnTarget ∧
    (flight.passing = true → ∃ earlier : Flight, before.tasks[place]? = some earlier ∧
      earlier.key = flight.key ∧ earlier.target = flight.target ∧ earlier.passing = true)

theorem carries_of_tasks (onTarget : registry.OnTarget) (tasks : next.tasks = registry.tasks) :
    Carries registry next := by
  intro place flight found
  rw [tasks] at found
  exact ⟨onTarget place flight found, fun passing => ⟨flight, found, rfl, rfl, passing⟩⟩

theorem carries_set {flight : Nat} {held after : Flight} (onTarget : registry.OnTarget)
    (found : registry.tasks[flight]? = some held)
    (tasks : next.tasks = registry.tasks.set flight after)
    (same : after.key = held.key ∧ after.target = held.target) (quiet : after.OnTarget)
    (carried : after.passing = true → held.passing = true) : Carries registry next := by
  intro other twin atOther
  rw [tasks, List.getElem?_set] at atOther
  split at atOther
  · next equal =>
    subst equal
    split at atOther
    · cases atOther
      exact ⟨quiet, fun passing => ⟨held, found, same.1.symm, same.2.symm, carried passing⟩⟩
    · cases atOther
  · exact ⟨onTarget other twin atOther, fun passing => ⟨twin, atOther, rfl, rfl, passing⟩⟩

theorem carries_append {flight : Flight} (onTarget : registry.OnTarget)
    (tasks : next.tasks = registry.tasks ++ [flight])
    (fresh : flight.phase = .registered ∧ flight.shown = none) : Carries registry next := by
  intro other twin atOther
  rw [tasks] at atOther
  obtain earlier | ⟨_, rfl⟩ := Lists.getElem?_append_cases atOther
  · exact ⟨onTarget other twin earlier, fun passing => ⟨twin, earlier, rfl, rfl, passing⟩⟩
  · refine ⟨fun verified same => ?_, fun passing => ?_⟩
    · rw [fresh.1] at same
      cases same
    · unfold Flight.passing at passing
      rw [fresh.1, fresh.2] at passing
      cases passing

theorem callerStep_carries {step : CallerStep} (onTarget : registry.OnTarget)
    (taken : registry.callerStep place caller step = some next) : Carries registry next := by
  cases callerStep_move taken with
  | opened | openedFirst => exact carries_append onTarget rfl ⟨rfl, rfl⟩
  | gateClosed _ _ _ present | spawned _ _ _ present | leftUnspawned _ _ _ present
  | leftSent _ _ _ present =>
    refine carries_set onTarget present rfl ⟨rfl, rfl⟩ (by rintro _ ⟨⟩) fun passing => ?_
    exact (Bool.or_eq_true _ _).mpr (.inr passing)
  | looked | turnedAway | joined | received | receivedShutdown | givenUp | concluded | dropped =>
    exact carries_of_tasks onTarget rfl

end Callers

theorem step_passes {registry next : Registry} {action : Action} (fenced : registry.Fenced)
    (sound : registry.EvidenceSound) (onTarget : registry.OnTarget)
    (taken : registry.step action = some next) {place : Nat} {flight : Flight}
    (found : next.tasks[place]? = some flight) :
    flight.OnTarget ∧ (flight.passing = true →
      (∃ earlier : Flight, registry.tasks[place]? = some earlier ∧ earlier.key = flight.key ∧
        earlier.target = flight.target ∧ earlier.passing = true) ∨
      Establishes place flight.key flight.target registry action next) := by
  have ofCarries : Carries registry next → flight.OnTarget ∧ (flight.passing = true →
      (∃ earlier : Flight, registry.tasks[place]? = some earlier ∧ earlier.key = flight.key ∧
        earlier.target = flight.target ∧ earlier.passing = true) ∨
      Establishes place flight.key flight.target registry action next) := fun carries =>
    (carries place flight found).imp_right fun carried passing => .inl (carried passing)
  cases action with
  | refresh action => exact ofCarries (carries_of_tasks onTarget (refreshStep_flights fenced taken).1.tasks)
  | flight action =>
    cases action with
    | call key target =>
      cases taken
      exact ofCarries (carries_of_tasks onTarget rfl)
    | caller other step =>
      simp only [Registry.step, flightStep] at taken
      split at taken
      · cases taken
      · exact ofCarries (callerStep_carries onTarget taken)
    | task other step =>
      simp only [Registry.step, flightStep] at taken
      split at taken
      · cases taken
      · next held present =>
        obtain ⟨after, tasks, key, target, quiet, passes⟩ :=
          (taskStep_passes sound (onTarget other held present) taken).moved
        rw [tasks, List.getElem?_set] at found
        split at found
        · next equal =>
          subst equal
          split at found
          · cases found
            refine ⟨quiet, fun passing => (passes passing).imp (fun earlier => ?_) ?_⟩
            · exact ⟨held, present, key.symm, target.symm, earlier⟩
            · rintro ⟨now, preferred, rfl, backs⟩
              rw [key, target]
              exact ⟨now, preferred, rfl, backs⟩
          · cases found
        · exact ⟨onTarget place flight found, fun passing => .inl ⟨flight, found, rfl, rfl, passing⟩⟩

structure Founded (registry : Registry) : Prop where
  flown : registry.Flown
  sound : registry.EvidenceSound
  onTarget : registry.OnTarget

theorem founded_initial (mode : VerifierMode) : (initial mode).Founded :=
  ⟨flown_initial mode, (fun _ member => by cases member), fun _ _ found => by cases found⟩

theorem step_founded {registry next : Registry} {action : Action} (founded : registry.Founded)
    (taken : registry.step action = some next) : next.Founded :=
  ⟨(step_flown founded.flown taken).1, step_evidenceSound founded.flown.fenced founded.sound taken,
    fun _ _ found => (step_passes founded.flown.fenced founded.sound founded.onTarget taken found).1⟩

theorem run_founded {start final : Registry} {actions : List Action} (founded : start.Founded)
    (ran : Runs.run step start actions = some final) : final.Founded :=
  Runs.invariant_of_run (fun _ _ _ before taken => step_founded before taken) founded ran

def EstablishedFrom (start : Registry) (first : Nat) (done : List Action) (state : Registry) : Prop :=
  ∀ (place : Nat) (flight : Flight), first ≤ place → state.tasks[place]? = some flight →
    flight.passing = true →
      Runs.Moment (Establishes place flight.key flight.target) step start done

theorem passing_flight_established {start final : Registry} {actions : List Action} {first : Nat}
    (founded : start.Founded)
    (quiet : ∀ (place : Nat) (flight : Flight), first ≤ place →
      start.tasks[place]? = some flight → flight.passing = false)
    (ran : Runs.run step start actions = some final) : EstablishedFrom start first actions final := by
  have extend : ∀ done state action next, Runs.run step start done = some state →
      EstablishedFrom start first done state → step state action = some next →
      EstablishedFrom start first (done ++ [action]) next := by
    intro done state action next reached earlier taken place flight late found passing
    have before := run_founded founded reached
    obtain ⟨held, present, key, target, held_passing⟩ | established :=
      (step_passes before.flown.fenced before.sound before.onTarget taken found).2 passing
    · have moment := earlier place held late present held_passing
      rw [key, target] at moment
      exact moment.append [action]
    · exact Runs.moment_last reached taken established
  refine Runs.history_of_run (fun place flight late found passing => ?_) extend ran
  rw [quiet place flight late found] at passing
  cases passing

end Registry

end StreamServer.Capability
