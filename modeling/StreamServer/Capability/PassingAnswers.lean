import StreamServer.Capability.PassingFlights

set_option autoImplicit false

namespace StreamServer.Capability

namespace Registry

def reading : Action → Option StateNow
  | .flight (.caller _ (.look _ now)) => now
  | .flight (.task _ (.merge now _)) => now
  | _ => none

def BackedAt (key : CapabilityKey) (target : EvidenceTarget) (_ : Registry) (action : Action)
    (next : Registry) : Prop :=
  ∃ now, reading action = some now ∧ next.snapshot.Backs key target now

def JoinsListed (place : Nat) (key : CapabilityKey) (flight : Nat) (registry : Registry)
    (action : Action) (_ : Registry) : Prop :=
  action = .flight (.caller place .join) ∧ registry.flightState.flights.lookup key = some flight

inductive Reaches (registry : Registry) (caller : Caller) : CallerStep → Caller → Prop where
  | looked (playbackActive : Bool) (now : Option StateNow) :
      Reaches registry caller (.look playbackActive now)
        (registry.lookedUp caller playbackActive now)
  | refused (step : CallerStep) (reason : RegistryReason) :
      Reaches registry caller step (caller.returning reason)
  | joins (flight : Nat) (listed : registry.flightState.flights.lookup caller.key = some flight) :
      Reaches registry caller .join (caller.inPhase (.waiting flight))
  | opens : Reaches registry caller .join (caller.inPhase (.owning registry.tasks.length))
  | stays (step : CallerStep) : Reaches registry caller step caller
  | spawned (flight : Nat) (owns : caller.phase = .owning flight) :
      Reaches registry caller .gate (caller.inPhase (.waiting flight))
  | receives (step : CallerStep) (flight : Nat) (result : EnsureEvidenceResult)
      (waits : caller.phase = .waiting flight) :
      Reaches registry caller step (caller.inPhase (.received flight result))
  | concludes (flight : Nat) (result : EnsureEvidenceResult)
      (received : caller.phase = .received flight result) :
      Reaches registry caller .conclude (caller.inPhase (.returned result))
  | drops : Reaches registry caller .depart (caller.inPhase .dropped)

section Steps

variable {registry next : Registry} {place : Nat} {caller : Caller}

theorem set_same {A : Type} {list : List A} {value : A} (found : list[place]? = some value) :
    list.set place value = list := by
  obtain ⟨inside, there⟩ := List.getElem?_eq_some_iff.mp found
  rw [← there]
  exact List.set_getElem_self inside

theorem callerStep_reaches {step : CallerStep} (found : registry.callers[place]? = some caller)
    (taken : registry.callerStep place caller step = some next) :
    ∃ after, next.callers = registry.callers.set place after ∧
      Reaches registry caller step after := by
  cases callerStep_move taken with
  | looked playbackActive now => exact ⟨_, rfl, .looked playbackActive now⟩
  | turnedAway | givenUp => exact ⟨_, rfl, .refused _ _⟩
  | joined _ flight _ _ listed => exact ⟨_, rfl, .joins flight listed⟩
  | opened | openedFirst => exact ⟨_, rfl, .opens⟩
  | gateClosed => exact ⟨caller, (set_same found).symm, .stays _⟩
  | spawned flight _ owns => exact ⟨_, rfl, .spawned flight owns⟩
  | received flight _ _ waits | receivedShutdown flight waits =>
    exact ⟨_, rfl, .receives _ flight _ waits⟩
  | concluded flight result received => exact ⟨_, rfl, .concludes flight result received⟩
  | leftUnspawned | leftSent | dropped => exact ⟨_, rfl, .drops⟩

end Steps

section Calls

variable {mode : VerifierMode} {before done : List Action} {start registry next : Registry}
  {place first : Nat} {key : CapabilityKey} {target : EvidenceTarget} {caller after : Caller}

/-- A passing answer was backed during the call, or by a flight that the call found listed. -/
def Answered (mode : VerifierMode) (before : List Action) (start : Registry) (place first : Nat)
    (key : CapabilityKey) (target : EvidenceTarget) (done : List Action) : Prop :=
  Runs.Moment (BackedAt key target) step start done ∨
    ∃ flight < first, Runs.Moment (JoinsListed place key flight) step start done ∧
      Runs.Moment (Establishes flight key target) step (initial mode) (before ++ done)

def Follows (start : Registry) (place first : Nat) (key : CapabilityKey) (done : List Action)
    (flight : Nat) : Prop :=
  first ≤ flight ∨ Runs.Moment (JoinsListed place key flight) step start done

def CallBacked (mode : VerifierMode) (before : List Action) (start : Registry) (place first : Nat)
    (done : List Action) (caller : Caller) : Prop :=
  match caller.phase with
  | .owning flight => first ≤ flight
  | .waiting flight | .received flight _ => Follows start place first caller.key done flight
  | .returned result => result.passing = true →
      Answered mode before start place first caller.key caller.target done
  | _ => True

theorem Follows.append {flight : Nat} (follows : Follows start place first key done flight)
    (more : List Action) : Follows start place first key (done ++ more) flight :=
  follows.imp_right fun listed => listed.append more

theorem Answered.append (answered : Answered mode before start place first key target done)
    (more : List Action) : Answered mode before start place first key target (done ++ more) := by
  refine answered.imp (fun backed => backed.append more) ?_
  rintro ⟨flight, earlier, listed, established⟩
  rw [← List.append_assoc]
  exact ⟨flight, earlier, listed.append more, established.append more⟩

theorem CallBacked.append (backed : CallBacked mode before start place first done caller)
    (more : List Action) : CallBacked mode before start place first (done ++ more) caller := by
  unfold CallBacked at backed ⊢
  split
  · next owns =>
    rw [owns] at backed
    exact backed
  · next waits =>
    rw [waits] at backed
    exact backed.append more
  · next received =>
    rw [received] at backed
    exact backed.append more
  · next returned =>
    rw [returned] at backed
    exact fun passing => (backed passing).append more
  · trivial

theorem run_tasks_length (founded : start.Founded)
    (reached : Runs.run step start done = some registry) :
    start.tasks.length ≤ registry.tasks.length := by
  by_contra shorter
  obtain ⟨flight, present⟩ : ∃ flight, start.tasks[registry.tasks.length]? = some flight :=
    ⟨_, List.getElem?_eq_getElem (Nat.not_le.mp shorter)⟩
  obtain ⟨later, found, _⟩ := run_keeps founded.flown reached _ flight present
  exact absurd (List.getElem?_eq_some_iff.mp found).1 (Nat.lt_irrefl _)

theorem received_answered {flight : Nat} {result : EnsureEvidenceResult}
    (began : Runs.run step (initial mode) before = some start)
    (reached : Runs.run step start done = some registry)
    (found : registry.callers[place]? = some caller)
    (received : caller.phase = .received flight result)
    (follows : Follows start place start.tasks.length caller.key done flight)
    (passing : result.passing = true) :
    Answered mode before start place start.tasks.length caller.key caller.target done := by
  have founded := run_founded (founded_initial mode) began
  have later := run_founded founded reached
  have served := later.flown.delivered.served caller (List.mem_of_getElem? found)
  simp only [Served, received] at served
  obtain ⟨held, ⟨present, heldKey, heldTarget⟩, shown | ⟨_, rfl⟩⟩ := served
  · have passes : held.passing = true := by
      unfold Flight.passing
      rw [shown]
      exact (Bool.or_eq_true _ _).mpr (.inr passing)
    by_cases opened : start.tasks.length ≤ flight
    · have quiet : ∀ (other : Nat) (twin : Flight), start.tasks.length ≤ other →
          start.tasks[other]? = some twin → twin.passing = false := by
        intro other twin late there
        exact absurd (List.getElem?_eq_some_iff.mp there).1 (Nat.not_lt.mpr late)
      have established :=
        passing_flight_established founded quiet reached flight held opened present passes
      rw [heldKey, heldTarget] at established
      refine .inl (established.mono ?_)
      rintro _ _ _ ⟨now, preferred, rfl, backs⟩
      exact ⟨now, rfl, backs⟩
    · have whole : Runs.run step (initial mode) (before ++ done) = some registry := by
        rw [Runs.run_append, began]
        exact reached
      have quiet : ∀ (other : Nat) (twin : Flight), 0 ≤ other →
          (initial mode).tasks[other]? = some twin → twin.passing = false := by
        intro other twin _ there
        cases there
      have established := passing_flight_established (founded_initial mode) quiet whole flight held
        (Nat.zero_le _) present passes
      rw [heldKey, heldTarget] at established
      exact .inr ⟨flight, Nat.not_le.mp opened, follows.resolve_left opened, established⟩
  · cases passing

theorem reaches_backed {callerStep : CallerStep}
    (began : Runs.run step (initial mode) before = some start)
    (reached : Runs.run step start done = some registry)
    (found : registry.callers[place]? = some caller)
    (backed : CallBacked mode before start place start.tasks.length done caller)
    (taken : registry.step (.flight (.caller place callerStep)) = some next)
    (reaches : Reaches registry caller callerStep after) :
    after.key = caller.key ∧ after.target = caller.target ∧
      CallBacked mode before start place start.tasks.length
        (done ++ [.flight (.caller place callerStep)]) after := by
  have founded := run_founded (founded_initial mode) began
  have later := run_founded founded reached
  cases reaches with
  | looked playbackActive now =>
    have phases : (∃ epoch, registry.lookedUp caller playbackActive now =
          caller.inPhase (.admitted epoch)) ∨
        ∃ result, registry.lookedUp caller playbackActive now = caller.inPhase (.returned result) :=
      lookedUp_phase playbackActive now
    obtain ⟨epoch, admitted⟩ | ⟨result, returned⟩ := phases
    · rw [admitted]
      exact ⟨rfl, rfl, trivial⟩
    · rw [returned]
      refine ⟨rfl, rfl, fun passing => .inl ?_⟩
      obtain ⟨reading, rfl, backs⟩ := lookedUp_backs later.sound
        (by rw [returned]; rfl) passing
      have publication : next.snapshot = registry.snapshot := by
        have stepped := taken
        simp only [Registry.step, flightStep, found] at stepped
        exact congrArg RegistryPublication.snapshot (callerStep_frame stepped).2
      exact Runs.moment_last reached taken ⟨reading, rfl, by rw [publication]; exact backs⟩
  | refused step reason => exact ⟨rfl, rfl, fun passing => by cases passing⟩
  | joins flight listed =>
    exact ⟨rfl, rfl, .inr (Runs.moment_last reached taken ⟨rfl, listed⟩)⟩
  | opens => exact ⟨rfl, rfl, run_tasks_length founded reached⟩
  | stays step => exact ⟨rfl, rfl, backed.append _⟩
  | spawned flight owns =>
    unfold CallBacked at backed
    rw [owns] at backed
    exact ⟨rfl, rfl, .inl backed⟩
  | receives step flight result waits =>
    unfold CallBacked at backed
    rw [waits] at backed
    exact ⟨rfl, rfl, backed.append _⟩
  | concludes flight result received =>
    unfold CallBacked at backed
    rw [received] at backed
    exact ⟨rfl, rfl, fun passing =>
      (received_answered began reached found received backed passing).append _⟩
  | drops => exact ⟨rfl, rfl, trivial⟩

theorem step_callers {action : Action} (fenced : registry.Fenced)
    (found : registry.callers[place]? = some caller) (taken : registry.step action = some next) :
    next.callers[place]? = some caller ∨ ∃ callerStep after,
      action = .flight (.caller place callerStep) ∧ next.callers[place]? = some after ∧
        Reaches registry caller callerStep after := by
  have inside := (List.getElem?_eq_some_iff.mp found).1
  cases action with
  | refresh action =>
    rw [(refreshStep_flights fenced taken).1.callers]
    exact .inl found
  | flight action =>
    cases action with
    | call otherKey otherTarget =>
      cases taken
      exact .inl ((List.getElem?_append_left inside).trans found)
    | caller other callerStep =>
      have stepped := taken
      simp only [Registry.step, flightStep] at stepped
      split at stepped
      · cases stepped
      · next moving there =>
        obtain ⟨after, callers, reaches⟩ := callerStep_reaches there stepped
        rw [callers]
        by_cases same : other = place
        · subst same
          cases there.symm.trans found
          exact .inr ⟨callerStep, after, rfl, List.getElem?_set_self inside, reaches⟩
        · exact .inl ((List.getElem?_set_ne same).trans found)
    | task other taskStep =>
      simp only [Registry.step, flightStep] at taken
      split at taken
      · cases taken
      · rw [(taskStep_moves taken).callers]
        exact .inl found

def CallerBacked (mode : VerifierMode) (before : List Action) (start : Registry) (place : Nat)
    (key : CapabilityKey) (target : EvidenceTarget) (done : List Action) (registry : Registry) :
    Prop :=
  ∃ caller, registry.callers[place]? = some caller ∧ caller.key = key ∧ caller.target = target ∧
    CallBacked mode before start place start.tasks.length done caller

theorem run_callerBacked (began : Runs.run step (initial mode) before = some start)
    (found : start.callers[place]? = some ⟨key, target, .called⟩)
    (ran : Runs.run step start done = some registry) :
    CallerBacked mode before start place key target done registry := by
  have founded := run_founded (founded_initial mode) began
  have extend : ∀ done state action next, Runs.run step start done = some state →
      CallerBacked mode before start place key target done state →
      step state action = some next →
      CallerBacked mode before start place key target (done ++ [action]) next := by
    rintro done state action next reached ⟨caller, there, rfl, rfl, backed⟩ taken
    have fenced := (run_founded founded reached).flown.fenced
    obtain same | ⟨callerStep, after, rfl, moved, reaches⟩ := step_callers fenced there taken
    · exact ⟨caller, same, rfl, rfl, backed.append [action]⟩
    · obtain ⟨sameKey, sameTarget, follows⟩ :=
        reaches_backed began reached there backed taken reaches
      exact ⟨after, moved, sameKey, sameTarget, follows⟩
  exact Runs.history_of_run ⟨_, found, rfl, rfl, trivial⟩ extend ran

theorem passing_answer_is_backed {during : List Action} {result : EnsureEvidenceResult}
    (began : Runs.run step (initial mode) before = some registry)
    (called : registry.step (.flight (.call key target)) = some start)
    (continued : Runs.run step start during = some next)
    (found : next.callers[registry.callers.length]? = some caller)
    (answered : caller.phase = .returned result) (passing : result.passing = true) :
    Answered mode (before ++ [.flight (.call key target)]) start registry.callers.length
      registry.tasks.length key target during := by
  have whole : Runs.run step (initial mode) (before ++ [.flight (.call key target)]) =
      some start := Runs.run_snoc began called
  cases called
  have entered : (registry.callers ++ [⟨key, target, .called⟩])[registry.callers.length]? =
      some ⟨key, target, .called⟩ := List.getElem?_concat_length
  obtain ⟨last, there, rfl, rfl, backed⟩ := run_callerBacked whole entered continued
  cases there.symm.trans found
  unfold CallBacked at backed
  rw [answered] at backed
  exact backed passing

end Calls

section Concrete

def twoMinutes : StateNow := ⟨⟨120000, by decide⟩, 120000, by decide⟩

theorem minute_safe : 60000 ≤ maxSafeInteger := by decide

def shortPass : VerificationResult :=
  ⟨.realtime, .realtimePassed, none, ⟨0, Nat.zero_le _⟩, 100, ⟨60000, minute_safe⟩⟩

def ownVerification : List Action :=
  [.flight (.caller 0 (.look false (some clockStart))), .flight (.caller 0 .join),
    .flight (.caller 0 .gate), .flight (.task 0 .takeDevice), .flight (.task 0 .takeGlobal),
    .flight (.task 0 .leaveQueue), .flight (.task 0 (.check false)), .flight (.task 0 .confirm),
    .flight (.task 0 (.answer (some shortPass))),
    .flight (.task 0 (.merge (some clockStart) plainKey))]

def ownedCall : List Action :=
  ownVerification ++ [.flight (.task 0 .release), .flight (.task 0 .send),
    .flight (.caller 0 .receive), .flight (.caller 0 .conclude)]

theorem owner_is_answered :
    ∃ registry start : Registry,
      Runs.run step (initial .activeInjected) firstRefresh = some registry ∧
      registry.step (.flight (.call plainKey .realtime)) = some start ∧
      Answered .activeInjected (firstRefresh ++ [.flight (.call plainKey .realtime)]) start
        registry.callers.length registry.tasks.length plainKey .realtime ownedCall := by
  have ran : (Runs.run step (initial .activeInjected) firstRefresh).any (fun registry =>
      (registry.step (.flight (.call plainKey .realtime))).any fun start =>
        (Runs.run step start ownedCall).any fun final =>
          decide ((final.callers[registry.callers.length]?).map Caller.phase =
            some (.returned ⟨true, none⟩))) = true := by
    decide +kernel
  obtain ⟨registry, began, first⟩ := (Option.any_eq_true _ _).mp ran
  obtain ⟨start, called, second⟩ := (Option.any_eq_true _ _).mp first
  obtain ⟨final, continued, facts⟩ := (Option.any_eq_true _ _).mp second
  obtain ⟨caller, found, answered⟩ := Option.map_eq_some_iff.mp (of_decide_eq_true facts)
  exact ⟨registry, start, began, called,
    passing_answer_is_backed began called continued found answered rfl⟩

def lateCall : List Action :=
  [.flight (.caller 1 (.look false (some twoMinutes))), .flight (.caller 1 .join),
    .flight (.task 0 .release), .flight (.task 0 .send), .flight (.caller 1 .receive),
    .flight (.caller 1 .conclude)]

def expiredByTwoMinutes (registry : Registry) : Prop :=
  (registry.snapshot.evidence.lookup plainKey).all (fun record =>
    record.realtime.all fun observation => observation.monotonicExpiresAtMs ≤ 120000) = true

instance : DecidablePred expiredByTwoMinutes := fun _ => inferInstanceAs (Decidable (_ = true))

theorem unbacked_of_expired {registry : Registry} (expired : expiredByTwoMinutes registry)
    {now : StateNow} (late : twoMinutes.monotonicMs ≤ now.monotonicMs) :
    ¬ registry.snapshot.Backs plainKey .realtime now := by
  intro backs
  obtain ⟨record, found, passes⟩ := backs.evidence
  obtain ⟨observation, present, _, _, current⟩ := passes.passed
  have held : record.realtime = some observation := present
  unfold expiredByTwoMinutes at expired
  rw [found, Option.all_some, held, Option.all_some, decide_eq_true_eq] at expired
  have live := (isCurrent_eq_true.mp current).2
  exact absurd live (Nat.not_lt.mpr (expired.trans late))

theorem joined_answer_outlives_its_evidence :
    ∃ start final : Registry,
      Runs.run step (initial .activeInjected)
        (firstRefresh ++ .flight (.call plainKey .realtime) :: ownVerification ++
        [.flight (.call plainKey .realtime)]) = some start ∧
      start.callers[1]? = some ⟨plainKey, .realtime, .called⟩ ∧
      Runs.run step start lateCall = some final ∧
      (final.callers[1]?).map Caller.phase = some (.returned ⟨true, none⟩) ∧
      Runs.Always (fun registry => ∀ now, twoMinutes.monotonicMs ≤ now.monotonicMs →
        ¬ registry.snapshot.Backs plainKey .realtime now) step start lateCall := by
  have ran : (Runs.run step (initial .activeInjected)
      (firstRefresh ++ .flight (.call plainKey .realtime) :: ownVerification ++
        [.flight (.call plainKey .realtime)])).any (fun start =>
        decide (start.callers[1]? = some ⟨plainKey, .realtime, .called⟩) &&
          decide (Runs.Always expiredByTwoMinutes step start lateCall) &&
          (Runs.run step start lateCall).any fun final =>
            decide ((final.callers[1]?).map Caller.phase = some (.returned ⟨true, none⟩))) =
      true := by
    decide +kernel
  obtain ⟨start, reached, facts⟩ := (Option.any_eq_true _ _).mp ran
  rw [Bool.and_eq_true, Bool.and_eq_true] at facts
  obtain ⟨⟨called, expired⟩, later⟩ := facts
  obtain ⟨final, continued, answered⟩ := (Option.any_eq_true _ _).mp later
  refine ⟨start, final, reached, of_decide_eq_true called, continued, of_decide_eq_true answered, ?_⟩
  exact (of_decide_eq_true expired).mono fun registry expired now late =>
    unbacked_of_expired expired late

end Concrete

end Registry

end StreamServer.Capability
