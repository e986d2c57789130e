import StreamServer.Transcoding.CommitAdmission

set_option autoImplicit false

namespace StreamServer.Transcoding.CommitAdmission

variable {S : Type}

section Moves

variable {signal : Bool} {operation next : Operation S} {move : Move S}

-- Outside of the gate a word changes only from active to cancelled.
theorem exchange_cancelled (commit : AcquisitionCommitControl) :
    (commit.exchange .cancelled).1.state ≠ .active ∧
      ((commit.exchange .cancelled).1.state = commit.state ∨
        commit.state = .active ∧ (commit.exchange .cancelled).1.state = .cancelled) := by
  unfold AcquisitionCommitControl.exchange
  split
  next active => exact ⟨nofun, .inr ⟨active, rfl⟩⟩
  next other => exact ⟨other, .inl rfl⟩

def Move.Cancels : Move S → Prop
  | .exchange | .dropCaller | .forwarderExchange => True
  | _ => False

theorem move_word (moved : operation.move signal move = some next) :
    next.commit.state = operation.commit.state ∨
      operation.commit.state = .active ∧ next.commit.state = .cancelled := by
  have exchanged := (exchange_cancelled operation.commit).2
  cases move with
  | start kind =>
      cases kind <;> simp only [Operation.move] at moved <;> split at moved <;> cases moved <;>
        exact .inl rfl
  | exchange | dropCaller | forwarderExchange =>
      simp only [Operation.move] at moved
      split at moved <;> cases moved
      exact exchanged
  | wakeForwarder =>
      simp only [Operation.move] at moved
      split at moved
      · split at moved <;> cases moved
        exact .inl rfl
      · cases moved
  | _ =>
      simp only [Operation.move] at moved
      split at moved <;> cases moved
      all_goals exact .inl rfl

theorem move_cancels (moved : operation.move signal move = some next) (cancels : move.Cancels) :
    next.commit.state ≠ .active := by
  have exchanged := (exchange_cancelled operation.commit).1
  cases move with
  | exchange | dropCaller | forwarderExchange =>
      simp only [Operation.move] at moved
      split at moved <;> cases moved
      exact exchanged
  | _ => exact cancels.elim

theorem move_admitted {selection : S} (moved : operation.move signal move = some next)
    (admitted : next.phase = .admitted selection) : operation.phase = .admitted selection := by
  cases move with
  | start kind =>
      cases kind <;> simp only [Operation.move] at moved <;> split at moved <;> cases moved <;>
        cases admitted
  | readSignal =>
      simp only [Operation.move] at moved
      split at moved <;> cases moved
      simp only at admitted
      split at admitted <;> cases admitted
  | exchange =>
      simp only [Operation.move] at moved
      split at moved <;> cases moved
      simp only at admitted
      split at admitted
      · cases admitted
      · next after _ _ => cases after <;> cases admitted
  | notify =>
      simp only [Operation.move] at moved
      split at moved <;> cases moved
      next after _ => cases after <;> cases admitted
  | wakeForwarder =>
      simp only [Operation.move] at moved
      split at moved
      · split at moved <;> cases moved
        exact admitted
      · cases moved
  | spawnForwarder | prepare | stop | failWrite =>
      simp only [Operation.move] at moved
      split at moved <;> cases moved
      all_goals cases admitted
  | dropCaller | callerNotify | callerReturns | forwarderExchange | forwarderNotify =>
      simp only [Operation.move] at moved
      split at moved <;> cases moved
      exact admitted

end Moves

section Steps

variable {system next : System S} {action : Action S} {operation : Nat}

theorem word_set (system : System S) (place : Nat) (changed : Operation S) (operation : Nat) :
    (system.set place changed).word operation
      = if operation = place then changed.commit.state else system.word operation := by
  unfold System.word System.set
  by_cases same : operation = place
  · subst same
    simp
  · simp [same]

theorem word_set_same {released : System S} {place : Nat} {changed : Operation S}
    (operations : released.operations = system.operations)
    (same : changed.commit = (system.operations place).commit) (operation : Nat) :
    (released.set place changed).word operation = system.word operation := by
  rw [word_set]
  split
  next here =>
    subst here
    exact congrArg AcquisitionCommitControl.state same
  next => rw [System.word, operations, System.word]

inductive StepCase (system : System S) : Action S → System S → Prop
  | operation (place : Nat) (move : Move S) (changed : Operation S)
      (moved : (system.operations place).move system.cancellation move = some changed) :
      StepCase system (.operation place move) (system.set place changed)
  | enterGate (place : Nat) (selection : S) (free : system.gate = .free)
      (ready : (system.operations place).phase = .ready selection) :
      StepCase system (.enterGate place)
        ({ system with gate := .admitting place .readingToken }.set place
          { system.operations place with phase := .admitting selection })
  | readToken (place : Nat) (reading : system.gate = .admitting place .readingToken) :
      StepCase system .admissionStep { system with
        gate := .admitting place (if system.cancellation then .leaving false else .readingAccepting) }
  | readAccepting (place : Nat) (reading : system.gate = .admitting place .readingAccepting) :
      StepCase system .admissionStep { system with
        gate := .admitting place (if system.accepting then .swapping else .leaving false) }
  | swap (place : Nat) (swapping : system.gate = .admitting place .swapping) :
      StepCase system .admissionStep
        ({ system with
            gate := .admitting place
              (.leaving ((system.operations place).commit.exchange .committed).2) }.set place
          { system.operations place with
            commit := ((system.operations place).commit.exchange .committed).1 })
  | leaveAdmitted (place : Nat) (selection : S)
      (leaving : system.gate = .admitting place (.leaving true)) :
      StepCase system .admissionStep
        ({ system with gate := .free }.set place
          { system.operations place with phase := .admitted selection })
  | leaveRefused (place : Nat) (refused : Operation S)
      (same : refused.commit = (system.operations place).commit)
      (outside : ∀ selection, refused.phase ≠ .admitted selection) :
      StepCase system .admissionStep ({ system with gate := .free }.set place refused)
  | replaceFile (place : Nat) (selection : S)
      (admitted : (system.operations place).phase = .admitted selection) :
      StepCase system (.replaceFile place)
        ({ system with current := some selection }.set place (system.operations place).finish)
  | supervisorCancel (free : system.gate = .free) :
      StepCase system .supervisorCancel { system with gate := .cancelling .storing }
  | supervisorStore (storing : system.gate = .cancelling .storing) :
      StepCase system .supervisorStore
        { system with gate := .cancelling .notifying, accepting := false }
  | supervisorNotify (notifying : system.gate = .cancelling .notifying) :
      StepCase system .supervisorNotify
        { system with gate := .cancelling .leaving, cancellation := true }
  | supervisorReturn (leaving : system.gate = .cancelling .leaving) :
      StepCase system .supervisorReturn { system with gate := .free }
  | cancelParent : StepCase system .cancelParent { system with cancellation := true }

theorem admissionStep_cases (taken : system.admissionStep = some next) :
    StepCase system .admissionStep next := by
  simp only [System.admissionStep, System.leaveGate] at taken
  split at taken
  next place reading =>
    cases taken
    exact .readToken place reading
  next place reading =>
    cases taken
    exact .readAccepting place reading
  next place swapping =>
    cases taken
    exact .swap place swapping
  next place admitted leaving =>
    split at taken
    next selection _ =>
      cases admitted with
      | true =>
          cases taken
          exact .leaveAdmitted place selection leaving
      | false =>
          simp only [Bool.false_eq_true, if_false] at taken
          split at taken <;> cases taken
          · exact .leaveRefused place _ rfl nofun
          · exact .leaveRefused place _ rfl nofun
    next => cases taken
  all_goals cases taken

theorem step_cases (taken : system.step action = some next) : StepCase system action next := by
  cases action with
  | operation place move =>
      obtain ⟨changed, moved, rfl⟩ := Option.map_eq_some_iff.mp taken
      exact .operation place move changed moved
  | admissionStep => exact admissionStep_cases taken
  | enterGate place =>
      simp only [System.step] at taken
      split at taken <;> cases taken
      next selection free ready => exact .enterGate place selection free ready
  | replaceFile place =>
      simp only [System.step] at taken
      split at taken <;> cases taken
      next selection admitted => exact .replaceFile place selection admitted
  | supervisorCancel =>
      simp only [System.step] at taken
      split at taken <;> cases taken
      next free => exact .supervisorCancel free
  | supervisorStore =>
      simp only [System.step] at taken
      split at taken <;> cases taken
      next storing => exact .supervisorStore storing
  | supervisorNotify =>
      simp only [System.step] at taken
      split at taken <;> cases taken
      next notifying => exact .supervisorNotify notifying
  | supervisorReturn =>
      simp only [System.step] at taken
      split at taken <;> cases taken
      next leaving => exact .supervisorReturn leaving
  | cancelParent =>
      cases taken
      exact .cancelParent

theorem step_word (taken : system.step action = some next) (operation : Nat) :
    next.word operation = system.word operation ∨
      system.word operation = .active ∧ (next.word operation = .cancelled ∨
        next.word operation = .committed ∧ system.gate = .admitting operation .swapping) := by
  cases step_cases taken with
  | operation place move changed moved =>
      rw [word_set]
      split
      next here =>
        subst here
        exact (move_word moved).imp_right fun ⟨active, cancelled⟩ => ⟨active, .inl cancelled⟩
      next => exact .inl rfl
  | swap place swapping =>
      rw [word_set]
      split
      next here =>
        subst here
        unfold AcquisitionCommitControl.exchange
        split
        next active => exact .inr ⟨active, .inr ⟨rfl, swapping⟩⟩
        next => exact .inl rfl
      next => exact .inl rfl
  | leaveRefused place refused same => exact .inl (word_set_same (by rfl) same operation)
  | enterGate | leaveAdmitted | replaceFile =>
      exact .inl (word_set_same (by rfl) (by rfl) operation)
  | _ => exact .inl rfl

structure Sound (system : System S) : Prop where
  admitted : ∀ operation selection,
    (system.operations operation).phase = .admitted selection → system.word operation = .committed
  leaving : ∀ operation, system.gate = .admitting operation (.leaving true) →
    system.word operation = .committed
  closing : ∀ stage, system.gate = .cancelling stage → stage ≠ .storing → system.accepting = false

theorem word_committed (taken : system.step action = some next)
    (committed : system.word operation = .committed) : next.word operation = .committed := by
  rcases step_word taken operation with same | ⟨active, -⟩
  · exact same.trans committed
  · rw [committed] at active
    cases active

theorem phase_set (system : System S) (place : Nat) (changed : Operation S) (operation : Nat) :
    ((system.set place changed).operations operation).phase
      = if operation = place then changed.phase else (system.operations operation).phase := by
  unfold System.set
  by_cases same : operation = place
  · subst same
    simp
  · simp [same]

theorem step_admitted (taken : system.step action = some next) {selection : S}
    (admitted : (next.operations operation).phase = .admitted selection) :
    (system.operations operation).phase = .admitted selection ∨
      system.gate = .admitting operation (.leaving true) := by
  cases step_cases taken with
  | operation place move changed moved =>
      rw [phase_set] at admitted
      split at admitted
      next here =>
        subst here
        exact .inl (move_admitted moved admitted)
      next => exact .inl admitted
  | swap place =>
      rw [phase_set] at admitted
      split at admitted
      next here =>
        subst here
        exact .inl admitted
      next => exact .inl admitted
  | leaveAdmitted place _ leaving =>
      rw [phase_set] at admitted
      split at admitted
      next here =>
        subst here
        exact .inr leaving
      next => exact .inl admitted
  | leaveRefused place refused _ outside =>
      rw [phase_set] at admitted
      split at admitted
      next => exact absurd admitted (outside selection)
      next => exact .inl admitted
  | enterGate | replaceFile =>
      rw [phase_set] at admitted
      split at admitted
      · cases admitted
      · exact .inl admitted
  | _ => exact .inl admitted

theorem step_accepting (taken : system.step action = some next)
    (closed : system.accepting = false) : next.accepting = false := by
  cases step_cases taken with
  | supervisorStore => rfl
  | _ => exact closed

/-- What is known when a step has changed the gate. -/
def Entered (system next : System S) : Gate → Prop
  | .admitting place (.leaving true) => next.word place = .committed
  | .admitting _ .swapping => system.accepting = true
  | .cancelling .notifying => next.accepting = false
  | .cancelling .leaving =>
      system.gate = .cancelling .notifying ∧ next.accepting = system.accepting
  | _ => True

theorem step_gate (taken : system.step action = some next) :
    next.gate = system.gate ∨ Entered system next next.gate := by
  cases step_cases taken with
  | readToken => cases system.cancellation <;> exact .inr trivial
  | readAccepting =>
      cases accepting : system.accepting with
      | true => exact .inr accepting
      | false => exact .inr trivial
  | swap place =>
      refine .inr ?_
      by_cases active : (system.operations place).commit.state = .active
      · rw [AcquisitionCommitControl.exchange, if_pos active]
        show (System.set _ _ _).word place = .committed
        rw [word_set, if_pos rfl]
      · rw [AcquisitionCommitControl.exchange, if_neg active]
        trivial
  | supervisorStore => exact .inr rfl
  | supervisorNotify notifying => exact .inr ⟨notifying, rfl⟩
  | operation | replaceFile | cancelParent => exact .inl rfl
  | enterGate | leaveAdmitted | leaveRefused | supervisorCancel | supervisorReturn =>
      exact .inr trivial

theorem step_sound (sound : Sound system) (taken : system.step action = some next) : Sound next where
  admitted operation selection admitted := by
    rcases step_admitted taken admitted with before | leaving
    · exact word_committed taken (sound.admitted operation selection before)
    · exact word_committed taken (sound.leaving operation leaving)
  leaving operation leaving := by
    rcases step_gate taken with same | entered
    · exact word_committed taken (sound.leaving operation (same.symm.trans leaving))
    · rwa [leaving] at entered
  closing stage cancelling late := by
    rcases step_gate taken with same | entered
    · exact step_accepting taken (sound.closing stage (same.symm.trans cancelling) late)
    · rw [cancelling] at entered
      cases stage with
      | storing => exact absurd rfl late
      | notifying => exact entered
      | leaving => exact entered.2.trans (sound.closing .notifying entered.1 nofun)

structure Shut (operation : Nat) (system : System S) : Prop where
  closed : system.accepting = false
  outside : system.gate ≠ .admitting operation .swapping
  uncommitted : system.word operation ≠ .committed

theorem step_shut (shut : Shut operation system) (taken : system.step action = some next) :
    Shut operation next where
  closed := step_accepting taken shut.closed
  outside swapping := by
    rcases step_gate taken with same | entered
    · exact shut.outside (same.symm.trans swapping)
    · rw [swapping] at entered
      have open_ : system.accepting = true := entered
      rw [shut.closed] at open_
      cases open_
  uncommitted committed := by
    rcases step_word taken operation with same | ⟨-, cancelled | ⟨-, swapping⟩⟩
    · exact shut.uncommitted (same.symm.trans committed)
    · rw [cancelled] at committed
      cases committed
    · exact shut.outside swapping

theorem step_current (taken : system.step action = some next) :
    next.current = system.current ∨ ∃ operation, action = .replaceFile operation := by
  cases step_cases taken with
  | replaceFile place => exact .inr ⟨place, rfl⟩
  | _ => exact .inl rfl

theorem replaceFile_committed (sound : Sound system)
    (taken : system.step (.replaceFile operation) = some next) :
    system.word operation = .committed := by
  cases step_cases taken with
  | replaceFile _ selection admitted => exact sound.admitted operation selection admitted

end Steps

section WholeRuns

variable {start reached final : System S} {actions : List (Action S)} {operation : Nat}

theorem new_sound (current : Option S) : Sound (System.new current) where
  admitted := nofun
  leaving := nofun
  closing := nofun

theorem run_sound (sound : Sound start)
    (ran : Runs.run System.step start actions = some final) : Sound final :=
  Runs.invariant_of_run (fun _ _ _ sound taken => step_sound sound taken) sound ran

theorem run_shut (shut : Shut operation start)
    (ran : Runs.run System.step start actions = some final) : Shut operation final :=
  Runs.invariant_of_run (fun _ _ _ shut taken => step_shut shut taken) shut ran

theorem run_word (ran : Runs.run System.step start actions = some final)
    (decided : start.word operation ≠ .active) : final.word operation = start.word operation := by
  induction actions generalizing start with
  | nil =>
      cases Option.some.inj ran
      rfl
  | cons action rest ih =>
      obtain ⟨next, taken, continued⟩ := Option.bind_eq_some_iff.mp ran
      rcases step_word taken operation with same | ⟨active, -⟩
      · exact (ih continued (same ▸ decided)).trans same
      · exact absurd active decided

theorem run_replaced (sound : Sound start)
    (ran : Runs.run System.step start actions = some final)
    (replaced : .replaceFile operation ∈ actions) : final.word operation = .committed := by
  obtain ⟨before, after, rfl⟩ := List.append_of_mem replaced
  rw [Runs.run_append] at ran
  obtain ⟨middle, earlier, later⟩ := Option.bind_eq_some_iff.mp ran
  obtain ⟨next, taken, continued⟩ := Option.bind_eq_some_iff.mp later
  have committed := word_committed taken
    (replaceFile_committed (run_sound sound earlier) taken)
  exact (run_word continued (by rw [committed]; nofun)).trans committed

theorem run_current (ran : Runs.run System.step start actions = some final)
    (changed : final.current ≠ start.current) : ∃ operation, .replaceFile operation ∈ actions := by
  induction actions generalizing start with
  | nil =>
      cases Option.some.inj ran
      exact absurd rfl changed
  | cons action rest ih =>
      obtain ⟨next, taken, continued⟩ := Option.bind_eq_some_iff.mp ran
      rcases step_current taken with same | ⟨operation, rfl⟩
      · obtain ⟨operation, member⟩ := ih continued (same ▸ changed)
        exact ⟨operation, List.mem_cons_of_mem _ member⟩
      · exact ⟨operation, List.mem_cons_self⟩

theorem run_returned (sound : Sound start)
    (ran : Runs.run System.step start actions = some final)
    (returned : .supervisorReturn ∈ actions) (uncommitted : final.word operation ≠ .committed) :
    Shut operation final := by
  obtain ⟨before, after, rfl⟩ := List.append_of_mem returned
  rw [Runs.run_append] at ran
  obtain ⟨middle, earlier, later⟩ := Option.bind_eq_some_iff.mp ran
  obtain ⟨next, taken, continued⟩ := Option.bind_eq_some_iff.mp later
  have closing := (run_sound sound earlier).closing
  cases step_cases taken with
  | supervisorReturn leaving =>
      have shut : Shut operation { middle with gate := .free } := by
        refine ⟨closing .leaving leaving nofun, nofun, fun committed => uncommitted ?_⟩
        exact (run_word continued (by rw [committed]; nofun)).trans committed
      exact run_shut shut continued

/-- A call of `cancel` for the operation has compared and exchanged its word. -/
def Cancelled (operation : Nat) (actions : List (Action S)) : Prop :=
  ∃ move, move.Cancels ∧ .operation operation move ∈ actions

theorem run_cancelled (ran : Runs.run System.step start actions = some final)
    (cancelled : Cancelled operation actions) : final.word operation ≠ .active := by
  obtain ⟨move, cancels, member⟩ := cancelled
  obtain ⟨before, after, rfl⟩ := List.append_of_mem member
  rw [Runs.run_append] at ran
  obtain ⟨middle, earlier, later⟩ := Option.bind_eq_some_iff.mp ran
  obtain ⟨next, taken, continued⟩ := Option.bind_eq_some_iff.mp later
  obtain ⟨changed, moved, rfl⟩ := Option.map_eq_some_iff.mp taken
  have decided : (middle.set operation changed).word operation ≠ .active := by
    rw [word_set, if_pos rfl]
    exact move_cancels moved cancels
  rw [run_word continued decided]
  exact decided

end WholeRuns

theorem commit_excludes_cancel {current : Option S} {reached final : System S}
    {earlier later : List (Action S)}
    (ran : Runs.run System.step (.new current) earlier = some reached)
    (continued : Runs.run System.step reached later = some final) :
    (∀ operation, reached.word operation ≠ .active →
      final.word operation = reached.word operation) ∧
    (∀ operation rest, later = .replaceFile operation :: rest →
      reached.word operation = .committed) ∧
    (final.current ≠ reached.current → ∃ operation, .replaceFile operation ∈ later) ∧
    (∀ operation, reached.word operation ≠ .committed →
      Cancelled operation earlier ∨ .supervisorReturn ∈ earlier →
        .replaceFile operation ∉ earlier ++ later) := by
  have sound := run_sound (new_sound current) ran
  refine ⟨fun operation => run_word continued, ?_, run_current continued, ?_⟩
  · rintro operation rest rfl
    obtain ⟨next, taken, -⟩ := Option.bind_eq_some_iff.mp continued
    exact replaceFile_committed sound taken
  · intro operation uncommitted completed replaced
    rcases List.mem_append.mp replaced with before | after
    · exact uncommitted (run_replaced (new_sound current) ran before)
    · have committed := run_replaced sound continued after
      rcases completed with cancelled | returned
      · have decided := run_cancelled ran cancelled
        exact uncommitted ((run_word continued decided).symm.trans committed)
      · exact (run_shut (run_returned (new_sound current) ran returned uncommitted)
          continued).uncommitted committed

-- A rollback commits while the caller of an acquisition drops it; then the supervisor is cancelled.
def committedThenCancelled : List (Action Nat) :=
  [.operation 0 (.start .rollback), .operation 0 (.prepare 7), .operation 1 (.start .acquisition),
    .enterGate 0, .admissionStep, .admissionStep, .operation 1 .dropCaller, .admissionStep,
    .admissionStep, .supervisorCancel, .supervisorStore, .supervisorNotify, .supervisorReturn]

def afterwards : List (Action Nat) := [.replaceFile 0, .operation 1 .readSignal]

theorem committed_rollback_replaces :
    ∃ reached final : System Nat,
      Runs.run System.step (.new none) committedThenCancelled = some reached ∧
      Runs.run System.step reached afterwards = some final ∧ final.current = some 7 ∧
      reached.word 1 = .cancelled ∧
      (∀ operation, reached.word operation ≠ .active →
        final.word operation = reached.word operation) ∧
      (∀ operation rest, afterwards = .replaceFile operation :: rest →
        reached.word operation = .committed) ∧
      (final.current ≠ reached.current → ∃ operation, .replaceFile operation ∈ afterwards) ∧
      (∀ operation, reached.word operation ≠ .committed →
        Cancelled operation committedThenCancelled ∨ .supervisorReturn ∈ committedThenCancelled →
          .replaceFile operation ∉ committedThenCancelled ++ afterwards) :=
  ⟨_, _, rfl, rfl, rfl, rfl, commit_excludes_cancel rfl rfl⟩

end StreamServer.Transcoding.CommitAdmission
