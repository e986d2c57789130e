import Mathlib.Data.List.Basic
import Mathlib.Data.List.Induction

set_option autoImplicit false

namespace Runs

variable {S A : Type}

/-- A step function refuses an action by returning `none`; a run stops there. -/
def run (step : S → A → Option S) : S → List A → Option S
  | state, [] => some state
  | state, action :: rest => (step state action).bind fun next => run step next rest

def Always (property : S → Prop) (step : S → A → Option S) : S → List A → Prop
  | state, [] => property state
  | state, action :: rest =>
      property state ∧ ∀ next, step state action = some next → Always property step next rest

/-- Every step the run takes is taken from a state and with an action that `allowed` admits. -/
def Meets (allowed : S → A → Prop) (step : S → A → Option S) : S → List A → Prop
  | _, [] => True
  | state, action :: rest =>
      ∀ next, step state action = some next → allowed state action ∧ Meets allowed step next rest

instance decidableMeets (allowed : S → A → Prop) (step : S → A → Option S)
    [∀ state action, Decidable (allowed state action)] :
    (state : S) → (actions : List A) → Decidable (Meets allowed step state actions)
  | _, [] => isTrue trivial
  | state, action :: rest =>
      match taken : step state action with
      | none => isTrue fun _ other => (Option.some_ne_none _ (other.symm.trans taken)).elim
      | some next =>
          have := decidableMeets allowed step next rest
          decidable_of_iff (allowed state action ∧ Meets allowed step next rest)
            ⟨fun both _ other => Option.some.inj (taken.symm.trans other) ▸ both,
              fun meets => meets next taken⟩

theorem run_append (step : S → A → Option S) (state : S) (earlier later : List A) :
    run step state (earlier ++ later) = (run step state earlier).bind fun middle =>
      run step middle later := by
  induction earlier generalizing state with
  | nil => rfl
  | cons action rest ih =>
    simp only [List.cons_append, run, ih, Option.bind_assoc]

section Invariants

variable {step : S → A → Option S} {allowed : S → A → Prop} {property invariant : S → Prop}

theorem Always.head {state : S} {actions : List A} (always : Always property step state actions) :
    property state := by
  cases actions with
  | nil => exact always
  | cons action rest => exact always.1

theorem Always.last {state final : S} {actions : List A}
    (always : Always property step state actions) (ran : run step state actions = some final) :
    property final := by
  induction actions generalizing state with
  | nil =>
    cases Option.some.inj ran
    exact always
  | cons action rest ih =>
    obtain ⟨next, taken, continued⟩ := Option.bind_eq_some_iff.mp ran
    exact ih (always.2 next taken) continued

theorem Always.mono {weaker : S → Prop} (implies : ∀ state, property state → weaker state)
    {state : S} {actions : List A} (always : Always property step state actions) :
    Always weaker step state actions := by
  induction actions generalizing state with
  | nil => exact implies state always
  | cons action rest ih =>
    exact ⟨implies state always.1, fun next taken => ih (always.2 next taken)⟩

theorem always_of_meets
    (preserved : ∀ state action next, invariant state → allowed state action →
      step state action = some next → invariant next)
    {state : S} {actions : List A} (initial : invariant state)
    (meets : Meets allowed step state actions) : Always invariant step state actions := by
  induction actions generalizing state with
  | nil => exact initial
  | cons action rest ih =>
    refine ⟨initial, fun next taken => ?_⟩
    obtain ⟨permitted, continued⟩ := meets next taken
    exact ih (preserved state action next initial permitted taken) continued

theorem meets_of_meets {property : S → A → Prop}
    (preserved : ∀ state action next, invariant state → allowed state action →
      step state action = some next → invariant next)
    (implies : ∀ state action next, invariant state → allowed state action →
      step state action = some next → property state action)
    {state : S} {actions : List A} (initial : invariant state)
    (meets : Meets allowed step state actions) : Meets property step state actions := by
  induction actions generalizing state with
  | nil => trivial
  | cons action rest ih =>
    intro next taken
    obtain ⟨permitted, continued⟩ := meets next taken
    exact ⟨implies state action next initial permitted taken,
      ih (preserved state action next initial permitted taken) continued⟩

theorem always_of_preserved
    (preserved : ∀ state action next, invariant state → step state action = some next →
      invariant next)
    {state : S} (actions : List A) (initial : invariant state) :
    Always invariant step state actions := by
  induction actions generalizing state with
  | nil => exact initial
  | cons action rest ih =>
    exact ⟨initial, fun next taken => ih (preserved state action next initial taken)⟩

theorem invariant_of_run
    (preserved : ∀ state action next, invariant state → step state action = some next →
      invariant next)
    {state final : S} {actions : List A} (initial : invariant state)
    (ran : run step state actions = some final) : invariant final :=
  (always_of_preserved preserved actions initial).last ran

theorem related_of_run {related : S → S → Prop} (refl : ∀ state, related state state)
    (trans : ∀ first second third, related first second → related second third →
      related first third)
    (across : ∀ state action next, invariant state → step state action = some next →
      related state next)
    (preserved : ∀ state action next, invariant state → step state action = some next →
      invariant next)
    {state final : S} {actions : List A} (initial : invariant state)
    (ran : run step state actions = some final) : related state final := by
  induction actions generalizing state with
  | nil =>
    cases Option.some.inj ran
    exact refl _
  | cons action rest ih =>
    obtain ⟨next, taken, continued⟩ := Option.bind_eq_some_iff.mp ran
    exact trans state next final (across state action next initial taken)
      (ih (preserved state action next initial taken) continued)

theorem meets_cons {state next : S} {action : A} {rest : List A}
    (taken : step state action = some next) (permitted : allowed state action)
    (continued : Meets allowed step next rest) : Meets allowed step state (action :: rest) := by
  intro other same
  cases taken.symm.trans same
  exact ⟨permitted, continued⟩

theorem meets_of_always
    (forced : ∀ state action next, invariant state → property state → property next →
      step state action = some next → allowed state action)
    (preserved : ∀ state action next, invariant state → step state action = some next →
      invariant next)
    {state : S} {actions : List A} (initial : invariant state)
    (always : Always property step state actions) : Meets allowed step state actions := by
  induction actions generalizing state with
  | nil => trivial
  | cons action rest ih =>
    intro next taken
    have after := always.2 next taken
    exact ⟨forced state action next initial always.1 after.head taken,
      ih (preserved state action next initial taken) after⟩

end Invariants

section Histories

variable {step : S → A → Option S}

/-- A run of `actions` takes a step, with its states before and after, of which `event` holds. -/
def Moment (event : S → A → S → Prop) (step : S → A → Option S) (start : S) (actions : List A) :
    Prop :=
  ∃ earlier action later state next, actions = earlier ++ action :: later ∧
    run step start earlier = some state ∧ step state action = some next ∧ event state action next

instance decidableAlways (property : S → Prop) [DecidablePred property] (step : S → A → Option S) :
    (state : S) → (actions : List A) → Decidable (Always property step state actions)
  | state, [] => inferInstanceAs (Decidable (property state))
  | state, action :: rest =>
      match taken : step state action with
      | none =>
          decidable_of_iff (property state)
            ⟨fun holds => ⟨holds, fun _ other =>
              (Option.some_ne_none _ (other.symm.trans taken)).elim⟩, fun always => always.1⟩
      | some next =>
          have := decidableAlways property step next rest
          decidable_of_iff (property state ∧ Always property step next rest)
            ⟨fun both => ⟨both.1, fun _ other =>
              Option.some.inj (taken.symm.trans other) ▸ both.2⟩,
              fun always => ⟨always.1, always.2 next taken⟩⟩

variable {start final : S} {actions more : List A} {event weaker : S → A → S → Prop}

theorem run_snoc {done : List A} {state next : S} {action : A}
    (ran : run step start done = some state) (taken : step state action = some next) :
    run step start (done ++ [action]) = some next := by
  rw [run_append, ran]
  simp only [Option.bind_some, run, taken]

theorem Moment.append (moment : Moment event step start actions) (more : List A) :
    Moment event step start (actions ++ more) := by
  obtain ⟨earlier, action, later, state, next, rfl, ran, taken, happened⟩ := moment
  exact ⟨earlier, action, later ++ more, state, next, by simp, ran, taken, happened⟩

theorem Moment.mono (moment : Moment event step start actions)
    (implies : ∀ state action next, event state action next → weaker state action next) :
    Moment weaker step start actions := by
  obtain ⟨earlier, action, later, state, next, split, ran, taken, happened⟩ := moment
  exact ⟨earlier, action, later, state, next, split, ran, taken, implies _ _ _ happened⟩

theorem moment_last {done : List A} {state next : S} {action : A}
    (ran : run step start done = some state) (taken : step state action = some next)
    (happened : event state action next) : Moment event step start (done ++ [action]) :=
  ⟨done, action, [], state, next, rfl, ran, taken, happened⟩

/-- Since a step of which `event` holds a run of `actions` has taken none but those that `quiet` admits. -/
def Since (event : S → A → S → Prop) (quiet : A → Prop) (step : S → A → Option S) (start : S)
    (actions : List A) : Prop :=
  ∃ earlier action later state next, actions = earlier ++ action :: later ∧
    run step start earlier = some state ∧ step state action = some next ∧
    event state action next ∧ ∀ other ∈ later, quiet other

theorem since_last {quiet : A → Prop} {done : List A} {state next : S} {action : A}
    (ran : run step start done = some state) (taken : step state action = some next)
    (happened : event state action next) : Since event quiet step start (done ++ [action]) :=
  ⟨done, action, [], state, next, rfl, ran, taken, happened, by simp⟩

theorem Since.snoc {quiet : A → Prop} {action : A} (since : Since event quiet step start actions)
    (still : quiet action) : Since event quiet step start (actions ++ [action]) := by
  obtain ⟨earlier, first, later, state, next, rfl, ran, taken, happened, rest⟩ := since
  refine ⟨earlier, first, later ++ [action], state, next, by simp, ran, taken, happened, ?_⟩
  rw [List.forall_mem_append, List.forall_mem_singleton]
  exact ⟨rest, still⟩

theorem Moment.after {first : List A} {middle : S} (moment : Moment event step middle actions)
    (ran : run step start first = some middle) : Moment event step start (first ++ actions) := by
  obtain ⟨earlier, action, later, state, next, rfl, continued, taken, happened⟩ := moment
  refine ⟨first ++ earlier, action, later, state, next, by simp, ?_, taken, happened⟩
  rw [run_append, ran]
  exact continued

/-- What holds of the empty history and is kept by each step holds of every run's history. -/
theorem history_of_run {history : List A → S → Prop} (initial : history [] start)
    (extend : ∀ done state action next, run step start done = some state → history done state →
      step state action = some next → history (done ++ [action]) next)
    (ran : run step start actions = some final) : history actions final := by
  induction actions using List.reverseRecOn generalizing final with
  | nil =>
    cases Option.some.inj ran
    exact initial
  | append_singleton done action ih =>
    rw [run_append] at ran
    obtain ⟨state, reached, last⟩ := Option.bind_eq_some_iff.mp ran
    simp only [run] at last
    obtain ⟨next, taken, same⟩ := Option.bind_eq_some_iff.mp last
    cases Option.some.inj same
    exact extend done state action final reached (ih reached) taken

end Histories

section Leading

variable {step : S → A → Option S} {own : A → Prop} {goal middle : S → Prop} {state next : S}

/-- Some actions of those that `own` admits take the system to the goal. -/
def Leads (own : A → Prop) (step : S → A → Option S) (goal : S → Prop) (state : S) : Prop :=
  ∃ actions final, (∀ action ∈ actions, own action) ∧ run step state actions = some final ∧ goal final

theorem Leads.here (reached : goal state) : Leads own step goal state :=
  ⟨[], state, fun _ absent => absurd absent List.not_mem_nil, rfl, reached⟩

theorem Leads.after {action : A} (taken : step state action = some next) (allowed : own action)
    (leads : Leads own step goal next) : Leads own step goal state := by
  obtain ⟨actions, final, all, ran, reached⟩ := leads
  refine ⟨action :: actions, final, List.forall_mem_cons.mpr ⟨allowed, all⟩, ?_, reached⟩
  rw [run, taken]
  exact ran

theorem Leads.trans (leads : Leads own step middle state)
    (further : ∀ next, middle next → Leads own step goal next) : Leads own step goal state := by
  obtain ⟨actions, between, all, ran, reached⟩ := leads
  obtain ⟨more, final, allMore, ranMore, last⟩ := further between reached
  refine ⟨actions ++ more, final, List.forall_mem_append.mpr ⟨all, allMore⟩, ?_, last⟩
  rw [run_append, ran]
  exact ranMore

end Leading

end Runs
