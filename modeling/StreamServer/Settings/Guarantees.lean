import StreamServer.Settings.TrackerSaves

set_option autoImplicit false

namespace StreamServer.Settings

namespace System

/-- A protected field as a restart would read it. -/
def diskProtected (system : System) (field : ProtectedField) : Bool :=
  (system.file.getD system.raw).protectedValue field

structure Effect (system : System) (place : Nat) (call after : Call) (next : System) : Prop where
  calls : next.calls = system.calls.set place after
  request : after.request = call.request
  stays : call.phase.committed = true → after.phase.committed = true
  settings : (next.file = system.file ∧ next.raw = system.raw ∧ next.live = system.live) ∨
    after.phase.committed = true

section Steps

variable {system next later : System} {place : Nat} {call : Call} {step : CallStep}
  {action : Action} {actions : List Action} {field : ProtectedField}

theorem moved_effect (moved : Moved system place call step next) :
    ∃ after, Effect system place call after next := by
  have refute : ∀ {phase : Phase}, call.phase = phase → phase.committed = false →
      ∀ {after : Call}, call.phase.committed = true → after.phase.committed = true := by
    intro phase is uncommitted after committed
    rw [is, uncommitted] at committed
    cases committed
  cases moved with
  | sequenced trackers phase => exact ⟨_, rfl, rfl, refute phase rfl, .inl ⟨rfl, rfl, rfl⟩⟩
  | refused phase => exact ⟨_, rfl, rfl, refute phase rfl, .inl ⟨rfl, rfl, rfl⟩⟩
  | admitted trackers phase => exact ⟨_, rfl, rfl, refute phase rfl, .inl ⟨rfl, rfl, rfl⟩⟩
  | locked free phase =>
    obtain ⟨_, phase⟩ | ⟨_, phase⟩ := phase <;>
      exact ⟨_, rfl, rfl, refute phase rfl, .inl ⟨rfl, rfl, rfl⟩⟩
  | superseded trackers phase later =>
    exact ⟨_, rfl, rfl, refute phase rfl, .inl ⟨rfl, rfl, rfl⟩⟩
  | checked trackers phase latest =>
    exact ⟨_, rfl, rfl, refute phase rfl, .inl ⟨rfl, rfl, rfl⟩⟩
  | loaded phase =>
    obtain ⟨_, phase⟩ | ⟨_, phase⟩ := phase <;>
      exact ⟨_, rfl, rfl, refute phase rfl, .inl ⟨rfl, rfl, rfl⟩⟩
  | rejected current error phase untracked =>
    exact ⟨_, rfl, rfl, refute phase rfl, .inl ⟨rfl, rfl, rfl⟩⟩
  | registered current disk publish phase plan =>
    exact ⟨_, rfl, rfl, refute phase rfl, .inl ⟨rfl, rfl, rfl⟩⟩
  | persisted disk publish phase => exact ⟨_, rfl, rfl, fun _ => rfl, .inr rfl⟩
  | unpersisted disk publish phase =>
    exact ⟨_, rfl, rfl, refute phase rfl, .inl ⟨rfl, rfl, rfl⟩⟩
  | replaced disk publish phase => exact ⟨_, rfl, rfl, fun _ => rfl, .inr rfl⟩
  | published settings phase => exact ⟨_, rfl, rfl, fun _ => rfl, .inr rfl⟩
  | completed phase => exact ⟨_, rfl, rfl, fun _ => rfl, .inl ⟨rfl, rfl, rfl⟩⟩
  | dropped untracked phase => exact ⟨_, rfl, rfl, refute phase rfl, .inl ⟨rfl, rfl, rfl⟩⟩
  | unlocked untracked phase => exact ⟨_, rfl, rfl, refute phase rfl, .inl ⟨rfl, rfl, rfl⟩⟩
  | abandoned => exact ⟨_, rfl, rfl, id, .inl ⟨rfl, rfl, rfl⟩⟩

def Keeps (system later : System) : Prop :=
  ∀ (place : Nat) (call : Call), system.calls[place]? = some call →
    ∃ after, later.calls[place]? = some after ∧ after.request = call.request ∧
      (call.phase.committed = true → after.phase.committed = true)

theorem Keeps.refl (system : System) : Keeps system system :=
  fun _ call found => ⟨call, found, rfl, id⟩

theorem Keeps.trans {first second third : System} (left : Keeps first second)
    (right : Keeps second third) : Keeps first third := by
  intro place call found
  obtain ⟨middle, foundMiddle, sameMiddle, staysMiddle⟩ := left place call found
  obtain ⟨last, foundLast, sameLast, staysLast⟩ := right place middle foundMiddle
  exact ⟨last, foundLast, sameLast.trans sameMiddle, staysLast ∘ staysMiddle⟩

theorem step_keeps (taken : system.step action = some next) : Keeps system next := by
  cases action with
  | call request =>
    cases taken
    intro place call found
    refine ⟨call, ?_, rfl, id⟩
    rw [List.getElem?_append_left (List.getElem?_eq_some_iff.mp found).1, found]
  | act moving step =>
    simp only [System.step] at taken
    split at taken
    · cases taken
    next mover foundMover =>
      obtain ⟨after, effect⟩ := moved_effect (act_moved taken)
      intro place call found
      rw [effect.calls]
      by_cases same : moving = place
      · subst same
        cases foundMover.symm.trans found
        exact ⟨after, List.getElem?_set_self (List.getElem?_eq_some_iff.mp found).1,
          effect.request, effect.stays⟩
      · exact ⟨call, by rw [List.getElem?_set_ne same, found], rfl, id⟩
  | close =>
    cases taken
    exact Keeps.refl _

theorem run_keeps (ran : Runs.run System.step system actions = some later) :
    Keeps system later := by
  have across : ∀ state action next, True → System.step state action = some next →
      Keeps state next := fun _ _ _ _ taken => step_keeps taken
  exact Runs.related_of_run Keeps.refl (fun _ _ _ => Keeps.trans) across
    (fun _ _ _ _ _ => trivial) trivial ran

theorem Keeps.wrote (keeps : Keeps system later) (wrote : system.Wrote) : later.Wrote := by
  obtain ⟨call, member, committed⟩ := wrote
  obtain ⟨place, found⟩ := List.mem_iff_getElem?.mp member
  obtain ⟨after, foundAfter, _, stays⟩ := keeps place call found
  exact ⟨after, List.mem_of_getElem? foundAfter, stays committed⟩

theorem failed_changes_nothing {after : Call} {error : SettingsUpdateError}
    (taken : system.step (.act place step) = some next)
    (ran : Runs.run System.step next actions = some later)
    (found : later.calls[place]? = some after) (failed : after.phase = .finished (.failed error)) :
    next.file = system.file ∧ next.raw = system.raw ∧ next.live = system.live := by
  simp only [System.step] at taken
  split at taken
  · cases taken
  next call present =>
    obtain ⟨moved, effect⟩ := moved_effect (act_moved taken)
    refine effect.settings.resolve_right fun committed => ?_
    obtain ⟨last, foundLast, _, stays⟩ := run_keeps ran place moved (by
      rw [effect.calls]
      exact List.getElem?_set_self (List.getElem?_eq_some_iff.mp present).1)
    cases found.symm.trans foundLast
    have stillCommitted := stays committed
    rw [failed] at stillCommitted
    cases stillCommitted

def Original (origin system : System) : Prop :=
  system.Wrote ∨ system.file = origin.file ∧ system.raw = origin.raw

theorem step_original {origin : System} (original : Original origin system)
    (taken : system.step action = some next) : Original origin next := by
  have keeps := step_keeps taken
  cases action with
  | call request =>
    cases taken
    exact original.imp_left keeps.wrote
  | act place step =>
    simp only [System.step] at taken
    split at taken
    · cases taken
    next call found =>
      obtain ⟨after, effect⟩ := moved_effect (act_moved taken)
      obtain same | committed := effect.settings
      · rw [Original, same.1, same.2.1]
        exact original.imp_left keeps.wrote
      · refine .inl ⟨after, ?_, committed⟩
        rw [effect.calls]
        exact Lists.mem_set_self found
  | close =>
    cases taken
    exact original.imp_left keeps.wrote

theorem loadRawSettings_protected (file : Option ServerSettings) (defaults : ServerSettings) :
    (file.getD (loadRawSettings file defaults)).protectedValue =
      (loadRawSettings file defaults).protectedValue := by
  cases file with
  | none => rfl
  | some settings =>
    funext field
    cases field <;> rfl

theorem diskProtected_of_aligned {file : Option ServerSettings} {defaults : ServerSettings}
    {overrides : ProxyEnvironmentOverrides} (aligned : system.Aligned)
    (original : Original (start file defaults overrides) system) (field : ProtectedField) :
    system.diskProtected field = system.raw.protectedValue field := by
  unfold diskProtected
  obtain wrote | ⟨sameFile, sameRaw⟩ := original
  · rw [aligned.2 wrote]
    rfl
  · rw [sameFile, sameRaw]
    exact congrFun (loadRawSettings_protected file defaults) field

theorem step_diskProtected {file : Option ServerSettings} {defaults : ServerSettings}
    {overrides : ProxyEnvironmentOverrides} (coherent : system.Coherent)
    (original : Original (start file defaults overrides) system)
    (taken : system.step action = some next)
    (changed : next.diskProtected field ≠ system.diskProtected field) :
    ∃ place call, action = .act place (.persist true) ∧ system.calls[place]? = some call ∧
      call.request.Grants system.live field (next.diskProtected field) := by
  cases action with
  | call request =>
    cases taken
    exact absurd rfl changed
  | act place step =>
    simp only [System.step] at taken
    split at taken
    · cases taken
    next call found =>
      have staged := coherent.staged call (List.mem_of_getElem? found)
      cases act_moved taken with
      | persisted disk publish phase =>
        simp only [Staged, phase] at staged
        refine ⟨place, call, rfl, found, ?_⟩
        rw [diskProtected_of_aligned staged.2 original] at changed
        obtain ⟨same, _⟩ | ⟨granted, _⟩ := planned_protected staged.1 field
        · exact absurd same changed
        · exact granted
      | replaced disk publish phase =>
        simp only [Staged, phase] at staged
        refine absurd ?_ changed
        simp only [diskProtected, setCall, staged.2.2]
        rfl
      | sequenced | refused | admitted | locked | superseded | checked | loaded | rejected
      | registered | unpersisted | published | completed | dropped | unlocked | abandoned =>
        exact absurd rfl changed
  | close =>
    cases taken
    exact absurd rfl changed

theorem step_live (coherent : system.Coherent) (taken : system.step action = some next)
    (changed : next.live ≠ system.live) :
    ∃ place call earlier, action = .act place .publish ∧ system.calls[place]? = some call ∧
      call.phase = .replaced (some next.live) ∧
      call.request.planned earlier system.live = .ok (system.raw, some next.live) := by
  cases action with
  | call request =>
    cases taken
    exact absurd rfl changed
  | act place step =>
    simp only [System.step] at taken
    split at taken
    · cases taken
    next call found =>
      have staged := coherent.staged call (List.mem_of_getElem? found)
      cases act_moved taken with
      | published settings phase =>
        simp only [Staged, phase] at staged
        obtain ⟨⟨earlier, plan⟩, _⟩ := staged
        exact ⟨place, call, earlier, rfl, found, phase, plan⟩
      | sequenced | refused | admitted | locked | superseded | checked | loaded | rejected
      | registered | persisted | unpersisted | replaced | completed | dropped | unlocked
      | abandoned => exact absurd rfl changed
  | close =>
    cases taken
    exact absurd rfl changed

theorem step_liveProtected (coherent : system.Coherent) (taken : system.step action = some next)
    (changed : next.live.protectedValue field ≠ system.live.protectedValue field) :
    ∃ place call, action = .act place .publish ∧ system.calls[place]? = some call ∧
      call.request.Grants system.live field (next.live.protectedValue field) := by
  obtain ⟨place, call, earlier, isPublish, found, _, plan⟩ :=
    step_live coherent taken fun same => changed (by rw [same])
  refine ⟨place, call, isPublish, found, ?_⟩
  obtain ⟨_, same⟩ | ⟨granted, shown⟩ := planned_protected plan field
  · exact absurd same changed
  · rw [Option.getD_some] at shown
    rw [shown]
    exact granted

end Steps

end System

namespace System

def ChangesByUpdate {α : Type} (field : ServerSettings → α) (system : System) (action : Action) :
    Prop :=
  ∃ place call payload authority settings, action = .act place .publish ∧
    system.calls[place]? = some call ∧ call.request = .update payload authority ∧
    call.phase = .replaced (some settings) ∧ field settings ≠ field system.live

/-- A tracker save that returned `Ok` and whose sequence no other such save exceeds. -/
def LatestSucceeded (system : System) (call : Call) : Prop :=
  call ∈ system.calls ∧ call.request.isTrackers = true ∧
    (∃ outcome, call.phase = .finished outcome ∧ outcome.answer = .ok ()) ∧
    ∀ other ∈ system.calls, other.request.isTrackers = true →
      (∃ outcome, other.phase = .finished outcome ∧ outcome.answer = .ok ()) →
      other.sequence ≤ call.sequence

section Runs

variable {system next later : System} {action : Action} {actions : List Action}
  {file : Option ServerSettings} {defaults : ServerSettings}
  {overrides : ProxyEnvironmentOverrides}

theorem run_original (ran : Runs.run step (start file defaults overrides) actions = some system) :
    Original (start file defaults overrides) system :=
  Runs.invariant_of_run (fun _ _ _ original taken => step_original original taken)
    (.inr ⟨rfl, rfl⟩) ran

/-- A protected field has its first value, or one that an update with authority orders. -/
def Sourced (value : ProtectedField → Bool) (shown : System → ProtectedField → Bool)
    (system : System) : Prop :=
  ∀ field, shown system field = value field ∨
    ∃ call ∈ system.calls, call.request.Orders field (shown system field)

theorem sourced_step {value : ProtectedField → Bool} {shown : System → ProtectedField → Bool}
    (taken : system.step action = some next)
    (granted : ∀ field, shown next field ≠ shown system field →
      ∃ (place : Nat) (call : Call), system.calls[place]? = some call ∧
        call.request.Orders field (shown next field))
    (sourced : Sourced value shown system) : Sourced value shown next := by
  have keeps := step_keeps taken
  have carried : ∀ field answer, (∃ (place : Nat) (call : Call),
      system.calls[place]? = some call ∧ call.request.Orders field answer) → ∃ call ∈ next.calls, call.request.Orders field answer := by
    rintro field answer ⟨place, call, found, orders⟩
    obtain ⟨after, foundAfter, request, _⟩ := keeps place call found
    exact ⟨after, List.mem_of_getElem? foundAfter, by rw [request]; exact orders⟩
  intro field
  by_cases same : shown next field = shown system field
  · rw [same]
    refine (sourced field).imp_right fun ⟨call, member, orders⟩ => ?_
    obtain ⟨place, found⟩ := List.mem_iff_getElem?.mp member
    exact carried field _ ⟨place, call, found, orders⟩
  · exact .inr (carried field _ (granted field same))

theorem run_sourced (ran : Runs.run step (start file defaults overrides) actions = some system) :
    Sourced (loadRawSettings file defaults).protectedValue diskProtected system ∧
      Sourced (start file defaults overrides).live.protectedValue
        (fun system => system.live.protectedValue) system := by
  have preserved : ∀ before action after,
      (before.Coherent ∧ Original (start file defaults overrides) before ∧
        Sourced (loadRawSettings file defaults).protectedValue diskProtected before ∧
        Sourced (start file defaults overrides).live.protectedValue
          (fun system => system.live.protectedValue) before) →
      step before action = some after →
      after.Coherent ∧ Original (start file defaults overrides) after ∧
        Sourced (loadRawSettings file defaults).protectedValue diskProtected after ∧
        Sourced (start file defaults overrides).live.protectedValue
          (fun system => system.live.protectedValue) after := by
    intro before action after ⟨coherent, original, disk, live⟩ taken
    refine ⟨step_coherent coherent taken, step_original original taken,
      sourced_step taken (fun field changed => ?_) disk,
      sourced_step taken (fun field changed => ?_) live⟩
    · obtain ⟨place, call, _, found, granted⟩ := step_diskProtected coherent original taken changed
      exact ⟨place, call, found, granted.1⟩
    · obtain ⟨place, call, _, found, granted⟩ := step_liveProtected coherent taken changed
      exact ⟨place, call, found, granted.1⟩
  have initially : Sourced (loadRawSettings file defaults).protectedValue diskProtected
      (start file defaults overrides) := fun field =>
    .inl (congrFun (loadRawSettings_protected file defaults) field)
  exact (Runs.invariant_of_run preserved
    ⟨coherent_start file defaults overrides, .inr ⟨rfl, rfl⟩, initially, fun field => .inl rfl⟩
    ran).2.2

theorem step_field {α : Type} {field : ServerSettings → α}
    (untracked : ∀ settings trackers timestamp,
      field (settings.withTrackers trackers timestamp) = field settings)
    (coherent : system.Coherent) (taken : system.step action = some next)
    (kept : ¬system.ChangesByUpdate field action) : field next.live = field system.live := by
  by_contra changed
  obtain ⟨place, call, earlier, isPublish, found, phase, plan⟩ :=
    step_live coherent taken fun same => changed (by rw [same])
  cases request : call.request with
  | update payload authority =>
    exact kept ⟨place, call, payload, authority, next.live, isPublish, found, request, phase,
      changed⟩
  | save =>
    rw [request] at plan
    simp [Request.planned] at plan
  | trackers list timestamp =>
    rw [request] at plan
    simp only [Request.planned, Except.ok.injEq, Prod.mk.injEq, Option.some.injEq] at plan
    rw [← plan.2] at changed
    exact changed (untracked _ _ _)

theorem run_field {α : Type} {field : ServerSettings → α}
    (untracked : ∀ settings trackers timestamp,
      field (settings.withTrackers trackers timestamp) = field settings)
    (coherent : system.Coherent)
    (kept : Runs.Meets (fun before action => ¬ChangesByUpdate field before action) step system
      actions)
    (ran : Runs.run step system actions = some later) : field later.live = field system.live := by
  induction actions generalizing system with
  | nil =>
    cases Option.some.inj ran
    rfl
  | cons action rest ih =>
    obtain ⟨middle, taken, continued⟩ := Option.bind_eq_some_iff.mp ran
    obtain ⟨unchanged, onward⟩ := kept middle taken
    calc field later.live
        = field middle.live := ih (step_coherent coherent taken) onward continued
      _ = field system.live := step_field untracked coherent taken unchanged

theorem aligned_of_quiet (coherent : system.Coherent)
    (quiet : ∀ call ∈ system.calls, call.running = false) : system.Aligned := by
  cases holder : system.holder with
  | none => exact coherent.free holder
  | some place =>
    have inside := coherent.occupied place holder
    have found : system.calls[place]? = some system.calls[place] :=
      List.getElem?_eq_getElem inside
    have holds := (coherent.holding place _ found).mpr holder
    have member := List.getElem_mem inside
    have staged := coherent.staged _ member
    have idle := quiet _ member
    unfold Staged at staged
    unfold Call.running at idle
    cases phase : system.calls[place].phase with
    | locked | checked =>
      simp only [phase] at staged
      exact staged
    | loaded current =>
      simp only [phase] at staged
      exact staged.2
    | persisting disk publish | persisted disk publish | replaced publish | published =>
      simp [phase] at idle
    | called | sequenced | admitted | finished outcome | dropped =>
      rw [phase] at holds
      cases holds

theorem settings_transactions_hold
    (ran : Runs.run step (start file defaults overrides) actions = some system) :
    ((∀ call ∈ system.calls, call.running = false) →
      system.raw.Agrees system.live ∧ (system.Wrote → system.file = some system.raw)) ∧
    TrackersKept (start file defaults overrides).live system ∧
    (∀ (place other : Nat) (first second : Call), system.calls[place]? = some first →
      system.calls[other]? = some second → first.sequence = second.sequence →
      0 < first.sequence → place = other) ∧
    (∀ call ∈ system.calls, call.phase = .finished .superseded →
      ∃ other ∈ system.calls, other.admittedTrackers = true ∧ call.sequence < other.sequence) ∧
    (∀ field, system.diskProtected field = (loadRawSettings file defaults).protectedValue field ∨
      ∃ call ∈ system.calls, call.request.Orders field (system.diskProtected field)) ∧
    ∀ action next, system.step action = some next →
      (∀ field, next.diskProtected field ≠ system.diskProtected field →
        ∃ place call, action = .act place (.persist true) ∧ system.calls[place]? = some call ∧
          call.request.Grants system.live field (next.diskProtected field)) ∧
      (∀ field, next.live.protectedValue field ≠ system.live.protectedValue field →
        ∃ place call, action = .act place .publish ∧ system.calls[place]? = some call ∧
          call.request.Grants system.live field (next.live.protectedValue field)) ∧
      (next.live ≠ system.live →
        ∃ place call earlier, action = .act place .publish ∧ system.calls[place]? = some call ∧
          call.phase = .replaced (some next.live) ∧
          call.request.planned earlier system.live = .ok (system.raw, some next.live)) ∧
      ∀ rest later, Runs.run step next rest = some later →
        (∀ place step call error, action = .act place step → later.calls[place]? = some call →
          call.phase = .finished (.failed error) →
          next.file = system.file ∧ next.raw = system.raw ∧ next.live = system.live) ∧
        ∀ (α : Type) (field : ServerSettings → α), (∀ settings trackers timestamp,
            field (settings.withTrackers trackers timestamp) = field settings) →
          Runs.Meets (fun before action => ¬ChangesByUpdate field before action) step next rest →
          field later.live = field next.live := by
  have coherent := run_coherent ran
  have ordered := run_ordered ran
  refine ⟨aligned_of_quiet coherent, ordered.tracked.kept, ordered.numbered.apart,
    ordered.admitted.superseded, (run_sourced ran).1, fun action next taken => ⟨fun field changed => ?_, fun field changed => ?_,
      step_live coherent taken, fun rest later continued => ⟨?_, ?_⟩⟩⟩
  · exact step_diskProtected coherent (run_original ran) taken changed
  · exact step_liveProtected coherent taken changed
  · rintro place step call error rfl found failed
    exact failed_changes_nothing taken continued found failed
  · exact fun α field untracked kept =>
      run_field untracked (step_coherent coherent taken) kept continued

end Runs

section Concrete

def startedPlain : System := start none plainSettings ⟨none, some true⟩

def authorisedRun : List Action :=
  [.call (.update (.object [("allowPrivateNetworkSources", .bool true),
      ("seedingEnabled", .bool false)]) .trustedLocal),
    .act 0 .lock, .act 0 .read, .act 0 .register, .act 0 (.persist true), .act 0 .replace,
    .act 0 .publish, .act 0 .complete]

theorem authorised_update_is_written :
    ∃ system, Runs.run step startedPlain authorisedRun = some system ∧
      system.raw.Agrees system.live ∧ system.file = some system.raw ∧
      system.raw.protectedValue .allowPrivateNetworkSources = true ∧
      system.raw.protectedValue .allowInvalidProxyTlsCertificates = false ∧
      system.live.protectedValue .allowInvalidProxyTlsCertificates = true ∧
      system.live.seedingEnabled = false := by
  have ran : (Runs.run step startedPlain authorisedRun).any (fun system => decide (
      (∀ call ∈ system.calls, call.running = false) ∧
      (∃ call ∈ system.calls, call.phase.committed = true) ∧
      system.raw.protectedValue .allowPrivateNetworkSources = true ∧
      system.raw.protectedValue .allowInvalidProxyTlsCertificates = false ∧
      system.live.protectedValue .allowInvalidProxyTlsCertificates = true ∧
      system.live.seedingEnabled = false)) = true := by
    decide +kernel
  obtain ⟨system, reached, shown⟩ := (Option.any_eq_true _ _).mp ran
  obtain ⟨quiet, wrote, facts⟩ := of_decide_eq_true shown
  obtain ⟨agrees, written⟩ := (settings_transactions_hold reached).1 quiet
  exact ⟨system, reached, agrees, written wrote, facts⟩

/-- The newer save fails to persist after the older one was admitted, before that one looks. -/
def supersededRun : List Action :=
  [.call (.trackers ["udp://older"] 1), .call (.trackers ["udp://newer"] 2),
    .act 0 .sequence, .act 0 .admitCall, .act 1 .sequence, .act 1 .admitCall,
    .act 1 .lock, .act 1 .check, .act 1 .read, .act 1 .register, .act 1 (.persist false),
    .act 0 .lock, .act 0 .check]

theorem superseded_save_is_not_kept :
    ∃ system, Runs.run step startedPlain supersededRun = some system ∧
      (∀ call ∈ system.calls, call.running = false) ∧
      ∃ call, LatestSucceeded system call ∧
        call.request ≠ .trackers system.live.cachedTrackers system.live.trackersLastUpdated := by
  let older : Call := ⟨.trackers ["udp://older"] 1, 1, .finished .superseded, false⟩
  let newer : Call :=
    ⟨.trackers ["udp://newer"] 2, 2, .finished (.failed (.persistence .persistence)), false⟩
  refine ⟨_, rfl, by decide, older, ⟨List.mem_cons_self, rfl, ⟨_, rfl, rfl⟩, ?_⟩, ?_⟩
  · intro other member _ ⟨outcome, phase, succeeded⟩
    have among : other ∈ [older, newer] := member
    obtain rfl | rfl : other = older ∨ other = newer := by simpa using among
    · exact Nat.le_refl _
    · cases phase
      cases succeeded
  · intro same
    cases same

end Concrete

end System

end StreamServer.Settings
