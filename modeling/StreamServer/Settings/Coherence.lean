import StreamServer.Settings.Transactions
import StreamServer.Shared.Lists

set_option autoImplicit false

namespace StreamServer.Settings

namespace System

def Wrote (system : System) : Prop := ∃ call ∈ system.calls, call.phase.committed = true

/-- The three copies agree; the file only once it is written. -/
def Aligned (system : System) : Prop :=
  system.raw.Agrees system.live ∧ (system.Wrote → system.file = some system.raw)

/-- What the lock guards, as the call that has the lock finds it. -/
def Staged (system : System) (call : Call) : Prop :=
  match call.phase with
  | .locked | .checked | .published => system.Aligned
  | .loaded current => current = system.live ∧ system.Aligned
  | .persisting disk publish =>
      call.request.planned system.raw system.live = .ok (disk, publish) ∧ system.Aligned
  | .persisted disk publish =>
      call.request.planned system.raw system.live = .ok (disk, publish) ∧
        system.raw.Agrees system.live ∧ system.file = some disk
  | .replaced publish =>
      (∃ earlier, call.request.planned earlier system.live = .ok (system.raw, publish)) ∧
        system.file = some system.raw
  | _ => True

structure Coherent (system : System) : Prop where
  holding : ∀ (place : Nat) (call : Call), system.calls[place]? = some call →
    (call.phase.holds = true ↔ system.holder = some place)
  occupied : ∀ place, system.holder = some place → place < system.calls.length
  staged : ∀ call ∈ system.calls, system.Staged call
  free : system.holder = none → system.Aligned

structure SameSettings (before after : System) : Prop where
  file : after.file = before.file
  raw : after.raw = before.raw
  live : after.live = before.live
  wrote : after.Wrote → before.Wrote

theorem Aligned.congr {before after : System} (same : SameSettings before after)
    (aligned : before.Aligned) : after.Aligned := by
  refine ⟨by rw [same.raw, same.live]; exact aligned.1, fun wrote => ?_⟩
  rw [same.file, same.raw]
  exact aligned.2 (same.wrote wrote)

theorem Staged.congr {before after : System} {call : Call} (same : SameSettings before after)
    (staged : before.Staged call) : after.Staged call := by
  unfold Staged at staged ⊢
  cases phase : call.phase with
  | locked | checked | published =>
    simp only [phase] at staged ⊢
    exact staged.congr same
  | loaded current =>
    simp only [phase] at staged ⊢
    exact ⟨by rw [same.live]; exact staged.1, staged.2.congr same⟩
  | persisting disk publish =>
    simp only [phase] at staged ⊢
    exact ⟨by rw [same.raw, same.live]; exact staged.1, staged.2.congr same⟩
  | persisted disk publish =>
    simp only [phase] at staged ⊢
    rw [same.raw, same.live, same.file]
    exact staged
  | replaced publish =>
    simp only [phase] at staged ⊢
    rw [same.raw, same.live, same.file]
    exact staged
  | called | sequenced | admitted | finished outcome | dropped => trivial

theorem staged_of_not_holds (system : System) {call : Call} (idle : call.phase.holds = false) :
    system.Staged call := by
  unfold Staged
  cases phase : call.phase <;> first | trivial | (rw [phase] at idle; cases idle)

theorem coherent_start (file : Option ServerSettings) (defaults : ServerSettings)
    (overrides : ProxyEnvironmentOverrides) : (start file defaults overrides).Coherent := by
  refine ⟨fun place call found => ?_, fun place mine => ?_, fun call member => ?_,
    fun _ => ⟨?_, ?_⟩⟩
  · cases found
  · cases mine
  · cases member
  · exact fun _ => rfl
  · rintro ⟨call, member, _⟩
    cases member

section Steps

variable {system next : System} {place : Nat} {call after : Call}

theorem coherent_set (coherent : system.Coherent) (found : system.calls[place]? = some call)
    (calls : next.calls = system.calls.set place after)
    (apart : ∀ other, other ≠ place → (next.holder = some other ↔ system.holder = some other))
    (others : system.holder = some place ∨ SameSettings system next)
    (holds : after.phase.holds = true ↔ next.holder = some place) (staged : next.Staged after)
    (free : next.holder = none → next.Aligned) : next.Coherent := by
  refine ⟨fun other held present => ?_, fun other mine => ?_, fun held member => ?_, free⟩
  · rw [calls] at present
    obtain ⟨different, earlier⟩ | ⟨same, same'⟩ := Lists.getElem?_set_cases present
    · rw [apart other different]
      exact coherent.holding other held earlier
    · rw [same, same']
      exact holds
  · rw [calls, List.length_set]
    by_cases same : other = place
    · rw [same]
      exact (List.getElem?_eq_some_iff.mp found).1
    · exact coherent.occupied other ((apart other same).mp mine)
  · rw [calls] at member
    obtain ⟨other, present⟩ := List.mem_iff_getElem?.mp member
    obtain ⟨different, earlier⟩ | ⟨_, same⟩ := Lists.getElem?_set_cases present
    · cases others with
      | inr same => exact (coherent.staged held (List.mem_of_getElem? earlier)).congr same
      | inl mine =>
        apply staged_of_not_holds
        rw [Bool.eq_false_iff, ne_eq, coherent.holding other held earlier, mine]
        exact fun both => different (Option.some.inj both).symm
    · rw [same]
      exact staged

theorem wrote_of_set (found : system.calls[place]? = some call)
    (calls : next.calls = system.calls.set place after)
    (earlier : after.phase.committed = true → call.phase.committed = true) (wrote : next.Wrote) :
    system.Wrote := by
  obtain ⟨writer, member, committed⟩ := wrote
  rw [calls] at member
  obtain old | rfl := List.mem_or_eq_of_mem_set member
  · exact ⟨writer, old, committed⟩
  · exact ⟨call, List.mem_of_getElem? found, earlier committed⟩

theorem coherent_of_unheld (coherent : system.Coherent) (found : system.calls[place]? = some call)
    (calls : next.calls = system.calls.set place after) (same : SameSettings system next)
    (holder : next.holder = system.holder) (before : call.phase.holds = false)
    (idle : after.phase.holds = false) : next.Coherent := by
  have waiting : ¬system.holder = some place := by
    rw [← coherent.holding place call found, before]
    exact Bool.false_ne_true
  refine coherent_set coherent found calls (fun other _ => by rw [holder]) (.inr same) ?_
    (staged_of_not_holds next idle) fun free => ?_
  · rw [idle, holder]
    exact ⟨fun impossible => (Bool.false_ne_true impossible).elim,
      fun mine => absurd mine waiting⟩
  · rw [holder] at free
    exact (coherent.free free).congr same

theorem coherent_of_held (coherent : system.Coherent) (found : system.calls[place]? = some call)
    (calls : next.calls = system.calls.set place after) (holder : next.holder = system.holder)
    (before : call.phase.holds = true) (holds : after.phase.holds = true)
    (staged : next.Staged after) : next.Coherent := by
  have mine := (coherent.holding place call found).mp before
  refine coherent_set coherent found calls (fun other _ => by rw [holder]) (.inl mine) ?_ staged
    fun free => ?_
  · rw [holder]
    exact ⟨fun _ => mine, fun _ => holds⟩
  · rw [holder, mine] at free
    cases free

theorem coherent_of_released (coherent : system.Coherent)
    (found : system.calls[place]? = some call) (calls : next.calls = system.calls.set place after)
    (holder : next.holder = none) (before : call.phase.holds = true)
    (idle : after.phase.holds = false) (aligned : next.Aligned) : next.Coherent := by
  have mine := (coherent.holding place call found).mp before
  refine coherent_set coherent found calls (fun other different => ?_) (.inl mine) ?_
    (staged_of_not_holds next idle) fun _ => aligned
  · rw [holder, mine]
    exact ⟨fun absent => (Option.some_ne_none other absent.symm).elim,
      fun same => absurd (Option.some.inj same).symm different⟩
  · rw [holder, idle]
    exact ⟨fun impossible => (Bool.false_ne_true impossible).elim,
      fun absent => (Option.some_ne_none place absent.symm).elim⟩

theorem coherent_of_locked (coherent : system.Coherent)
    (found : system.calls[place]? = some call) (calls : next.calls = system.calls.set place after)
    (same : SameSettings system next) (free : system.holder = none) (holder : next.holder = some place)
    (locked : after.phase = .locked) : next.Coherent := by
  have aligned := (coherent.free free).congr same
  refine coherent_set coherent found calls (fun other different => ?_) (.inr same) ?_ ?_ fun absent => ?_
  · rw [holder, free]
    exact ⟨fun same => absurd (Option.some.inj same).symm different,
      fun absent => (Option.some_ne_none other absent.symm).elim⟩
  · rw [holder, locked]
    exact ⟨fun _ => rfl, fun _ => rfl⟩
  · unfold Staged
    rw [locked]
    exact aligned
  · rw [holder] at absent
    cases absent

theorem moved_coherent {step : CallStep} (moved : Moved system place call step next)
    (found : system.calls[place]? = some call) (coherent : system.Coherent) : next.Coherent := by
  have staged := coherent.staged call (List.mem_of_getElem? found)
  have same : ∀ {after : Call} {next : System}, next.calls = system.calls.set place after →
      next.file = system.file → next.raw = system.raw → next.live = system.live →
      after.phase.committed = false → SameSettings system next :=
    fun calls file raw live uncommitted => ⟨file, raw, live, wrote_of_set found calls
      fun committed => by rw [uncommitted] at committed; cases committed⟩
  cases moved with
  | sequenced trackers phase =>
    exact coherent_of_unheld coherent found rfl (same rfl rfl rfl rfl rfl) rfl
      (by rw [phase]; rfl) rfl
  | refused phase =>
    exact coherent_of_unheld coherent found rfl (same rfl rfl rfl rfl rfl) rfl
      (by rw [phase]; rfl) rfl
  | admitted trackers phase =>
    exact coherent_of_unheld coherent found rfl (same rfl rfl rfl rfl rfl) rfl
      (by rw [phase]; rfl) rfl
  | locked free phase =>
    exact coherent_of_locked coherent found rfl (same rfl rfl rfl rfl rfl) free rfl rfl
  | superseded trackers phase later =>
    simp only [Staged, phase] at staged
    exact coherent_of_released coherent found rfl rfl (by rw [phase]; rfl) rfl
      (staged.congr (same rfl rfl rfl rfl rfl))
  | checked trackers phase latest =>
    simp only [Staged, phase] at staged
    exact coherent_of_held coherent found rfl rfl (by rw [phase]; rfl) rfl
      (staged.congr (same rfl rfl rfl rfl rfl))
  | loaded phase =>
    have aligned : system.Aligned := by
      obtain ⟨_, phase⟩ | ⟨_, phase⟩ := phase <;> simp only [Staged, phase] at staged <;> exact staged
    exact coherent_of_held coherent found rfl rfl
      (by obtain ⟨_, phase⟩ | ⟨_, phase⟩ := phase <;> rw [phase] <;> rfl) rfl
      ⟨rfl, aligned.congr (same rfl rfl rfl rfl rfl)⟩
  | rejected current error phase untracked =>
    simp only [Staged, phase] at staged
    exact coherent_of_released coherent found rfl rfl (by rw [phase]; rfl) rfl
      (staged.2.congr (same rfl rfl rfl rfl rfl))
  | registered current disk publish phase plan =>
    simp only [Staged, phase] at staged
    obtain ⟨rfl, aligned⟩ := staged
    exact coherent_of_held coherent found rfl rfl (by rw [phase]; rfl) rfl
      ⟨plan, aligned.congr (same rfl rfl rfl rfl rfl)⟩
  | persisted disk publish phase =>
    simp only [Staged, phase] at staged
    exact coherent_of_held coherent found rfl rfl (by rw [phase]; rfl) rfl
      ⟨staged.1, staged.2.1, rfl⟩
  | unpersisted disk publish phase =>
    simp only [Staged, phase] at staged
    exact coherent_of_released coherent found rfl rfl (by rw [phase]; rfl) rfl
      (staged.2.congr (same rfl rfl rfl rfl rfl))
  | replaced disk publish phase =>
    simp only [Staged, phase] at staged
    exact coherent_of_held coherent found rfl rfl (by rw [phase]; rfl) rfl
      ⟨⟨_, staged.1⟩, staged.2.2⟩
  | published settings phase =>
    simp only [Staged, phase] at staged
    obtain ⟨⟨earlier, plan⟩, file⟩ := staged
    have agrees : system.raw.Agrees settings := planned_agrees plan
    exact coherent_of_held coherent found rfl rfl (by rw [phase]; rfl) rfl ⟨agrees, fun _ => file⟩
  | completed phase =>
    have aligned : system.raw.Agrees system.live ∧ system.file = some system.raw := by
      obtain phase | phase := phase
      · simp only [Staged, phase] at staged
        obtain ⟨⟨earlier, plan⟩, file⟩ := staged
        exact ⟨planned_agrees plan, file⟩
      · simp only [Staged, phase] at staged
        exact ⟨staged.1, staged.2 ⟨call, List.mem_of_getElem? found, by rw [phase]; rfl⟩⟩
    exact coherent_of_released coherent found rfl rfl
      (by obtain phase | phase := phase <;> rw [phase] <;> rfl) rfl ⟨aligned.1, fun _ => aligned.2⟩
  | dropped untracked phase =>
    exact coherent_of_unheld coherent found rfl (same rfl rfl rfl rfl rfl) rfl
      (by rw [phase]; rfl) rfl
  | unlocked untracked phase =>
    simp only [Staged, phase] at staged
    exact coherent_of_released coherent found rfl rfl (by rw [phase]; rfl) rfl
      (staged.congr (same rfl rfl rfl rfl rfl))
  | abandoned =>
    have same : SameSettings system (system.setCall place { call with abandoned := true }) :=
      ⟨rfl, rfl, rfl, wrote_of_set found rfl id⟩
    exact coherent_set coherent found rfl (fun _ _ => Iff.rfl) (.inr same)
      (coherent.holding place call found) (staged.congr same)
      fun free => (coherent.free free).congr same

theorem step_coherent {action : Action} (coherent : system.Coherent)
    (taken : system.step action = some next) : next.Coherent := by
  cases action with
  | call request =>
    cases taken
    have same : SameSettings system
        { system with calls := system.calls ++ [⟨request, 0, .called, false⟩] } := by
      refine ⟨rfl, rfl, rfl, fun ⟨writer, member, committed⟩ => ?_⟩
      obtain earlier | added := List.mem_append.mp member
      · exact ⟨writer, earlier, committed⟩
      · cases List.mem_singleton.mp added
        cases committed
    refine ⟨fun place call found => ?_, fun place mine => ?_, fun call member => ?_,
      fun free => (coherent.free free).congr same⟩
    · obtain earlier | ⟨last, added⟩ := Lists.getElem?_append_cases found
      · exact coherent.holding place call earlier
      · rw [added, last]
        exact ⟨fun impossible => (Bool.false_ne_true impossible).elim,
          fun mine => absurd (coherent.occupied _ mine) (Nat.lt_irrefl _)⟩
    · rw [List.length_append]
      exact Nat.lt_add_right _ (coherent.occupied place mine)
    · obtain earlier | added := List.mem_append.mp member
      · exact (coherent.staged call earlier).congr same
      · cases List.mem_singleton.mp added
        trivial
  | act place step =>
    simp only [System.step] at taken
    split at taken
    · cases taken
    next call found => exact moved_coherent (act_moved taken) found coherent
  | close =>
    cases taken
    exact ⟨coherent.holding, coherent.occupied, coherent.staged, coherent.free⟩

theorem run_coherent {file : Option ServerSettings} {defaults : ServerSettings}
    {overrides : ProxyEnvironmentOverrides} {actions : List Action}
    (ran : Runs.run step (start file defaults overrides) actions = some system) :
    system.Coherent :=
  Runs.invariant_of_run (fun _ _ _ coherent taken => step_coherent coherent taken)
    (coherent_start file defaults overrides) ran

end Steps

end System

end StreamServer.Settings
