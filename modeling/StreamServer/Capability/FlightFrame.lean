import StreamServer.Capability.FlightMoves
import StreamServer.Capability.RefreshEffects

set_option autoImplicit false

namespace StreamServer.Capability

namespace Registry

structure SameRefresh (before after : Registry) : Prop where
  control : after.control = before.control
  workers : after.workers = before.workers
  shutdown : after.shutdown = before.shutdown
  identityEpoch : after.flightState.identityEpoch = before.flightState.identityEpoch
  terminalReason : after.flightState.terminalReason = before.flightState.terminalReason ∨
    after.capacityExhausted = true
  exhausted : before.capacityExhausted = true → after.capacityExhausted = true

structure Merged (before : Registry) (flight : Flight) (now : StateNow) (after : Registry) : Prop where
  fresh : before.snapshot.freshness = .fresh
  epoch : before.snapshot.identityEpoch = flight.epoch
  refresh : after.publication.refresh = before.publication.refresh
  freshness : after.snapshot.freshness = before.snapshot.freshness
  sameEpoch : after.snapshot.identityEpoch = before.snapshot.identityEpoch
  revision : after.snapshot.publicationRevision = before.snapshot.publicationRevision + 1
  valid : after.snapshot.validate now = .ok ()

theorem sameRefresh_refl (registry : Registry) : SameRefresh registry registry :=
  ⟨rfl, rfl, rfl, rfl, .inl rfl, id⟩

theorem SameRefresh.setTask {before after : Registry} (same : SameRefresh before after)
    (place : Nat) (flight : Flight) : SameRefresh before (after.setTask place flight) :=
  ⟨same.control, same.workers, same.shutdown, same.identityEpoch, same.terminalReason,
    same.exhausted⟩

theorem sameRefresh_exhaust (registry : Registry) : SameRefresh registry registry.exhaust :=
  ⟨rfl, rfl, rfl, rfl, .inl rfl, fun _ => rfl⟩

theorem sameRefresh_decrementQueued (registry : Registry) :
    SameRefresh registry registry.decrementQueued ∧
      registry.decrementQueued.publication = registry.publication := by
  unfold decrementQueued
  split
  · exact ⟨⟨rfl, rfl, rfl, rfl, .inr rfl, fun _ => rfl⟩, rfl⟩
  · exact ⟨⟨rfl, rfl, rfl, rfl, .inl rfl, id⟩, rfl⟩

theorem mergeVerification_effect (registry : Registry) (flight : Flight)
    (verified : VerificationResult) (now : Option StateNow) (preferred : CapabilityKey) :
    SameRefresh registry
        (registry.mergeVerification flight.key flight.epoch verified now preferred).2 ∧
      ((registry.mergeVerification flight.key flight.epoch verified now preferred).2.publication =
          registry.publication ∨
        ∃ reading, now = some reading ∧ Merged registry flight reading
          (registry.mergeVerification flight.key flight.epoch verified now preferred).2) := by
  have moved := mergeVerification_move registry flight.key flight.epoch verified now preferred
  generalize registry.mergeVerification flight.key flight.epoch verified now preferred = ended at *
  cases moved with
  | refused | unmerged => exact ⟨sameRefresh_refl registry, .inl rfl⟩
  | exhausted => exact ⟨sameRefresh_exhaust registry, .inl rfl⟩
  | published reading evidence revision snapshot read epoch admitted merged counted built =>
    obtain ⟨rfl, _⟩ := nextCounter_eq_some counted
    obtain ⟨rfl, valid⟩ := CapabilitySnapshot.fromParts_eq_ok.mp built
    refine ⟨⟨rfl, rfl, rfl, rfl, .inl rfl, id⟩, .inr ⟨reading, read, ?_⟩⟩
    exact ⟨CapabilitySnapshot.admits_fresh admitted, epoch, rfl, rfl, epoch.symm, rfl, valid⟩

theorem callerStep_frame {registry next : Registry} {place : Nat} {caller : Caller}
    {step : CallerStep} (taken : registry.callerStep place caller step = some next) :
    SameRefresh registry next ∧ next.publication = registry.publication := by
  cases callerStep_move taken <;> exact ⟨⟨rfl, rfl, rfl, rfl, .inl rfl, id⟩, rfl⟩

theorem taskStep_frame {registry next : Registry} {place : Nat} {flight : Flight} {step : TaskStep}
    (taken : registry.taskStep place flight step = some next) :
    SameRefresh registry next ∧ (next.publication = registry.publication ∨
      ∃ now preferred, step = .merge (some now) preferred ∧ Merged registry flight now next) := by
  cases taskStep_move taken with
  | leftQueue after =>
    obtain ⟨same, publication⟩ := sameRefresh_decrementQueued registry
    exact ⟨same.setTask _ _, .inl publication⟩
  | exhausted => exact ⟨(sameRefresh_exhaust registry).setTask _ _, .inl rfl⟩
  | merged now preferred result =>
    obtain ⟨same, unchanged | ⟨reading, rfl, merged⟩⟩ :=
      mergeVerification_effect registry flight result now preferred
    · exact ⟨same.setTask _ _, .inl unchanged⟩
    · refine ⟨same.setTask _ _, .inr ⟨reading, preferred, rfl, ?_⟩⟩
      exact ⟨merged.fresh, merged.epoch, merged.refresh, merged.freshness, merged.sameEpoch,
        merged.revision, merged.valid⟩
  | _ => exact ⟨⟨rfl, rfl, rfl, rfl, .inl rfl, id⟩, .inl rfl⟩

def Merges (registry : Registry) (action : FlightAction) (flight : Flight) (now : StateNow) : Prop :=
  ∃ place preferred, action = .task place (.merge (some now) preferred) ∧
    registry.tasks[place]? = some flight

theorem flightStep_frame {registry next : Registry} {action : FlightAction}
    (taken : registry.flightStep action = some next) :
    SameRefresh registry next ∧ (next.publication = registry.publication ∨
      ∃ flight now, Merges registry action flight now ∧ Merged registry flight now next) := by
  cases action with
  | call key target =>
    cases taken
    exact ⟨⟨rfl, rfl, rfl, rfl, .inl rfl, id⟩, .inl rfl⟩
  | caller place step =>
    simp only [flightStep] at taken
    split at taken
    · cases taken
    · obtain ⟨same, publication⟩ := callerStep_frame taken
      exact ⟨same, .inl publication⟩
  | task place step =>
    simp only [flightStep] at taken
    split at taken
    · cases taken
    next flight found =>
      obtain ⟨same, unchanged | ⟨now, preferred, rfl, merged⟩⟩ := taskStep_frame taken
      · exact ⟨same, .inl unchanged⟩
      · exact ⟨same, .inr ⟨flight, now, ⟨place, preferred, rfl, found⟩, merged⟩⟩

end Registry

end StreamServer.Capability
