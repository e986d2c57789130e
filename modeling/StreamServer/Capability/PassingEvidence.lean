import StreamServer.Capability.EvidenceEffects
import StreamServer.Capability.FlightMoves

set_option autoImplicit false

namespace StreamServer.Capability

namespace EvidenceRecord

def observed (record : EvidenceRecord) : EvidenceTarget → Option EvidenceObservation
  | .correctness => record.correctness
  | .realtime => record.realtime
  | .segmented => record.segmented

/-- An unexpired pass of the target, and neither an open circuit nor a terminal failure. -/
structure Passes (record : EvidenceRecord) (target : EvidenceTarget) (now : StateNow) : Prop where
  passed : ∃ observation ∈ record.observed target, observation.target = target ∧
    observation.outcome = currentOutcome target ∧ observation.isCurrent now = true
  closed : ∀ history ∈ record.failureHistory, history.isCurrent now = true →
    history.circuitIsOpen now = false
  unended : ∀ terminal ∈ record.terminal, terminal.isCurrent now = false

variable {record after : EvidenceRecord} {result : VerificationResult} {target : EvidenceTarget}
  {now : StateNow}

theorem mem_pruned_observed {observation : EvidenceObservation}
    (present : observation ∈ (record.pruneExpired now).observed target) :
    observation ∈ record.observed target := by
  cases target with
  | correctness =>
    have kept : observation ∈ (record.pruneExpired now).correctness := present
    rw [pruneExpired_correctness] at kept
    exact (Option.mem_filter_iff.mp kept).1
  | realtime => exact (mem_pruned_realtime present).1
  | segmented => exact (mem_pruned_segmented present).1

theorem Sound.observed_shaped (sound : record.Sound) {observation : EvidenceObservation}
    (present : observation ∈ record.observed target) :
    observation.ShapedAs target (currentOutcome target) := by
  cases target with
  | correctness => exact sound.correctness observation present
  | realtime => exact sound.realtime observation present
  | segmented => exact sound.segmented observation present

theorem targetIsCurrent_observed (current : record.targetIsCurrent target now = true) :
    ∃ observation ∈ record.observed target, observation.isCurrent now = true := by
  cases target <;> exact (Option.any_eq_true _ _).mp current

theorem project_unblocked
    (unblocked : ¬ ((record.project now ⟨false, false⟩).1 = some .circuitOpen ∨
      (record.project now ⟨false, false⟩).1 = some .failed)) :
    (∀ history ∈ (record.pruneExpired now).failureHistory, history.circuitIsOpen now = false) ∧
      (record.pruneExpired now).terminal = none := by
  simp only [project, Bool.false_or, Bool.false_eq_true, if_false] at unblocked
  cases circuit : (record.pruneExpired now).failureHistory.any fun history =>
      history.circuitIsOpen now with
  | true => simp [circuit] at unblocked
  | false =>
    refine ⟨fun history present => ?_, ?_⟩
    · rw [present] at circuit
      exact circuit
    · cases ended : (record.pruneExpired now).terminal with
      | none => rfl
      | some terminal => simp [circuit, ended] at unblocked

theorem passes_of_project (sound : record.Sound)
    (unblocked : ¬ ((record.project now ⟨false, false⟩).1 = some .circuitOpen ∨
      (record.project now ⟨false, false⟩).1 = some .failed))
    (current : (record.project now ⟨false, false⟩).2.targetIsCurrent target now = true) :
    record.Passes target now := by
  obtain ⟨closed, unended⟩ := project_unblocked unblocked
  obtain ⟨observation, present, live⟩ := targetIsCurrent_observed current
  have there := mem_pruned_observed present
  have shaped := sound.observed_shaped there
  refine ⟨⟨observation, there, shaped.target, shaped.outcome, live⟩, fun history held live => ?_,
    fun terminal held => ?_⟩
  · exact closed history (Option.mem_filter_iff.mpr ⟨held, live⟩)
  · cases live : terminal.isCurrent now with
    | false => rfl
    | true =>
      have kept : terminal ∈ (record.pruneExpired now).terminal :=
        Option.mem_filter_iff.mpr ⟨held, live⟩
      rw [unended] at kept
      cases kept

theorem finish_inv {before : EvidenceRecord} {changed : Except StateError EvidenceRecord}
    {transition : Transition} (finished : finish now before changed = (.ok transition, after)) :
    transition = .keepRecord ∧ changed = .ok after := by
  unfold finish at finished
  split at finished
  · cases finished
  · split at finished
    · cases finished
    · cases finished
      exact ⟨rfl, rfl⟩

theorem passes_of_pass {observation : EvidenceObservation} (kept : after.observed target = some observation)
    (valid : after.Valid now) (shaped : observation.ShapedAs target (currentOutcome target))
    (current : observation.isCurrent now = true) (cleared : after.failureHistory = none) :
    after.Passes target now := by
  refine ⟨⟨observation, kept, shaped.target, shaped.outcome, current⟩, ?_, fun terminal held => ?_⟩
  · rw [cleared]
    rintro _ ⟨⟩
  · have absent := valid.exclusive (by rw [held]; rfl)
    cases target with
    | correctness => cases absent.1.symm.trans kept
    | realtime => cases absent.2.1.symm.trans kept
    | segmented => cases absent.2.2.symm.trans kept

theorem apply_passes {transition : Transition} (sound : record.Sound)
    (applied : record.apply result .activeInjected now = (.ok transition, after))
    (passed : (EnsureEvidenceResult.fromOutcome result.outcome).passing = true) :
    transition = .keepRecord ∧ after.Passes result.target now := by
  have validated : result.validateAt now = .ok () := by
    unfold apply at applied
    cases rejected : result.validateAt now with
    | error error =>
      rw [rejected] at applied
      cases applied
    | ok accepted => rfl
  have valid : after.Valid now := by
    have settled := (apply_settled sound validated).valid
    rw [applied] at settled
    exact settled
  obtain ⟨observation, observed, shaped, current⟩ :=
    VerificationResult.observation_of_result (VerificationResult.validateAt_accepted validated)
  unfold apply at applied
  rw [validated] at applied
  simp only [reduceCtorEq, if_false] at applied
  split at applied
  · next outcome same =>
    obtain ⟨kept, made⟩ := finish_inv applied
    rw [observed] at made
    cases made
    rw [same, outcome] at shaped
    rw [same]
    exact ⟨kept, passes_of_pass rfl valid shaped current rfl⟩
  · next outcome same =>
    obtain ⟨kept, made⟩ := finish_inv applied
    obtain ⟨_, _, made⟩ := Results.bind_ok made
    rw [observed] at made
    cases made
    rw [same, outcome] at shaped
    rw [same]
    exact ⟨kept, passes_of_pass rfl valid shaped current rfl⟩
  · next outcome same =>
    obtain ⟨kept, made⟩ := finish_inv applied
    obtain ⟨_, _, made⟩ := Results.bind_ok made
    rw [observed] at made
    cases made
    rw [same, outcome] at shaped
    rw [same]
    exact ⟨kept, passes_of_pass rfl valid shaped current rfl⟩
  · next outcome =>
    rw [outcome] at passed
    cases passed
  · next outcome =>
    rw [outcome] at passed
    cases passed
  · next outcome =>
    rw [outcome] at passed
    cases passed
  · next outcome =>
    rw [outcome] at passed
    cases passed
  · next outcome =>
    rw [outcome] at passed
    cases passed
  · cases applied
  · cases applied

end EvidenceRecord

structure CapabilitySnapshot.Backs (snapshot : CapabilitySnapshot) (key : CapabilityKey)
    (target : EvidenceTarget) (now : StateNow) : Prop where
  fresh : snapshot.freshness = .fresh
  admits : snapshot.admits key = true
  evidence : ∃ record, snapshot.evidence.lookup key = some record ∧ record.Passes target now

namespace Registry

def EvidenceSound (registry : Registry) : Prop :=
  ∀ entry ∈ registry.snapshot.evidence.entries, entry.2.Sound

variable {registry : Registry} {key preferred : CapabilityKey} {verified : VerificationResult}
  {now : StateNow}

theorem lookup_sound (sound : registry.EvidenceSound) {record : EvidenceRecord}
    (found : registry.snapshot.evidence.lookup key = some record) : record.Sound :=
  sound ⟨key, record⟩ (AList.mem_lookup_iff.mp found)

theorem lookup_filterMapRecords {evidence : EvidenceMap}
    {keep : CapabilityKey → EvidenceRecord → Option EvidenceRecord} {record : EvidenceRecord}
    (found : (filterMapRecords evidence keep).lookup key = some record) :
    ∃ before, evidence.lookup key = some before ∧ keep key before = some record := by
  have member := AList.mem_lookup_iff.mp found
  obtain ⟨⟨other, before⟩, there, kept⟩ := List.mem_filterMap.mp member
  obtain ⟨changed, keeps, same⟩ := Option.map_eq_some_iff.mp kept
  cases same
  exact ⟨before, AList.mem_lookup_iff.mpr there, keeps⟩

theorem merged_base_sound (sound : registry.EvidenceSound) :
    (((prunedEvidence registry.snapshot now).lookup key).getD (.new key)).Sound := by
  cases found : (prunedEvidence registry.snapshot now).lookup key with
  | none => exact EvidenceRecord.new_sound key
  | some record =>
    obtain ⟨before, there, kept⟩ := lookup_filterMapRecords found
    dsimp only at kept
    split at kept
    · cases kept
      exact (lookup_sound sound there).pruned
    · cases kept

theorem mergedEvidence_passes (sound : registry.EvidenceSound) {evidence : EvidenceMap}
    (merged : mergedEvidence registry.snapshot key preferred verified now = .ok evidence)
    (passed : (EnsureEvidenceResult.fromOutcome verified.outcome).passing = true) :
    ∃ record, evidence.lookup key = some record ∧ record.Passes verified.target now := by
  have base : (((prunedEvidence registry.snapshot now).lookup key).getD (.new key)).Sound :=
    merged_base_sound sound
  unfold mergedEvidence at merged
  dsimp only at merged
  split at merged
  · cases merged
  · next transition after applied =>
    cases (EvidenceRecord.apply_passes base applied passed).1
  · cases merged
  · next after applied =>
    have passes := (EvidenceRecord.apply_passes base applied passed).2
    split at merged
    · split at merged
      · cases merged
      · cases merged
        exact ⟨after, AList.lookup_insert _, passes⟩
    · cases merged
      exact ⟨after, AList.lookup_insert _, passes⟩

theorem mergedEvidence_refuses (sound : registry.EvidenceSound) {result : EnsureEvidenceResult}
    (refused : mergedEvidence registry.snapshot key preferred verified now = .error result) :
    result.passing = false := by
  have base : (((prunedEvidence registry.snapshot now).lookup key).getD (.new key)).Sound :=
    merged_base_sound sound
  unfold mergedEvidence at refused
  dsimp only at refused
  split at refused
  · cases refused
    rfl
  · next transition after applied =>
    split at refused
    · cases refused
    · cases refused
      by_contra passed
      rw [Bool.not_eq_false] at passed
      cases (EvidenceRecord.apply_passes base applied passed).1
  · next transition after applied =>
    cases refused
    by_contra passed
    rw [Bool.not_eq_false] at passed
    cases (EvidenceRecord.apply_passes base applied passed).1
  · split at refused
    · split at refused
      · cases refused
        rfl
      · cases refused
    · cases refused

theorem mergeVerification_backs (sound : registry.EvidenceSound) {epoch : Nat}
    {clock : Option StateNow}
    (passed : (registry.mergeVerification key epoch verified clock preferred).1.passing = true) :
    ∃ now, clock = some now ∧
      (registry.mergeVerification key epoch verified clock preferred).2.snapshot.Backs key
        verified.target now := by
  have moved := mergeVerification_move registry key epoch verified clock preferred
  generalize registry.mergeVerification key epoch verified clock preferred = ended at *
  cases moved with
  | refused | exhausted => cases passed
  | unmerged now result ends =>
    rw [mergedEvidence_refuses sound ends] at passed
    cases passed
  | published now evidence revision snapshot read current admitted merged counted built =>
    have passing := mergedEvidence_passes sound merged passed
    obtain ⟨rfl, _⟩ := CapabilitySnapshot.fromParts_eq_ok.mp built
    exact ⟨now, read, CapabilitySnapshot.admits_fresh admitted, admitted, passing⟩

theorem lookedUp_backs (sound : registry.EvidenceSound) {caller : Caller} {playbackActive : Bool}
    {clock : Option StateNow} {result : EnsureEvidenceResult}
    (answered : (registry.lookedUp caller playbackActive clock).phase = .returned result)
    (passing : result.passing = true) :
    ∃ now, clock = some now ∧ registry.snapshot.Backs caller.key caller.target now := by
  unfold lookedUp at answered
  split at answered
  · cases answered
    cases passing
  · split at answered
    · cases answered
      cases passing
    · split at answered
      · cases answered
        cases passing
      · split at answered
        · cases answered
          cases passing
        · split at answered
          · cases answered
            cases passing
          · next admitted =>
            simp only [Bool.not_eq_true', Bool.not_eq_false] at admitted
            cases clock with
            | none =>
              cases answered
              cases passing
            | some now =>
              dsimp only at answered
              split at answered
              · cases answered
              · next existing found =>
                split at answered
                · cases answered
                  cases passing
                · next unblocked =>
                  split at answered
                  · next current =>
                    exact ⟨now, rfl, CapabilitySnapshot.admits_fresh admitted, admitted, existing,
                      found, EvidenceRecord.passes_of_project (lookup_sound sound found) unblocked
                        current⟩
                  · cases answered

end Registry

end StreamServer.Capability
