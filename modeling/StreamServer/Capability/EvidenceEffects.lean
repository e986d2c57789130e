import StreamServer.Capability.CacheLoading
import StreamServer.Capability.CacheRoundTrip

set_option autoImplicit false

namespace StreamServer.Capability

open MachineInt

theorem isCurrent_eq_true {now : StateNow} {expiresAt : EvidenceTimestamp} {deadline : Nat} :
    isCurrent now expiresAt deadline = true ↔
      now.wall.milliseconds < expiresAt.milliseconds ∧ now.monotonicMs < deadline := by
  simp [isCurrent]

namespace EvidenceObservation

structure ShapedAs (observation : EvidenceObservation) (target : EvidenceTarget)
    (outcome : EvidenceOutcome) : Prop where
  target : observation.target = target
  outcome : observation.outcome = outcome
  duration : observation.durationMs ≤ maxSafeInteger
  lifetime : lifetimeInvalid observation.observedAt observation.expiresAt = false

theorem validateAs_shaped {observation : EvidenceObservation} {target : EvidenceTarget}
    {outcome : EvidenceOutcome} {now : StateNow} :
    observation.validateAs target outcome now = .ok () ↔
      observation.ShapedAs target outcome ∧ observation.isCurrent now = true := by
  rw [validateAs_eq_ok]
  constructor
  · rintro ⟨target, outcome, duration, lifetime, current⟩
    exact ⟨⟨target, outcome, duration, lifetime⟩, current⟩
  · rintro ⟨shaped, current⟩
    exact ⟨shaped.target, shaped.outcome, shaped.duration, shaped.lifetime, current⟩

end EvidenceObservation

namespace TerminalObservation

structure Shaped (observation : TerminalObservation) : Prop where
  reason : reasonMatches observation.outcome observation.reason = true
  duration : observation.durationMs ≤ maxSafeInteger
  lifetime : lifetimeInvalid observation.observedAt observation.expiresAt = false

theorem validate_shaped {observation : TerminalObservation} {now : StateNow} :
    observation.validate now = .ok () ↔ observation.Shaped ∧ observation.isCurrent now = true := by
  rw [validate_eq_ok]
  constructor
  · rintro ⟨reason, duration, lifetime, current⟩
    exact ⟨⟨reason, duration, lifetime⟩, current⟩
  · rintro ⟨shaped, current⟩
    exact ⟨shaped.reason, shaped.duration, shaped.lifetime, current⟩

end TerminalObservation

namespace FailureHistory

structure Shaped (history : FailureHistory) : Prop where
  streak : 1 ≤ history.streak ∧ history.streak ≤ maxFailureStreak
  reason : temporaryReason history.reason = true
  lifetime : lifetimeInvalid history.lastFailureAt history.expiresAt = false
  paired : history.cooldownUntil.isSome = history.monotonicCooldownUntilMs.isSome
  cooldown : cooldownInvalid history.lastFailureAt history.cooldownUntil = false

theorem validate_shaped {history : FailureHistory} {now : StateNow} :
    history.validate now = .ok () ↔
      history.Shaped ∧ now.monotonicMs < history.monotonicExpiresAtMs := by
  rw [validate_eq_ok]
  constructor
  · rintro ⟨failed, most, reason, lifetime, paired, deadline, cooldown⟩
    exact ⟨⟨⟨Nat.one_le_iff_ne_zero.mpr failed, most⟩, reason, lifetime, paired, cooldown⟩, deadline⟩
  · rintro ⟨shaped, deadline⟩
    exact ⟨Nat.one_le_iff_ne_zero.mp shaped.streak.1, shaped.streak.2, shaped.reason,
      shaped.lifetime, shaped.paired, deadline, shaped.cooldown⟩

def ClosesAfter (history : FailureHistory) (recordedMs : Nat) : Prop :=
  ∀ deadline ∈ history.monotonicCooldownUntilMs, deadline ≤ recordedMs + 60 * minuteMs

end FailureHistory

namespace EvidenceRecord

structure Sound (record : EvidenceRecord) : Prop where
  correctness : ∀ observation ∈ record.correctness,
    observation.ShapedAs .correctness .correctnessPassed
  realtime : ∀ observation ∈ record.realtime, observation.ShapedAs .realtime .realtimePassed
  segmented : ∀ observation ∈ record.segmented, observation.ShapedAs .segmented .correctnessPassed
  terminal : ∀ terminal ∈ record.terminal, terminal.Shaped
  exclusive : record.terminal.isSome = true →
    record.correctness = none ∧ record.realtime = none ∧ record.segmented = none
  based : record.realtime.isSome = true ∨ record.segmented.isSome = true →
    record.correctness.isSome = true
  history : ∀ history ∈ record.failureHistory, history.Shaped

theorem new_sound (key : CapabilityKey) : (new key).Sound := by
  constructor <;> simp [new]

theorem requireCurrentCorrectness_eq_ok {record : EvidenceRecord} {now : StateNow} :
    record.requireCurrentCorrectness now = .ok () ↔
      ∃ observation ∈ record.correctness, observation.isCurrent now = true := by
  cases present : record.correctness <;> simp [requireCurrentCorrectness, reject_eq_ok, present]

theorem Valid.sound {record : EvidenceRecord} {now : StateNow} (valid : record.Valid now) :
    record.Sound where
  correctness observation present :=
    (EvidenceObservation.validateAs_shaped.mp (valid.correctness observation present)).1
  realtime observation present :=
    (EvidenceObservation.validateAs_shaped.mp (valid.realtime observation present)).1
  segmented observation present :=
    (EvidenceObservation.validateAs_shaped.mp (valid.segmented observation present)).1
  terminal terminal present :=
    (TerminalObservation.validate_shaped.mp (valid.terminal terminal present)).1
  exclusive := valid.exclusive
  based := by
    intro later
    obtain ⟨observation, present, _⟩ := requireCurrentCorrectness_eq_ok.mp (valid.based later)
    exact Option.isSome_iff_exists.mpr ⟨observation, present⟩
  history history present := (FailureHistory.validate_shaped.mp (valid.history history present)).1

section Pruning

variable {record : EvidenceRecord} {now : StateNow}

theorem pruneExpired_correctness :
    (record.pruneExpired now).correctness =
      record.correctness.filter fun observation => observation.isCurrent now := by
  cases present : record.correctness with
  | none => simp [pruneExpired, present]
  | some observation =>
    cases current : observation.isCurrent now <;> simp [pruneExpired, present, current, Option.filter]

theorem mem_pruned_realtime {observation : EvidenceObservation}
    (present : observation ∈ (record.pruneExpired now).realtime) :
    observation ∈ record.realtime ∧ observation.isCurrent now = true := by
  simp only [pruneExpired] at present
  split at present
  · cases present
  · exact Option.mem_filter_iff.mp present

theorem mem_pruned_segmented {observation : EvidenceObservation}
    (present : observation ∈ (record.pruneExpired now).segmented) :
    observation ∈ record.segmented ∧ observation.isCurrent now = true := by
  simp only [pruneExpired] at present
  split at present
  · cases present
  · exact Option.mem_filter_iff.mp present

theorem pruned_based (sound : record.Sound)
    (later : (record.pruneExpired now).realtime.isSome = true ∨
      (record.pruneExpired now).segmented.isSome = true) :
    (record.pruneExpired now).requireCurrentCorrectness now = .ok () := by
  have kept : ¬ (record.correctness.any fun observation => !observation.isCurrent now) = true := by
    intro expired
    simp [pruneExpired, expired] at later
  have before : record.realtime.isSome = true ∨ record.segmented.isSome = true := by
    refine later.imp (fun shown => ?_) fun shown => ?_
    · obtain ⟨observation, present⟩ := Option.isSome_iff_exists.mp shown
      exact Option.isSome_iff_exists.mpr ⟨observation, (mem_pruned_realtime present).1⟩
    · obtain ⟨observation, present⟩ := Option.isSome_iff_exists.mp shown
      exact Option.isSome_iff_exists.mpr ⟨observation, (mem_pruned_segmented present).1⟩
  obtain ⟨observation, present⟩ := Option.isSome_iff_exists.mp (sound.based before)
  have current : observation.isCurrent now = true := by simpa [present] using kept
  refine requireCurrentCorrectness_eq_ok.mpr ⟨observation, ?_, current⟩
  rw [pruneExpired_correctness]
  exact Option.mem_filter_iff.mpr ⟨present, current⟩

theorem Sound.pruned_valid (sound : record.Sound) : (record.pruneExpired now).Valid now where
  correctness := by
    intro observation present
    rw [pruneExpired_correctness] at present
    obtain ⟨kept, current⟩ := Option.mem_filter_iff.mp present
    exact EvidenceObservation.validateAs_shaped.mpr ⟨sound.correctness observation kept, current⟩
  realtime := by
    intro observation present
    obtain ⟨kept, current⟩ := mem_pruned_realtime present
    exact EvidenceObservation.validateAs_shaped.mpr ⟨sound.realtime observation kept, current⟩
  segmented := by
    intro observation present
    obtain ⟨kept, current⟩ := mem_pruned_segmented present
    exact EvidenceObservation.validateAs_shaped.mpr ⟨sound.segmented observation kept, current⟩
  terminal := by
    intro terminal present
    obtain ⟨kept, current⟩ := Option.mem_filter_iff.mp present
    exact TerminalObservation.validate_shaped.mpr ⟨sound.terminal terminal kept, current⟩
  exclusive := by
    intro ended
    obtain ⟨terminal, present⟩ := Option.isSome_iff_exists.mp ended
    have before := sound.exclusive
      (Option.isSome_iff_exists.mpr ⟨terminal, (Option.mem_filter_iff.mp present).1⟩)
    simp [pruneExpired, before.1, before.2.1, before.2.2]
  based := pruned_based sound
  history := by
    intro history present
    obtain ⟨kept, current⟩ := Option.mem_filter_iff.mp present
    exact FailureHistory.validate_shaped.mpr
      ⟨sound.history history kept, (isCurrent_eq_true.mp current).2⟩

theorem Sound.pruned (sound : record.Sound) : (record.pruneExpired now).Sound :=
  sound.pruned_valid.sound

end Pruning

end EvidenceRecord

namespace VerificationResult

variable {result : VerificationResult} {now : StateNow}

structure Accepted (result : VerificationResult) (now : StateNow) : Prop where
  duration : result.durationMs ≤ maxSafeInteger
  lifetime : lifetimeInvalid result.observedAt result.expiresAt = false
  reason : reasonMatches result.outcome result.reason = true
  target : targetMatches result.target result.outcome = true
  lives : LivesAt now result.observedAt result.expiresAt

theorem validateAt_accepted (validated : result.validateAt now = .ok ()) : result.Accepted now := by
  unfold validateAt at validated
  obtain ⟨⟨⟩, shape, validated⟩ := Results.bind_ok validated
  obtain ⟨⟨⟩, near, ahead⟩ := Results.bind_ok validated
  unfold validateShape at shape
  obtain ⟨⟨⟩, bounds, shape⟩ := Results.bind_ok shape
  obtain ⟨⟨⟩, _, shape⟩ := Results.bind_ok shape
  obtain ⟨⟨⟩, reason, target⟩ := Results.bind_ok shape
  simp only [reject_eq_ok, Bool.or_eq_false_iff, decide_eq_false_iff_not, not_lt, not_le,
    Bool.not_eq_false'] at bounds reason target near ahead
  exact ⟨bounds.1, bounds.2, reason, target, ahead, near.trans (Nat.min_le_left _ _)⟩

theorem observation_of_result (accepted : result.Accepted now) :
    ∃ observation, EvidenceObservation.fromResult result now = .ok observation ∧
      observation.ShapedAs result.target result.outcome ∧ observation.isCurrent now = true := by
  refine ⟨{ result with
    monotonicExpiresAtMs := deadlineAt now result.expiresAt maxEvidenceTtlMs }, ?_,
    ⟨rfl, rfl, accepted.duration, accepted.lifetime⟩, isCurrent_deadlineAt accepted.lives⟩
  unfold EvidenceObservation.fromResult
  rw [monotonicDeadline_eq]
  rfl

theorem terminal_reason {outcome : EvidenceOutcome} {given : Option EvidenceReason}
    (ends : outcome = .unsupported ∨ outcome = .permanentFailure)
    (matched : reasonMatches outcome given = true) :
    ∃ reason, given = some reason ∧ TerminalObservation.reasonMatches outcome reason = true := by
  rcases given with _ | reason
  · rcases ends with rfl | rfl <;> cases matched
  · refine ⟨reason, rfl, ?_⟩
    rcases ends with rfl | rfl <;> cases reason <;>
      simp_all [reasonMatches, TerminalObservation.reasonMatches]

theorem terminal_of_result (accepted : result.Accepted now)
    (ends : result.outcome = .unsupported ∨ result.outcome = .permanentFailure) :
    ∃ terminal, TerminalObservation.fromResult result now = .ok terminal ∧
      terminal.Shaped ∧ terminal.isCurrent now = true := by
  obtain ⟨reason, given, matched⟩ := terminal_reason ends accepted.reason
  have admitted : reject (result.outcome ≠ .unsupported && result.outcome ≠ .permanentFailure)
      .invalidResult = .ok () := by
    rcases ends with outcome | outcome <;> rw [outcome] <;> rfl
  refine ⟨{ result with
    reason, monotonicExpiresAtMs := deadlineAt now result.expiresAt maxEvidenceTtlMs }, ?_,
    ⟨matched, accepted.duration, accepted.lifetime⟩, isCurrent_deadlineAt accepted.lives⟩
  unfold TerminalObservation.fromResult
  rw [admitted, given, monotonicDeadline_eq]
  rfl

end VerificationResult

namespace FailureHistory

theorem cooldownForStreak_bounds (streak : Nat) :
    0 < cooldownForStreak streak ∧ cooldownForStreak streak ≤ 60 * minuteMs := by
  unfold cooldownForStreak minuteMs
  split <;> omega

variable {previous : Option FailureHistory} {reason : EvidenceReason}
  {observedAt : EvidenceTimestamp} {now : StateNow} {history : FailureHistory}

theorem checkedAddU64_sum {left right sum : Nat} (added : checkedAddU64 left right = .ok sum) :
    sum = left + right := by
  unfold checkedAddU64 at added
  split at added
  · exact (Except.ok.inj added).symm
  · cases added

theorem checkedAdd_eq {timestamp later : EvidenceTimestamp} {milliseconds : Nat}
    (added : timestamp.checkedAdd milliseconds = .ok later) :
    later.milliseconds = timestamp.milliseconds + milliseconds := by
  unfold EvidenceTimestamp.checkedAdd at added
  obtain ⟨sum, summed, added⟩ := Results.bind_ok added
  unfold EvidenceTimestamp.new at added
  split at added
  · cases added
    exact checkedAddU64_sum summed
  · cases added

def nextStreak (previous : Option FailureHistory) (now : StateNow) : Nat :=
  min (((previous.filter fun history =>
    now.wall.milliseconds < history.expiresAt.milliseconds).map FailureHistory.streak).getD 0 + 1)
    maxFailureStreak

theorem next_shaped (recorded : next previous reason observedAt now = .ok history)
    (live : now.wall.milliseconds < observedAt.milliseconds + maxEvidenceTtlMs) :
    history.Shaped ∧ now.monotonicMs < history.monotonicExpiresAtMs ∧
      history.ClosesAfter now.monotonicMs := by
  unfold next at recorded
  obtain ⟨⟨⟩, temporary, recorded⟩ := Results.bind_ok recorded
  obtain ⟨cooldownUntil, cooling, recorded⟩ := Results.bind_ok recorded
  obtain ⟨expiresAt, expiring, recorded⟩ := Results.bind_ok recorded
  obtain ⟨closing, closed, recorded⟩ := Results.bind_ok recorded
  obtain ⟨deadline, computed, recorded⟩ := Results.bind_ok recorded
  have streak : 1 ≤ nextStreak previous now ∧ nextStreak previous now ≤ maxFailureStreak :=
    ⟨Nat.le_min.mpr ⟨Nat.le_add_left 1 _, by decide⟩, Nat.min_le_right _ _⟩
  have cooldown := cooldownForStreak_bounds (nextStreak previous now)
  replace cooling := checkedAdd_eq cooling
  replace expiring := checkedAdd_eq expiring
  replace closed := checkedAddU64_sum closed
  replace computed := checkedAddU64_sum computed
  rw [← Except.ok.inj recorded]
  refine ⟨⟨streak, ?_, ?_, rfl, ?_⟩, ?_, ?_⟩
  · simpa [reject_eq_ok] using temporary
  · simp only [lifetimeInvalid, Bool.or_eq_false_iff, decide_eq_false_iff_not]
    unfold maxEvidenceTtlMs minuteMs at *
    omega
  · simp only [cooldownInvalid, Option.any_some, Bool.or_eq_false_iff, decide_eq_false_iff_not]
    unfold nextStreak at cooldown
    omega
  · show now.monotonicMs < deadline
    unfold maxEvidenceTtlMs minuteMs at *
    omega
  · intro deadline shown
    cases shown
    have remaining := Nat.min_le_right (cooldownUntil.milliseconds - now.wall.milliseconds)
      (cooldownForStreak (nextStreak previous now))
    unfold nextStreak at cooldown remaining
    omega

theorem intoHistory_closes {persisted : PersistedFailureHistory}
    (read : persisted.intoHistory now = .ok history) : history.ClosesAfter now.monotonicMs := by
  unfold PersistedFailureHistory.intoHistory at read
  obtain ⟨lastFailureAt, _, read⟩ := Results.bind_ok read
  obtain ⟨expiresAt, _, read⟩ := Results.bind_ok read
  obtain ⟨cooldownUntil, _, read⟩ := Results.bind_ok read
  obtain ⟨_, _, read⟩ := Results.bind_ok read
  obtain ⟨_, _, read⟩ := Results.bind_ok read
  obtain ⟨closing, closed, read⟩ := Results.bind_ok read
  rw [mapM_deadline] at closed
  cases closed
  cases read
  intro deadline shown
  obtain ⟨cooldown, _, rfl⟩ := Option.map_eq_some_iff.mp shown
  exact Nat.add_le_add_left (Nat.min_le_right _ _) _

end FailureHistory

namespace EvidenceRecord

variable {record pruned after : EvidenceRecord} {result : VerificationResult} {mode : VerifierMode}
  {now : StateNow}

structure Settled (pruned : EvidenceRecord) (fails : Bool) (now : StateNow)
    (answer : Except StateError Transition × EvidenceRecord) : Prop where
  valid : answer.2.Valid now
  failed : ∀ error, answer.1 = .error error → answer.2 = pruned
  recorded : fails = true → answer.1.isOk = true →
    ∀ history ∈ answer.2.failureHistory, history.ClosesAfter now.monotonicMs
  earlier : fails = false ∨ answer.1.isOk = false →
    ∀ history ∈ answer.2.failureHistory, history ∈ pruned.failureHistory

theorem unchanged_settled {fails : Bool} {answer : Except StateError Transition}
    (valid : pruned.Valid now) (quiet : fails = false ∨ answer.isOk = false) :
    Settled pruned fails now (answer, pruned) := by
  refine ⟨valid, fun _ _ => rfl, fun failing succeeded => ?_, fun _ _ present => present⟩
  rcases quiet with quiet | quiet
  · rw [failing] at quiet
    cases quiet
  · rw [succeeded] at quiet
    cases quiet

theorem finish_ok {before : EvidenceRecord} (valid : after.Valid now) :
    finish now before (.ok after) = (.ok .keepRecord, after) := by
  simp only [finish, validate_eq_ok.mpr valid]

theorem finish_settled {fails : Bool} {changed : Except StateError EvidenceRecord}
    (valid : pruned.Valid now)
    (changes : ∀ after, changed = .ok after → after.Valid now ∧
      ∀ history ∈ after.failureHistory, fails = true ∧ history.ClosesAfter now.monotonicMs) :
    Settled pruned fails now (finish now pruned changed) := by
  cases changed with
  | error error => exact unchanged_settled valid (.inr rfl)
  | ok after =>
    obtain ⟨afterValid, closes⟩ := changes after rfl
    rw [finish_ok afterValid]
    refine ⟨afterValid, fun error failed => (by cases failed),
      fun _ _ history present => (closes history present).2, fun quiet history present => ?_⟩
    rcases quiet with quiet | quiet
    · rw [(closes history present).1] at quiet
      cases quiet
    · cases quiet

theorem correctness_settled (sound : record.Sound) (accepted : result.Accepted now)
    (target : result.target = .correctness) (outcome : result.outcome = .correctnessPassed) :
    Settled (record.pruneExpired now) false now (finish now (record.pruneExpired now) do
      let observation ← EvidenceObservation.fromResult result now
      return { record.pruneExpired now with
        correctness := some observation, terminal := none, failureHistory := none }) := by
  obtain ⟨observation, observed, shaped, current⟩ :=
    VerificationResult.observation_of_result accepted
  rw [target, outcome] at shaped
  have valid : (record.pruneExpired now).Valid now := sound.pruned_valid
  refine finish_settled valid fun after made => ?_
  rw [observed] at made
  cases made
  refine ⟨⟨?_, valid.realtime, valid.segmented, ?_, ?_, fun _ => ?_, ?_⟩, ?_⟩
  · rintro _ ⟨⟩
    exact EvidenceObservation.validateAs_shaped.mpr ⟨shaped, current⟩
  · rintro _ ⟨⟩
  · rintro ⟨⟩
  · exact requireCurrentCorrectness_eq_ok.mpr ⟨observation, rfl, current⟩
  · rintro _ ⟨⟩
  · rintro _ ⟨⟩

theorem ended_of_correctness (valid : pruned.Valid now)
    (based : pruned.requireCurrentCorrectness now = .ok ()) : pruned.terminal = none := by
  obtain ⟨observation, present, _⟩ := requireCurrentCorrectness_eq_ok.mp based
  cases ended : pruned.terminal with
  | none => rfl
  | some terminal =>
    have absent := (valid.exclusive (by rw [ended]; rfl)).1
    rw [absent] at present
    cases present

theorem dependent_settled {keep : EvidenceObservation → EvidenceRecord} (valid : pruned.Valid now)
    (accepted : result.Accepted now)
    (correctness : ∀ observation, (keep observation).correctness = pruned.correctness)
    (terminal : ∀ observation, (keep observation).terminal = pruned.terminal)
    (history : ∀ observation, (keep observation).failureHistory = none)
    (realtime : ∀ observation,
      observation.validateAs result.target result.outcome now = .ok () →
      ∀ kept ∈ (keep observation).realtime, kept.validateAs .realtime .realtimePassed now = .ok ())
    (segmented : ∀ observation,
      observation.validateAs result.target result.outcome now = .ok () →
      ∀ kept ∈ (keep observation).segmented,
        kept.validateAs .segmented .correctnessPassed now = .ok ()) :
    Settled pruned false now (finish now pruned do
      pruned.requireCurrentCorrectness now
      let observation ← EvidenceObservation.fromResult result now
      return keep observation) := by
  obtain ⟨observation, observed, shaped, current⟩ :=
    VerificationResult.observation_of_result accepted
  have validated := EvidenceObservation.validateAs_shaped.mpr ⟨shaped, current⟩
  refine finish_settled valid fun after made => ?_
  obtain ⟨⟨⟩, based, made⟩ := Results.bind_ok made
  rw [observed] at made
  cases made
  refine ⟨⟨?_, realtime _ validated, segmented _ validated, ?_, ?_, fun _ => ?_, ?_⟩, ?_⟩
  · rw [correctness]
    exact valid.correctness
  · rw [terminal]
    exact valid.terminal
  · intro ended
    rw [terminal, ended_of_correctness valid based] at ended
    cases ended
  · unfold requireCurrentCorrectness at based ⊢
    rw [correctness]
    exact based
  · rw [history]
    rintro _ ⟨⟩
  · rw [history]
    rintro _ ⟨⟩

theorem segmented_settled (valid : pruned.Valid now) (accepted : result.Accepted now)
    (target : result.target = .segmented) (outcome : result.outcome = .correctnessPassed) :
    Settled pruned false now (finish now pruned do
      pruned.requireCurrentCorrectness now
      let observation ← EvidenceObservation.fromResult result now
      return { pruned with segmented := some observation, failureHistory := none }) := by
  refine dependent_settled valid accepted (fun _ => rfl) (fun _ => rfl) (fun _ => rfl)
    (fun _ _ => valid.realtime) fun observation validated => ?_
  rw [target, outcome] at validated
  rintro _ ⟨⟩
  exact validated

theorem realtime_settled (valid : pruned.Valid now) (accepted : result.Accepted now)
    (target : result.target = .realtime) (outcome : result.outcome = .realtimePassed) :
    Settled pruned false now (finish now pruned do
      pruned.requireCurrentCorrectness now
      let observation ← EvidenceObservation.fromResult result now
      return { pruned with realtime := some observation, failureHistory := none }) := by
  refine dependent_settled valid accepted (fun _ => rfl) (fun _ => rfl) (fun _ => rfl)
    (fun observation validated => ?_) fun _ _ => valid.segmented
  rw [target, outcome] at validated
  rintro _ ⟨⟩
  exact validated

theorem terminal_settled (before : EvidenceRecord) (key : CapabilityKey)
    (accepted : result.Accepted now)
    (ends : result.outcome = .unsupported ∨ result.outcome = .permanentFailure) :
    Settled pruned false now (finish now before do
      let terminal ← TerminalObservation.fromResult result now
      return { EvidenceRecord.new key with terminal := some terminal }) := by
  obtain ⟨terminal, observed, shaped, current⟩ :=
    VerificationResult.terminal_of_result accepted ends
  rw [observed]
  have valid : ({ EvidenceRecord.new key with terminal := some terminal }).Valid now := by
    refine ⟨?_, ?_, ?_, ?_, fun _ => ⟨rfl, rfl, rfl⟩, ?_, ?_⟩
    · rintro _ ⟨⟩
    · rintro _ ⟨⟩
    · rintro _ ⟨⟩
    · rintro _ ⟨⟩
      exact TerminalObservation.validate_shaped.mpr ⟨shaped, current⟩
    · rintro (later | later) <;> cases later
    · rintro _ ⟨⟩
  show Settled pruned false now (finish now before (.ok _))
  rw [finish_ok valid]
  refine ⟨valid, fun error failed => (by cases failed), fun failing => (by cases failing), ?_⟩
  rintro _ _ ⟨⟩

theorem failure_settled (valid : pruned.Valid now) (accepted : result.Accepted now) :
    Settled pruned true now (finish now pruned do
      match result.reason with
      | none => throw .invalidResult
      | some reason =>
          let history ← FailureHistory.next pruned.failureHistory reason result.observedAt now
          return { pruned with failureHistory := some history }) := by
  refine finish_settled valid fun after made => ?_
  cases given : result.reason with
  | none =>
    rw [given] at made
    cases made
  | some reason =>
    rw [given] at made
    obtain ⟨history, recorded, made⟩ := Results.bind_ok made
    cases made
    have live : now.wall.milliseconds < result.observedAt.milliseconds + maxEvidenceTtlMs := by
      have ahead := accepted.lives.1
      have lifetime := accepted.lifetime
      simp only [lifetimeInvalid, Bool.or_eq_false_iff, decide_eq_false_iff_not] at lifetime
      omega
    obtain ⟨shaped, deadline, closes⟩ := FailureHistory.next_shaped recorded live
    refine ⟨⟨valid.correctness, valid.realtime, valid.segmented, valid.terminal, valid.exclusive,
      valid.based, ?_⟩, ?_⟩
    · rintro _ ⟨⟩
      exact FailureHistory.validate_shaped.mpr ⟨shaped, deadline⟩
    · rintro _ ⟨⟩
      exact ⟨rfl, closes⟩

theorem apply_settled (sound : record.Sound) (validated : result.validateAt now = .ok ()) :
    Settled (record.pruneExpired now) (result.outcome = .temporaryFailure) now
      (record.apply result .activeInjected now) := by
  have accepted := VerificationResult.validateAt_accepted validated
  have valid : (record.pruneExpired now).Valid now := sound.pruned_valid
  unfold apply
  rw [validated]
  simp only [reduceCtorEq, if_false]
  split
  · next outcome target =>
    rw [outcome]
    exact correctness_settled sound accepted target outcome
  · next outcome target =>
    rw [outcome]
    exact segmented_settled valid accepted target outcome
  · next outcome target =>
    rw [outcome]
    exact realtime_settled valid accepted target outcome
  · next outcome =>
    rw [outcome]
    exact terminal_settled _ _ accepted (.inl outcome)
  · next outcome =>
    rw [outcome]
    exact terminal_settled _ _ accepted (.inr outcome)
  · next outcome =>
    rw [outcome]
    exact failure_settled valid accepted
  · next outcome =>
    rw [outcome]
    exact unchanged_settled valid (.inl rfl)
  · next outcome =>
    rw [outcome]
    exact unchanged_settled valid (.inl rfl)
  · exact unchanged_settled valid (.inr rfl)
  · exact unchanged_settled valid (.inr rfl)

end EvidenceRecord

end StreamServer.Capability
