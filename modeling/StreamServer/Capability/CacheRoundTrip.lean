import StreamServer.Capability.CacheSchema

set_option autoImplicit false

namespace StreamServer.Capability

open MachineInt

/-- The clock has not reached the end, and the start is not further ahead than the allowed skew. -/
def LivesAt (now : StateNow) (observedAt expiresAt : EvidenceTimestamp) : Prop :=
  now.wall.milliseconds < expiresAt.milliseconds ∧
    observedAt.milliseconds ≤ now.wall.milliseconds + maxFutureSkewMs

def deadlineAt (now : StateNow) (expiresAt : EvidenceTimestamp) (limit : Nat) : Nat :=
  now.monotonicMs + min (expiresAt.milliseconds - now.wall.milliseconds) limit

theorem checkedAddU64_eq (now : StateNow) {duration : Nat} (short : duration ≤ maxEvidenceTtlMs) :
    checkedAddU64 now.monotonicMs duration = .ok (now.monotonicMs + duration) := by
  have bounded := now.bounded
  unfold checkedAddU64
  refine if_pos ?_
  simp only [maxSafeInteger, maxEvidenceTtlMs, minuteMs, u64Limit] at bounded short ⊢
  omega

theorem monotonicDeadline_eq (now : StateNow) (expiresAt : EvidenceTimestamp) :
    monotonicDeadline expiresAt now = .ok (deadlineAt now expiresAt maxEvidenceTtlMs) :=
  checkedAddU64_eq now (Nat.min_le_right _ _)

theorem isCurrent_deadlineAt {now : StateNow} {observedAt expiresAt : EvidenceTimestamp}
    (lives : LivesAt now observedAt expiresAt) :
    isCurrent now expiresAt (deadlineAt now expiresAt maxEvidenceTtlMs) = true := by
  have ahead := lives.1
  have positive : 0 < maxEvidenceTtlMs := by decide
  unfold isCurrent deadlineAt
  rw [Bool.and_eq_true, decide_eq_true_eq, decide_eq_true_eq]
  omega

theorem not_future {now : StateNow} {observedAt expiresAt : EvidenceTimestamp}
    (lives : LivesAt now observedAt expiresAt) :
    ¬ observedAt.milliseconds > satAdd now.wall.milliseconds maxFutureSkewMs := by
  have near := lives.2
  have bounded := now.wall.bounded
  rw [satAdd_eq]
  · omega
  · simp only [maxSafeInteger, maxFutureSkewMs, minuteMs, u64Limit] at bounded ⊢
    omega

theorem validateAt_of_lives {result : VerificationResult} {now : StateNow}
    (shape : result.validateShape = .ok ())
    (lives : LivesAt now result.observedAt result.expiresAt) : result.validateAt now = .ok () := by
  have near : reject (result.observedAt.milliseconds >
      satAdd now.wall.milliseconds maxFutureSkewMs) .futureObservation = .ok () :=
    reject_eq_ok.mpr (decide_eq_false (not_future lives))
  have ahead : reject (result.expiresAt.milliseconds ≤ now.wall.milliseconds) .expiredResult =
      .ok () :=
    reject_eq_ok.mpr (decide_eq_false (Nat.not_le.mpr lives.1))
  unfold VerificationResult.validateAt
  rw [shape, near, ahead]
  rfl

namespace EvidenceObservation

def restoredAt (now : StateNow) (observation : EvidenceObservation) : EvidenceObservation :=
  { observation with
    monotonicExpiresAtMs := deadlineAt now observation.expiresAt maxEvidenceTtlMs }

def durable (observation : EvidenceObservation) : EvidenceObservation :=
  { observation with monotonicExpiresAtMs := 0 }

theorem validateAs_eq_ok {observation : EvidenceObservation} {target : EvidenceTarget}
    {outcome : EvidenceOutcome} {now : StateNow} :
    observation.validateAs target outcome now = .ok () ↔
      observation.target = target ∧ observation.outcome = outcome ∧
        observation.durationMs ≤ maxSafeInteger ∧
        lifetimeInvalid observation.observedAt observation.expiresAt = false ∧
        observation.isCurrent now = true := by
  unfold validateAs
  rw [reject_eq_ok]
  simp [and_assoc]

variable {observation : EvidenceObservation} {target : EvidenceTarget} {outcome : EvidenceOutcome}
  {now later : StateNow}

theorem restoredAt_valid (valid : observation.validateAs target outcome now = .ok ())
    (lives : LivesAt later observation.observedAt observation.expiresAt) :
    (observation.restoredAt later).validateAs target outcome later = .ok () := by
  obtain ⟨sameTarget, sameOutcome, duration, lifetime, _⟩ := validateAs_eq_ok.mp valid
  exact validateAs_eq_ok.mpr
    ⟨sameTarget, sameOutcome, duration, lifetime, isCurrent_deadlineAt lives⟩

theorem intoObservation_ofObservation
    (valid : observation.validateAs target outcome now = .ok ())
    (passed : outcome = .correctnessPassed ∨ outcome = .realtimePassed)
    (matching : VerificationResult.targetMatches target outcome = true)
    (lives : LivesAt later observation.observedAt observation.expiresAt) :
    (PersistedObservation.ofObservation observation).intoObservation later =
      .ok (observation.restoredAt later) := by
  obtain ⟨rfl, rfl, duration, lifetime, _⟩ := validateAs_eq_ok.mp valid
  let result : VerificationResult :=
    ⟨observation.target, observation.outcome, none, observation.observedAt, observation.durationMs,
      observation.expiresAt⟩
  have long : ¬ observation.durationMs > maxSafeInteger := by omega
  have shape : result.validateShape = .ok () := by
    unfold VerificationResult.validateShape
    simp only [result, lifetime, matching, long, decide_false, Bool.or_self, VerificationResult.positive]
    obtain pass | pass := passed <;>
      simp [pass, reject, VerificationResult.reasonMatches, bind, Except.bind]
  have made : VerificationResult.new observation.target observation.outcome none
      observation.observedAt observation.durationMs observation.expiresAt = .ok result := by
    show result.validateShape.bind _ = _
    rw [shape]
    rfl
  show (EvidenceTimestamp.new observation.observedAt.milliseconds).bind _ = _
  rw [EvidenceTimestamp.new_milliseconds]
  show (EvidenceTimestamp.new observation.expiresAt.milliseconds).bind _ = _
  rw [EvidenceTimestamp.new_milliseconds]
  show (VerificationResult.new observation.target observation.outcome none
      observation.observedAt observation.durationMs observation.expiresAt).bind _ = _
  rw [made]
  show (result.validateAt later).bind _ = _
  rw [validateAt_of_lives shape lives]
  show (monotonicDeadline observation.expiresAt later).bind _ = _
  rw [monotonicDeadline_eq]
  rfl

end EvidenceObservation

namespace TerminalObservation

def restoredAt (now : StateNow) (observation : TerminalObservation) : TerminalObservation :=
  { observation with
    monotonicExpiresAtMs := deadlineAt now observation.expiresAt maxEvidenceTtlMs }

def durable (observation : TerminalObservation) : TerminalObservation :=
  { observation with monotonicExpiresAtMs := 0 }

variable {observation : TerminalObservation} {now later : StateNow}

theorem validate_eq_ok :
    observation.validate now = .ok () ↔
      reasonMatches observation.outcome observation.reason = true ∧
        observation.durationMs ≤ maxSafeInteger ∧
        lifetimeInvalid observation.observedAt observation.expiresAt = false ∧
        observation.isCurrent now = true := by
  unfold validate
  rw [reject_eq_ok]
  simp [and_assoc]

theorem restoredAt_valid (valid : observation.validate now = .ok ())
    (lives : LivesAt later observation.observedAt observation.expiresAt) :
    (observation.restoredAt later).validate later = .ok () := by
  obtain ⟨reason, duration, lifetime, _⟩ := validate_eq_ok.mp valid
  exact validate_eq_ok.mpr ⟨reason, duration, lifetime, isCurrent_deadlineAt lives⟩

theorem reasonMatches_cases (matching : reasonMatches observation.outcome observation.reason = true) :
    observation.outcome = .unsupported ∧ observation.reason = .unsupported ∨
      observation.outcome = .permanentFailure ∧ observation.reason = .permanentFailure := by
  revert matching
  cases observation.outcome <;> cases observation.reason <;> simp [reasonMatches]

theorem intoTerminal_ofTerminal (valid : observation.validate now = .ok ())
    (lives : LivesAt later observation.observedAt observation.expiresAt) :
    (PersistedTerminalObservation.ofTerminal observation).intoTerminal later =
      .ok (observation.restoredAt later) := by
  obtain ⟨matching, duration, lifetime, _⟩ := validate_eq_ok.mp valid
  let result : VerificationResult :=
    ⟨observation.target, observation.outcome, some observation.reason, observation.observedAt,
      observation.durationMs, observation.expiresAt⟩
  have long : ¬ observation.durationMs > maxSafeInteger := by omega
  have shape : result.validateShape = .ok () := by
    unfold VerificationResult.validateShape
    simp only [result, lifetime, long, decide_false, Bool.or_self, VerificationResult.positive]
    obtain ⟨outcome, reason⟩ | ⟨outcome, reason⟩ := reasonMatches_cases matching <;>
      simp [outcome, reason, reject, VerificationResult.reasonMatches,
        VerificationResult.targetMatches, bind, Except.bind]
  have made : VerificationResult.new observation.target observation.outcome
      (some observation.reason) observation.observedAt observation.durationMs
      observation.expiresAt = .ok result := by
    show result.validateShape.bind _ = _
    rw [shape]
    rfl
  have terminal : result.outcome ≠ .unsupported ∧ result.outcome ≠ .permanentFailure → False := by
    obtain ⟨outcome, _⟩ | ⟨outcome, _⟩ := reasonMatches_cases matching <;> simp [result, outcome]
  have accepted : reject (result.outcome ≠ .unsupported && result.outcome ≠ .permanentFailure)
      .invalidResult = .ok () := by
    rw [reject_eq_ok]
    simpa using terminal
  show (EvidenceTimestamp.new observation.observedAt.milliseconds).bind _ = _
  rw [EvidenceTimestamp.new_milliseconds]
  show (EvidenceTimestamp.new observation.expiresAt.milliseconds).bind _ = _
  rw [EvidenceTimestamp.new_milliseconds]
  show (VerificationResult.new observation.target observation.outcome (some observation.reason)
      observation.observedAt observation.durationMs observation.expiresAt).bind _ = _
  rw [made]
  show (result.validateAt later).bind _ = _
  rw [validateAt_of_lives shape lives]
  show (reject _ _).bind _ = _
  rw [accepted]
  show (monotonicDeadline observation.expiresAt later).bind _ = _
  rw [monotonicDeadline_eq]
  rfl

end TerminalObservation

namespace FailureHistory

def restoredAt (now : StateNow) (history : FailureHistory) : FailureHistory :=
  { history with
    monotonicCooldownUntilMs := history.cooldownUntil.map fun cooldown =>
      deadlineAt now cooldown (60 * minuteMs)
    monotonicExpiresAtMs := deadlineAt now history.expiresAt maxEvidenceTtlMs }

def durable (history : FailureHistory) : FailureHistory :=
  { history with monotonicCooldownUntilMs := none, monotonicExpiresAtMs := 0 }

variable {history : FailureHistory} {now later : StateNow}

theorem validate_eq_ok :
    history.validate now = .ok () ↔
      history.streak ≠ 0 ∧ history.streak ≤ maxFailureStreak ∧
        temporaryReason history.reason = true ∧
        lifetimeInvalid history.lastFailureAt history.expiresAt = false ∧
        history.cooldownUntil.isSome = history.monotonicCooldownUntilMs.isSome ∧
        now.monotonicMs < history.monotonicExpiresAtMs ∧
        cooldownInvalid history.lastFailureAt history.cooldownUntil = false := by
  unfold validate
  rw [reject_eq_ok]
  simp [and_assoc]

theorem restoredAt_valid (valid : history.validate now = .ok ())
    (lives : LivesAt later history.lastFailureAt history.expiresAt) :
    (history.restoredAt later).validate later = .ok () := by
  obtain ⟨failed, streak, reason, lifetime, _, _, cooldown⟩ := validate_eq_ok.mp valid
  have current := isCurrent_deadlineAt lives
  rw [Capability.isCurrent, Bool.and_eq_true, decide_eq_true_eq, decide_eq_true_eq] at current
  refine validate_eq_ok.mpr ⟨failed, streak, reason, lifetime, ?_, current.2, cooldown⟩
  simp [restoredAt]

theorem mapM_new (timestamp : Option EvidenceTimestamp) :
    (timestamp.map EvidenceTimestamp.milliseconds).mapM EvidenceTimestamp.new = .ok timestamp := by
  cases timestamp with
  | none => rfl
  | some timestamp =>
    show (EvidenceTimestamp.new timestamp.milliseconds).map some = _
    rw [EvidenceTimestamp.new_milliseconds]
    rfl

theorem mapM_deadline (timestamp : Option EvidenceTimestamp) (now : StateNow) :
    (timestamp.mapM fun cooldown => checkedAddU64 now.monotonicMs
      (min (cooldown.milliseconds - now.wall.milliseconds) (60 * minuteMs))) =
        .ok (timestamp.map fun cooldown => deadlineAt now cooldown (60 * minuteMs)) := by
  cases timestamp with
  | none => rfl
  | some timestamp =>
    show (checkedAddU64 _ _).map some = _
    rw [checkedAddU64_eq now ((Nat.min_le_right _ _).trans (by decide))]
    rfl

theorem intoHistory_ofHistory (valid : history.validate now = .ok ())
    (lives : LivesAt later history.lastFailureAt history.expiresAt) :
    (PersistedFailureHistory.ofHistory history).intoHistory later =
      .ok (history.restoredAt later) := by
  obtain ⟨failed, streak, _, lifetime, _, _, cooldown⟩ := validate_eq_ok.mp valid
  have accepted : (PersistedFailureHistory.ofHistory history).rejected later history.lastFailureAt
      history.expiresAt history.cooldownUntil = false := by
    have ahead := lives.1
    simp only [PersistedFailureHistory.rejected, PersistedFailureHistory.ofHistory,
      Bool.or_eq_false_iff]
    exact ⟨⟨⟨⟨⟨decide_eq_false failed, decide_eq_false (by omega)⟩,
      decide_eq_false (not_future lives)⟩, decide_eq_false (by omega)⟩, lifetime⟩, cooldown⟩
  show (EvidenceTimestamp.new history.lastFailureAt.milliseconds).bind _ = _
  rw [EvidenceTimestamp.new_milliseconds]
  show (EvidenceTimestamp.new history.expiresAt.milliseconds).bind _ = _
  rw [EvidenceTimestamp.new_milliseconds]
  show ((history.cooldownUntil.map EvidenceTimestamp.milliseconds).mapM
    EvidenceTimestamp.new).bind _ = _
  rw [mapM_new]
  show (reject _ _).bind _ = _
  rw [accepted]
  show (monotonicDeadline history.expiresAt later).bind _ = _
  rw [monotonicDeadline_eq]
  show Except.bind (history.cooldownUntil.mapM _) _ = _
  rw [mapM_deadline]
  rfl

end FailureHistory

namespace EvidenceRecord

structure UnexpiredAt (record : EvidenceRecord) (now : StateNow) : Prop where
  correctness : ∀ observation ∈ record.correctness,
    LivesAt now observation.observedAt observation.expiresAt
  realtime : ∀ observation ∈ record.realtime,
    LivesAt now observation.observedAt observation.expiresAt
  segmented : ∀ observation ∈ record.segmented,
    LivesAt now observation.observedAt observation.expiresAt
  terminal : ∀ observation ∈ record.terminal,
    LivesAt now observation.observedAt observation.expiresAt
  history : ∀ history ∈ record.failureHistory, LivesAt now history.lastFailureAt history.expiresAt

def holdsEvidence (record : EvidenceRecord) : Bool :=
  record.correctness.isSome || record.realtime.isSome || record.segmented.isSome ||
    record.terminal.isSome || record.failureHistory.isSome

def restoredAt (now : StateNow) (record : EvidenceRecord) : EvidenceRecord where
  key := record.key
  correctness := record.correctness.map (·.restoredAt now)
  realtime := record.realtime.map (·.restoredAt now)
  segmented := record.segmented.map (·.restoredAt now)
  terminal := record.terminal.map (·.restoredAt now)
  failureHistory := record.failureHistory.map (·.restoredAt now)

def durable (record : EvidenceRecord) : EvidenceRecord where
  key := record.key
  correctness := record.correctness.map EvidenceObservation.durable
  realtime := record.realtime.map EvidenceObservation.durable
  segmented := record.segmented.map EvidenceObservation.durable
  terminal := record.terminal.map TerminalObservation.durable
  failureHistory := record.failureHistory.map FailureHistory.durable

theorem durable_restoredAt (now : StateNow) (record : EvidenceRecord) :
    (record.restoredAt now).durable = record.durable := by
  unfold durable restoredAt
  simp only [Option.map_map]
  rfl

variable {record : EvidenceRecord} {now later : StateNow}

theorem forall_mem_map {A : Type} {value : Option A} {change : A → A} {property : A → Prop}
    (each : ∀ item ∈ value, property (change item)) : ∀ item ∈ value.map change, property item := by
  intro item member
  obtain ⟨before, present, rfl⟩ := Option.map_eq_some_iff.mp member
  exact each before present

theorem restoredAt_valid (valid : record.Valid now) (lives : record.UnexpiredAt later) :
    (record.restoredAt later).Valid later where
  correctness := forall_mem_map fun observation present =>
    EvidenceObservation.restoredAt_valid (valid.correctness observation present)
      (lives.correctness observation present)
  realtime := forall_mem_map fun observation present =>
    EvidenceObservation.restoredAt_valid (valid.realtime observation present)
      (lives.realtime observation present)
  segmented := forall_mem_map fun observation present =>
    EvidenceObservation.restoredAt_valid (valid.segmented observation present)
      (lives.segmented observation present)
  terminal := forall_mem_map fun observation present =>
    TerminalObservation.restoredAt_valid (valid.terminal observation present)
      (lives.terminal observation present)
  exclusive ended := by
    have before := valid.exclusive (by simpa [restoredAt] using ended)
    simpa [restoredAt] using before
  based later' := by
    have before := valid.based (by simpa [restoredAt] using later')
    unfold requireCurrentCorrectness at before ⊢
    rw [reject_eq_ok] at before ⊢
    cases present : record.correctness with
    | none => simp [present] at before
    | some observation =>
      have current : (observation.restoredAt later).isCurrent later = true :=
        isCurrent_deadlineAt (lives.correctness observation present)
      simp [restoredAt, present, current]
  history := forall_mem_map fun history present =>
    FailureHistory.restoredAt_valid (valid.history history present) (lives.history history present)

end EvidenceRecord

end StreamServer.Capability
