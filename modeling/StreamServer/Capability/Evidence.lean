import StreamServer.Capability.Key
import StreamServer.Shared.Checked

set_option autoImplicit false

namespace StreamServer.Capability

open MachineInt

def minuteMs : Nat := 60000

def maxEvidenceTtlMs : Nat := 24 * 60 * minuteMs

def maxFutureSkewMs : Nat := 5 * minuteMs

def maxSafeInteger : Nat := 9007199254740991

def maxFailureStreak : Nat := 4

inductive StateError where
  | bounds
  | futureObservation
  | expiredResult
  | impossibleState
  | invalidResult
  | invalidVerifierMode
  | missingCorrectness
deriving DecidableEq, Repr

def reject (condition : Bool) (error : StateError) : Except StateError Unit :=
  if condition then .error error else .ok ()

theorem reject_eq_ok {condition : Bool} {error : StateError} :
    reject condition error = .ok () ↔ condition = false := by
  cases condition <;> simp [reject]

structure EvidenceTimestamp where
  milliseconds : Nat
  bounded : milliseconds ≤ maxSafeInteger
deriving DecidableEq, Repr

def EvidenceTimestamp.new (milliseconds : Nat) : Except StateError EvidenceTimestamp :=
  if bounded : milliseconds ≤ maxSafeInteger then .ok ⟨milliseconds, bounded⟩ else .error .bounds

theorem EvidenceTimestamp.new_milliseconds (timestamp : EvidenceTimestamp) :
    EvidenceTimestamp.new timestamp.milliseconds = .ok timestamp := by
  unfold EvidenceTimestamp.new
  rw [dif_pos timestamp.bounded]

def checkedAddU64 (left right : Nat) : Except StateError Nat :=
  if left + right < u64Limit then .ok (left + right) else .error .bounds

def EvidenceTimestamp.checkedAdd (timestamp : EvidenceTimestamp) (milliseconds : Nat) :
    Except StateError EvidenceTimestamp := do
  EvidenceTimestamp.new (← checkedAddU64 timestamp.milliseconds milliseconds)

structure StateNow where
  wall : EvidenceTimestamp
  monotonicMs : Nat
  bounded : monotonicMs ≤ maxSafeInteger
deriving DecidableEq, Repr

inductive EvidenceTarget where
  | correctness
  | realtime
  | segmented
deriving DecidableEq, Repr

inductive EvidenceOutcome where
  | correctnessPassed
  | realtimePassed
  | unsupported
  | notPresent
  | temporaryFailure
  | permanentFailure
  | cancelled
deriving DecidableEq, Repr

inductive EvidenceReason where
  | verificationFailed
  | verificationNotImplemented
  | verificationTimeout
  | unsupported
  | permanentFailure
deriving DecidableEq, Repr

inductive VerifierMode where
  | observationalOnly
  | activeInjected
deriving DecidableEq, Repr

def lifetimeInvalid (observedAt expiresAt : EvidenceTimestamp) : Bool :=
  expiresAt.milliseconds ≤ observedAt.milliseconds ||
    expiresAt.milliseconds - observedAt.milliseconds > maxEvidenceTtlMs

structure VerificationResult where
  target : EvidenceTarget
  outcome : EvidenceOutcome
  reason : Option EvidenceReason
  observedAt : EvidenceTimestamp
  durationMs : Nat
  expiresAt : EvidenceTimestamp
deriving DecidableEq, Repr

namespace VerificationResult

def positive (result : VerificationResult) : Bool :=
  result.outcome = .correctnessPassed || result.outcome = .realtimePassed

def reasonMatches : EvidenceOutcome → Option EvidenceReason → Bool
  | .unsupported, some .unsupported => true
  | .permanentFailure, some .permanentFailure => true
  | .temporaryFailure, some .verificationFailed => true
  | .temporaryFailure, some .verificationTimeout => true
  | .notPresent, some _ => true
  | .cancelled, some _ => true
  | .correctnessPassed, none => true
  | .realtimePassed, none => true
  | _, _ => false

def targetMatches : EvidenceTarget → EvidenceOutcome → Bool
  | .correctness, .correctnessPassed => true
  | .segmented, .correctnessPassed => true
  | .realtime, .realtimePassed => true
  | _, .unsupported => true
  | _, .notPresent => true
  | _, .temporaryFailure => true
  | _, .permanentFailure => true
  | _, .cancelled => true
  | _, _ => false

def validateShape (result : VerificationResult) : Except StateError Unit := do
  reject (result.durationMs > maxSafeInteger ||
    lifetimeInvalid result.observedAt result.expiresAt) .bounds
  reject (result.positive = result.reason.isSome) .invalidResult
  reject (!reasonMatches result.outcome result.reason) .invalidResult
  reject (!targetMatches result.target result.outcome) .invalidResult

def new (target : EvidenceTarget) (outcome : EvidenceOutcome) (reason : Option EvidenceReason)
    (observedAt : EvidenceTimestamp) (durationMs : Nat) (expiresAt : EvidenceTimestamp) :
    Except StateError VerificationResult := do
  let result : VerificationResult := { target, outcome, reason, observedAt, durationMs, expiresAt }
  result.validateShape
  return result

def validateAt (result : VerificationResult) (now : StateNow) : Except StateError Unit := do
  result.validateShape
  reject (result.observedAt.milliseconds > satAdd now.wall.milliseconds maxFutureSkewMs)
    .futureObservation
  reject (result.expiresAt.milliseconds ≤ now.wall.milliseconds) .expiredResult

end VerificationResult

def monotonicDeadline (expiresAt : EvidenceTimestamp) (now : StateNow) : Except StateError Nat :=
  checkedAddU64 now.monotonicMs
    (min (expiresAt.milliseconds - now.wall.milliseconds) maxEvidenceTtlMs)

def isCurrent (now : StateNow) (expiresAt : EvidenceTimestamp) (monotonicExpiresAtMs : Nat) : Bool :=
  now.wall.milliseconds < expiresAt.milliseconds && now.monotonicMs < monotonicExpiresAtMs

structure EvidenceObservation where
  target : EvidenceTarget
  outcome : EvidenceOutcome
  observedAt : EvidenceTimestamp
  durationMs : Nat
  expiresAt : EvidenceTimestamp
  monotonicExpiresAtMs : Nat
deriving DecidableEq, Repr

namespace EvidenceObservation

def fromResult (result : VerificationResult) (now : StateNow) :
    Except StateError EvidenceObservation := do
  let monotonicExpiresAtMs ← monotonicDeadline result.expiresAt now
  return { result with monotonicExpiresAtMs }

def isCurrent (observation : EvidenceObservation) (now : StateNow) : Bool :=
  Capability.isCurrent now observation.expiresAt observation.monotonicExpiresAtMs

def validateAs (observation : EvidenceObservation) (target : EvidenceTarget)
    (outcome : EvidenceOutcome) (now : StateNow) : Except StateError Unit :=
  reject (observation.target ≠ target || observation.outcome ≠ outcome ||
    observation.durationMs > maxSafeInteger ||
    lifetimeInvalid observation.observedAt observation.expiresAt ||
    !observation.isCurrent now) .impossibleState

end EvidenceObservation

structure TerminalObservation where
  target : EvidenceTarget
  outcome : EvidenceOutcome
  reason : EvidenceReason
  observedAt : EvidenceTimestamp
  durationMs : Nat
  expiresAt : EvidenceTimestamp
  monotonicExpiresAtMs : Nat
deriving DecidableEq, Repr

namespace TerminalObservation

def fromResult (result : VerificationResult) (now : StateNow) :
    Except StateError TerminalObservation := do
  reject (result.outcome ≠ .unsupported && result.outcome ≠ .permanentFailure) .invalidResult
  match result.reason with
  | none => throw .invalidResult
  | some reason =>
      let monotonicExpiresAtMs ← monotonicDeadline result.expiresAt now
      return { result with reason, monotonicExpiresAtMs }

def isCurrent (observation : TerminalObservation) (now : StateNow) : Bool :=
  Capability.isCurrent now observation.expiresAt observation.monotonicExpiresAtMs

def reasonMatches : EvidenceOutcome → EvidenceReason → Bool
  | .unsupported, .unsupported => true
  | .permanentFailure, .permanentFailure => true
  | _, _ => false

def validate (observation : TerminalObservation) (now : StateNow) : Except StateError Unit :=
  reject (!reasonMatches observation.outcome observation.reason ||
    observation.durationMs > maxSafeInteger ||
    lifetimeInvalid observation.observedAt observation.expiresAt ||
    !observation.isCurrent now) .impossibleState

end TerminalObservation

structure FailureHistory where
  streak : Nat
  reason : EvidenceReason
  lastFailureAt : EvidenceTimestamp
  expiresAt : EvidenceTimestamp
  cooldownUntil : Option EvidenceTimestamp
  monotonicCooldownUntilMs : Option Nat
  monotonicExpiresAtMs : Nat
deriving DecidableEq, Repr

def cooldownForStreak : Nat → Nat
  | 0 | 1 => 10 * minuteMs
  | 2 => 20 * minuteMs
  | 3 => 40 * minuteMs
  | _ => 60 * minuteMs

def cooldownInvalid (lastFailureAt : EvidenceTimestamp) (cooldownUntil : Option EvidenceTimestamp) :
    Bool :=
  cooldownUntil.any fun cooldown =>
    cooldown.milliseconds ≤ lastFailureAt.milliseconds ||
      cooldown.milliseconds - lastFailureAt.milliseconds > 60 * minuteMs

def temporaryReason (reason : EvidenceReason) : Bool :=
  reason = .verificationFailed || reason = .verificationTimeout

namespace FailureHistory

def next (previous : Option FailureHistory) (reason : EvidenceReason)
    (observedAt : EvidenceTimestamp) (now : StateNow) : Except StateError FailureHistory := do
  reject (!temporaryReason reason) .invalidResult
  let previousStreak := ((previous.filter fun history =>
    now.wall.milliseconds < history.expiresAt.milliseconds).map FailureHistory.streak).getD 0
  let streak := min (previousStreak + 1) maxFailureStreak
  let cooldownMs := cooldownForStreak streak
  let cooldownUntil ← observedAt.checkedAdd cooldownMs
  let remainingMs := min (cooldownUntil.milliseconds - now.wall.milliseconds) cooldownMs
  let expiresAt ← observedAt.checkedAdd maxEvidenceTtlMs
  let monotonicCooldownUntilMs ← checkedAddU64 now.monotonicMs remainingMs
  let monotonicExpiresAtMs ← monotonicDeadline expiresAt now
  return {
    streak, reason
    lastFailureAt := observedAt
    expiresAt
    cooldownUntil := some cooldownUntil
    monotonicCooldownUntilMs := some monotonicCooldownUntilMs
    monotonicExpiresAtMs }

def isCurrent (history : FailureHistory) (now : StateNow) : Bool :=
  Capability.isCurrent now history.expiresAt history.monotonicExpiresAtMs

def circuitIsOpen (history : FailureHistory) (now : StateNow) : Bool :=
  history.cooldownUntil.isSome &&
    history.monotonicCooldownUntilMs.any fun deadline => now.monotonicMs < deadline

/-- Unlike the observations, a history is rejected for the monotonic deadline only. -/
def validate (history : FailureHistory) (now : StateNow) : Except StateError Unit :=
  reject (history.streak = 0 || history.streak > maxFailureStreak ||
    !temporaryReason history.reason ||
    lifetimeInvalid history.lastFailureAt history.expiresAt ||
    history.cooldownUntil.isSome ≠ history.monotonicCooldownUntilMs.isSome ||
    history.monotonicExpiresAtMs ≤ now.monotonicMs ||
    cooldownInvalid history.lastFailureAt history.cooldownUntil) .impossibleState

end FailureHistory

inductive CapabilityState where
  | listed
  | correctnessVerified
  | realtimeQualified
  | failed
  | circuitOpen
  | administrativelyDisabled
deriving DecidableEq, Repr

structure ProjectionContext where
  administrativelyDisabled : Bool
  listed : Bool
deriving DecidableEq, Repr

inductive Transition where
  | noChange
  | keepRecord
  | removeRecord
deriving DecidableEq, Repr

structure EvidenceRecord where
  key : CapabilityKey
  correctness : Option EvidenceObservation
  realtime : Option EvidenceObservation
  segmented : Option EvidenceObservation
  terminal : Option TerminalObservation
  failureHistory : Option FailureHistory
deriving DecidableEq

namespace EvidenceRecord

def new (key : CapabilityKey) : EvidenceRecord := ⟨key, none, none, none, none, none⟩

def pruneExpired (record : EvidenceRecord) (now : StateNow) : EvidenceRecord :=
  let expired := record.correctness.any fun observation => !observation.isCurrent now
  { record with
    correctness := if expired then none else record.correctness
    realtime :=
      if expired then none else record.realtime.filter fun observation => observation.isCurrent now
    segmented :=
      if expired then none else record.segmented.filter fun observation => observation.isCurrent now
    terminal := record.terminal.filter fun observation => observation.isCurrent now
    failureHistory := record.failureHistory.filter fun history => history.isCurrent now }

def requireCurrentCorrectness (record : EvidenceRecord) (now : StateNow) : Except StateError Unit :=
  reject (!record.correctness.any fun observation => observation.isCurrent now) .missingCorrectness

def validatePresent {A : Type} (present : Option A) (validate : A → Except StateError Unit) :
    Except StateError Unit :=
  match present with
  | none => .ok ()
  | some value => validate value

def validate (record : EvidenceRecord) (now : StateNow) : Except StateError Unit := do
  validatePresent record.correctness fun observation =>
    observation.validateAs .correctness .correctnessPassed now
  validatePresent record.realtime fun observation =>
    observation.validateAs .realtime .realtimePassed now
  validatePresent record.segmented fun observation =>
    observation.validateAs .segmented .correctnessPassed now
  validatePresent record.terminal fun terminal => terminal.validate now
  reject (record.terminal.isSome &&
    (record.correctness.isSome || record.realtime.isSome || record.segmented.isSome)) .impossibleState
  reject ((record.realtime.isSome || record.segmented.isSome) &&
    record.requireCurrentCorrectness now ≠ .ok ()) .impossibleState
  validatePresent record.failureHistory fun history => history.validate now

/-- The record is changed in place, also by a call that fails later. -/
def finish (now : StateNow) (before : EvidenceRecord) :
    Except StateError EvidenceRecord → Except StateError Transition × EvidenceRecord
  | .error error => (.error error, before)
  | .ok changed =>
      match changed.validate now with
      | .error error => (.error error, changed)
      | .ok () => (.ok .keepRecord, changed)

def apply (record : EvidenceRecord) (result : VerificationResult) (mode : VerifierMode)
    (now : StateNow) : Except StateError Transition × EvidenceRecord :=
  match result.validateAt now with
  | .error error => (.error error, record)
  | .ok () =>
      if mode = .observationalOnly then
        if result.outcome = .notPresent ∧ result.reason = some .verificationNotImplemented then
          (.ok .noChange, record)
        else (.error .invalidVerifierMode, record)
      else
        let pruned := record.pruneExpired now
        match result.outcome, result.target with
        | .correctnessPassed, .correctness => finish now pruned do
            let observation ← EvidenceObservation.fromResult result now
            return { pruned with
              correctness := some observation, terminal := none, failureHistory := none }
        | .correctnessPassed, .segmented => finish now pruned do
            pruned.requireCurrentCorrectness now
            let observation ← EvidenceObservation.fromResult result now
            return { pruned with segmented := some observation, failureHistory := none }
        | .realtimePassed, .realtime => finish now pruned do
            pruned.requireCurrentCorrectness now
            let observation ← EvidenceObservation.fromResult result now
            return { pruned with realtime := some observation, failureHistory := none }
        | .unsupported, _ | .permanentFailure, _ =>
            let cleared := EvidenceRecord.new record.key
            finish now { cleared with terminal := pruned.terminal } do
              let terminal ← TerminalObservation.fromResult result now
              return { cleared with terminal := some terminal }
        | .temporaryFailure, _ => finish now pruned do
            match result.reason with
            | none => throw .invalidResult
            | some reason =>
                let history ← FailureHistory.next pruned.failureHistory reason result.observedAt now
                return { pruned with failureHistory := some history }
        | .notPresent, _ => (.ok .removeRecord, pruned)
        | .cancelled, _ => (.ok .noChange, pruned)
        | .correctnessPassed, _ | .realtimePassed, _ => (.error .invalidResult, pruned)

def clearCooldownAfterRefresh (record : EvidenceRecord) (now : StateNow) : EvidenceRecord :=
  let pruned := record.pruneExpired now
  { pruned with failureHistory := pruned.failureHistory.map fun history =>
      { history with cooldownUntil := none, monotonicCooldownUntilMs := none } }

def project (record : EvidenceRecord) (now : StateNow) (context : ProjectionContext) :
    Option CapabilityState × EvidenceRecord :=
  let pruned := record.pruneExpired now
  let circuitOpen := pruned.failureHistory.any fun history => history.circuitIsOpen now
  let visible := context.listed || pruned.correctness.isSome || pruned.realtime.isSome ||
    pruned.segmented.isSome || pruned.terminal.isSome || circuitOpen
  let state :=
    if !visible then none
    else if context.administrativelyDisabled then some .administrativelyDisabled
    else if circuitOpen then some .circuitOpen
    else if pruned.terminal.isSome then some .failed
    else if pruned.realtime.isSome then some .realtimeQualified
    else if pruned.correctness.isSome || pruned.segmented.isSome then some .correctnessVerified
    else if context.listed then some .listed
    else none
  (state, pruned)

def observedTimes (record : EvidenceRecord) : List EvidenceTimestamp :=
  [record.correctness.map (·.observedAt), record.realtime.map (·.observedAt),
    record.segmented.map (·.observedAt), record.terminal.map (·.observedAt),
    record.failureHistory.map (·.lastFailureAt)].reduceOption

def lastObservedAt (record : EvidenceRecord) : Option Nat :=
  (record.observedTimes.map EvidenceTimestamp.milliseconds).max?

def targetIsCurrent (record : EvidenceRecord) (target : EvidenceTarget) (now : StateNow) : Bool :=
  let observed :=
    match target with
    | .correctness => record.correctness
    | .realtime => record.realtime
    | .segmented => record.segmented
  observed.any fun observation => observation.isCurrent now

structure Valid (record : EvidenceRecord) (now : StateNow) : Prop where
  correctness : ∀ observation ∈ record.correctness,
    observation.validateAs .correctness .correctnessPassed now = .ok ()
  realtime : ∀ observation ∈ record.realtime,
    observation.validateAs .realtime .realtimePassed now = .ok ()
  segmented : ∀ observation ∈ record.segmented,
    observation.validateAs .segmented .correctnessPassed now = .ok ()
  terminal : ∀ terminal ∈ record.terminal, terminal.validate now = .ok ()
  exclusive : record.terminal.isSome = true →
    record.correctness = none ∧ record.realtime = none ∧ record.segmented = none
  based : record.realtime.isSome = true ∨ record.segmented.isSome = true →
    record.requireCurrentCorrectness now = .ok ()
  history : ∀ history ∈ record.failureHistory, history.validate now = .ok ()

theorem validatePresent_eq_ok {A : Type} {present : Option A} {validate : A → Except StateError Unit} :
    validatePresent present validate = .ok () ↔ ∀ value ∈ present, validate value = .ok () := by
  cases present <;> simp [validatePresent]

theorem unit_bind_eq_ok {first next : Except StateError Unit} :
    (first.bind fun _ => next) = .ok () ↔ first = .ok () ∧ next = .ok () := by
  cases first <;> simp [Except.bind]

theorem validate_eq_ok {record : EvidenceRecord} {now : StateNow} :
    record.validate now = .ok () ↔ record.Valid now := by
  unfold validate
  simp only [bind, unit_bind_eq_ok, validatePresent_eq_ok, reject_eq_ok, Bool.and_eq_false_iff,
    Bool.or_eq_false_iff, Option.isSome_eq_false_iff, Option.isNone_iff_eq_none,
    decide_eq_false_iff_not, not_not]
  constructor
  · rintro ⟨correctness, realtime, segmented, terminal, exclusive, based, history⟩
    refine ⟨correctness, realtime, segmented, terminal, fun ended => ?_, fun later => ?_, history⟩
    · obtain absent | ⟨⟨first, second⟩, third⟩ := exclusive
      · rw [absent] at ended
        cases ended
      · exact ⟨first, second, third⟩
    · obtain ⟨first, second⟩ | current := based
      · rw [first, second] at later
        simp at later
      · exact current
  · intro valid
    refine ⟨valid.correctness, valid.realtime, valid.segmented, valid.terminal, ?_, ?_, valid.history⟩
    · cases ended : record.terminal with
      | none => exact .inl rfl
      | some terminal =>
        obtain ⟨first, second, third⟩ := valid.exclusive (by simp [ended])
        exact .inr ⟨⟨first, second⟩, third⟩
    · by_cases later : record.realtime.isSome = true ∨ record.segmented.isSome = true
      · exact .inr (valid.based later)
      · simp only [not_or, Bool.not_eq_true, Option.isSome_eq_false_iff,
          Option.isNone_iff_eq_none] at later
        exact .inl later

end EvidenceRecord

end StreamServer.Capability
