import StreamServer.Capability.CacheFormat
import StreamServer.Capability.EvidenceEffects
import StreamServer.Shared.Runs

set_option autoImplicit false

namespace StreamServer.Capability

inductive Created : EvidenceRecord → StateNow → Prop where
  | new (key : CapabilityKey) (now : StateNow) : Created (.new key) now
  | restored {record : EvidenceRecord} {now : StateNow} (persisted : PersistedEvidenceRecord)
      (read : persisted.intoRecord now = .ok record) : Created record now

inductive EvidenceCall where
  | apply (result : VerificationResult) (mode : VerifierMode) (now : StateNow)
  | pruneExpired (now : StateNow)
  | clearCooldownAfterRefresh (now : StateNow)
  | project (now : StateNow) (context : ProjectionContext)
deriving DecidableEq, Repr

-- `recordedMs` is the monotonic reading at which a failure was last recorded.
structure EvidenceLife where
  record : EvidenceRecord
  recordedMs : Nat
deriving DecidableEq

namespace EvidenceLife

open EvidenceRecord

def recordedAfter (life : EvidenceLife) (result : VerificationResult) (mode : VerifierMode)
    (now : StateNow) : Nat :=
  if result.outcome = .temporaryFailure ∧ (life.record.apply result mode now).1.isOk = true then
    now.monotonicMs
  else life.recordedMs

def step (life : EvidenceLife) : EvidenceCall → Option EvidenceLife
  | .apply result mode now =>
      some ⟨(life.record.apply result mode now).2, life.recordedAfter result mode now⟩
  | .pruneExpired now => some ⟨life.record.pruneExpired now, life.recordedMs⟩
  | .clearCooldownAfterRefresh now =>
      some ⟨life.record.clearCooldownAfterRefresh now, life.recordedMs⟩
  | .project now context => some ⟨(life.record.project now context).2, life.recordedMs⟩

structure Kept (life : EvidenceLife) : Prop where
  sound : life.record.Sound
  closes : ∀ history ∈ life.record.failureHistory, history.ClosesAfter life.recordedMs

theorem intoRecord_history {persisted : PersistedEvidenceRecord} {record : EvidenceRecord}
    {now : StateNow} (read : persisted.intoRecord now = .ok record) :
    persisted.failureHistory.mapM (·.intoHistory now) = .ok record.failureHistory := by
  unfold PersistedEvidenceRecord.intoRecord at read
  split at read
  · cases read
  · obtain ⟨_, _, read⟩ := Results.bind_ok read
    obtain ⟨_, _, read⟩ := Results.bind_ok read
    obtain ⟨_, _, read⟩ := Results.bind_ok read
    obtain ⟨_, _, read⟩ := Results.bind_ok read
    obtain ⟨_, _, read⟩ := Results.bind_ok read
    obtain ⟨failureHistory, restored, read⟩ := Results.bind_ok read
    obtain ⟨_, _, read⟩ := Results.bind_ok read
    cases read
    exact restored

theorem restored_closes {persisted : PersistedEvidenceRecord} {record : EvidenceRecord}
    {now : StateNow} (read : persisted.intoRecord now = .ok record) :
    ∀ history ∈ record.failureHistory, history.ClosesAfter now.monotonicMs := by
  intro history present
  have restored := intoRecord_history read
  cases written : persisted.failureHistory with
  | none =>
    rw [written] at restored
    cases (Except.ok.inj restored).trans present
  | some earlier =>
    rw [written] at restored
    obtain ⟨later, converted, same⟩ := Results.bind_ok restored
    cases (Except.ok.inj same).trans present
    exact FailureHistory.intoHistory_closes converted

theorem created_kept {record : EvidenceRecord} {now : StateNow} (created : Created record now) :
    Kept ⟨record, now.monotonicMs⟩ := by
  cases created with
  | new key =>
    refine ⟨new_sound key, ?_⟩
    rintro _ ⟨⟩
  | restored persisted read =>
    have valid := validate_eq_ok.mp (PersistedEvidenceRecord.intoRecord_sound read).2
    exact ⟨valid.sound, restored_closes read⟩

theorem apply_unevaluated {record : EvidenceRecord} {result : VerificationResult}
    {mode : VerifierMode} {now : StateNow}
    (unevaluated : result.validateAt now ≠ .ok () ∨ mode = .observationalOnly) :
    (record.apply result mode now).2 = record := by
  unfold EvidenceRecord.apply
  cases validated : result.validateAt now with
  | error error => rfl
  | ok accepted =>
    obtain rejected | observational := unevaluated
    · exact absurd validated rejected
    · simp only [observational, if_true]
      split <;> rfl

theorem unevaluated_records_nothing {record : EvidenceRecord} {result : VerificationResult}
    {mode : VerifierMode} {now : StateNow}
    (unevaluated : result.validateAt now ≠ .ok () ∨ mode = .observationalOnly)
    (failure : result.outcome = .temporaryFailure) :
    (record.apply result mode now).1.isOk ≠ true := by
  unfold EvidenceRecord.apply
  cases validated : result.validateAt now with
  | error error => exact Bool.false_ne_true
  | ok accepted =>
    obtain rejected | observational := unevaluated
    · exact absurd validated rejected
    · simp only [observational, failure, if_true, reduceCtorEq, false_and, if_false]
      exact Bool.false_ne_true

theorem mem_pruned_history {record : EvidenceRecord} {now : StateNow} {history : FailureHistory}
    (present : history ∈ (record.pruneExpired now).failureHistory) :
    history ∈ record.failureHistory :=
  (Option.mem_filter_iff.mp present).1

theorem pruned_kept {life : EvidenceLife} (kept : life.Kept) (now : StateNow) :
    Kept ⟨life.record.pruneExpired now, life.recordedMs⟩ :=
  ⟨kept.sound.pruned, fun history present => kept.closes history (mem_pruned_history present)⟩

theorem applied_kept {life : EvidenceLife} (kept : life.Kept) (result : VerificationResult)
    (mode : VerifierMode) (now : StateNow) :
    Kept ⟨(life.record.apply result mode now).2, life.recordedAfter result mode now⟩ := by
  by_cases evaluated : result.validateAt now = .ok () ∧ mode = .activeInjected
  · obtain ⟨validated, rfl⟩ := evaluated
    have settled := apply_settled kept.sound validated
    refine ⟨settled.valid.sound, fun history present => ?_⟩
    unfold recordedAfter
    split
    · next recorded => exact settled.recorded (decide_eq_true recorded.1) recorded.2 history present
    · next unrecorded =>
      have quiet : decide (result.outcome = .temporaryFailure) = false ∨
          (life.record.apply result .activeInjected now).1.isOk = false := by
        rw [decide_eq_false_iff_not, ← Bool.not_eq_true]
        exact not_and_or.mp unrecorded
      exact kept.closes history (mem_pruned_history (settled.earlier quiet history present))
  · have unevaluated : result.validateAt now ≠ .ok () ∨ mode = .observationalOnly := by
      refine (not_and_or.mp evaluated).imp_right fun other => ?_
      cases mode
      · rfl
      · exact absurd rfl other
    rw [apply_unevaluated unevaluated, recordedAfter,
      if_neg fun recorded => unevaluated_records_nothing unevaluated recorded.1 recorded.2]
    exact kept

theorem cleared_kept {life : EvidenceLife} (kept : life.Kept) (now : StateNow) :
    Kept ⟨life.record.clearCooldownAfterRefresh now, life.recordedMs⟩ := by
  have pruned := (pruned_kept kept now).sound
  refine ⟨⟨pruned.correctness, pruned.realtime, pruned.segmented, pruned.terminal,
    pruned.exclusive, pruned.based, ?_⟩, ?_⟩
  · intro history present
    obtain ⟨before, there, rfl⟩ := Option.map_eq_some_iff.mp present
    have shaped := pruned.history before there
    exact ⟨shaped.streak, shaped.reason, shaped.lifetime, rfl, rfl⟩
  · intro history present
    obtain ⟨before, there, rfl⟩ := Option.map_eq_some_iff.mp present
    rintro _ ⟨⟩

theorem step_kept {life next : EvidenceLife} {call : EvidenceCall} (kept : life.Kept)
    (taken : life.step call = some next) : next.Kept := by
  cases call with
  | apply result mode now =>
    cases taken
    exact applied_kept kept result mode now
  | pruneExpired now =>
    cases taken
    exact pruned_kept kept now
  | clearCooldownAfterRefresh now =>
    cases taken
    exact cleared_kept kept now
  | project now context =>
    cases taken
    exact pruned_kept kept now

theorem run_kept {life final : EvidenceLife} {calls : List EvidenceCall} (kept : life.Kept)
    (ran : Runs.run step life calls = some final) : final.Kept :=
  Runs.invariant_of_run (fun _ _ _ before taken => step_kept before taken) kept ran

structure Upholds (record : EvidenceRecord) (now : StateNow) : Prop where
  validates : record.validate now = .ok ()
  based : record.realtime.isSome = true ∨ record.segmented.isSome = true →
    ∃ observation ∈ record.correctness, observation.isCurrent now = true
  exclusive : record.terminal.isSome = true →
    record.correctness = none ∧ record.realtime = none ∧ record.segmented = none
  streak : ∀ history ∈ record.failureHistory,
    1 ≤ history.streak ∧ history.streak ≤ maxFailureStreak

theorem upholds_of_valid {record : EvidenceRecord} {now : StateNow} (valid : record.Valid now) :
    Upholds record now where
  validates := validate_eq_ok.mpr valid
  based later := requireCurrentCorrectness_eq_ok.mp (valid.based later)
  exclusive := valid.exclusive
  streak history present := (valid.sound.history history present).streak

theorem circuit_closes {life : EvidenceLife} (kept : life.Kept) {now : StateNow}
    {history : FailureHistory} (present : history ∈ life.record.failureHistory)
    (circuitOpen : history.circuitIsOpen now = true) :
    now.monotonicMs < life.recordedMs + 60 * minuteMs := by
  unfold FailureHistory.circuitIsOpen at circuitOpen
  obtain ⟨_, ahead⟩ := (Bool.and_eq_true _ _).mp circuitOpen
  obtain ⟨deadline, there, before⟩ := (Option.any_eq_true _ _).mp ahead
  exact (of_decide_eq_true before).trans_le (kept.closes history present deadline there)

theorem evidence_record_keeps_its_invariant {record : EvidenceRecord} {start : StateNow}
    {calls : List EvidenceCall} {life : EvidenceLife} (created : Created record start)
    (ran : Runs.run step ⟨record, start.monotonicMs⟩ calls = some life) :
    (∀ now, Upholds (life.record.pruneExpired now) now) ∧
    (∀ result now transition,
      (life.record.apply result .activeInjected now).1 = .ok transition →
      Upholds (life.record.apply result .activeInjected now).2 now) ∧
    (∀ result now error, (life.record.apply result .activeInjected now).1 = .error error →
      (life.record.apply result .activeInjected now).2 =
        if result.validateAt now = .ok () then life.record.pruneExpired now else life.record) ∧
    (∀ result now, (life.record.apply result .observationalOnly now).2 = life.record) ∧
    (∀ history ∈ life.record.failureHistory, ∀ now, history.circuitIsOpen now = true →
      now.monotonicMs < life.recordedMs + 60 * minuteMs) := by
  have kept := run_kept (created_kept created) ran
  refine ⟨fun now => upholds_of_valid kept.sound.pruned_valid, fun result now transition succeeded => ?_,
    fun result now error failed => ?_, fun result now => apply_unevaluated (.inr rfl),
    fun history present now circuitOpen => circuit_closes kept present circuitOpen⟩
  · have validated : result.validateAt now = .ok () := by
      unfold EvidenceRecord.apply at succeeded
      cases rejected : result.validateAt now with
      | error error =>
        rw [rejected] at succeeded
        cases succeeded
      | ok accepted => rfl
    exact upholds_of_valid (apply_settled kept.sound validated).valid
  · split
    · next validated => exact (apply_settled kept.sound validated).failed error failed
    · next rejected => exact apply_unevaluated (.inl rejected)

def clockAt (minutes : Nat) (bounded : minutes * minuteMs ≤ maxSafeInteger := by decide) : StateNow :=
  ⟨⟨minutes * minuteMs, bounded⟩, minutes * minuteMs, bounded⟩

def passAtStart : VerificationResult :=
  ⟨.correctness, .correctnessPassed, none, (clockAt 0).wall, 100, (clockAt 1440).wall⟩

def failureAtStart : VerificationResult :=
  ⟨.correctness, .temporaryFailure, some .verificationTimeout, (clockAt 0).wall, 100,
    (clockAt 1440).wall⟩

def notImplementedNextDay : VerificationResult :=
  ⟨.correctness, .notPresent, some .verificationNotImplemented, (clockAt 1440).wall, 100,
    (clockAt 1500).wall⟩

theorem failure_opens_the_circuit :
    ∃ life : EvidenceLife,
      Runs.run step ⟨.new plainKey, 0⟩ [.apply failureAtStart .activeInjected (clockAt 0)] =
        some life ∧
      (∃ history ∈ life.record.failureHistory, history.circuitIsOpen (clockAt 9) = true) ∧
      Upholds (life.record.pruneExpired (clockAt 9)) (clockAt 9) := by
  have ran : (Runs.run step ⟨.new plainKey, 0⟩
      [.apply failureAtStart .activeInjected (clockAt 0)]).any (fun life =>
        life.record.failureHistory.any fun history => history.circuitIsOpen (clockAt 9)) = true := by
    decide +kernel
  obtain ⟨life, reached, opened⟩ := (Option.any_eq_true _ _).mp ran
  exact ⟨life, reached, (Option.any_eq_true _ _).mp opened,
    (evidence_record_keeps_its_invariant (.new plainKey (clockAt 0)) reached).1 (clockAt 9)⟩

-- A rejected result and an observational call return before anything is pruned.
theorem unevaluated_calls_prune_nothing :
    ∃ life : EvidenceLife,
      Runs.run step ⟨.new plainKey, 0⟩ [.apply passAtStart .activeInjected (clockAt 0)] =
        some life ∧
      (life.record.apply passAtStart .activeInjected (clockAt 1440)).1 = .error .expiredResult ∧
      (life.record.apply passAtStart .activeInjected (clockAt 1440)).2 ≠
        life.record.pruneExpired (clockAt 1440) ∧
      (life.record.apply notImplementedNextDay .observationalOnly (clockAt 1440)).1 =
        .ok .noChange ∧
      (life.record.apply notImplementedNextDay .observationalOnly (clockAt 1440)).2.validate
        (clockAt 1440) ≠ .ok () := by
  have ran : (Runs.run step ⟨.new plainKey, 0⟩
      [.apply passAtStart .activeInjected (clockAt 0)]).any (fun life =>
        decide ((life.record.apply passAtStart .activeInjected (clockAt 1440)).1 =
          .error .expiredResult ∧
        (life.record.apply passAtStart .activeInjected (clockAt 1440)).2 ≠
          life.record.pruneExpired (clockAt 1440) ∧
        (life.record.apply notImplementedNextDay .observationalOnly (clockAt 1440)).1 =
          .ok .noChange ∧
        (life.record.apply notImplementedNextDay .observationalOnly (clockAt 1440)).2.validate
          (clockAt 1440) ≠ .ok ())) = true := by
    decide +kernel
  obtain ⟨life, reached, facts⟩ := (Option.any_eq_true _ _).mp ran
  exact ⟨life, reached, of_decide_eq_true facts⟩

end EvidenceLife

end StreamServer.Capability
