import StreamServer.Capability.CacheRoundTrip
import StreamServer.Shared.Fallible

set_option autoImplicit false

namespace StreamServer.Capability

theorem requirements_valid {direction : CapabilityDirection} {operation : CapabilityOperation}
    {persisted : PersistedCapabilityOperation}
    (valid : validateOperation direction operation = .ok ())
    (written : PersistedCapabilityKey.fromOperation operation = some persisted) :
    validateRequirements persisted.requirements = .ok () := by
  unfold validateOperation at valid
  cases video : validateVideo operation with
  | error error =>
    rw [video] at valid
    cases valid
  | ok =>
    rw [video] at valid
    cases operation with
    | copyRemux => cases written
    | decode input requirements | encode input requirements | fullPipeline input output requirements
    | segmentedPipeline input output requirements segmentation =>
      cases written
      cases checked : validateRequirements requirements with
      | ok => exact checked
      | error error =>
        simp only [validateOutputRequirements, checked] at valid
        cases valid

theorem fromKey_bounded {key : CapabilityKey} {persisted : PersistedCapabilityKey}
    (written : PersistedCapabilityKey.fromKey key = some persisted) :
    requirementItemsBounded persisted.operation.requirements = true := by
  have checked := requirements_valid key.validated
    (PersistedCapabilityKey.fromKey_written written).operation
  obtain ⟨transforms, transfers, filters⟩ := validateRequirements_bounded checked
  simp [requirementItemsBounded, transforms, transfers, filters]

namespace PersistedEvidenceRecord

variable {record : EvidenceRecord} {persisted : PersistedEvidenceRecord} {now later : StateNow}

structure Written (record : EvidenceRecord) (persisted : PersistedEvidenceRecord) : Prop where
  key : PersistedCapabilityKey.fromKey record.key = some persisted.key
  correctness : persisted.correctness = record.correctness.map PersistedObservation.ofObservation
  realtime : persisted.realtime = record.realtime.map PersistedObservation.ofObservation
  segmented : persisted.segmented = record.segmented.map PersistedObservation.ofObservation
  terminal : persisted.terminal = record.terminal.map PersistedTerminalObservation.ofTerminal
  failureHistory : persisted.failureHistory =
    record.failureHistory.map PersistedFailureHistory.ofHistory
  kept : persisted.isEmpty = false

theorem fromRecord_written (written : fromRecord record = some persisted) :
    Written record persisted := by
  unfold fromRecord at written
  obtain ⟨key, keyWritten, written⟩ := Option.bind_eq_some_iff.mp written
  simp only at written
  split at written
  next => cases written
  next kept =>
    cases written
    exact ⟨keyWritten, rfl, rfl, rfl, rfl, rfl, by simpa using kept⟩

theorem fromRecord_isSome (record : EvidenceRecord) :
    (fromRecord record).isSome = true ↔
      record.key.Persistable ∧ record.holdsEvidence = true := by
  rw [← PersistedCapabilityKey.fromKey_isSome]
  unfold fromRecord
  cases PersistedCapabilityKey.fromKey record.key with
  | none => simp
  | some key =>
    simp only [bind, Option.bind, isEmpty, Option.isSome_some, true_and,
      EvidenceRecord.holdsEvidence]
    cases record.correctness <;> cases record.realtime <;> cases record.segmented <;>
      cases record.terminal <;> cases record.failureHistory <;> simp

theorem mapM_restored {A B C : Type} {value : Option A} {write : A → B}
    {read : B → Except StateError C} {restore : A → C}
    (each : ∀ item ∈ value, read (write item) = .ok (restore item)) :
    (value.map write).mapM read = .ok (value.map restore) := by
  cases value with
  | none => rfl
  | some item =>
    show (read (write item)).map some = _
    rw [each item rfl]
    rfl

theorem intoRecord_fromRecord (written : fromRecord record = some persisted)
    (valid : record.Valid now) (lives : record.UnexpiredAt later) :
    persisted.intoRecord later = .ok (record.restoredAt later) := by
  obtain ⟨key, correctness, realtime, segmented, terminal, failureHistory, kept⟩ :=
    fromRecord_written written
  have checked := EvidenceRecord.validate_eq_ok.mpr (EvidenceRecord.restoredAt_valid valid lives)
  have correctnessRead : persisted.correctness.mapM (·.intoObservation later) =
      .ok (record.correctness.map (·.restoredAt later)) := by
    rw [correctness]
    refine mapM_restored fun observation present => ?_
    exact EvidenceObservation.intoObservation_ofObservation (valid.correctness observation present)
      (.inl rfl) rfl (lives.correctness observation present)
  have realtimeRead : persisted.realtime.mapM (·.intoObservation later) =
      .ok (record.realtime.map (·.restoredAt later)) := by
    rw [realtime]
    refine mapM_restored fun observation present => ?_
    exact EvidenceObservation.intoObservation_ofObservation (valid.realtime observation present)
      (.inr rfl) rfl (lives.realtime observation present)
  have segmentedRead : persisted.segmented.mapM (·.intoObservation later) =
      .ok (record.segmented.map (·.restoredAt later)) := by
    rw [segmented]
    refine mapM_restored fun observation present => ?_
    exact EvidenceObservation.intoObservation_ofObservation (valid.segmented observation present)
      (.inl rfl) rfl (lives.segmented observation present)
  have terminalRead : persisted.terminal.mapM (·.intoTerminal later) =
      .ok (record.terminal.map (·.restoredAt later)) := by
    rw [terminal]
    refine mapM_restored fun observation present => ?_
    exact TerminalObservation.intoTerminal_ofTerminal (valid.terminal observation present)
      (lives.terminal observation present)
  have historyRead : persisted.failureHistory.mapM (·.intoHistory later) =
      .ok (record.failureHistory.map (·.restoredAt later)) := by
    rw [failureHistory]
    refine mapM_restored fun history present => ?_
    exact FailureHistory.intoHistory_ofHistory (valid.history history present)
      (lives.history history present)
  unfold intoRecord
  rw [PersistedCapabilityKey.intoKey_fromKey key, kept, correctnessRead, realtimeRead, segmentedRead,
    terminalRead, historyRead]
  show ((record.restoredAt later).validate later).bind _ = _
  rw [checked]
  rfl

theorem intoRecord_sound (read : persisted.intoRecord now = .ok record) :
    persisted.key.intoKey = some record.key ∧ record.validate now = .ok () := by
  unfold intoRecord at read
  cases intoKey : persisted.key.intoKey with
  | none =>
    rw [intoKey] at read
    cases read
  | some key =>
    rw [intoKey] at read
    obtain ⟨_, _, read⟩ := Results.bind_ok read
    obtain ⟨correctness, _, read⟩ := Results.bind_ok read
    obtain ⟨realtime, _, read⟩ := Results.bind_ok read
    obtain ⟨segmented, _, read⟩ := Results.bind_ok read
    obtain ⟨terminal, _, read⟩ := Results.bind_ok read
    obtain ⟨failureHistory, _, read⟩ := Results.bind_ok read
    obtain ⟨_, checked, read⟩ := Results.bind_ok read
    cases read
    exact ⟨rfl, checked⟩

end PersistedEvidenceRecord

def EvidenceRecord.kept (record : EvidenceRecord) : Bool :=
  record.key.Persistable && record.holdsEvidence

structure EntryOf (runtime : RuntimeEvidenceId) (now : StateNow)
    (entry : Sigma fun _ : CapabilityKey => EvidenceRecord) : Prop where
  key : entry.1 = entry.2.key
  runtime : entry.1.runtime = runtime
  valid : entry.2.Valid now

section Written

variable {runtime : RuntimeEvidenceId} {now later : StateNow}
  {entries : List (Sigma fun _ : CapabilityKey => EvidenceRecord)}
  {persisted : List PersistedEvidenceRecord}

theorem persistRecords_cons {entry : Sigma fun _ : CapabilityKey => EvidenceRecord}
    (written : persistRecords runtime now (entry :: entries) = .ok persisted) :
    EntryOf runtime now entry ∧ ∃ rest, persistRecords runtime now entries = .ok rest ∧
      persisted = (PersistedEvidenceRecord.fromRecord entry.2).toList ++ rest := by
  unfold persistRecords at written
  split at written
  next => cases written
  next accepted =>
    simp only [Bool.or_eq_true, decide_eq_true_eq, not_or, not_not] at accepted
    obtain ⟨⟨key, sameRuntime⟩, validated⟩ := accepted
    obtain ⟨rest, restWritten, written⟩ := Results.bind_ok written
    cases written
    exact ⟨⟨key, sameRuntime, EvidenceRecord.validate_eq_ok.mp validated⟩, rest, restWritten, rfl⟩

theorem persistRecords_bounded (written : persistRecords runtime now entries = .ok persisted) :
    persisted.length ≤ entries.length ∧
      persisted.all (fun record => requirementItemsBounded record.key.operation.requirements) = true := by
  induction entries generalizing persisted with
  | nil =>
    cases written
    exact ⟨Nat.le_refl _, rfl⟩
  | cons entry entries ih =>
    obtain ⟨_, rest, restWritten, rfl⟩ := persistRecords_cons written
    obtain ⟨shorter, bounded⟩ := ih restWritten
    cases converted : PersistedEvidenceRecord.fromRecord entry.2 with
    | none => exact ⟨Nat.le_succ_of_le shorter, bounded⟩
    | some record =>
      have key := (PersistedEvidenceRecord.fromRecord_written converted).key
      refine ⟨Nat.succ_le_succ shorter, ?_⟩
      show (requirementItemsBounded record.key.operation.requirements && _) = true
      rw [fromKey_bounded key]
      exact bounded

theorem insertPersisted_fromRecord {record : EvidenceRecord} {written : PersistedEvidenceRecord}
    {records : EvidenceMap} (entryOf : EntryOf runtime now ⟨record.key, record⟩)
    (converted : PersistedEvidenceRecord.fromRecord record = some written)
    (lives : record.UnexpiredAt later) (absent : records.lookup record.key = none) :
    insertPersisted runtime.persistedHex later records written =
      .ok (records.insert record.key (record.restoredAt later)) := by
  have key := (PersistedEvidenceRecord.fromRecord_written converted).key
  have sameRuntime : written.key.runtimeId = runtime.persistedHex := by
    rw [(PersistedCapabilityKey.fromKey_written key).runtime, ← entryOf.runtime]
  have missing : (records.lookup (record.restoredAt later).key).isSome = false := by
    show (records.lookup record.key).isSome = false
    rw [absent]
    rfl
  unfold insertPersisted
  rw [if_neg (not_not.mpr sameRuntime),
    PersistedEvidenceRecord.intoRecord_fromRecord converted entryOf.valid lives]
  simp only [missing]
  rfl

theorem foldlM_restores {records : EvidenceMap}
    (written : persistRecords runtime now entries = .ok persisted) (distinct : entries.NodupKeys)
    (absent : ∀ entry ∈ entries, records.lookup entry.1 = none)
    (lives : ∀ entry ∈ entries, entry.2.UnexpiredAt later) :
    ∃ decoded, persisted.foldlM (insertPersisted runtime.persistedHex later) records = .ok decoded ∧
      ∀ key, decoded.lookup key = (records.lookup key).or
        (((entries.dlookup key).filter EvidenceRecord.kept).map (·.restoredAt later)) := by
  -- On the entries that are written; the map holds what stood before them.
  induction entries generalizing persisted records with
  | nil =>
    cases written
    exact ⟨records, rfl, by simp⟩
  | cons entry entries ih =>
    obtain ⟨entryOf, rest, restWritten, rfl⟩ := persistRecords_cons written
    obtain ⟨fresh, distinctRest⟩ := List.nodupKeys_cons.mp distinct
    obtain ⟨entryKey, record⟩ := entry
    obtain rfl : entryKey = record.key := entryOf.key
    have livesRest := fun other member => lives other (List.mem_cons_of_mem _ member)
    have missing : entries.dlookup record.key = none := List.dlookup_eq_none.mpr fresh
    have keptIff : record.kept = true ↔
        (PersistedEvidenceRecord.fromRecord record).isSome = true := by
      rw [PersistedEvidenceRecord.fromRecord_isSome]
      simp [EvidenceRecord.kept]
    cases converted : PersistedEvidenceRecord.fromRecord record with
    | none =>
      have dropped : record.kept = false := by
        rw [Bool.eq_false_iff, Ne, keptIff, converted]
        simp
      obtain ⟨decoded, folded, looked⟩ := ih restWritten distinctRest
        (fun other member => absent other (List.mem_cons_of_mem _ member)) livesRest
      refine ⟨decoded, folded, fun key => ?_⟩
      rw [looked key]
      by_cases same : key = record.key
      · subst same
        rw [missing, List.dlookup_cons_eq, Option.filter_some, dropped]
        rfl
      · rw [List.dlookup_cons_ne _ _ same]
    | some converted' =>
      have stays : record.kept = true := by
        rw [keptIff, converted]
        rfl
      have inserted := insertPersisted_fromRecord entryOf converted (lives _ List.mem_cons_self)
        (absent _ List.mem_cons_self)
      have absentRest : ∀ other ∈ entries,
          (records.insert record.key (record.restoredAt later)).lookup other.1 = none := by
        intro other member
        have different : other.1 ≠ record.key := by
          intro same
          have present := List.mem_keys_of_mem member
          rw [same] at present
          exact fresh present
        rw [AList.lookup_insert_ne different]
        exact absent other (List.mem_cons_of_mem _ member)
      obtain ⟨decoded, folded, looked⟩ := ih restWritten distinctRest absentRest livesRest
      refine ⟨decoded, ?_, fun key => ?_⟩
      · show List.foldlM _ records (converted' :: rest) = _
        rw [List.foldlM_cons, inserted]
        exact folded
      · rw [looked key]
        by_cases same : key = record.key
        · subst same
          rw [AList.lookup_insert, List.dlookup_cons_eq, absent _ List.mem_cons_self,
            Option.filter_some, stays]
          rfl
        · rw [AList.lookup_insert_ne same, List.dlookup_cons_ne _ _ same]

end Written

structure SoundCache (runtime : RuntimeEvidenceId) (now : StateNow) (records : EvidenceMap) : Prop where
  key : ∀ key record, records.lookup key = some record → record.key = key
  runtime : ∀ key record, records.lookup key = some record → key.runtime = runtime
  valid : ∀ key record, records.lookup key = some record → record.validate now = .ok ()

theorem insertPersisted_sound {runtime : RuntimeEvidenceId} {now : StateNow}
    {records next : EvidenceMap} {persisted : PersistedEvidenceRecord}
    (sound : SoundCache runtime now records)
    (inserted : insertPersisted runtime.persistedHex now records persisted = .ok next) :
    SoundCache runtime now next ∧ next.entries.length = records.entries.length + 1 := by
  unfold insertPersisted at inserted
  split at inserted
  next => cases inserted
  next sameRuntime =>
    split at inserted
    next => cases inserted
    next record read =>
      split at inserted
      next => cases inserted
      next absent =>
        cases inserted
        obtain ⟨intoKey, validated⟩ := PersistedEvidenceRecord.intoRecord_sound read
        have ofRuntime : record.key.runtime = runtime := by
          have read := PersistedCapabilityKey.intoKey_runtime intoKey
          rw [not_not.mp sameRuntime, RuntimeEvidenceId.fromPersistedHex_persistedHex] at read
          exact (Option.some.inj read).symm
        have looked : ∀ key found,
            (records.insert record.key record).lookup key = some found →
              key = record.key ∧ found = record ∨ records.lookup key = some found := by
          intro key found present
          by_cases same : key = record.key
          · subst same
            rw [AList.lookup_insert] at present
            exact .inl ⟨rfl, (Option.some.inj present).symm⟩
          · rw [AList.lookup_insert_ne same] at present
            exact .inr present
        refine ⟨⟨?_, ?_, ?_⟩, ?_⟩
        · intro key found present
          obtain ⟨rfl, rfl⟩ | before := looked key found present
          · rfl
          · exact sound.key key found before
        · intro key found present
          obtain ⟨rfl, rfl⟩ | before := looked key found present
          · exact ofRuntime
          · exact sound.runtime key found before
        · intro key found present
          obtain ⟨rfl, rfl⟩ | before := looked key found present
          · exact validated
          · exact sound.valid key found before
        · have fresh : record.key ∉ records := by
            rw [← AList.lookup_isSome]
            exact absent
          rw [AList.entries_insert_of_notMem fresh, List.length_cons]

theorem foldlM_sound {runtime : RuntimeEvidenceId} {now : StateNow} {records decoded : EvidenceMap}
    {persisted : List PersistedEvidenceRecord} (sound : SoundCache runtime now records)
    (folded : persisted.foldlM (insertPersisted runtime.persistedHex now) records = .ok decoded) :
    SoundCache runtime now decoded ∧
      decoded.entries.length = records.entries.length + persisted.length := by
  induction persisted generalizing records with
  | nil =>
    cases folded
    exact ⟨sound, rfl⟩
  | cons first persisted ih =>
    rw [List.foldlM_cons] at folded
    obtain ⟨next, inserted, folded⟩ := Results.bind_ok folded
    obtain ⟨soundNext, longer⟩ := insertPersisted_sound sound inserted
    obtain ⟨soundAll, length⟩ := ih soundNext folded
    refine ⟨soundAll, ?_⟩
    rw [length, longer, List.length_cons]
    omega

section Cache

variable {json : SerdeJson} {runtime : RuntimeEvidenceId} {records decoded : EvidenceMap}
  {now later : StateNow} {bytes : Bytes}

theorem encodeEvidenceCache_ok (encoded : encodeEvidenceCache json runtime records now = .ok bytes) :
    ∃ persisted, persistRecords runtime now records.entries = .ok persisted ∧
      records.entries.length ≤ maxCacheRecords ∧ bytes.length ≤ maxCacheBytes ∧
      bytes = json.toWriter (cacheDocument runtime now persisted) := by
  unfold encodeEvidenceCache at encoded
  split at encoded
  next => cases encoded
  next few =>
    obtain ⟨persisted, written, encoded⟩ := Results.bind_ok encoded
    split at encoded
    next => cases encoded
    next =>
      simp only at encoded
      split at encoded
      next => cases encoded
      next short =>
        cases encoded
        exact ⟨persisted, written, Nat.not_lt.mp few, Nat.not_lt.mp short, rfl⟩

theorem decodeEvidenceCache_ok (read : decodeEvidenceCache json bytes runtime now = .ok decoded) :
    ∃ document, json.fromSlice bytes = some document ∧
      document.records.foldlM (insertPersisted runtime.persistedHex now) ∅ = .ok decoded := by
  unfold decodeEvidenceCache at read
  split at read
  next => cases read
  next =>
    split at read
    next => cases read
    next document parsed =>
      split at read
      next => cases read
      next =>
        split at read
        next => cases read
        next => exact ⟨document, (Option.filter_eq_some_iff.mp parsed).1, read⟩

theorem decode_of_encode (encoded : encodeEvidenceCache json runtime records now = .ok bytes)
    (readsBack : json.ReadsBack bytes)
    (clock : now.wall.milliseconds ≤ later.wall.milliseconds)
    (lives : ∀ key record, records.lookup key = some record → record.UnexpiredAt later) :
    ∃ decoded, decodeEvidenceCache json bytes runtime later = .ok decoded ∧
      ∀ key, (decoded.lookup key).map EvidenceRecord.durable =
        ((records.lookup key).filter EvidenceRecord.kept).map EvidenceRecord.durable := by
  obtain ⟨persisted, written, few, short, rfl⟩ := encodeEvidenceCache_ok encoded
  have livesEach : ∀ entry ∈ records.entries, entry.2.UnexpiredAt later := by
    intro entry member
    exact lives entry.1 entry.2 (List.mem_dlookup records.nodupKeys member)
  have absent : ∀ entry ∈ records.entries, (∅ : EvidenceMap).lookup entry.1 = none :=
    fun entry _ => AList.lookup_empty entry.1
  obtain ⟨decoded, folded, looked⟩ := foldlM_restores written records.nodupKeys absent livesEach
  obtain ⟨shorter, bounded⟩ := persistRecords_bounded written
  have parsed := readsBack _ rfl
  have itemsBounded : (cacheDocument runtime now persisted).itemsBounded = true := by
    unfold EvidenceCacheDocument.itemsBounded
    rw [Bool.and_eq_true, decide_eq_true_eq]
    exact ⟨shorter.trans few, bounded⟩
  have versionSafe : safeWriterVersion (cacheDocument runtime now persisted).writerServerVersion =
      true := by
    show safeWriterVersion cargoPkgVersion = true
    decide
  refine ⟨decoded, ?_, fun key => ?_⟩
  · unfold decodeEvidenceCache
    have sameRuntime : (cacheDocument runtime now persisted).runtimeId = runtime.persistedHex := rfl
    have wallBounded := now.wall.bounded
    rw [if_neg (Nat.not_lt.mpr short), parsed, Option.filter_some, if_pos itemsBounded]
    simp only
    rw [if_neg, if_neg (not_not.mpr sameRuntime)]
    · exact folded
    have notAhead : ¬ (cacheDocument runtime now persisted).writtenAt > later.wall.milliseconds :=
      Nat.not_lt.mpr clock
    have inRange : ¬ (cacheDocument runtime now persisted).writtenAt > maxSafeInteger :=
      Nat.not_lt.mpr wallBounded
    simp only [versionSafe, Bool.or_eq_true, decide_eq_true_eq, not_or, not_not]
    exact ⟨⟨⟨⟨rfl, rfl⟩, by simp⟩, inRange⟩, notAhead⟩
  · have looked := looked key
    rw [AList.lookup_empty, Option.none_or] at looked
    rw [looked, Option.map_map]
    have same : EvidenceRecord.durable ∘ (fun record => record.restoredAt later) =
        EvidenceRecord.durable := by
      funext record
      exact EvidenceRecord.durable_restoredAt later record
    rw [same]
    rfl

theorem decode_sound (read : decodeEvidenceCache json bytes runtime now = .ok decoded) :
    SoundCache runtime now decoded ∧ ∃ document, json.fromSlice bytes = some document ∧
      decoded.keys.length = document.records.length := by
  obtain ⟨document, parsed, folded⟩ := decodeEvidenceCache_ok read
  have empty : SoundCache runtime now ∅ := by
    constructor <;> simp
  obtain ⟨sound, length⟩ := foldlM_sound empty folded
  refine ⟨sound, document, parsed, ?_⟩
  rw [AList.keys, List.keys, List.length_map, length]
  exact Nat.zero_add _

end Cache

end StreamServer.Capability
