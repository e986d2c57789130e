import Mathlib.Data.List.AList
import StreamServer.Capability.Evidence

set_option autoImplicit false

namespace StreamServer.Capability

open ByteText MachineInt

/-- The map is a `BTreeMap`; its entries stand in the order of iteration. -/
abbrev EvidenceMap := AList fun _ : CapabilityKey => EvidenceRecord

def cacheSchemaVersion : Nat := 1

def cacheEvidenceVersion : Nat := 1

def maxCacheBytes : Nat := 8 * 1024 * 1024

def maxCacheRecords : Nat := 3072

def maxWriterVersionBytes : Nat := 64

def cargoPkgVersion : Bytes := utf8 "0.1.8"

inductive CacheSchemaError where
  | bounds
  | identityMismatch
  | invalid
deriving DecidableEq, Repr

structure PersistedObservation where
  target : EvidenceTarget
  outcome : EvidenceOutcome
  observedAt : Nat
  durationMs : Nat
  expiresAt : Nat
deriving DecidableEq, Repr

structure PersistedTerminalObservation where
  target : EvidenceTarget
  outcome : EvidenceOutcome
  reason : EvidenceReason
  observedAt : Nat
  durationMs : Nat
  expiresAt : Nat
deriving DecidableEq, Repr

structure PersistedFailureHistory where
  streak : Nat
  reason : EvidenceReason
  lastFailureAt : Nat
  expiresAt : Nat
  cooldownUntil : Option Nat
deriving DecidableEq, Repr

def PersistedObservation.ofObservation (observation : EvidenceObservation) : PersistedObservation where
  target := observation.target
  outcome := observation.outcome
  observedAt := observation.observedAt.milliseconds
  durationMs := observation.durationMs
  expiresAt := observation.expiresAt.milliseconds

def PersistedObservation.intoObservation (persisted : PersistedObservation) (now : StateNow) :
    Except StateError EvidenceObservation := do
  let result ← VerificationResult.new persisted.target persisted.outcome none
    (← EvidenceTimestamp.new persisted.observedAt) persisted.durationMs
    (← EvidenceTimestamp.new persisted.expiresAt)
  result.validateAt now
  EvidenceObservation.fromResult result now

def PersistedTerminalObservation.ofTerminal (observation : TerminalObservation) :
    PersistedTerminalObservation where
  target := observation.target
  outcome := observation.outcome
  reason := observation.reason
  observedAt := observation.observedAt.milliseconds
  durationMs := observation.durationMs
  expiresAt := observation.expiresAt.milliseconds

def PersistedTerminalObservation.intoTerminal (persisted : PersistedTerminalObservation)
    (now : StateNow) : Except StateError TerminalObservation := do
  let result ← VerificationResult.new persisted.target persisted.outcome (some persisted.reason)
    (← EvidenceTimestamp.new persisted.observedAt) persisted.durationMs
    (← EvidenceTimestamp.new persisted.expiresAt)
  result.validateAt now
  TerminalObservation.fromResult result now

def PersistedFailureHistory.ofHistory (history : FailureHistory) : PersistedFailureHistory where
  streak := history.streak
  reason := history.reason
  lastFailureAt := history.lastFailureAt.milliseconds
  expiresAt := history.expiresAt.milliseconds
  cooldownUntil := history.cooldownUntil.map EvidenceTimestamp.milliseconds

def PersistedFailureHistory.rejected (persisted : PersistedFailureHistory) (now : StateNow)
    (lastFailureAt expiresAt : EvidenceTimestamp) (cooldownUntil : Option EvidenceTimestamp) : Bool :=
  persisted.streak = 0 || persisted.streak > maxFailureStreak ||
    lastFailureAt.milliseconds > satAdd now.wall.milliseconds maxFutureSkewMs ||
    expiresAt.milliseconds ≤ now.wall.milliseconds ||
    lifetimeInvalid lastFailureAt expiresAt ||
    cooldownInvalid lastFailureAt cooldownUntil

def PersistedFailureHistory.intoHistory (persisted : PersistedFailureHistory) (now : StateNow) :
    Except StateError FailureHistory := do
  let lastFailureAt ← EvidenceTimestamp.new persisted.lastFailureAt
  let expiresAt ← EvidenceTimestamp.new persisted.expiresAt
  let cooldownUntil ← persisted.cooldownUntil.mapM EvidenceTimestamp.new
  reject (persisted.rejected now lastFailureAt expiresAt cooldownUntil) .impossibleState
  let monotonicExpiresAtMs ← monotonicDeadline expiresAt now
  let monotonicCooldownUntilMs ← cooldownUntil.mapM fun cooldown =>
    checkedAddU64 now.monotonicMs
      (min (cooldown.milliseconds - now.wall.milliseconds) (60 * minuteMs))
  return {
    streak := persisted.streak
    reason := persisted.reason
    lastFailureAt, expiresAt, cooldownUntil, monotonicCooldownUntilMs, monotonicExpiresAtMs }

structure PersistedEvidenceRecord where
  key : PersistedCapabilityKey
  correctness : Option PersistedObservation
  realtime : Option PersistedObservation
  segmented : Option PersistedObservation
  terminal : Option PersistedTerminalObservation
  failureHistory : Option PersistedFailureHistory
deriving DecidableEq, Repr

namespace PersistedEvidenceRecord

def isEmpty (persisted : PersistedEvidenceRecord) : Bool :=
  persisted.correctness.isNone && persisted.realtime.isNone && persisted.segmented.isNone &&
    persisted.terminal.isNone && persisted.failureHistory.isNone

def fromRecord (record : EvidenceRecord) : Option PersistedEvidenceRecord := do
  let key ← PersistedCapabilityKey.fromKey record.key
  let persisted : PersistedEvidenceRecord := {
    key
    correctness := record.correctness.map PersistedObservation.ofObservation
    realtime := record.realtime.map PersistedObservation.ofObservation
    segmented := record.segmented.map PersistedObservation.ofObservation
    terminal := record.terminal.map PersistedTerminalObservation.ofTerminal
    failureHistory := record.failureHistory.map PersistedFailureHistory.ofHistory }
  if persisted.isEmpty then none else some persisted

def intoRecord (persisted : PersistedEvidenceRecord) (now : StateNow) :
    Except StateError EvidenceRecord := do
  match persisted.key.intoKey with
  | none => throw .impossibleState
  | some key =>
      reject persisted.isEmpty .impossibleState
      let correctness ← persisted.correctness.mapM (·.intoObservation now)
      let realtime ← persisted.realtime.mapM (·.intoObservation now)
      let segmented ← persisted.segmented.mapM (·.intoObservation now)
      let terminal ← persisted.terminal.mapM (·.intoTerminal now)
      let failureHistory ← persisted.failureHistory.mapM (·.intoHistory now)
      let record : EvidenceRecord :=
        { key, correctness, realtime, segmented, terminal, failureHistory }
      record.validate now
      return record

end PersistedEvidenceRecord

structure EvidenceCacheDocument where
  schemaVersion : Nat
  evidenceVersion : Nat
  writerServerVersion : Bytes
  writtenAt : Nat
  runtimeId : Bytes
  records : List PersistedEvidenceRecord
deriving DecidableEq, Repr

structure SerdeJson where
  toWriter : EvidenceCacheDocument → Bytes
  fromSlice : Bytes → Option EvidenceCacheDocument

def SerdeJson.ReadsBack (json : SerdeJson) (bytes : Bytes) : Prop :=
  ∀ document, json.toWriter document = bytes → json.fromSlice bytes = some document

def PersistedCapabilityOperation.requirements : PersistedCapabilityOperation → PipelineRequirements
  | .decode _ requirements => requirements
  | .encode _ requirements => requirements
  | .fullPipeline _ _ requirements => requirements
  | .segmentedPipeline _ _ requirements _ => requirements

/-- The bounded visitors stop a reader at the first item too many. -/
def requirementItemsBounded (requirements : PipelineRequirements) : Bool :=
  requirements.transforms.length ≤ maxRequirementItems &&
    requirements.transfers.length ≤ maxRequirementItems &&
    requirements.filters.length ≤ maxRequirementItems

def EvidenceCacheDocument.itemsBounded (document : EvidenceCacheDocument) : Bool :=
  document.records.length ≤ maxCacheRecords &&
    document.records.all fun record => requirementItemsBounded record.key.operation.requirements

def safeWriterVersion (value : Bytes) : Bool :=
  !value.isEmpty && value.length ≤ maxWriterVersionBytes &&
    value.head?.any isAsciiAlphanumeric &&
    value.all fun byte => isAsciiAlphanumeric byte || byte ∈ utf8 "._+-"

def persistRecords (runtime : RuntimeEvidenceId) (now : StateNow) :
    List (Sigma fun _ : CapabilityKey => EvidenceRecord) →
      Except CacheSchemaError (List PersistedEvidenceRecord)
  | [] => .ok []
  | ⟨key, record⟩ :: rest =>
      if key ≠ record.key || key.runtime ≠ runtime || record.validate now ≠ .ok () then
        .error .invalid
      else do
        let later ← persistRecords runtime now rest
        return (PersistedEvidenceRecord.fromRecord record).toList ++ later

def cacheDocument (runtime : RuntimeEvidenceId) (now : StateNow)
    (persisted : List PersistedEvidenceRecord) : EvidenceCacheDocument where
  schemaVersion := cacheSchemaVersion
  evidenceVersion := cacheEvidenceVersion
  writerServerVersion := cargoPkgVersion
  writtenAt := now.wall.milliseconds
  runtimeId := runtime.persistedHex
  records := persisted

def encodeEvidenceCache (json : SerdeJson) (runtime : RuntimeEvidenceId) (records : EvidenceMap)
    (now : StateNow) : Except CacheSchemaError Bytes :=
  if records.entries.length > maxCacheRecords then .error .bounds
  else do
    let persisted ← persistRecords runtime now records.entries
    if !safeWriterVersion cargoPkgVersion then .error .invalid
    else
      let bytes := json.toWriter (cacheDocument runtime now persisted)
      -- The bounded writer fails at the first byte too many.
      if bytes.length > maxCacheBytes then .error .bounds else .ok bytes

def insertPersisted (expectedRuntimeHex : Bytes) (now : StateNow) (records : EvidenceMap)
    (persisted : PersistedEvidenceRecord) : Except CacheSchemaError EvidenceMap :=
  if persisted.key.runtimeId ≠ expectedRuntimeHex then .error .identityMismatch
  else
    match persisted.intoRecord now with
    | .error _ => .error .invalid
    | .ok record =>
        if (records.lookup record.key).isSome then .error .invalid
        else .ok (records.insert record.key record)

def decodeEvidenceCache (json : SerdeJson) (bytes : Bytes) (expectedRuntime : RuntimeEvidenceId)
    (now : StateNow) : Except CacheSchemaError EvidenceMap :=
  if bytes.length > maxCacheBytes then .error .bounds
  else
    match (json.fromSlice bytes).filter EvidenceCacheDocument.itemsBounded with
    | none => .error .invalid
    | some document =>
        if document.schemaVersion ≠ cacheSchemaVersion ||
            document.evidenceVersion ≠ cacheEvidenceVersion ||
            !safeWriterVersion document.writerServerVersion ||
            document.writtenAt > maxSafeInteger || document.writtenAt > now.wall.milliseconds then
          .error .invalid
        else if document.runtimeId ≠ expectedRuntime.persistedHex then .error .identityMismatch
        else document.records.foldlM (insertPersisted expectedRuntime.persistedHex now) ∅

end StreamServer.Capability
