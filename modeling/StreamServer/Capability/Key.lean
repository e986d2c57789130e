import StreamServer.Capability.Signature
import StreamServer.Shared.Numerals

set_option autoImplicit false

namespace StreamServer.Capability

inductive CapabilityDirection where
  | decode
  | encode
  | fullPipeline
  | segmentedPipeline
  | copyRemux
deriving DecidableEq, Repr

structure KeyVersions where
  schema : Nat
  evidence : Nat
  recipe : Nat
deriving DecidableEq, Repr

def currentSchemaVersion : Nat := 1

def currentEvidenceVersion : Nat := 1

def KeyVersions.forDirection (direction : CapabilityDirection) : KeyVersions where
  schema := currentSchemaVersion
  evidence := currentEvidenceVersion
  recipe :=
    match direction with
    | .decode => 1
    | .encode => 2
    | .fullPipeline => 3
    | .segmentedPipeline => 4
    | .copyRemux => 5

structure Digest where
  bytes : Bytes
  length : bytes.length = 32
deriving DecidableEq, Repr

def digestOfHex (value : Bytes) : Option Digest :=
  if value.length ≠ 64 || !value.all Hex.isLowerDigit then none
  else
    match Hex.decode value with
    | none => none
    | some bytes => if length : bytes.length = 32 then some ⟨bytes, length⟩ else none

theorem digestOfHex_encode (digest : Digest) : digestOfHex (Hex.encode digest.bytes) = some digest := by
  have sized : (Hex.encode digest.bytes).length = 64 := by rw [Hex.length_encode, digest.length]
  unfold digestOfHex
  rw [sized, Hex.encode_isLowerDigit, Hex.decode_encode]
  simp [digest.length]

structure RuntimeEvidenceId where
  digest : Digest
deriving DecidableEq, Repr

def RuntimeEvidenceId.persistedHex (runtime : RuntimeEvidenceId) : Bytes :=
  Hex.encode runtime.digest.bytes

def RuntimeEvidenceId.fromPersistedHex (value : Bytes) : Option RuntimeEvidenceId :=
  (digestOfHex value).map RuntimeEvidenceId.mk

theorem RuntimeEvidenceId.fromPersistedHex_persistedHex (runtime : RuntimeEvidenceId) :
    fromPersistedHex runtime.persistedHex = some runtime := by
  rw [fromPersistedHex, persistedHex, digestOfHex_encode]
  rfl

/-- Without a complete driver record the identity is good for this process only. -/
structure DriverIdentity where
  digest : Digest
  persistable : Bool
deriving DecidableEq, Repr

def DriverIdentity.persistedHex (driver : DriverIdentity) : Option Bytes :=
  if driver.persistable then some (Hex.encode driver.digest.bytes) else none

def DriverIdentity.fromPersistedHex (value : Bytes) : Option DriverIdentity :=
  (digestOfHex value).map fun digest => ⟨digest, true⟩

theorem DriverIdentity.fromPersistedHex_persistedHex {driver : DriverIdentity} {value : Bytes}
    (written : driver.persistedHex = some value) : fromPersistedHex value = some driver := by
  obtain ⟨digest, persistable⟩ := driver
  cases persistable with
  | false => cases written
  | true =>
    cases written
    rw [fromPersistedHex, digestOfHex_encode]
    rfl

structure DeviceId where
  text : Bytes
deriving DecidableEq, Repr

inductive CapabilityOperation where
  | decode (input : InputVideoSignature) (requirements : PipelineRequirements)
  | encode (output : OutputVideoSignature) (requirements : PipelineRequirements)
  | fullPipeline (input : InputVideoSignature) (output : OutputVideoSignature)
      (requirements : PipelineRequirements)
  | segmentedPipeline (input : InputVideoSignature) (output : OutputVideoSignature)
      (requirements : PipelineRequirements) (segmentation : SegmentationContract)
  | copyRemux (signature : CopyRemuxSignature)
deriving DecidableEq, Repr

def CapabilityOperation.direction : CapabilityOperation → CapabilityDirection
  | .decode .. => .decode
  | .encode .. => .encode
  | .fullPipeline .. => .fullPipeline
  | .segmentedPipeline .. => .segmentedPipeline
  | .copyRemux _ => .copyRemux

def validateVideo : CapabilityOperation → Except KeyValidationError Unit
  | .decode input _ => do
      validateInputVideo input
      validateColor input.color
  | .encode output _ => do
      validateOutputVideo output
      validateColor output.color
  | .fullPipeline input output _ | .segmentedPipeline input output _ _ => do
      validateInputVideo input
      validateOutputVideo output
      validateColor input.color
      validateColor output.color
  | .copyRemux signature => do
      if signature.sourceVersion = 0 || signature.sourceCodec = .otherProbed ||
          signature.sampleEntry = .otherProbed then
        throw .nonFiniteSignature
      validateColor signature.sourceColor

def validateOutputRequirements (direction : CapabilityDirection)
    (requirements : PipelineRequirements) : Except KeyValidationError Unit := do
  validateRequirements requirements
  if requirements.container.isNone || requirements.outputTimeBase.isNone then
    throw .invalidDirectionFields
  if direction = .copyRemux then
    throw .invalidDirectionFields

def validateOperation (direction : CapabilityDirection) (operation : CapabilityOperation) :
    Except KeyValidationError Unit := do
  validateVideo operation
  match operation with
  | .decode _ requirements =>
      validateRequirements requirements
      if requirements.container.isSome || requirements.outputTimeBase.isSome then
        throw .invalidDirectionFields
  | .encode _ requirements => validateOutputRequirements direction requirements
  | .fullPipeline _ _ requirements => validateOutputRequirements direction requirements
  | .segmentedPipeline _ _ requirements segmentation =>
      validateRequirements requirements
      if requirements.outputTimeBase.isSome || requirements.container.isNone then
        throw .invalidDirectionFields
      match segmentation.keyframeStrategy with
      | .timeForced segmentDurationMs =>
          if segmentDurationMs ≠ segmentation.segmentDurationMs then
            throw .inconsistentSegmentation
      | .fixedGop _ => pure ()
  | .copyRemux _ => pure ()

/-- Only `new` makes a key, so every key is of the current versions and validated. -/
structure CapabilityKey where
  versions : KeyVersions
  runtime : RuntimeEvidenceId
  device : DeviceId
  driver : DriverIdentity
  backend : BackendKind
  operation : CapabilityOperation
  current : versions = KeyVersions.forDirection operation.direction
  validated : validateOperation operation.direction operation = .ok ()
deriving DecidableEq

namespace CapabilityKey

def new (runtime : RuntimeEvidenceId) (device : DeviceId) (driver : DriverIdentity)
    (backend : BackendKind) (operation : CapabilityOperation) :
    Except KeyValidationError CapabilityKey :=
  match validated : validateOperation operation.direction operation with
  | .error error => .error error
  | .ok () => .ok
      { versions := KeyVersions.forDirection operation.direction
        runtime, device, driver, backend, operation
        current := rfl
        validated := validated }

def direction (key : CapabilityKey) : CapabilityDirection := key.operation.direction

def isValid (key : CapabilityKey) : Bool :=
  key.versions = KeyVersions.forDirection key.direction &&
    match validateOperation key.direction key.operation with
    | .ok () => true
    | .error _ => false

theorem isValid_eq_true (key : CapabilityKey) : key.isValid = true := by
  unfold isValid direction
  rw [key.validated, key.current]
  simp

theorem new_eq (key : CapabilityKey) :
    new key.runtime key.device key.driver key.backend key.operation = .ok key := by
  have validated := key.validated
  have current := key.current
  unfold new
  split
  next failed =>
    rw [validated] at failed
    cases failed
  next =>
    congr 1
    cases key
    simp_all

theorem new_runtime {runtime : RuntimeEvidenceId} {device : DeviceId} {driver : DriverIdentity}
    {backend : BackendKind} {operation : CapabilityOperation} {key : CapabilityKey}
    (made : new runtime device driver backend operation = .ok key) : key.runtime = runtime := by
  unfold new at made
  split at made
  next => cases made
  next =>
    cases made
    rfl

/-- Kept across restarts: no copy of a source, and a complete driver identity. -/
def Persistable (key : CapabilityKey) : Prop :=
  key.direction ≠ .copyRemux ∧ key.driver.persistable = true

instance (key : CapabilityKey) : Decidable key.Persistable :=
  inferInstanceAs (Decidable (_ ∧ _))

end CapabilityKey

inductive PersistedCapabilityOperation where
  | decode (input : InputVideoSignature) (requirements : PipelineRequirements)
  | encode (output : OutputVideoSignature) (requirements : PipelineRequirements)
  | fullPipeline (input : InputVideoSignature) (output : OutputVideoSignature)
      (requirements : PipelineRequirements)
  | segmentedPipeline (input : InputVideoSignature) (output : OutputVideoSignature)
      (requirements : PipelineRequirements) (segmentation : SegmentationContract)
deriving DecidableEq, Repr

structure PersistedCapabilityKey where
  schemaVersion : Nat
  evidenceVersion : Nat
  recipeVersion : Nat
  runtimeId : Bytes
  deviceId : DeviceId
  driverId : Bytes
  backend : BackendKind
  operation : PersistedCapabilityOperation
deriving DecidableEq, Repr

namespace PersistedCapabilityKey

def fromOperation : CapabilityOperation → Option PersistedCapabilityOperation
  | .decode input requirements => some (.decode input requirements)
  | .encode output requirements => some (.encode output requirements)
  | .fullPipeline input output requirements => some (.fullPipeline input output requirements)
  | .segmentedPipeline input output requirements segmentation =>
      some (.segmentedPipeline input output requirements segmentation)
  | .copyRemux _ => none

def intoOperation : PersistedCapabilityOperation → CapabilityOperation
  | .decode input requirements => .decode input requirements
  | .encode output requirements => .encode output requirements
  | .fullPipeline input output requirements => .fullPipeline input output requirements
  | .segmentedPipeline input output requirements segmentation =>
      .segmentedPipeline input output requirements segmentation

def fromKey (key : CapabilityKey) : Option PersistedCapabilityKey :=
  if !key.isValid || !key.driver.persistable then none
  else do
    let operation ← fromOperation key.operation
    let driverId ← key.driver.persistedHex
    return {
      schemaVersion := key.versions.schema
      evidenceVersion := key.versions.evidence
      recipeVersion := key.versions.recipe
      runtimeId := key.runtime.persistedHex
      deviceId := key.device
      driverId
      backend := key.backend
      operation }

-- `none` is the source's single error.
def intoKey (persisted : PersistedCapabilityKey) : Option CapabilityKey := do
  let runtime ← RuntimeEvidenceId.fromPersistedHex persisted.runtimeId
  let driver ← DriverIdentity.fromPersistedHex persisted.driverId
  let key ← (CapabilityKey.new runtime persisted.deviceId driver persisted.backend
    (intoOperation persisted.operation)).toOption
  if key.versions.schema ≠ persisted.schemaVersion ||
      key.versions.evidence ≠ persisted.evidenceVersion ||
      key.versions.recipe ≠ persisted.recipeVersion then none
  else some key

theorem intoOperation_of_fromOperation {operation : CapabilityOperation}
    {persisted : PersistedCapabilityOperation} (written : fromOperation operation = some persisted) :
    intoOperation persisted = operation := by
  cases operation <;> cases written <;> rfl

theorem fromOperation_isSome (operation : CapabilityOperation) :
    (fromOperation operation).isSome = true ↔ operation.direction ≠ .copyRemux := by
  cases operation <;> simp [fromOperation, CapabilityOperation.direction]

structure Written (key : CapabilityKey) (persisted : PersistedCapabilityKey) : Prop where
  versions : persisted.schemaVersion = key.versions.schema ∧
    persisted.evidenceVersion = key.versions.evidence ∧
    persisted.recipeVersion = key.versions.recipe
  runtime : persisted.runtimeId = key.runtime.persistedHex
  device : persisted.deviceId = key.device
  driver : key.driver.persistedHex = some persisted.driverId
  backend : persisted.backend = key.backend
  operation : fromOperation key.operation = some persisted.operation

theorem fromKey_written {key : CapabilityKey} {persisted : PersistedCapabilityKey}
    (written : fromKey key = some persisted) : Written key persisted := by
  unfold fromKey at written
  split at written
  next => cases written
  next =>
    obtain ⟨operation, operationWritten, written⟩ := Option.bind_eq_some_iff.mp written
    obtain ⟨driverId, driverWritten, written⟩ := Option.bind_eq_some_iff.mp written
    cases written
    exact ⟨⟨rfl, rfl, rfl⟩, rfl, rfl, driverWritten, rfl, operationWritten⟩

theorem intoKey_fromKey {key : CapabilityKey} {persisted : PersistedCapabilityKey}
    (written : fromKey key = some persisted) : persisted.intoKey = some key := by
  obtain ⟨⟨schema, evidence, recipe⟩, runtime, device, driver, backend, operation⟩ :=
    fromKey_written written
  unfold intoKey
  rw [runtime, RuntimeEvidenceId.fromPersistedHex_persistedHex,
    DriverIdentity.fromPersistedHex_persistedHex driver, device, backend,
    intoOperation_of_fromOperation operation]
  simp [CapabilityKey.new_eq, schema, evidence, recipe, Except.toOption]

theorem fromKey_isSome (key : CapabilityKey) : (fromKey key).isSome = true ↔ key.Persistable := by
  unfold fromKey CapabilityKey.Persistable
  rw [key.isValid_eq_true, CapabilityKey.direction, ← fromOperation_isSome]
  unfold DriverIdentity.persistedHex
  cases persistable : key.driver.persistable with
  | false => simp
  | true => cases fromOperation key.operation <;> simp

theorem intoKey_runtime {key : CapabilityKey} {persisted : PersistedCapabilityKey}
    (read : persisted.intoKey = some key) :
    RuntimeEvidenceId.fromPersistedHex persisted.runtimeId = some key.runtime := by
  unfold intoKey at read
  obtain ⟨runtime, runtimeRead, read⟩ := Option.bind_eq_some_iff.mp read
  obtain ⟨driver, _, read⟩ := Option.bind_eq_some_iff.mp read
  obtain ⟨made, new, read⟩ := Option.bind_eq_some_iff.mp read
  split at read
  next => cases read
  next =>
    cases read
    cases result : CapabilityKey.new runtime persisted.deviceId driver persisted.backend
        (intoOperation persisted.operation) with
    | error =>
      rw [result] at new
      cases new
    | ok =>
      rw [result] at new
      cases new
      rw [runtimeRead, CapabilityKey.new_runtime result]

end PersistedCapabilityKey

end StreamServer.Capability
