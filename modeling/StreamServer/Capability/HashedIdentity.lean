import StreamServer.Capability.Registry
import StreamServer.Shared.Fallible
import StreamServer.Shared.Framing

set_option autoImplicit false

namespace StreamServer.Capability

open Framing

/-- The texts are the bytes of their UTF-8 encodings. -/
structure RuntimeId where
  installDigest : Bytes
  ffmpegVersion : Bytes
  jellyfinRevision : Option Bytes
  buildConfigurationDigest : Bytes
  pairRootIdentity : Bytes
deriving DecidableEq

inductive PlatformTag where
  | windows
  | linux
  | macos
deriving DecidableEq, Repr

structure DriverField where
  tag : UInt8
  bytes : Bytes
deriving DecidableEq

inductive DriverRecord where
  | complete (fields : List DriverField)
  | incomplete
deriving DecidableEq

inductive IdentityError where
  | unavailable
deriving DecidableEq, Repr

def u32Limit : Nat := 2 ^ 32

def framed : Bytes → Bytes := frame (bigEndian 4)

section Runtime

def maxRuntimeIdFieldBytes : Nat := 2 * 1024

def runtimeEvidenceDomain : Bytes := utf8 "stream-server/runtime-evidence-id/v1" ++ [0]

/-- The digest is given as the bytes fed to it so far. -/
def updateLengthAndValue (digest value : Bytes) : Except InventoryError Bytes :=
  if maxRuntimeIdFieldBytes < value.length then .error .bounds
  else if value.length < u32Limit then .ok (digest ++ framed value)
  else .error .bounds

def updateRequired (digest : Bytes) (tag : UInt8) (value : Bytes) : Except InventoryError Bytes :=
  updateLengthAndValue (digest ++ [tag]) value

/-- No revision and an empty one are written differently. -/
def updateRevision (digest : Bytes) : Option Bytes → Except InventoryError Bytes
  | some revision => updateLengthAndValue (digest ++ [3] ++ [1]) revision
  | none => .ok (digest ++ [3] ++ [0])

def RuntimeId.hashed (runtime : RuntimeId) : Except InventoryError Bytes := do
  let digest ← updateRequired runtimeEvidenceDomain 1 runtime.installDigest
  let digest ← updateRequired digest 2 runtime.ffmpegVersion
  let digest ← updateRevision digest runtime.jellyfinRevision
  let digest ← updateRequired digest 4 runtime.buildConfigurationDigest
  updateRequired digest 5 runtime.pairRootIdentity

def RuntimeEvidenceId.derive (sha256 : Bytes → Digest) (runtime : RuntimeId) :
    Except InventoryError RuntimeEvidenceId :=
  runtime.hashed.map fun digest => ⟨sha256 digest⟩

end Runtime

section Driver

def maxPrivateIdentityBytes : Nat := 2048

def driverIdDomain : Bytes := utf8 "stream-server/driver-id/v1" ++ [0]

def PlatformTag.number : PlatformTag → UInt8
  | .windows => 1
  | .linux => 2
  | .macos => 3

def checkedAdd (left right : Nat) : Except IdentityError Nat :=
  if left + right < u64Limit then .ok (left + right) else .error .unavailable

def DriverField.framedSize (field : DriverField) : Except IdentityError Nat := do
  if maxPrivateIdentityBytes < field.bytes.length then throw .unavailable
  let size ← checkedAdd 1 4
  checkedAdd size field.bytes.length

def isStructurallyValid (fields : List DriverField) : Bool :=
  !fields.isEmpty && fields.all fun field => field.tag != 0 && !field.bytes.isEmpty

def framedSize (fields : List DriverField) : Except IdentityError Nat :=
  fields.foldlM (fun size field => do checkedAdd size (← field.framedSize)) 0

def updateField (digest : Bytes) (field : DriverField) : Except IdentityError Bytes :=
  if field.bytes.length < u32Limit then .ok (digest ++ [field.tag] ++ framed field.bytes)
  else .error .unavailable

def hashedDriver (platform : PlatformTag) (fields : List DriverField) :
    Except IdentityError Bytes := do
  if !isStructurallyValid fields then throw .unavailable
  let _ ← framedSize fields
  fields.foldlM updateField (driverIdDomain ++ [platform.number])

def deriveDriverIdentity (sha256 : Bytes → Digest) (platform : PlatformTag) (record : DriverRecord)
    (runEpoch : Digest) : Except IdentityError DriverIdentity :=
  match record with
  | .complete fields => (hashedDriver platform fields).map fun digest => ⟨sha256 digest, true⟩
  | .incomplete => .ok ⟨runEpoch, false⟩

end Driver

section Injectivity

theorem framed_selfDelimiting :
    SelfDelimiting (fun value : Bytes => value.length < 256 ^ 4) framed := by
  have lengths : SelfDelimiting (fun length => length < 256 ^ 4) (bigEndian 4) :=
    fixedWidth_selfDelimiting (bigEndian_length 4) fun _ _ small smallOther same =>
      bigEndian_injective small smallOther same
  exact frame_selfDelimiting lengths

def Fits (value : Bytes) : Prop := value.length < 256 ^ 4

def revisionCode : Option Bytes → Bytes
  | some revision => 1 :: framed revision
  | none => [0]

theorem revisionCode_selfDelimiting :
    SelfDelimiting (fun revision : Option Bytes => ∀ value ∈ revision, Fits value) revisionCode := by
  intro first second rest later fits fitsOther same
  cases first with
  | none =>
      cases second with
      | none => exact ⟨rfl, (List.cons.inj same).2⟩
      | some revision => exact absurd (List.cons.inj same).1 (by decide)
  | some revision =>
      cases second with
      | none => exact absurd (List.cons.inj same).1 (by decide)
      | some other =>
          obtain ⟨values, rests⟩ := framed_selfDelimiting (fits revision rfl)
            (fitsOther other rfl) (List.cons.inj same).2
          exact ⟨congrArg some values, rests⟩

theorem updateLengthAndValue_ok {digest value bytes : Bytes}
    (updated : updateLengthAndValue digest value = .ok bytes) :
    Fits value ∧ bytes = digest ++ framed value := by
  unfold updateLengthAndValue at updated
  split at updated
  next => cases updated
  next =>
    split at updated
    next fits =>
      cases updated
      exact ⟨fits, rfl⟩
    next => cases updated

structure RuntimeId.Bounded (runtime : RuntimeId) : Prop where
  installDigest : Fits runtime.installDigest
  ffmpegVersion : Fits runtime.ffmpegVersion
  jellyfinRevision : ∀ revision ∈ runtime.jellyfinRevision, Fits revision
  buildConfigurationDigest : Fits runtime.buildConfigurationDigest
  pairRootIdentity : Fits runtime.pairRootIdentity

theorem RuntimeId.hashed_ok {runtime : RuntimeId} {bytes : Bytes}
    (accepted : runtime.hashed = .ok bytes) :
    runtime.Bounded ∧
      bytes = runtimeEvidenceDomain ++ (1 :: (framed runtime.installDigest ++
        2 :: (framed runtime.ffmpegVersion ++ 3 :: (revisionCode runtime.jellyfinRevision ++
          4 :: (framed runtime.buildConfigurationDigest ++
            5 :: (framed runtime.pairRootIdentity ++ [])))))) := by
  unfold RuntimeId.hashed updateRequired at accepted
  obtain ⟨first, installed, accepted⟩ := Results.bind_ok accepted
  obtain ⟨second, versioned, accepted⟩ := Results.bind_ok accepted
  obtain ⟨third, revised, accepted⟩ := Results.bind_ok accepted
  obtain ⟨fourth, configured, rooted⟩ := Results.bind_ok accepted
  obtain ⟨installFits, rfl⟩ := updateLengthAndValue_ok installed
  obtain ⟨versionFits, rfl⟩ := updateLengthAndValue_ok versioned
  obtain ⟨configurationFits, rfl⟩ := updateLengthAndValue_ok configured
  obtain ⟨rootFits, rfl⟩ := updateLengthAndValue_ok rooted
  cases revision : runtime.jellyfinRevision with
  | none =>
      rw [revision] at revised
      cases revised
      refine ⟨⟨installFits, versionFits, ?_, configurationFits, rootFits⟩, ?_⟩
      · simp [revision]
      · simp [revisionCode]
  | some value =>
      rw [revision] at revised
      obtain ⟨revisionFits, rfl⟩ := updateLengthAndValue_ok revised
      refine ⟨⟨installFits, versionFits, ?_, configurationFits, rootFits⟩, ?_⟩
      · simpa [revision] using revisionFits
      · simp [revisionCode]

theorem RuntimeId.hashed_injective {first second : RuntimeId} {bytes : Bytes}
    (accepted : first.hashed = .ok bytes) (acceptedOther : second.hashed = .ok bytes) :
    first = second := by
  obtain ⟨bounded, shape⟩ := RuntimeId.hashed_ok accepted
  obtain ⟨boundedOther, shapeOther⟩ := RuntimeId.hashed_ok acceptedOther
  have same := List.append_cancel_left (shape.symm.trans shapeOther)
  obtain ⟨installs, same⟩ := framed_selfDelimiting bounded.installDigest
    boundedOther.installDigest (List.cons.inj same).2
  obtain ⟨versions, same⟩ := framed_selfDelimiting bounded.ffmpegVersion
    boundedOther.ffmpegVersion (List.cons.inj same).2
  obtain ⟨revisions, same⟩ := revisionCode_selfDelimiting bounded.jellyfinRevision
    boundedOther.jellyfinRevision (List.cons.inj same).2
  obtain ⟨configurations, same⟩ := framed_selfDelimiting bounded.buildConfigurationDigest
    boundedOther.buildConfigurationDigest (List.cons.inj same).2
  obtain ⟨roots, -⟩ := framed_selfDelimiting bounded.pairRootIdentity
    boundedOther.pairRootIdentity (List.cons.inj same).2
  cases first
  cases second
  simp_all

def fieldCode (field : DriverField) : Bytes := field.tag :: framed field.bytes

theorem fieldCode_selfDelimiting :
    SelfDelimiting (fun field : DriverField => Fits field.bytes) fieldCode := by
  intro first second rest later fits fitsOther same
  obtain ⟨tags, same⟩ := List.cons.inj same
  obtain ⟨values, rests⟩ := framed_selfDelimiting fits fitsOther same
  cases first
  cases second
  exact ⟨DriverField.mk.injEq .. ▸ ⟨tags, values⟩, rests⟩

theorem updateFields_ok {fields : List DriverField} {digest bytes : Bytes}
    (updated : fields.foldlM updateField digest = .ok bytes) :
    (∀ field ∈ fields, Fits field.bytes) ∧ bytes = digest ++ fields.flatMap fieldCode := by
  induction fields generalizing digest with
  | nil =>
      cases updated
      exact ⟨nofun, by simp⟩
  | cons field rest ih =>
      rw [List.foldlM_cons] at updated
      obtain ⟨next, one, others⟩ := Results.bind_ok updated
      obtain ⟨fits, rfl⟩ := ih others
      unfold updateField at one
      split at one
      next fitsFirst =>
        cases one
        refine ⟨List.forall_mem_cons.mpr ⟨fitsFirst, fits⟩, ?_⟩
        simp [fieldCode]
      next => cases one

theorem hashedDriver_ok {platform : PlatformTag} {fields : List DriverField} {bytes : Bytes}
    (accepted : hashedDriver platform fields = .ok bytes) :
    (∀ field ∈ fields, Fits field.bytes) ∧
      bytes = driverIdDomain ++ (platform.number :: fields.flatMap fieldCode) := by
  unfold hashedDriver at accepted
  split at accepted
  next => cases accepted
  next =>
    obtain ⟨size, -, updated⟩ := Results.bind_ok accepted
    obtain ⟨fits, rfl⟩ := updateFields_ok updated
    exact ⟨fits, by simp⟩

theorem hashedDriver_injective {platform other : PlatformTag} {fields others : List DriverField}
    {bytes : Bytes} (accepted : hashedDriver platform fields = .ok bytes)
    (acceptedOther : hashedDriver other others = .ok bytes) :
    platform = other ∧ fields = others := by
  obtain ⟨fits, shape⟩ := hashedDriver_ok accepted
  obtain ⟨fitsOther, shapeOther⟩ := hashedDriver_ok acceptedOther
  have same := List.append_cancel_left (shape.symm.trans shapeOther)
  obtain ⟨platforms, codes⟩ := List.cons.inj same
  refine ⟨?_, flatMap_injective fieldCode_selfDelimiting nofun fits fitsOther codes⟩
  cases platform <;> cases other <;> first | rfl | exact absurd platforms (by decide)

theorem hashed_ne_driver {runtime : RuntimeId} {platform : PlatformTag}
    {fields : List DriverField} {bytes : Bytes} (accepted : runtime.hashed = .ok bytes)
    (acceptedDriver : hashedDriver platform fields = .ok bytes) : False := by
  obtain ⟨-, shape⟩ := RuntimeId.hashed_ok accepted
  obtain ⟨-, shapeDriver⟩ := hashedDriver_ok acceptedDriver
  have same := congrArg (List.take 15) (shape.symm.trans shapeDriver)
  rw [List.take_append_of_le_length (by decide), List.take_append_of_le_length (by decide)] at same
  exact absurd same (by decide)

end Injectivity

inductive HashedIdentity where
  | runtime (id : RuntimeId)
  | driver (platform : PlatformTag) (fields : List DriverField)
deriving DecidableEq

namespace HashedIdentity

def hashed : HashedIdentity → Option Bytes
  | runtime id => id.hashed.toOption
  | driver platform fields => (hashedDriver platform fields).toOption

def digest (sha256 : Bytes → Digest) (runEpoch : Digest) : HashedIdentity → Option Digest
  | runtime id => (RuntimeEvidenceId.derive sha256 id).toOption.map (·.digest)
  | driver platform fields =>
      (deriveDriverIdentity sha256 platform (.complete fields) runEpoch).toOption.map (·.digest)

end HashedIdentity

def Collides (sha256 : Bytes → Digest) (first second : Bytes) : Prop :=
  first ≠ second ∧ sha256 first = sha256 second

theorem HashedIdentity.digest_eq (sha256 : Bytes → Digest) (runEpoch : Digest)
    (identity : HashedIdentity) :
    identity.digest sha256 runEpoch = identity.hashed.map sha256 := by
  cases identity with
  | runtime id =>
      simp only [digest, hashed, RuntimeEvidenceId.derive]
      cases id.hashed <;> rfl
  | driver platform fields =>
      simp only [digest, hashed, deriveDriverIdentity]
      cases hashedDriver platform fields <;> rfl

theorem HashedIdentity.hashed_injective {first second : HashedIdentity} {bytes : Bytes}
    (accepted : first.hashed = some bytes) (acceptedOther : second.hashed = some bytes) :
    first = second := by
  have ok {E : Type} {result : Except E Bytes} (given : result.toOption = some bytes) :
      result = .ok bytes := by
    cases result with
    | error error => cases given
    | ok value =>
        cases given
        rfl
  cases first with
  | runtime id =>
      cases second with
      | runtime other =>
          exact congrArg runtime (RuntimeId.hashed_injective (ok accepted) (ok acceptedOther))
      | driver platform fields => exact (hashed_ne_driver (ok accepted) (ok acceptedOther)).elim
  | driver platform fields =>
      cases second with
      | runtime other => exact (hashed_ne_driver (ok acceptedOther) (ok accepted)).elim
      | driver other others =>
          obtain ⟨rfl, rfl⟩ := hashedDriver_injective (ok accepted) (ok acceptedOther)
          rfl

theorem hashedIdentities_told_apart {first second : HashedIdentity} {bytes other : Bytes}
    (accepted : first.hashed = some bytes) (acceptedOther : second.hashed = some other) :
    (bytes = other → first = second) ∧
      ∀ sha256 runEpoch, ¬ Collides sha256 bytes other →
        first.digest sha256 runEpoch = second.digest sha256 runEpoch → first = second := by
  have apart (same : bytes = other) : first = second :=
    HashedIdentity.hashed_injective accepted (same ▸ acceptedOther)
  refine ⟨apart, fun sha256 runEpoch free digests => apart ?_⟩
  rw [HashedIdentity.digest_eq, HashedIdentity.digest_eq, accepted, acceptedOther] at digests
  by_contra different
  exact free ⟨different, Option.some.inj digests⟩

def plainIdentity : HashedIdentity :=
  .runtime ⟨utf8 "ab", utf8 "7.1", none, utf8 "cd", utf8 "root"⟩

def revisedIdentity : HashedIdentity :=
  .runtime ⟨utf8 "ab", utf8 "7.1", some [], utf8 "cd", utf8 "root"⟩

theorem absent_revision_told_apart :
    ∃ bytes other, plainIdentity.hashed = some bytes ∧ revisedIdentity.hashed = some other ∧
      (bytes = other → plainIdentity = revisedIdentity) ∧
      ∀ sha256 runEpoch, ¬ Collides sha256 bytes other →
        plainIdentity.digest sha256 runEpoch = revisedIdentity.digest sha256 runEpoch →
          plainIdentity = revisedIdentity :=
  ⟨_, _, rfl, rfl, hashedIdentities_told_apart rfl rfl⟩

end StreamServer.Capability
