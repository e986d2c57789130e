import StreamServer.Capability.CacheSchema

set_option autoImplicit false

namespace StreamServer.Capability

inductive ListedCodec where
  | h264 | hevc | av1 | vp9 | mpeg2 | vc1
deriving DecidableEq, Repr, Ord

inductive ListedDirection where
  | decode | encode
deriving DecidableEq, Repr, Ord

inductive FilterComponent where
  | format | hardwareDownload | hardwareMap | hardwareUpload
  | scaleSoftware | scaleCuda | scaleQsv | scaleVaapi
  | deinterlaceSoftware | deinterlaceQsv | deinterlaceVaapi
  | toneMapSoftware | toneMapOpenCl | toneMapVaapi
deriving DecidableEq, Repr

inductive DeviceAvailability where
  | available | locatorUnavailable | permissionDenied | administrativelyDisabled | stale
deriving DecidableEq, Repr

structure TranscodingDevice where
  id : DeviceId
  availability : DeviceAvailability
  backends : List BackendKind
  driverIdentity : DriverIdentity
deriving DecidableEq, Repr

structure RuntimeInventory where
  runtimeId : RuntimeEvidenceId
  filters : List FilterComponent
deriving DecidableEq, Repr

structure CoarseCandidate where
  device : DeviceId
  backend : BackendKind
  codec : ListedCodec
  direction : ListedDirection
deriving DecidableEq, Repr

instance : Ord CoarseCandidate where
  compare left right :=
    (compare left.device.text right.device.text).then <|
      (compare left.backend right.backend).then <|
        (compare left.codec right.codec).then (compare left.direction right.direction)

structure StaticPrerequisites where
  decode : Option ListedCodec
  encode : Option ListedCodec
  requirements : Option PipelineRequirements

def listedInputCodec : InputVideoCodec → Option ListedCodec
  | .h264 => some .h264
  | .hevc => some .hevc
  | .av1 => some .av1
  | .vp9 => some .vp9
  | .mpeg2 => some .mpeg2
  | .vc1 => some .vc1
  | .otherProbed => none

def listedOutputCodec : OutputVideoCodec → ListedCodec
  | .h264 => .h264
  | .hevc => .hevc
  | .av1 => .av1

def CapabilityKey.staticPrerequisites (key : CapabilityKey) : StaticPrerequisites :=
  match key.operation with
  | .decode input requirements => ⟨listedInputCodec input.codec, none, some requirements⟩
  | .encode output requirements => ⟨none, some (listedOutputCodec output.codec), some requirements⟩
  | .fullPipeline input output requirements | .segmentedPipeline input output requirements _ =>
      ⟨listedInputCodec input.codec, some (listedOutputCodec output.codec), some requirements⟩
  | .copyRemux _ => ⟨none, none, none⟩

def requiredFilterComponents : RequiredFilter → Option (List FilterComponent)
  | .format => some [.format]
  | .scale => some [.scaleSoftware, .scaleCuda, .scaleQsv, .scaleVaapi]
  | .deinterlace => some [.deinterlaceSoftware, .deinterlaceQsv, .deinterlaceVaapi]
  | .toneMap => some [.toneMapSoftware, .toneMapOpenCl, .toneMapVaapi]
  | .subtitles => none
  | .hardwareUpload => some [.hardwareUpload]
  | .hardwareDownload => some [.hardwareDownload]
  | .hardwareMap => some [.hardwareMap]

def requiredTransferComponent : RequiredTransfer → FilterComponent
  | .upload => .hardwareUpload
  | .download => .hardwareDownload
  | .hardwareMap => .hardwareMap

inductive SnapshotFreshness where
  | uninitialized
  | refreshing
  | fresh
  | stale
deriving DecidableEq, Repr

inductive SnapshotError where
  | bounds
  | crossReference
  | invalid
  | ordering
deriving DecidableEq, Repr

def maxDevices : Nat := 32

def maxCandidates : Nat := 1024

def maxEvidence : Nat := 3072

def maxCombinedRows : Nat := 4096

structure CapabilitySnapshot where
  freshness : SnapshotFreshness
  identityEpoch : Nat
  publicationRevision : Nat
  runtime : Option RuntimeInventory
  devices : List TranscodingDevice
  candidates : List CoarseCandidate
  evidence : EvidenceMap
deriving DecidableEq

namespace CapabilitySnapshot

def initial : CapabilitySnapshot := ⟨.uninitialized, 0, 0, none, [], [], ∅⟩

def keyIdentityMatches (snapshot : CapabilitySnapshot) (key : CapabilityKey) : Bool :=
  (snapshot.runtime.any fun runtime => runtime.runtimeId = key.runtime) &&
    snapshot.devices.any fun device =>
      device.id = key.device && device.driverIdentity = key.driver &&
        device.availability = .available && device.backends.contains key.backend

/-- The candidates are ordered, so the source's binary search is membership. -/
def hasStaticPrerequisites (snapshot : CapabilitySnapshot) (key : CapabilityKey) : Bool :=
  let prerequisites := key.staticPrerequisites
  let has := fun codec direction =>
    snapshot.candidates.contains ⟨key.device, key.backend, codec, direction⟩
  (prerequisites.decode.all fun codec => has codec .decode) &&
    (prerequisites.encode.all fun codec => has codec .encode) &&
    prerequisites.requirements.all fun requirements =>
      snapshot.runtime.any fun runtime =>
        (requirements.filters.all fun filter =>
          (requiredFilterComponents filter).all fun components =>
            components.any fun component => runtime.filters.contains component) &&
        requirements.transfers.all fun transfer =>
          runtime.filters.contains (requiredTransferComponent transfer)

def keyIsCurrent (snapshot : CapabilitySnapshot) (key : CapabilityKey) : Bool :=
  snapshot.freshness = .fresh && snapshot.keyIdentityMatches key

def admits (snapshot : CapabilitySnapshot) (key : CapabilityKey) : Bool :=
  key.isValid && snapshot.keyIsCurrent key && snapshot.hasStaticPrerequisites key

def exceedsBounds (snapshot : CapabilitySnapshot) : Bool :=
  snapshot.identityEpoch > maxSafeInteger || snapshot.publicationRevision > maxSafeInteger ||
    snapshot.devices.length > maxDevices || snapshot.candidates.length > maxCandidates ||
    snapshot.evidence.entries.length > maxEvidence ||
    snapshot.candidates.length + snapshot.evidence.entries.length > maxCombinedRows

def ordered (snapshot : CapabilitySnapshot) : Bool :=
  increasing (snapshot.devices.map fun device => device.id.text) && increasing snapshot.candidates

def candidateMatches (snapshot : CapabilitySnapshot) (candidate : CoarseCandidate) : Bool :=
  (snapshot.devices.find? fun device => device.id = candidate.device).any fun device =>
    device.backends.contains candidate.backend

def entryMatches (snapshot : CapabilitySnapshot)
    (entry : Sigma fun _ : CapabilityKey => EvidenceRecord) : Bool :=
  entry.1 = entry.2.key && entry.1.isValid && snapshot.keyIdentityMatches entry.1 &&
    snapshot.hasStaticPrerequisites entry.1

def validate (snapshot : CapabilitySnapshot) (now : StateNow) : Except SnapshotError Unit :=
  if snapshot.exceedsBounds then .error .bounds
  else if snapshot.freshness = .uninitialized ∧
      (snapshot.identityEpoch ≠ 0 ∨ snapshot.publicationRevision ≠ 0 ∨ snapshot.runtime.isSome ∨
        snapshot.devices ≠ [] ∨ snapshot.candidates ≠ [] ∨ snapshot.evidence.entries ≠ []) then
    .error .invalid
  else if snapshot.freshness ≠ .uninitialized ∧
      (snapshot.identityEpoch = 0 ∨ snapshot.publicationRevision = 0) then
    .error .invalid
  else if snapshot.runtime = none ∧
      (snapshot.candidates ≠ [] ∨ snapshot.evidence.entries ≠ []) then
    .error .crossReference
  else if !snapshot.ordered then .error .ordering
  else if !snapshot.candidates.all snapshot.candidateMatches then .error .crossReference
  else if !snapshot.evidence.entries.all fun entry =>
      snapshot.entryMatches entry && decide (entry.2.validate now = .ok ()) then
    .error .crossReference
  else .ok ()

def fromParts (snapshot : CapabilitySnapshot) (now : StateNow) :
    Except SnapshotError CapabilitySnapshot := do
  snapshot.validate now
  return snapshot

/-- The part of the check that reads the clock. -/
def CurrentAt (snapshot : CapabilitySnapshot) (now : StateNow) : Prop :=
  ∀ entry ∈ snapshot.evidence.entries, entry.2.validate now = .ok ()

instance (snapshot : CapabilitySnapshot) (now : StateNow) : Decidable (snapshot.CurrentAt now) :=
  inferInstanceAs (Decidable (∀ _ ∈ _, _))

/-- The part of the check that reads neither the clock nor the versions. -/
structure Consistent (snapshot : CapabilitySnapshot) : Prop where
  devices : snapshot.devices.length ≤ maxDevices
  candidates : snapshot.candidates.length ≤ maxCandidates
  evidence : snapshot.evidence.entries.length ≤ maxEvidence
  rows : snapshot.candidates.length + snapshot.evidence.entries.length ≤ maxCombinedRows
  runtime : snapshot.runtime = none → snapshot.candidates = [] ∧ snapshot.evidence.entries = []
  ordered : snapshot.ordered = true
  referenced : snapshot.candidates.all snapshot.candidateMatches = true
  matched : snapshot.evidence.entries.all snapshot.entryMatches = true

structure Versioned (snapshot : CapabilitySnapshot) : Prop where
  epoch : snapshot.identityEpoch ≤ maxSafeInteger
  revision : snapshot.publicationRevision ≤ maxSafeInteger
  unset : snapshot.freshness = .uninitialized →
    snapshot.identityEpoch = 0 ∧ snapshot.publicationRevision = 0 ∧ snapshot.runtime = none ∧
      snapshot.devices = [] ∧ snapshot.candidates = [] ∧ snapshot.evidence.entries = []
  set : snapshot.freshness ≠ .uninitialized →
    snapshot.identityEpoch ≠ 0 ∧ snapshot.publicationRevision ≠ 0

theorem validate_eq_ok {snapshot : CapabilitySnapshot} {now : StateNow} :
    snapshot.validate now = .ok () ↔
      snapshot.Versioned ∧ snapshot.Consistent ∧ snapshot.CurrentAt now := by
  unfold validate
  constructor
  · intro valid
    split at valid
    next => cases valid
    next inBounds =>
      split at valid
      next => cases valid
      next unset =>
        split at valid
        next => cases valid
        next set =>
          split at valid
          next => cases valid
          next runtime =>
            split at valid
            next => cases valid
            next ordered =>
              split at valid
              next => cases valid
              next referenced =>
                split at valid
                next => cases valid
                next matched =>
                  simp only [exceedsBounds, Bool.or_eq_true, decide_eq_true_eq, not_or, Nat.not_lt,
                    gt_iff_lt] at inBounds
                  simp only [not_and, not_or, not_not, Bool.not_eq_true, Option.isSome_eq_false_iff,
                    Option.isNone_iff_eq_none] at unset
                  simp only [not_and, not_or] at set
                  simp only [not_and, not_or, not_not] at runtime
                  simp only [Bool.not_eq_true', Bool.not_eq_false] at ordered referenced
                  simp only [Bool.not_eq_true', Bool.not_eq_false, List.all_eq_true,
                    Bool.and_eq_true, decide_eq_true_eq] at matched
                  obtain ⟨⟨⟨⟨⟨epoch, revision⟩, devices⟩, candidates⟩, evidence⟩, rows⟩ := inBounds
                  refine ⟨⟨epoch, revision, unset, set⟩,
                    ⟨devices, candidates, evidence, rows, runtime, ordered, referenced, ?_⟩, ?_⟩
                  · exact List.all_eq_true.mpr fun entry member => (matched entry member).1
                  · exact fun entry member => (matched entry member).2
  · rintro ⟨versioned, consistent, current⟩
    have matched := List.all_eq_true.mp consistent.matched
    rw [if_neg, if_neg, if_neg, if_neg, if_neg, if_neg, if_neg]
    · simp only [Bool.not_eq_true', Bool.not_eq_false, List.all_eq_true, Bool.and_eq_true,
        decide_eq_true_eq]
      exact fun entry member => ⟨matched entry member, current entry member⟩
    · simp [consistent.referenced]
    · simp [consistent.ordered]
    · rintro ⟨absent, candidates | evidence⟩
      · exact candidates (consistent.runtime absent).1
      · exact evidence (consistent.runtime absent).2
    · rintro ⟨different, epoch | revision⟩
      · exact (versioned.set different).1 epoch
      · exact (versioned.set different).2 revision
    · rintro ⟨same, differs⟩
      obtain ⟨epoch, revision, runtime, devices, candidates, evidence⟩ := versioned.unset same
      simp [epoch, revision, runtime, devices, candidates, evidence] at differs
    · simp only [exceedsBounds, Bool.or_eq_true, decide_eq_true_eq, not_or, Nat.not_lt, gt_iff_lt]
      exact ⟨⟨⟨⟨⟨versioned.epoch, versioned.revision⟩, consistent.devices⟩, consistent.candidates⟩,
        consistent.evidence⟩, consistent.rows⟩

theorem fromParts_eq_ok {snapshot result : CapabilitySnapshot} {now : StateNow} :
    snapshot.fromParts now = .ok result ↔ result = snapshot ∧ snapshot.validate now = .ok () := by
  unfold fromParts
  cases snapshot.validate now with
  | error error => simp [bind, Except.bind]
  | ok => simp [bind, Except.bind, pure, Except.pure, eq_comm]

def republished (snapshot : CapabilitySnapshot) (freshness : SnapshotFreshness)
    (identityEpoch publicationRevision : Nat) : CapabilitySnapshot :=
  { snapshot with freshness, identityEpoch, publicationRevision }

theorem Consistent.republished {snapshot : CapabilitySnapshot} (consistent : snapshot.Consistent)
    (freshness : SnapshotFreshness) (identityEpoch publicationRevision : Nat) :
    (snapshot.republished freshness identityEpoch publicationRevision).Consistent :=
  ⟨consistent.devices, consistent.candidates, consistent.evidence, consistent.rows,
    consistent.runtime, consistent.ordered, consistent.referenced, consistent.matched⟩

theorem validate_republished {snapshot : CapabilitySnapshot} {freshness : SnapshotFreshness}
    {identityEpoch publicationRevision : Nat} {now : StateNow} (consistent : snapshot.Consistent)
    (different : freshness ≠ .uninitialized) (epochSet : identityEpoch ≠ 0)
    (revisionSet : publicationRevision ≠ 0) (epoch : identityEpoch ≤ maxSafeInteger)
    (revision : publicationRevision ≤ maxSafeInteger) :
    (snapshot.republished freshness identityEpoch publicationRevision).validate now = .ok () ↔
      snapshot.CurrentAt now := by
  rw [validate_eq_ok]
  constructor
  · rintro ⟨_, _, current⟩
    exact current
  · intro current
    refine ⟨⟨epoch, revision, fun same => absurd same different, fun _ => ⟨epochSet, revisionSet⟩⟩,
      consistent.republished _ _ _, current⟩

theorem admits_fresh {snapshot : CapabilitySnapshot} {key : CapabilityKey}
    (admitted : snapshot.admits key = true) : snapshot.freshness = .fresh := by
  simp only [admits, keyIsCurrent, Bool.and_eq_true, decide_eq_true_eq] at admitted
  exact admitted.1.2.1

theorem initial_consistent : initial.Consistent :=
  ⟨by decide, by decide, by decide, by decide, fun _ => ⟨rfl, rfl⟩, rfl, rfl, rfl⟩

end CapabilitySnapshot

end StreamServer.Capability
