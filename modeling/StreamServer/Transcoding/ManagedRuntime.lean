import Mathlib.Logic.Function.Basic
import StreamServer.Shared.Numerals
import StreamServer.Shared.Runs
import StreamServer.Transcoding.ByteRange

set_option autoImplicit false

namespace StreamServer.Transcoding

open ByteText

inductive RuntimeError where
  | invalidManifest (reason : Bytes)
  | unsafePath
  | unavailable
  | probeFailed
  | probeDeadline
  | incompatiblePair
  | runtimeChanged
  | untrustedDownload
  | tooManyRedirects
  | downloadFailed
  | downloadDeadline
  | cancelled
  | archiveTooLarge
  | archiveDigestMismatch
  | unsafeArchive
  | extractionFailed
  | installLockDeadline
  | installFailed
  | activationFailed
  | administratorRuntimeRequired
  | managedRuntimeUnsupported
deriving DecidableEq, Repr

inductive RuntimeHost where
  | windowsX64
  | linuxX64
  | macOsArm64
deriving DecidableEq, Repr

structure RuntimeArtifact where
  sourceTag : Bytes
  sha256 : Bytes
  maxBytes : Nat
  ffmpegVersion : Bytes
  jellyfinRevision : Bytes
  ffmpegMatcher : Bytes
  ffprobeMatcher : Bytes

structure ManagedVersionReceipt where
  schemaVersion : Nat
  version : Bytes
  archiveSha256 : Bytes
  archiveBytes : Nat
  ffmpegVersion : Bytes
  jellyfinRevision : Bytes
  ffmpegMatcher : Bytes
  ffprobeMatcher : Bytes
  installDigest : Bytes
deriving DecidableEq

structure ManagedSelection where
  schemaVersion : Nat
  manifestVersion : Bytes
  manifestArchiveSha256 : Bytes
  currentVersion : Bytes
  currentArchiveSha256 : Bytes
  currentInstallDigest : Bytes
  previousVersion : Option Bytes
deriving DecidableEq

def managedSelectionSchemaVersion : Nat := 2

def managedReceiptSchemaVersion : Nat := 1

def maxManagedArchiveBytes : Nat := 512 * 1024 * 1024

/-- A token is a file name of one component, as it has digits, dots and dashes only. -/
def isManagedVersionToken (version : Bytes) : Bool :=
  match (stripPrefix (utf8 "v") version).bind (splitOnce 45) with
  | none => false
  | some (release, revision) =>
      let components := release.splitOn 46
      decide (components.length = 3) &&
        components.all (fun component => !component.isEmpty && component.all isAsciiDigit) &&
        !revision.isEmpty && revision.all isAsciiDigit

def isLowercaseSha256 (value : Bytes) : Bool :=
  decide (value.length = 64) && value.all Hex.isLowerDigit

namespace ManagedVersionReceipt

def fromArtifact (artifact : RuntimeArtifact) (installDigest : Bytes) : ManagedVersionReceipt where
  schemaVersion := managedReceiptSchemaVersion
  version := artifact.sourceTag
  archiveSha256 := artifact.sha256
  archiveBytes := artifact.maxBytes
  ffmpegVersion := artifact.ffmpegVersion
  jellyfinRevision := artifact.jellyfinRevision
  ffmpegMatcher := artifact.ffmpegMatcher
  ffprobeMatcher := artifact.ffprobeMatcher
  installDigest := installDigest

def isSelfConsistent (receipt : ManagedVersionReceipt) : Bool :=
  decide (receipt.schemaVersion = managedReceiptSchemaVersion) &&
    isManagedVersionToken receipt.version &&
    decide (receipt.version =
      utf8 "v" ++ receipt.ffmpegVersion ++ utf8 "-" ++ receipt.jellyfinRevision) &&
    decide (receipt.ffmpegMatcher = receipt.ffmpegVersion ++ utf8 "-Jellyfin") &&
    decide (receipt.ffprobeMatcher = receipt.ffmpegVersion ++ utf8 "-Jellyfin") &&
    isLowercaseSha256 receipt.archiveSha256 && isLowercaseSha256 receipt.installDigest &&
    decide (0 < receipt.archiveBytes) && decide (receipt.archiveBytes ≤ maxManagedArchiveBytes)

def matchesArtifact (receipt : ManagedVersionReceipt) (artifact : RuntimeArtifact) : Bool :=
  receipt.isSelfConsistent && decide (receipt.version = artifact.sourceTag) &&
    decide (receipt.archiveSha256 = artifact.sha256) &&
    decide (receipt.archiveBytes = artifact.maxBytes) &&
    decide (receipt.ffmpegVersion = artifact.ffmpegVersion) &&
    decide (receipt.jellyfinRevision = artifact.jellyfinRevision) &&
    decide (receipt.ffmpegMatcher = artifact.ffmpegMatcher) &&
    decide (receipt.ffprobeMatcher = artifact.ffprobeMatcher)

end ManagedVersionReceipt

/-- What the receipt file is read as, and the digest of the two programs. -/
structure VersionDir where
  receipt : Option ManagedVersionReceipt
  installDigest : Option Bytes
deriving DecidableEq

inductive Operation where
  | activating (artifact : RuntimeArtifact)
  | staging (artifact : RuntimeArtifact)
  | found (artifact : RuntimeArtifact)
  | received (artifact : RuntimeArtifact) (receipt : ManagedVersionReceipt)
  | probed (artifact : RuntimeArtifact) (installDigest : Bytes)
  | compared (artifact : RuntimeArtifact) (installDigest : Bytes) (prior : Option ManagedSelection)
  | rollingBack (expected : ManagedSelection) (receipt : ManagedVersionReceipt)
  | unmoved (expected : ManagedSelection) (receipt : ManagedVersionReceipt)
  | reread (expected : ManagedSelection) (receipt : ManagedVersionReceipt)
  | selected (selection : ManagedSelection)
  | admitted (selection : ManagedSelection)
  | replaced (selection : ManagedSelection)
  | cleaning (selection : ManagedSelection) (entries : List Bytes)
  | canonical (selection : ManagedSelection) (entries : List Bytes) (name : Bytes)
  | removing (selection : ManagedSelection) (entries : List Bytes) (name : Bytes)

structure ManagedRoot where
  selection : Option ManagedSelection
  versions : Bytes → Option VersionDir
  leases : Bytes → Nat
  operation : Option Operation
  candidates : List (ManagedSelection × ManagedVersionReceipt)

-- `publish` carries the digest of what was extracted and probed, `list` the entries that are read,
-- `remove` what is left of a directory that is removed in part.
inductive OperationStep where
  | lookVersion
  | publish (installDigest : Bytes)
  | readReceipt
  | probe
  | readSelection
  | authenticate
  | admitCommit
  | replace
  | list (entries : List Bytes)
  | checkEntry
  | checkCanonical
  | remove (left : Option VersionDir)
deriving DecidableEq

inductive RuntimeAction where
  | lease (version : Bytes)
  | dropLease (version : Bytes)
  | resolve (artifact : RuntimeArtifact)
  | beginActivation (artifact : RuntimeArtifact)
  | beginRollback (place : Nat)
  | advance (step : OperationStep)
  | interrupt

namespace ManagedRoot

variable (root : ManagedRoot)

def readVersionReceipt (version : Bytes) : Option ManagedVersionReceipt :=
  ((root.versions version).bind VersionDir.receipt).filter ManagedVersionReceipt.isSelfConsistent

def readManagedSelection : Except Unit (Option ManagedSelection) :=
  match root.selection with
  | none => .ok none
  | some selection =>
      if selection.schemaVersion = managedSelectionSchemaVersion ∧
          isManagedVersionToken selection.currentVersion = true ∧
          selection.previousVersion.all isManagedVersionToken = true ∧
          isManagedVersionToken selection.manifestVersion = true ∧
          isLowercaseSha256 selection.manifestArchiveSha256 = true ∧
          isLowercaseSha256 selection.currentArchiveSha256 = true ∧
          isLowercaseSha256 selection.currentInstallDigest = true then
        .ok (some selection)
      else .error ()

def pairInstallDigest (version : Bytes) : Option Bytes :=
  (root.versions version).bind VersionDir.installDigest

def authenticateManagedVersionDigest (version : Bytes) (expectedArchiveSha256 : Option Bytes)
    (expectedInstallDigest : Option Bytes) : Option ManagedVersionReceipt :=
  if isManagedVersionToken version = false then none
  else
    (root.readVersionReceipt version).filter fun receipt =>
      decide (receipt.version = version) &&
        expectedArchiveSha256.all (fun expected => decide (receipt.archiveSha256 = expected)) &&
        expectedInstallDigest.all (fun expected => decide (receipt.installDigest = expected)) &&
        decide (root.pairInstallDigest version = some receipt.installDigest)

/-- The candidate of `authenticated_managed_candidates` that rolls back, read without the lock. -/
def rollbackCandidate (artifact : RuntimeArtifact) :
    Option (ManagedSelection × ManagedVersionReceipt) :=
  match root.readManagedSelection with
  | .ok (some selection) =>
      if selection.manifestVersion ≠ artifact.sourceTag ∨
          selection.manifestArchiveSha256 ≠ artifact.sha256 then none
      else
        selection.previousVersion.bind fun previous =>
          ((root.readVersionReceipt previous).filter fun receipt =>
            decide (receipt.version = previous)).map fun receipt => (selection, receipt)
  | _ => none

def previousOfActivation (artifact : RuntimeArtifact) (prior : Option ManagedSelection) :
    Option Bytes :=
  match prior with
  | none => none
  | some selection =>
      if selection.currentVersion = artifact.sourceTag then
        selection.previousVersion.bind fun previous =>
          (root.authenticateManagedVersionDigest previous none none).map fun _ => previous
      else
        (root.authenticateManagedVersionDigest selection.currentVersion
          (some selection.currentArchiveSha256) (some selection.currentInstallDigest)).map
            fun _ => selection.currentVersion

def activationSelection (artifact : RuntimeArtifact) (installDigest : Bytes)
    (prior : Option ManagedSelection) : ManagedSelection where
  schemaVersion := managedSelectionSchemaVersion
  manifestVersion := artifact.sourceTag
  manifestArchiveSha256 := artifact.sha256
  currentVersion := artifact.sourceTag
  currentArchiveSha256 := artifact.sha256
  currentInstallDigest := installDigest
  previousVersion := root.previousOfActivation artifact prior

def rollbackSelection (expected : ManagedSelection) (receipt : ManagedVersionReceipt) :
    ManagedSelection where
  schemaVersion := managedSelectionSchemaVersion
  manifestVersion := expected.manifestVersion
  manifestArchiveSha256 := expected.manifestArchiveSha256
  currentVersion := receipt.version
  currentArchiveSha256 := receipt.archiveSha256
  currentInstallDigest := receipt.installDigest
  previousVersion :=
    (root.authenticateManagedVersionDigest expected.currentVersion
      (some expected.currentArchiveSha256) (some expected.currentInstallDigest)).map
        fun _ => expected.currentVersion

def enter (operation : Operation) : ManagedRoot := { root with operation := some operation }

def isKept (selection : ManagedSelection) (name : Bytes) : Bool :=
  decide (name = selection.currentVersion) || decide (selection.previousVersion = some name)

/-- A removal that does not succeed leaves a part of the directory. -/
def isPartOf (left directory : VersionDir) : Bool :=
  (left.receipt.isNone || decide (left.receipt = directory.receipt)) &&
    (left.installDigest.isNone || decide (left.installDigest = directory.installDigest))

def advance (operation : Operation) (step : OperationStep) : Option ManagedRoot :=
  match operation, step with
  | .activating artifact, .lookVersion =>
      if isManagedVersionToken artifact.sourceTag = false then none
      else if (root.versions artifact.sourceTag).isSome then some (root.enter (.found artifact))
      else some (root.enter (.staging artifact))
  | .staging artifact, .publish installDigest =>
      if (root.versions artifact.sourceTag).isSome then none
      else some { root with
        versions := Function.update root.versions artifact.sourceTag (some
          ⟨some (.fromArtifact artifact installDigest), some installDigest⟩)
        operation := some (.found artifact) }
  | .found artifact, .readReceipt =>
      match root.readVersionReceipt artifact.sourceTag with
      | none => none
      | some receipt =>
          if receipt.matchesArtifact artifact then some (root.enter (.received artifact receipt))
          else none
  | .received artifact receipt, .probe =>
      if root.pairInstallDigest artifact.sourceTag = some receipt.installDigest then
        some (root.enter (.probed artifact receipt.installDigest))
      else none
  | .probed artifact installDigest, .readSelection =>
      match root.readManagedSelection with
      | .ok prior => some (root.enter (.compared artifact installDigest prior))
      | .error _ => none
  | .compared artifact installDigest prior, .authenticate =>
      some (root.enter (.selected (root.activationSelection artifact installDigest prior)))
  | .rollingBack expected receipt, .readSelection =>
      if root.readManagedSelection = .ok (some expected) then
        some (root.enter (.unmoved expected receipt))
      else none
  | .unmoved expected receipt, .readReceipt =>
      if root.readVersionReceipt receipt.version = some receipt then
        some (root.enter (.reread expected receipt))
      else none
  | .reread expected receipt, .authenticate =>
      some (root.enter (.selected (root.rollbackSelection expected receipt)))
  | .selected selection, .admitCommit => some (root.enter (.admitted selection))
  | .admitted selection, .replace =>
      some { root with selection := some selection, operation := some (.replaced selection) }
  | .replaced selection, .list entries => some (root.enter (.cleaning selection entries))
  | .cleaning selection (name :: entries), .checkEntry =>
      if isManagedVersionToken name = false ∨ isKept selection name = true ∨
          root.versions name = none ∨ root.leases name ≠ 0 then
        some (root.enter (.cleaning selection entries))
      else some (root.enter (.canonical selection entries name))
  | .canonical selection entries name, .checkCanonical =>
      if root.leases name ≠ 0 then some (root.enter (.cleaning selection entries))
      else some (root.enter (.removing selection entries name))
  | .removing selection entries name, .remove left =>
      match root.versions name with
      | none => some (root.enter (.cleaning selection entries))
      | some directory =>
          if left.all (isPartOf · directory) then
            some { root with
              versions := Function.update root.versions name left
              operation := some (.cleaning selection entries) }
          else none
  | _, _ => none

-- An error, a cancellation and a crash all end the operation where it stands; the lock is free again.
def step (root : ManagedRoot) : RuntimeAction → Option ManagedRoot
  | .lease version =>
      some { root with leases := Function.update root.leases version (root.leases version + 1) }
  | .dropLease version =>
      some { root with leases := Function.update root.leases version (root.leases version - 1) }
  | .resolve artifact =>
      match root.rollbackCandidate artifact with
      | none => none
      | some candidate => some { root with candidates := root.candidates ++ [candidate] }
  | .beginActivation artifact =>
      if root.operation.isSome then none else some (root.enter (.activating artifact))
  | .beginRollback place =>
      if root.operation.isSome then none
      else
        match root.candidates[place]? with
        | none => none
        | some (expected, receipt) => some (root.enter (.rollingBack expected receipt))
  | .advance step =>
      match root.operation with
      | none => none
      | some operation => root.advance operation step
  | .interrupt => some { root with operation := none }

/-- A root without a selection; its version directories may hold anything. -/
def unselected (versions : Bytes → Option VersionDir) : ManagedRoot :=
  ⟨none, versions, fun _ => 0, none, []⟩

end ManagedRoot

end StreamServer.Transcoding
