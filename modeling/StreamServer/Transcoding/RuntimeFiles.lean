import StreamServer.Capability.HashedIdentity
import StreamServer.Transcoding.ManagedRuntime

set_option autoImplicit false

namespace StreamServer.Transcoding.Resolution

open ByteText Results

variable {P : Type}

section Environment

inductive CandidateFailure where
  | missing
  | unsafeCandidate
  | probe
  | deadline
  | cancelled
  | incompatible
deriving DecidableEq, Repr

/-- The path functions of the platform, and the two crates. Paths that compare equal are equal. -/
structure System (P : Type) where
  windows : Bool
  toStringLossy : P → Bytes
  ofText : Bytes → P
  osBytes : P → Bytes
  isAbsolute : P → Bool
  driveIsRemote : P → Bool
  join : P → Bytes → P
  ancestors : P → List P
  splitPaths : Bytes → List P
  sha256 : Bytes → Bytes
  selectionOfJson : Bytes → Option ManagedSelection
  receiptOfJson : Bytes → Option ManagedVersionReceipt

inductive IoErrorKind where
  | notFound
  | other
deriving DecidableEq, Repr

inductive FileKind where
  | directory
  | file
  | other
deriving DecidableEq, Repr

structure FileMetadata where
  kind : FileKind
  isLinkOrReparse : Bool
deriving DecidableEq, Repr

structure FileIdentity where
  volume : Nat
  file : Nat
deriving DecidableEq, Repr

structure OpenedFile where
  contents : Bytes
  modified : Option Nat
  identity : FileIdentity

structure OpenedRoot (P : Type) where
  root : P
  identity : FileIdentity
  ffmpeg : OpenedFile
  ffprobe : OpenedFile

-- What the file system answers for as long as one operation looks at it. `openRoot` waits for the
-- permit to hash, checks the handles and reads both programs, all of which may fail.
structure FileView (P : Type) where
  symlinkMetadata : P → Except IoErrorKind FileMetadata
  canonicalize : P → Option P
  read : P → Except IoErrorKind Bytes
  openRoot : P → Except CandidateFailure (OpenedRoot P)

end Environment

section Paths

variable (system : System P)

def isRemoteOrDevicePath (path : P) : Bool :=
  if system.windows then
    let value := (system.toStringLossy path).map fun byte => if byte = 47 then 92 else byte
    startsWith (utf8 "\\\\") value || startsWith (utf8 "\\??\\") value ||
      startsWith (utf8 "\\.\\") value || startsWith (utf8 "\\?\\") value ||
        system.driveIsRemote path
  else false

def normalizeCanonicalPath (path : P) : P :=
  if system.windows then
    match stripPrefix (utf8 "\\\\?\\") (system.toStringLossy path) with
    | some local_ => if startsWith (utf8 "UNC\\") local_ then path else system.ofText local_
    | none => path
  else path

def pathsEqual [DecidableEq P] (left right : P) : Bool :=
  if system.windows then
    eqIgnoreAsciiCase (system.toStringLossy left) (system.toStringLossy right)
  else decide (left = right)

variable (files : FileView P)

def validateComponent (component : P) : Except RuntimeError Unit :=
  match files.symlinkMetadata component with
  | .error .notFound => .ok ()
  | .error .other => .error .unsafePath
  | .ok metadata =>
      if metadata.kind ≠ .directory ∨ metadata.isLinkOrReparse then .error .unsafePath
      else if isRemoteOrDevicePath system component then .error .unsafePath
      else .ok ()

def validateExistingLocalComponents (path : P) : Except RuntimeError Unit :=
  (system.ancestors path).forM (validateComponent system files)

def canonicalLocalRoot (root : P) : Except CandidateFailure P :=
  if !system.isAbsolute root || isRemoteOrDevicePath system root then .error .unsafeCandidate
  else
    match files.symlinkMetadata root with
    | .error .notFound => .error .missing
    | .error .other => .error .unsafeCandidate
    | .ok metadata =>
        if metadata.kind ≠ .directory ∨ metadata.isLinkOrReparse then .error .unsafeCandidate
        else
          match files.canonicalize root with
          | none => .error .unsafeCandidate
          | some path =>
              let canonical := normalizeCanonicalPath system path
              if isRemoteOrDevicePath system canonical then .error .unsafeCandidate
              else .ok canonical

end Paths

section ManagedFiles

variable (system : System P) (files : FileView P)

def isValidSelection (selection : ManagedSelection) : Bool :=
  decide (selection.schemaVersion = managedSelectionSchemaVersion) &&
    isManagedVersionToken selection.currentVersion &&
    selection.previousVersion.all isManagedVersionToken &&
    isManagedVersionToken selection.manifestVersion &&
    isLowercaseSha256 selection.manifestArchiveSha256 &&
    isLowercaseSha256 selection.currentArchiveSha256 &&
    isLowercaseSha256 selection.currentInstallDigest

def readManagedSelection (root : P) : Except RuntimeError (Option ManagedSelection) :=
  let path := system.join root (utf8 "current.json")
  match files.symlinkMetadata path with
  | .error .notFound => .ok none
  | .error .other => .error .activationFailed
  | .ok metadata =>
      if metadata.kind ≠ .file ∨ metadata.isLinkOrReparse then .error .activationFailed
      else
        match files.read path with
        | .error .notFound => .ok none
        | .error .other => .error .activationFailed
        | .ok bytes =>
            match system.selectionOfJson bytes with
            | none => .error .activationFailed
            | some selection =>
                if isValidSelection selection then .ok (some selection)
                else .error .activationFailed

def readVersionReceipt (versionRoot : P) : Except RuntimeError ManagedVersionReceipt := do
  validateExistingLocalComponents system files versionRoot
  let path := system.join versionRoot (utf8 ".install-receipt.json")
  match files.symlinkMetadata path with
  | .error _ => .error .installFailed
  | .ok metadata =>
      if metadata.kind ≠ .file ∨ metadata.isLinkOrReparse then .error .unsafePath
      else
        match files.read path with
        | .error _ => .error .installFailed
        | .ok bytes =>
            match system.receiptOfJson bytes with
            | none => .error .installFailed
            | some receipt =>
                if receipt.isSelfConsistent then .ok receipt else .error .installFailed

structure FileSeal where
  length : Nat
  modified : Option Nat
  digest : Bytes
  identity : FileIdentity
deriving DecidableEq

structure OpenedPair (P : Type) where
  root : P
  ffmpeg : P
  ffprobe : P
  rootIdentity : FileIdentity
  ffmpegSeal : FileSeal
  ffprobeSeal : FileSeal

def maxExecutableBytes : Nat := 512 * 1024 * 1024

def sealOpenFile (file : OpenedFile) : Except CandidateFailure FileSeal :=
  if maxExecutableBytes < file.contents.length then .error .unsafeCandidate
  else .ok ⟨file.contents.length, file.modified, system.sha256 file.contents, file.identity⟩

def executableName (role : Bytes) : Bytes := if system.windows then role ++ utf8 ".exe" else role

def openPairLease (root : P) : Except CandidateFailure (OpenedPair P) := do
  let opened ← files.openRoot root
  let ffmpegSeal ← sealOpenFile system opened.ffmpeg
  let ffprobeSeal ← sealOpenFile system opened.ffprobe
  return {
    root := opened.root
    ffmpeg := system.join opened.root (executableName system (utf8 "ffmpeg"))
    ffprobe := system.join opened.root (executableName system (utf8 "ffprobe"))
    rootIdentity := opened.identity
    ffmpegSeal := ffmpegSeal
    ffprobeSeal := ffprobeSeal }

def pairInstallDigest (ffmpeg ffprobe : FileSeal) : Bytes :=
  Hex.encode (system.sha256 (utf8 "ffmpeg" ++ [0] ++ ffmpeg.digest ++ utf8 "ffprobe" ++ [0] ++
    ffprobe.digest))

def versionRoot (root : P) (version : Bytes) : P :=
  system.join (system.join root (utf8 "versions")) version

def authenticateManagedVersionDigest (root : P) (version : Bytes)
    (expectedArchiveSha256 expectedInstallDigest : Option Bytes) : Option ManagedVersionReceipt := do
  guard (isManagedVersionToken version)
  (validateExistingLocalComponents system files (versionRoot system root version)).toOption
  let receipt ← (readVersionReceipt system files (versionRoot system root version)).toOption
  guard (receipt.version = version ∧ receipt.isSelfConsistent = true ∧
    expectedArchiveSha256.all (receipt.archiveSha256 = ·) = true ∧
    expectedInstallDigest.all (receipt.installDigest = ·) = true)
  let opened ← (openPairLease system files (versionRoot system root version)).toOption
  guard (pairInstallDigest system opened.ffmpegSeal opened.ffprobeSeal = receipt.installDigest)
  return receipt

end ManagedFiles

section Candidates

variable (system : System P) (files : FileView P)

inductive RuntimeProvenance (P : Type) where
  | unproven
  | authenticatedManaged (receipt : ManagedVersionReceipt) (rollback : Option (P × ManagedSelection))
deriving DecidableEq

def currentCandidate (root : P) (selection : ManagedSelection) : Option (P × RuntimeProvenance P) := do
  let currentRoot := versionRoot system root selection.currentVersion
  (validateExistingLocalComponents system files currentRoot).toOption
  let receipt ← (readVersionReceipt system files currentRoot).toOption
  guard (receipt.version = selection.currentVersion ∧
    receipt.archiveSha256 = selection.currentArchiveSha256 ∧
    receipt.installDigest = selection.currentInstallDigest)
  return (currentRoot, .authenticatedManaged receipt none)

def previousCandidate (root : P) (selection : ManagedSelection) :
    Option (P × RuntimeProvenance P) := do
  let previousVersion ← selection.previousVersion
  let previousRoot := versionRoot system root previousVersion
  (validateExistingLocalComponents system files previousRoot).toOption
  let receipt ← (readVersionReceipt system files previousRoot).toOption
  guard (receipt.version = previousVersion ∧ receipt.isSelfConsistent = true)
  return (previousRoot, .authenticatedManaged receipt (some (root, selection)))

def authenticatedManagedCandidates (root : P) (artifact : RuntimeArtifact) :
    Except RuntimeError (Option (List (P × RuntimeProvenance P))) :=
  match readManagedSelection system files root with
  | .error error => .error error
  | .ok none => .ok none
  | .ok (some selection) =>
      if selection.manifestVersion ≠ artifact.sourceTag ∨
          selection.manifestArchiveSha256 ≠ artifact.sha256 then .ok (some [])
      else
        .ok (some ((currentCandidate system files root selection).toList ++
          (previousCandidate system files root selection).toList))

end Candidates

section Rollback

variable (system : System P)

-- How the steps of a rollback outside of these definitions end: what takes the install lock, the
-- admission of the commit and the replacement of the selection file. `files` is read under the lock.
structure RollbackRun (P : Type) where
  prepared : Except RuntimeError Unit
  files : FileView P
  admitted : Bool
  written : Except RuntimeError Unit

def rollbackSelection (files : FileView P) (root : P) (expected : ManagedSelection)
    (receipt : ManagedVersionReceipt) : ManagedSelection where
  schemaVersion := managedSelectionSchemaVersion
  manifestVersion := expected.manifestVersion
  manifestArchiveSha256 := expected.manifestArchiveSha256
  currentVersion := receipt.version
  currentArchiveSha256 := receipt.archiveSha256
  currentInstallDigest := receipt.installDigest
  previousVersion :=
    (authenticateManagedVersionDigest system files root expected.currentVersion
      (some expected.currentArchiveSha256) (some expected.currentInstallDigest)).map
        fun _ => expected.currentVersion

def commitManagedRollback (run : RollbackRun P) (root : P) (expected : ManagedSelection)
    (receipt : ManagedVersionReceipt) : Except RuntimeError ManagedSelection := do
  run.prepared
  let found ← readManagedSelection system run.files root
  if found ≠ some expected then .error .activationFailed
  else
    validateExistingLocalComponents system run.files (versionRoot system root receipt.version)
    let currentReceipt ←
      readVersionReceipt system run.files (versionRoot system root receipt.version)
    if currentReceipt ≠ receipt then .error .activationFailed
    else if run.admitted = false then .error .cancelled
    else
      run.written
      return rollbackSelection system run.files root expected receipt

end Rollback

section Lookups

variable {system : System P} {files : FileView P}

theorem guard_bind {A : Type} (condition : Prop) [Decidable condition] (next : Option A) :
    ((guard condition : Option Unit).bind fun _ => next) = if condition then next else none := by
  by_cases holds : condition
  · simp [holds]
  · simp [holds]

theorem readVersionReceipt_sound {path : P} {receipt : ManagedVersionReceipt}
    (read : readVersionReceipt system files path = .ok receipt) :
    validateExistingLocalComponents system files path = .ok () ∧ receipt.isSelfConsistent = true := by
  obtain ⟨_, validated, rest⟩ := bind_ok read
  refine ⟨validated, ?_⟩
  dsimp only at rest
  split at rest
  · cases rest
  · split at rest
    · cases rest
    · split at rest
      · cases rest
      · split at rest
        · cases rest
        · split at rest
          next consistent =>
            cases rest
            exact consistent
          next => cases rest

theorem readManagedSelection_valid {root : P} {selection : ManagedSelection}
    (read : readManagedSelection system files root = .ok (some selection)) :
    isValidSelection selection = true := by
  unfold readManagedSelection at read
  dsimp only at read
  split at read
  · cases read
  · cases read
  · split at read
    · cases read
    · split at read
      · cases read
      · cases read
      · split at read
        · cases read
        · split at read
          next valid =>
            cases read
            exact valid
          next => cases read

def managedRoot (system : System P) (files : FileView P) (root : P) : ManagedRoot where
  selection := (readManagedSelection system files root).toOption.join
  versions version :=
    some {
      receipt := (readVersionReceipt system files (versionRoot system root version)).toOption
      installDigest :=
        (openPairLease system files (versionRoot system root version)).toOption.map fun opened =>
          pairInstallDigest system opened.ffmpegSeal opened.ffprobeSeal }
  leases := fun _ => 0
  operation := none
  candidates := []

theorem managedRoot_readManagedSelection {root : P} {found : Option ManagedSelection}
    (read : readManagedSelection system files root = .ok found) :
    (managedRoot system files root).readManagedSelection = .ok found := by
  have stored : (managedRoot system files root).selection = found := by
    simp [managedRoot, read, Except.toOption]
  unfold ManagedRoot.readManagedSelection
  rw [stored]
  cases found with
  | none => rfl
  | some selection =>
    have valid := readManagedSelection_valid read
    simp only [isValidSelection, Bool.and_eq_true, decide_eq_true_eq, and_assoc] at valid
    exact if_pos valid

theorem managedRoot_readVersionReceipt (root : P) (version : Bytes) :
    (managedRoot system files root).readVersionReceipt version =
      (readVersionReceipt system files (versionRoot system root version)).toOption := by
  unfold ManagedRoot.readVersionReceipt managedRoot
  dsimp only [Option.bind_some]
  cases read : readVersionReceipt system files (versionRoot system root version) with
  | error error => rfl
  | ok receipt => exact if_pos (readVersionReceipt_sound read).2

theorem managedRoot_authenticate (root : P) (version : Bytes)
    (expectedArchiveSha256 expectedInstallDigest : Option Bytes) :
    (managedRoot system files root).authenticateManagedVersionDigest version expectedArchiveSha256
        expectedInstallDigest =
      authenticateManagedVersionDigest system files root version expectedArchiveSha256
        expectedInstallDigest := by
  unfold ManagedRoot.authenticateManagedVersionDigest authenticateManagedVersionDigest
  rw [managedRoot_readVersionReceipt]
  cases token : isManagedVersionToken version with
  | false => rfl
  | true =>
    cases read : readVersionReceipt system files (versionRoot system root version) with
    | error error =>
      simp [Except.toOption]
    | ok receipt =>
      obtain ⟨validated, consistent⟩ := readVersionReceipt_sound read
      cases opened : openPairLease system files (versionRoot system root version) with
      | error error =>
        simp [managedRoot, ManagedRoot.pairInstallDigest, opened, validated, Except.toOption,
          Option.filter]
      | ok pair =>
        simp [managedRoot, ManagedRoot.pairInstallDigest, opened, validated, consistent,
          Except.toOption, Option.filter, guard_bind, ite_and]

theorem managedRoot_rollbackSelection (root : P) (expected : ManagedSelection)
    (receipt : ManagedVersionReceipt) :
    (managedRoot system files root).rollbackSelection expected receipt =
      rollbackSelection system files root expected receipt := by
  simp only [ManagedRoot.rollbackSelection, rollbackSelection, managedRoot_authenticate]

-- The candidates of a managed root: the version that its stored selection names as current, and the
-- one that it names as previous, for which the selection is rolled back.
inductive ManagedCandidate (system : System P) (files : FileView P) (root : P)
    (selection : ManagedSelection) : P → RuntimeProvenance P → Prop
  | current (receipt : ManagedVersionReceipt)
      (read : readVersionReceipt system files (versionRoot system root selection.currentVersion) =
        .ok receipt)
      (version : receipt.version = selection.currentVersion)
      (archive : receipt.archiveSha256 = selection.currentArchiveSha256)
      (digest : receipt.installDigest = selection.currentInstallDigest) :
      ManagedCandidate system files root selection
        (versionRoot system root selection.currentVersion) (.authenticatedManaged receipt none)
  | previous (previousVersion : Bytes) (receipt : ManagedVersionReceipt)
      (named : selection.previousVersion = some previousVersion)
      (read : readVersionReceipt system files (versionRoot system root previousVersion) =
        .ok receipt)
      (version : receipt.version = previousVersion) :
      ManagedCandidate system files root selection (versionRoot system root previousVersion)
        (.authenticatedManaged receipt (some (root, selection)))

theorem currentCandidate_eq_some_iff {root path : P} {selection : ManagedSelection}
    {provenance : RuntimeProvenance P} :
    currentCandidate system files root selection = some (path, provenance) ↔
      ∃ receipt, readVersionReceipt system files (versionRoot system root selection.currentVersion) =
          .ok receipt ∧
        (receipt.version = selection.currentVersion ∧
          receipt.archiveSha256 = selection.currentArchiveSha256 ∧
          receipt.installDigest = selection.currentInstallDigest) ∧
        versionRoot system root selection.currentVersion = path ∧
        .authenticatedManaged receipt none = provenance := by
  unfold currentCandidate
  cases read : readVersionReceipt system files (versionRoot system root selection.currentVersion) with
  | error error => simp [read, Except.toOption]
  | ok receipt =>
    have validated := (readVersionReceipt_sound read).1
    simp [read, validated, Except.toOption, guard_bind]

theorem previousCandidate_eq_some_iff {root path : P} {selection : ManagedSelection}
    {provenance : RuntimeProvenance P} :
    previousCandidate system files root selection = some (path, provenance) ↔
      ∃ previousVersion receipt, selection.previousVersion = some previousVersion ∧
        readVersionReceipt system files (versionRoot system root previousVersion) = .ok receipt ∧
        receipt.version = previousVersion ∧ versionRoot system root previousVersion = path ∧
        .authenticatedManaged receipt (some (root, selection)) = provenance := by
  unfold previousCandidate
  cases selection.previousVersion with
  | none => simp
  | some previousVersion =>
    simp only [Option.some.injEq, exists_eq_left', exists_and_left]
    cases read : readVersionReceipt system files (versionRoot system root previousVersion) with
    | error error => simp [read, Except.toOption]
    | ok receipt =>
      obtain ⟨validated, consistent⟩ := readVersionReceipt_sound read
      simp [read, validated, consistent, Except.toOption, guard_bind]

theorem managedCandidate_iff {root path : P} {selection : ManagedSelection}
    {provenance : RuntimeProvenance P} :
    ManagedCandidate system files root selection path provenance ↔
      currentCandidate system files root selection = some (path, provenance) ∨
        previousCandidate system files root selection = some (path, provenance) := by
  rw [currentCandidate_eq_some_iff, previousCandidate_eq_some_iff]
  constructor
  · rintro (⟨receipt, read, version, archive, digest⟩ | ⟨previousVersion, receipt, named, read, version⟩)
    · exact .inl ⟨receipt, read, ⟨version, archive, digest⟩, rfl, rfl⟩
    · exact .inr ⟨previousVersion, receipt, named, read, version, rfl, rfl⟩
  · rintro (⟨receipt, read, ⟨version, archive, digest⟩, rfl, rfl⟩ |
      ⟨previousVersion, receipt, named, read, version, rfl, rfl⟩)
    · exact .current receipt read version archive digest
    · exact .previous previousVersion receipt named read version

theorem authenticatedManagedCandidates_sound {root path : P} {artifact : RuntimeArtifact}
    {candidates : List (P × RuntimeProvenance P)} {provenance : RuntimeProvenance P}
    (found : authenticatedManagedCandidates system files root artifact = .ok (some candidates))
    (member : (path, provenance) ∈ candidates) :
    ∃ selection, readManagedSelection system files root = .ok (some selection) ∧
      selection.manifestVersion = artifact.sourceTag ∧
      selection.manifestArchiveSha256 = artifact.sha256 ∧
      ManagedCandidate system files root selection path provenance := by
  unfold authenticatedManagedCandidates at found
  split at found
  · cases found
  · cases found
  next selection read =>
    split at found
    next =>
      cases found
      cases member
    next made =>
      cases found
      simp only [ne_eq, not_or, Decidable.not_not] at made
      refine ⟨selection, read, made.1, made.2, managedCandidate_iff.mpr ?_⟩
      simpa only [List.mem_append, Option.mem_toList, Option.mem_def] using member

theorem commitManagedRollback_sound {run : RollbackRun P} {root : P} {expected : ManagedSelection}
    {receipt : ManagedVersionReceipt} {selection : ManagedSelection}
    (committed : commitManagedRollback system run root expected receipt = .ok selection) :
    readManagedSelection system run.files root = .ok (some expected) ∧
      readVersionReceipt system run.files (versionRoot system root receipt.version) = .ok receipt ∧
      run.admitted = true ∧ run.written = .ok () ∧
      selection = rollbackSelection system run.files root expected receipt := by
  obtain ⟨_, _, rest⟩ := bind_ok committed
  obtain ⟨found, stored, rest⟩ := bind_ok rest
  split at rest
  · cases rest
  next unmoved =>
    obtain ⟨_, _, rest⟩ := bind_ok rest
    obtain ⟨current, read, rest⟩ := bind_ok rest
    split at rest
    · cases rest
    next same =>
      split at rest
      · cases rest
      next admitted =>
        obtain ⟨_, written, rest⟩ := bind_ok rest
        cases rest
        cases Decidable.not_not.mp unmoved
        cases Decidable.not_not.mp same
        exact ⟨stored, read, Bool.not_eq_false _ |>.mp admitted, written, rfl⟩

def rollbackActions : List RuntimeAction :=
  .beginRollback 0 ::
    List.map .advance [.readSelection, .readReceipt, .authenticate, .admitCommit, .replace]

theorem commitManagedRollback_runs {run : RollbackRun P} {root : P} {expected : ManagedSelection}
    {receipt : ManagedVersionReceipt} {selection : ManagedSelection}
    (committed : commitManagedRollback system run root expected receipt = .ok selection) :
    Runs.run ManagedRoot.step
        { managedRoot system run.files root with candidates := [(expected, receipt)] }
        rollbackActions =
      some { managedRoot system run.files root with
        candidates := [(expected, receipt)]
        selection := some selection
        operation := some (.replaced selection) } := by
  obtain ⟨stored, read, _, _, rfl⟩ := commitManagedRollback_sound committed
  have found := managedRoot_readManagedSelection stored
  have held : (managedRoot system run.files root).readVersionReceipt receipt.version =
      some receipt := by
    rw [managedRoot_readVersionReceipt, read]
    rfl
  generalize reached : managedRoot system run.files root = lockedRoot at *
  have still : ∀ candidates operation, ManagedRoot.readManagedSelection
      { lockedRoot with candidates := candidates, operation := operation } = .ok (some expected) :=
    fun _ _ => found
  have received : ∀ candidates operation, ManagedRoot.readVersionReceipt
      { lockedRoot with candidates := candidates, operation := operation } receipt.version =
        some receipt := fun _ _ => held
  have idle : lockedRoot.operation = none := by rw [← reached]; rfl
  have chosen : ∀ candidates operation, ManagedRoot.rollbackSelection
      { lockedRoot with candidates := candidates, operation := operation } expected receipt =
        rollbackSelection system run.files root expected receipt := by
    intro candidates operation
    rw [← managedRoot_rollbackSelection, reached]
    rfl
  simp [rollbackActions, Runs.run, ManagedRoot.step, ManagedRoot.advance, ManagedRoot.enter, idle,
    still, received, chosen]

end Lookups

end StreamServer.Transcoding.Resolution
