import StreamServer.EngineFs.Subtitles
import StreamServer.Transcoding.RuntimeFiles

set_option autoImplicit false

namespace StreamServer.Transcoding.Resolution

open ByteText Results EngineFs
open Capability (RuntimeId)

variable {P : Type}

section Outputs

def isAsciiWhitespace (byte : UInt8) : Bool := [9, 10, 12, 13, 32].contains byte

def firstLine (output : Bytes) : Option Bytes :=
  if output = [] then none
  else
    let line := output.takeWhile (· ≠ 10)
    some (if line.length < output.length ∧ line.getLast? = some 13 then line.dropLast else line)

def firstWord (text : Bytes) : Option Bytes :=
  let word := (text.dropWhile isAsciiWhitespace).takeWhile (!isAsciiWhitespace ·)
  if word = [] then none else some word

def parseVersion (output role : Bytes) : Except CandidateFailure Bytes :=
  if ¬ IsUtf8 output then .error .incompatible
  else
    match firstLine output with
    | none => .error .incompatible
    | some line =>
        match (stripPrefix (role ++ utf8 " version ") line).bind firstWord with
        | none => .error .incompatible
        | some token => if token = [] then .error .incompatible else .ok token

def trimStart (text : Text) : Text := text.dropWhile isWhitespace

def configurationHeader : Text := "configuration:".toList

def headerRemainder : List Text → Option (Text × List Text)
  | [] => none
  | line :: lines =>
      if configurationHeader.isPrefixOf (trimStart line) then
        some (trim ((trimStart line).drop configurationHeader.length), lines)
      else headerRemainder lines

def optionLines : List Text → List Text
  | [] => []
  | line :: lines =>
      if "--".toList.isPrefixOf (trim line) then trim line :: optionLines lines
      else if trim line = [] then optionLines lines
      else []

def fromUtf8 (bytes : Bytes) : Option Text := (String.fromUTF8? bytes.toByteArray).map String.toList

def buildConfiguration (output : Bytes) : Except CandidateFailure Bytes :=
  match (fromUtf8 output).bind fun text => headerRemainder (lines text) with
  | none => .error .incompatible
  | some (remainder, rest) =>
      let options := (if remainder = [] then [] else [remainder]) ++ optionLines rest
      if options = [] then .error .incompatible
      else .ok (utf8 (String.ofList (joinLines options)))

end Outputs

section Probes

inductive RuntimeExecutable where
  | ffmpeg
  | ffprobe
deriving DecidableEq, Repr

def RuntimeExecutable.role : RuntimeExecutable → Bytes
  | .ffmpeg => utf8 "ffmpeg"
  | .ffprobe => utf8 "ffprobe"

inductive IdentityArgument where
  | version
  | buildconf
deriving DecidableEq, Repr

inductive ProcessErrorCode where
  | deadlineExceeded
  | cancelled
  | other
deriving DecidableEq, Repr

-- `unbound` is a handle that no path can be given for.
inductive CommandRun where
  | unbound
  | failed (code : ProcessErrorCode)
  | exited (success : Bool) (stdout : Bytes)

structure SourceMetadata where
  isFile : Bool
  length : Nat
  modified : Option Nat
  identity : FileIdentity

-- What a candidate shows while it is looked at: its files, what its two programs print, their
-- metadata after that, and the rollback to it.
structure CandidateView (P : Type) where
  files : FileView P
  run : RuntimeExecutable → IdentityArgument → CommandRun
  sourceMetadata : RuntimeExecutable → Option SourceMetadata
  rollback : RollbackRun P

structure ProbedPair (P : Type) where
  opened : OpenedPair P
  version : Bytes
  jellyfin : Bool
  buildConfigurationDigest : Bytes

variable (system : System P) (view : CandidateView P)

def probeIdentityCommand (executable : RuntimeExecutable) (argument : IdentityArgument) :
    Except CandidateFailure Bytes :=
  match view.run executable argument with
  | .unbound => .error .probe
  | .failed .deadlineExceeded => .error .deadline
  | .failed .cancelled => .error .cancelled
  | .failed .other => .error .probe
  | .exited success stdout => if success then .ok stdout else .error .probe

def metadataSealOpenFile (executable : RuntimeExecutable) (digest : Bytes) :
    Except CandidateFailure FileSeal :=
  match view.sourceMetadata executable with
  | none => .error .unsafeCandidate
  | some metadata =>
      if metadata.isFile = false ∨ maxExecutableBytes < metadata.length then .error .unsafeCandidate
      else .ok ⟨metadata.length, metadata.modified, digest, metadata.identity⟩

def digestBytes (bytes : Bytes) : Bytes := Hex.encode (system.sha256 bytes)

def probeOpenedPair (opened : OpenedPair P)
    (requiredVersion ffmpegJellyfinMatcher ffprobeJellyfinMatcher : Bytes) :
    Except CandidateFailure (ProbedPair P) := do
  let ffmpegVersion ← probeIdentityCommand view .ffmpeg .version
  let ffprobeVersion ← probeIdentityCommand view .ffprobe .version
  let ffmpegToken ← parseVersion ffmpegVersion (utf8 "ffmpeg")
  let ffprobeToken ← parseVersion ffprobeVersion (utf8 "ffprobe")
  if ffmpegToken ≠ ffprobeToken then .error .incompatible
  else
    let jellyfin :=
      decide (ffmpegToken = ffmpegJellyfinMatcher) && decide (ffprobeToken = ffprobeJellyfinMatcher)
    if jellyfin = false ∧ ffmpegToken ≠ requiredVersion then .error .incompatible
    else
      let ffmpegBuild ← probeIdentityCommand view .ffmpeg .buildconf
      let ffprobeBuild ← probeIdentityCommand view .ffprobe .buildconf
      let ffmpegConfiguration ← buildConfiguration ffmpegBuild
      let ffprobeConfiguration ← buildConfiguration ffprobeBuild
      if ffmpegConfiguration ≠ ffprobeConfiguration then .error .incompatible
      else
        let ffmpegAfter ← metadataSealOpenFile view .ffmpeg opened.ffmpegSeal.digest
        let ffprobeAfter ← metadataSealOpenFile view .ffprobe opened.ffprobeSeal.digest
        if opened.ffmpegSeal ≠ ffmpegAfter ∨ opened.ffprobeSeal ≠ ffprobeAfter then
          .error .unsafeCandidate
        else
          return {
            opened := opened
            version := requiredVersion
            jellyfin := jellyfin
            buildConfigurationDigest := digestBytes system ffmpegConfiguration }

/-- The token that could cancel the probe of a resolution is never cancelled. -/
def probePair (root : P) (requiredVersion ffmpegJellyfinMatcher ffprobeJellyfinMatcher : Bytes) :
    Except CandidateFailure (ProbedPair P) := do
  let opened ← openPairLease system view.files root
  probeOpenedPair system view opened requiredVersion ffmpegJellyfinMatcher ffprobeJellyfinMatcher

def probeAuthenticatedPair (root : P) (expectedInstallDigest requiredVersion ffmpegJellyfinMatcher
    ffprobeJellyfinMatcher : Bytes) : Except CandidateFailure (ProbedPair P) := do
  let opened ← openPairLease system view.files root
  if pairInstallDigest system opened.ffmpegSeal opened.ffprobeSeal ≠ expectedInstallDigest then
    .error .incompatible
  else
    probeOpenedPair system view opened requiredVersion ffmpegJellyfinMatcher ffprobeJellyfinMatcher

end Probes

section Runtimes

inductive RuntimeKind where
  | jellyfin
  | softwareCompatible
deriving DecidableEq, Repr

def RuntimeKind.hardwareAllowed : RuntimeKind → Bool
  | .jellyfin => true
  | .softwareCompatible => false

structure FfmpegRuntime (P : Type) where
  id : RuntimeId
  opened : OpenedPair P
  kind : RuntimeKind

variable (system : System P)

def pairRootIdentity (root : P) (identity : FileIdentity) : Bytes :=
  digestBytes system (digestBytes system (system.osBytes root) ++
    (Framing.bigEndian 8 identity.volume).reverse ++ (Framing.bigEndian 8 identity.file).reverse)

def ProbedPair.intoRuntime (pair : ProbedPair P) (kind : RuntimeKind)
    (jellyfinRevision : Option Bytes) : FfmpegRuntime P where
  id := {
    installDigest := pairInstallDigest system pair.opened.ffmpegSeal pair.opened.ffprobeSeal
    ffmpegVersion := pair.version
    jellyfinRevision := jellyfinRevision
    buildConfigurationDigest := pair.buildConfigurationDigest
    pairRootIdentity := pairRootIdentity system pair.opened.root pair.opened.rootIdentity }
  opened := pair.opened
  kind := kind

end Runtimes

section Guarantees

variable {system : System P} {view : CandidateView P}

def PrintsVersion (view : CandidateView P) (executable : RuntimeExecutable) (token : Bytes) : Prop :=
  ∃ output, view.run executable .version = .exited true output ∧
    parseVersion output executable.role = .ok token

def executablesDigest (system : System P) (opened : OpenedRoot P) : Bytes :=
  Hex.encode (system.sha256 (utf8 "ffmpeg" ++ [0] ++ system.sha256 opened.ffmpeg.contents ++
    utf8 "ffprobe" ++ [0] ++ system.sha256 opened.ffprobe.contents))

theorem probeIdentityCommand_ok {executable : RuntimeExecutable} {argument : IdentityArgument}
    {output : Bytes} (printed : probeIdentityCommand view executable argument = .ok output) :
    view.run executable argument = .exited true output := by
  unfold probeIdentityCommand at printed
  split at printed
  case h_5 success stdout ran =>
    split at printed
    next succeeded =>
      cases printed
      rw [ran, succeeded]
    next => cases printed
  all_goals cases printed

theorem sealOpenFile_digest {file : OpenedFile} {fileSeal : FileSeal}
    (sealed : sealOpenFile system file = .ok fileSeal) :
    fileSeal.digest = system.sha256 file.contents := by
  unfold sealOpenFile at sealed
  split at sealed
  · cases sealed
  · cases sealed
    rfl

theorem openPairLease_digest {files : FileView P} {root : P} {pair : OpenedPair P}
    (leased : openPairLease system files root = .ok pair) :
    ∃ opened, files.openRoot root = .ok opened ∧ pair.root = opened.root ∧
      pairInstallDigest system pair.ffmpegSeal pair.ffprobeSeal = executablesDigest system opened := by
  obtain ⟨opened, answered, rest⟩ := bind_ok leased
  obtain ⟨ffmpegSeal, ffmpegSealed, rest⟩ := bind_ok rest
  obtain ⟨ffprobeSeal, ffprobeSealed, rest⟩ := bind_ok rest
  cases rest
  refine ⟨opened, answered, rfl, ?_⟩
  rw [pairInstallDigest, executablesDigest, sealOpenFile_digest ffmpegSealed,
    sealOpenFile_digest ffprobeSealed]

theorem probeOpenedPair_ok {opened : OpenedPair P} {pair : ProbedPair P}
    {requiredVersion ffmpegMatcher ffprobeMatcher : Bytes}
    (probed : probeOpenedPair system view opened requiredVersion ffmpegMatcher ffprobeMatcher =
      .ok pair) :
    pair.opened = opened ∧ (pair.jellyfin = true →
      PrintsVersion view .ffmpeg ffmpegMatcher ∧ PrintsVersion view .ffprobe ffprobeMatcher) := by
  obtain ⟨ffmpegVersion, ffmpegPrinted, rest⟩ := bind_ok probed
  obtain ⟨ffprobeVersion, ffprobePrinted, rest⟩ := bind_ok rest
  obtain ⟨ffmpegToken, ffmpegParsed, rest⟩ := bind_ok rest
  obtain ⟨ffprobeToken, ffprobeParsed, rest⟩ := bind_ok rest
  split at rest
  · cases rest
  dsimp only at rest
  split at rest
  · cases rest
  obtain ⟨_, _, rest⟩ := bind_ok rest
  obtain ⟨_, _, rest⟩ := bind_ok rest
  obtain ⟨_, _, rest⟩ := bind_ok rest
  obtain ⟨_, _, rest⟩ := bind_ok rest
  split at rest
  · cases rest
  obtain ⟨_, _, rest⟩ := bind_ok rest
  obtain ⟨_, _, rest⟩ := bind_ok rest
  split at rest
  · cases rest
  cases rest
  refine ⟨rfl, fun jellyfin => ?_⟩
  simp only [Bool.and_eq_true, decide_eq_true_eq] at jellyfin
  obtain ⟨rfl, rfl⟩ := jellyfin
  exact ⟨⟨ffmpegVersion, probeIdentityCommand_ok ffmpegPrinted, ffmpegParsed⟩,
    ⟨ffprobeVersion, probeIdentityCommand_ok ffprobePrinted, ffprobeParsed⟩⟩

theorem probePair_opened {root : P} {pair : ProbedPair P}
    {requiredVersion ffmpegMatcher ffprobeMatcher : Bytes}
    (probed : probePair system view root requiredVersion ffmpegMatcher ffprobeMatcher = .ok pair) :
    ∃ opened, view.files.openRoot root = .ok opened ∧ pair.opened.root = opened.root := by
  obtain ⟨leased, opens, rest⟩ := bind_ok probed
  obtain ⟨opened, answered, same, _⟩ := openPairLease_digest opens
  refine ⟨opened, answered, ?_⟩
  rw [(probeOpenedPair_ok rest).1, same]

theorem probeAuthenticatedPair_ok {root : P} {pair : ProbedPair P}
    {installDigest requiredVersion ffmpegMatcher ffprobeMatcher : Bytes}
    (probed : probeAuthenticatedPair system view root installDigest requiredVersion ffmpegMatcher
      ffprobeMatcher = .ok pair) :
    (∃ opened, view.files.openRoot root = .ok opened ∧ pair.opened.root = opened.root ∧
        executablesDigest system opened = installDigest) ∧
      pairInstallDigest system pair.opened.ffmpegSeal pair.opened.ffprobeSeal = installDigest ∧
      (pair.jellyfin = true →
        PrintsVersion view .ffmpeg ffmpegMatcher ∧ PrintsVersion view .ffprobe ffprobeMatcher) := by
  obtain ⟨leased, opens, rest⟩ := bind_ok probed
  split at rest
  · cases rest
  next same =>
    rw [ne_eq, Decidable.not_not] at same
    obtain ⟨opened, answered, sameRoot, digest⟩ := openPairLease_digest opens
    obtain ⟨kept, versions⟩ := probeOpenedPair_ok rest
    rw [kept]
    exact ⟨⟨opened, answered, sameRoot, digest.symm.trans same⟩, same, versions⟩

end Guarantees

end StreamServer.Transcoding.Resolution
