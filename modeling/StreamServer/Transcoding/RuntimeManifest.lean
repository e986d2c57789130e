import Mathlib.Data.List.Sort
import StreamServer.Shared.Fallible
import StreamServer.Shared.Lists
import StreamServer.Shared.UrlCrate
import StreamServer.Transcoding.ManagedRuntime

set_option autoImplicit false

namespace StreamServer.Transcoding.Acquisition

open ByteText

def invalid (reason : String) : RuntimeError := .invalidManifest (utf8 reason)

section ArchivePaths

def isAsciiGraphic (byte : UInt8) : Bool := 33 ≤ byte && byte ≤ 126

def toAsciiUppercase (byte : UInt8) : UInt8 := if isAsciiLower byte then byte - 32 else byte

def isWindowsDeviceName (component : Bytes) : Bool :=
  let stem := (component.takeWhile (· != 46)).map toAsciiUppercase
  [utf8 "CON", utf8 "PRN", utf8 "AUX", utf8 "NUL"].contains stem ||
    decide (stem.length = 4) && (startsWith (utf8 "COM") stem || startsWith (utf8 "LPT") stem) &&
      stem[3]?.any fun byte => 49 ≤ byte && byte ≤ 57

def isUnsafeComponent (component : Bytes) : Bool :=
  component.isEmpty || component == utf8 "." || component == utf8 ".." ||
    component.getLast? == some 46 || component.getLast? == some 32 || isWindowsDeviceName component

def isUnsafeSpelling (path : Bytes) : Bool :=
  path.isEmpty || decide (240 < path.length) || path.head? == some 47 || path.head? == some 92 ||
    path.contains 92 || path.contains 58 || !path.all isAsciiGraphic

def normalizeArchivePath (path : Bytes) : Except RuntimeError Bytes :=
  if isUnsafeSpelling path || (path.splitOn 47).any isUnsafeComponent then
    .error (invalid "unsafe archive path")
  else
    let normalized := [47].intercalate ((path.splitOn 47).map (·.map toAsciiLowercase))
    if (utf8 ".lnk").isSuffixOf normalized then .error (invalid "link archive path")
    else .ok normalized

-- A path resolved from a directory, one component at a time, where nothing on the way is a link.
def resolve (place : List Bytes) : List Bytes → List Bytes
  | [] => place
  | component :: rest =>
      if component = [] ∨ component = utf8 "." then resolve place rest
      else if component = utf8 ".." then resolve place.dropLast rest
      else resolve (place ++ [component]) rest

structure SafeComponent (component : Bytes) : Prop where
  nonempty : component ≠ []
  notHere : component ≠ utf8 "."
  notUp : component ≠ utf8 ".."
  undotted : component.getLast? ≠ some 46
  noDevice : isWindowsDeviceName component = false

/-- A relative path in one spelling, which no platform takes for anything but a file below. -/
structure SafePath (text : Bytes) : Prop where
  short : text.length ≤ 240
  graphic : ∀ byte ∈ text, isAsciiGraphic byte = true ∧ byte ≠ 92 ∧ byte ≠ 58
  lower : text.map toAsciiLowercase = text
  components : ∀ component ∈ text.splitOn 47, SafeComponent component
  noLink : ¬utf8 ".lnk" <:+ text

theorem resolve_safe {components : List Bytes}
    (safe : ∀ component ∈ components, SafeComponent component) (place : List Bytes) :
    resolve place components = place ++ components := by
  induction components generalizing place with
  | nil => exact (List.append_nil place).symm
  | cons component rest ih =>
    obtain ⟨nonempty, notHere, notUp, -, -⟩ := safe component (by simp)
    have later := ih (fun other member => safe other (by simp [member])) (place ++ [component])
    simp only [resolve, nonempty, notHere, notUp, or_self, if_false, later, List.append_assoc,
      List.singleton_append]

theorem lowercase_byte (byte : UInt8) :
    isAsciiGraphic (toAsciiLowercase byte) = isAsciiGraphic byte ∧
      toAsciiLowercase (toAsciiLowercase byte) = toAsciiLowercase byte ∧
      toAsciiUppercase (toAsciiLowercase byte) = toAsciiUppercase byte ∧
      isAsciiAlphabetic (toAsciiLowercase byte) = isAsciiAlphabetic byte ∧
      (isAsciiAlphabetic byte = false → toAsciiLowercase byte = byte) := by
  revert byte
  exact forall_byte (by decide +kernel)

theorem lowercase_eq_iff {mark : UInt8} (plain : isAsciiAlphabetic mark = false) (byte : UInt8) :
    toAsciiLowercase byte = mark ↔ byte = mark := by
  obtain ⟨-, -, -, alphabetic, unchanged⟩ := lowercase_byte byte
  constructor
  · rintro rfl
    exact (unchanged (alphabetic.symm.trans plain)).symm
  · rintro rfl
    exact unchanged plain

abbrev lowercase (text : Bytes) : Bytes := text.map toAsciiLowercase

theorem lowercase_contains {mark : UInt8} (plain : isAsciiAlphabetic mark = false) (text : Bytes) :
    (lowercase text).contains mark = text.contains mark := by
  rw [Bool.eq_iff_iff]
  simp [lowercase_eq_iff plain]

theorem lowercase_eq_text_iff {marks : Bytes} (plain : ∀ mark ∈ marks, isAsciiAlphabetic mark = false)
    (text : Bytes) : lowercase text = marks ↔ text = marks := by
  induction marks generalizing text with
  | nil => simp
  | cons mark rest ih =>
    cases text with
    | nil => simp
    | cons byte text =>
      simp [lowercase_eq_iff (plain mark (by simp)),
        ih fun other member => plain other (by simp [member])]

theorem isWindowsDeviceName_lowercase (component : Bytes) :
    isWindowsDeviceName (lowercase component) = isWindowsDeviceName component := by
  have stem : ((lowercase component).takeWhile (· != 46)).map toAsciiUppercase =
      (component.takeWhile (· != 46)).map toAsciiUppercase := by
    induction component with
    | nil => rfl
    | cons byte rest ih =>
      have dot := lowercase_eq_iff (rfl : isAsciiAlphabetic 46 = false) byte
      by_cases isDot : byte = 46
      next =>
        have kept : toAsciiLowercase 46 = 46 := rfl
        simp [isDot, kept]
      next =>
        have kept : toAsciiLowercase byte ≠ 46 := fun same => isDot (dot.mp same)
        simpa [isDot, kept, (lowercase_byte byte).2.2.1] using ih
  unfold isWindowsDeviceName
  rw [stem]

theorem optional_eq_iff {mark : UInt8} (plain : isAsciiAlphabetic mark = false) (byte : Option UInt8) :
    (byte.map toAsciiLowercase == some mark) = (byte == some mark) := by
  cases byte with
  | none => rfl
  | some byte =>
    rw [Bool.eq_iff_iff]
    simp [lowercase_eq_iff plain]

theorem isUnsafeComponent_lowercase (component : Bytes) :
    isUnsafeComponent (lowercase component) = isUnsafeComponent component := by
  have here : (lowercase component == utf8 ".") = (component == utf8 ".") := by
    rw [Bool.eq_iff_iff, beq_iff_eq, beq_iff_eq]
    exact lowercase_eq_text_iff (by decide +kernel) component
  have up : (lowercase component == utf8 "..") = (component == utf8 "..") := by
    rw [Bool.eq_iff_iff, beq_iff_eq, beq_iff_eq]
    exact lowercase_eq_text_iff (by decide +kernel) component
  unfold isUnsafeComponent
  rw [here, up, isWindowsDeviceName_lowercase, List.isEmpty_map, List.getLast?_map,
    optional_eq_iff rfl, optional_eq_iff rfl]

theorem isUnsafeSpelling_lowercase (path : Bytes) :
    isUnsafeSpelling (lowercase path) = isUnsafeSpelling path := by
  have graphic : (lowercase path).all isAsciiGraphic = path.all isAsciiGraphic := by
    rw [List.all_map]
    exact List.all_congr rfl fun byte => (lowercase_byte byte).1
  unfold isUnsafeSpelling
  rw [List.isEmpty_map, List.length_map, List.head?_map, optional_eq_iff rfl, optional_eq_iff rfl,
    lowercase_contains rfl, lowercase_contains rfl, graphic]

theorem splitOn_lowercase (path : Bytes) :
    (lowercase path).splitOn 47 = (path.splitOn 47).map lowercase :=
  Lists.splitOn_map (lowercase_eq_iff rfl) path

theorem anyUnsafe_lowercase (path : Bytes) :
    ((lowercase path).splitOn 47).any isUnsafeComponent = (path.splitOn 47).any isUnsafeComponent := by
  rw [splitOn_lowercase, List.any_map]
  exact List.any_congr rfl isUnsafeComponent_lowercase

theorem normalizeArchivePath_eq (path : Bytes) :
    normalizeArchivePath path =
      if isUnsafeSpelling (lowercase path) || ((lowercase path).splitOn 47).any isUnsafeComponent then
        .error (invalid "unsafe archive path")
      else if (utf8 ".lnk").isSuffixOf (lowercase path) then .error (invalid "link archive path")
      else .ok (lowercase path) := by
  have joined : [47].intercalate ((path.splitOn 47).map lowercase) = lowercase path := by
    rw [← splitOn_lowercase, List.intercalate_splitOn]
  unfold normalizeArchivePath
  rw [isUnsafeSpelling_lowercase, anyUnsafe_lowercase, joined]

theorem isUnsafeComponent_iff {component : Bytes}
    (graphic : ∀ byte ∈ component, isAsciiGraphic byte = true) :
    isUnsafeComponent component = false ↔ SafeComponent component := by
  have noBlank : component.getLast? ≠ some 32 := by
    intro last
    cases graphic 32 (List.mem_of_getLast? last)
  simp only [isUnsafeComponent, Bool.or_eq_false_iff, List.isEmpty_eq_false_iff, beq_eq_false_iff_ne]
  constructor
  · rintro ⟨⟨⟨⟨⟨nonempty, notHere⟩, notUp⟩, undotted⟩, -⟩, noDevice⟩
    exact ⟨nonempty, notHere, notUp, undotted, noDevice⟩
  · rintro ⟨nonempty, notHere, notUp, undotted, noDevice⟩
    exact ⟨⟨⟨⟨⟨nonempty, notHere⟩, notUp⟩, undotted⟩, noBlank⟩, noDevice⟩

theorem spelling_of_components {text : Bytes}
    (components : ∀ component ∈ text.splitOn 47, component ≠ []) :
    text ≠ [] ∧ text.head? ≠ some 47 := by
  cases text with
  | nil => exact absurd rfl (components [] (by simp))
  | cons byte rest =>
    refine ⟨List.cons_ne_nil _ _, ?_⟩
    rintro slash
    cases Option.some.inj slash
    refine components [] ?_ rfl
    rw [List.splitOn_cons_eq_if_modifyHead]
    simp

theorem safePath_iff {text : Bytes} (lower : lowercase text = text) :
    SafePath text ↔ isUnsafeSpelling text = false ∧
      (text.splitOn 47).any isUnsafeComponent = false ∧ ¬utf8 ".lnk" <:+ text := by
  simp only [isUnsafeSpelling, Bool.or_eq_false_iff, List.isEmpty_eq_false_iff, beq_eq_false_iff_ne,
    decide_eq_false_iff_not, Nat.not_lt, List.contains_eq_mem, Bool.not_eq_false', List.all_eq_true,
    List.any_eq_false]
  constructor
  · rintro ⟨short, graphic, -, components, noLink⟩
    obtain ⟨nonempty, noSlash⟩ := spelling_of_components fun component member =>
      (components component member).nonempty
    have noBackslash : text.head? ≠ some 92 := fun first =>
      (graphic 92 (List.mem_of_head? first)).2.1 rfl
    refine ⟨⟨⟨⟨⟨⟨⟨nonempty, short⟩, noSlash⟩, noBackslash⟩, fun member => ?_⟩, fun member => ?_⟩,
      fun byte member => (graphic byte member).1⟩, fun component member => ?_, noLink⟩
    · exact (graphic 92 member).2.1 rfl
    · exact (graphic 58 member).2.2 rfl
    · rw [Bool.not_eq_true]
      refine (isUnsafeComponent_iff fun byte inside => ?_).mpr (components component member)
      exact (graphic byte (Lists.mem_of_mem_splitOn member inside)).1
  · rintro ⟨⟨⟨⟨⟨⟨⟨nonempty, short⟩, noSlash⟩, -⟩, noBackslash⟩, noColon⟩, graphic⟩, components, noLink⟩
    refine ⟨short, fun byte member => ⟨graphic byte member, ?_, ?_⟩, lower, fun component member => ?_,
      noLink⟩
    · rintro rfl
      exact noBackslash member
    · rintro rfl
      exact noColon member
    · refine (isUnsafeComponent_iff fun byte inside => ?_).mp
        (Bool.not_eq_true _ ▸ components component member)
      exact graphic byte (Lists.mem_of_mem_splitOn member inside)

theorem lowercase_lowercase (text : Bytes) : lowercase (lowercase text) = lowercase text := by
  rw [lowercase, List.map_map]
  exact List.map_congr_left fun byte _ => (lowercase_byte byte).2.1

theorem normalizeArchivePath_ok_iff (path text : Bytes) :
    normalizeArchivePath path = .ok text ↔ text = lowercase path ∧ SafePath text := by
  rw [normalizeArchivePath_eq]
  have spelled := safePath_iff (lowercase_lowercase path)
  constructor
  · intro normalized
    split at normalized
    next => cases normalized
    next checks =>
      split at normalized
      next => cases normalized
      next noLink =>
        cases normalized
        rw [Bool.or_eq_true, not_or, Bool.not_eq_true, Bool.not_eq_true] at checks
        rw [List.isSuffixOf_iff_suffix] at noLink
        exact ⟨rfl, spelled.mpr ⟨checks.1, checks.2, noLink⟩⟩
  · rintro ⟨rfl, safe⟩
    obtain ⟨spelling, components, noLink⟩ := spelled.mp safe
    rw [← List.isSuffixOf_iff_suffix] at noLink
    rw [spelling, components, if_neg (by simp), if_neg noLink]

theorem normalizeArchivePath_safe (path : Bytes) :
    (∀ text, normalizeArchivePath path = .ok text ↔ text = lowercase path ∧ SafePath text) ∧
    ∀ text, normalizeArchivePath path = .ok text → normalizeArchivePath text = .ok text ∧
      (∀ other, normalizeArchivePath other = .ok text ↔ eqIgnoreAsciiCase other path = true) ∧
      ∀ root, ∃ names, names ≠ [] ∧ resolve root (text.splitOn 47) = root ++ names := by
  refine ⟨normalizeArchivePath_ok_iff path, fun text normalized => ?_⟩
  obtain ⟨rfl, safe⟩ := (normalizeArchivePath_ok_iff path text).mp normalized
  refine ⟨?_, fun other => ?_, fun root =>
    ⟨(lowercase path).splitOn 47, List.splitOn_ne_nil _ _, ?_⟩⟩
  · exact (normalizeArchivePath_ok_iff _ _).mpr ⟨(lowercase_lowercase path).symm, safe⟩
  · rw [normalizeArchivePath_ok_iff, eqIgnoreAsciiCase, beq_iff_eq]
    exact ⟨fun both => both.1.symm, fun same => ⟨same.symm, safe⟩⟩
  · exact resolve_safe safe.components root

end ArchivePaths

section Manifests

structure WebUrls extends UrlCrate where
  port : Url → Option (BitVec 16)
  fragment : Url → Option Bytes

structure PeVersion where
  major : UInt16
  minor : UInt16
deriving DecidableEq, Repr

def PeVersion.isSet (version : PeVersion) : Bool := version.major != 0 || version.minor != 0

structure RawArtifact where
  platform : Bytes
  arch : Bytes
  ffmpegVersion : Bytes
  jellyfinRevision : Bytes
  url : Bytes
  sha256 : Bytes
  maxBytes : Nat
  requiredPaths : List Bytes
  ffmpegMatcher : Bytes
  ffprobeMatcher : Bytes
  licenseUrl : Bytes
  sourceUrl : Bytes
  sourceTag : Bytes
  minimumOperatingSystemVersion : PeVersion
  minimumSubsystemVersion : PeVersion

structure RawManifest where
  schemaVersion : Nat
  entries : List RawArtifact

structure ManifestArtifact (urls : WebUrls) extends RuntimeArtifact where
  url : urls.Url
  requiredPaths : List Bytes
  licenseUrl : urls.Url
  sourceUrl : urls.Url
  minimumOperatingSystemVersion : PeVersion
  minimumSubsystemVersion : PeVersion

structure RuntimeManifest (urls : WebUrls) where
  entries : List (ManifestArtifact urls)

def manifestSchemaVersion : Nat := 1

def maxArchiveBytes : Nat := 512 * 1024 * 1024

def ensure (condition : Bool) (reason : String) : Except RuntimeError Unit :=
  if condition then .ok () else .error (invalid reason)

def isDecimal (value : Bytes) : Bool := !value.isEmpty && value.all isAsciiDigit

def isReleaseVersion (value : Bytes) : Bool :=
  (value.splitOn 46).all isDecimal && decide ((value.splitOn 46).length = 3)

def collectPaths : (normalized : List Bytes) → List Bytes → Except RuntimeError (List Bytes)
  | normalized, [] => .ok normalized
  | normalized, path :: rest => do
      let text ← normalizeArchivePath path
      ensure (!normalized.contains text) "duplicate or colliding archive path"
      collectPaths (text :: normalized) rest

/-- A `BTreeSet` gives its members in order. -/
def validateRequiredPaths (paths : List Bytes) : Except RuntimeError (List Bytes) := do
  ensure (!paths.isEmpty) "no required archive paths"
  return (← collectPaths [] paths).insertionSort (· ≤ ·)

variable (urls : WebUrls)

def jellyfinGithubHost : UrlHost := .domain (utf8 "github.com")

def parseGithubUrl (value : Bytes) : Except RuntimeError urls.Url := do
  match urls.parse value with
  | none => .error (invalid "invalid HTTPS URL")
  | some url =>
      ensure (urls.scheme url == utf8 "https" && urls.host url == some jellyfinGithubHost &&
        (urls.port url).isNone && (urls.username url).isEmpty && (urls.password url).isNone &&
          (urls.query url).isNone && (urls.fragment url).isNone) "untrusted URL"
      return url

def releaseTag (ffmpegVersion jellyfinRevision : Bytes) : Bytes :=
  utf8 "v" ++ ffmpegVersion ++ utf8 "-" ++ jellyfinRevision

def releasePath (sourceTag ffmpegVersion jellyfinRevision : Bytes) : Bytes :=
  utf8 "/jellyfin/jellyfin-ffmpeg/releases/download/" ++ sourceTag ++ utf8 "/jellyfin-ffmpeg_" ++
    ffmpegVersion ++ utf8 "-" ++ jellyfinRevision ++ utf8 "_portable_win64-clang-gpl.zip"

def artifactOf (raw : RawArtifact) : Except RuntimeError (ManifestArtifact urls) := do
  ensure (raw.platform == utf8 "windows" && raw.arch == utf8 "x86_64")
    "unsupported platform or architecture"
  ensure (isReleaseVersion raw.ffmpegVersion && isDecimal raw.jellyfinRevision)
    "invalid Jellyfin version or revision"
  ensure (raw.sourceTag == releaseTag raw.ffmpegVersion raw.jellyfinRevision)
    "source tag does not match release identity"
  let url ← parseGithubUrl urls raw.url
  ensure (urls.path url == releasePath raw.sourceTag raw.ffmpegVersion raw.jellyfinRevision)
    "unexpected Jellyfin release URL"
  ensure (isLowercaseSha256 raw.sha256) "invalid SHA-256"
  ensure (raw.maxBytes != 0 && raw.maxBytes ≤ maxArchiveBytes) "invalid archive byte bound"
  let requiredPaths ← validateRequiredPaths raw.requiredPaths
  ensure (requiredPaths.contains (utf8 "ffmpeg.exe") && requiredPaths.contains (utf8 "ffprobe.exe"))
    "required executable missing"
  let matcher := raw.ffmpegVersion ++ utf8 "-Jellyfin"
  ensure (raw.ffmpegMatcher == matcher && raw.ffprobeMatcher == matcher) "invalid version matcher"
  let licenseUrl ← parseGithubUrl urls raw.licenseUrl
  ensure (urls.path licenseUrl == utf8 "/jellyfin/jellyfin-ffmpeg/blob/" ++ raw.sourceTag ++
    utf8 "/LICENSE") "unexpected license URL"
  let sourceUrl ← parseGithubUrl urls raw.sourceUrl
  ensure (urls.path sourceUrl == utf8 "/jellyfin/jellyfin-ffmpeg/tree/" ++ raw.sourceTag)
    "unexpected source URL"
  ensure (raw.minimumOperatingSystemVersion.isSet && raw.minimumSubsystemVersion.isSet)
    "invalid minimum platform version"
  return { raw with url, requiredPaths, licenseUrl, sourceUrl }

def readEntries : (hosts : List Bytes) → List RawArtifact →
    Except RuntimeError (List (ManifestArtifact urls))
  | _, [] => .ok []
  | hosts, raw :: rest => do
      let host := raw.platform ++ utf8 ":" ++ raw.arch
      ensure (!hosts.contains host) "duplicate platform and architecture"
      let artifact ← artifactOf urls raw
      return artifact :: (← readEntries (host :: hosts) rest)

/-- What `serde_json` reads the document as, if it has the known fields and no others. -/
def fromJson (document : Option RawManifest) : Except RuntimeError (RuntimeManifest urls) := do
  match document with
  | none => .error (invalid "malformed or unknown manifest field")
  | some raw =>
      ensure (raw.schemaVersion == manifestSchemaVersion) "unsupported schema version"
      let entries ← readEntries urls [] raw.entries
      ensure (!entries.isEmpty) "no artifacts"
      return ⟨entries⟩

variable {urls}

def ManifestArtifact.forHost (_ : ManifestArtifact urls) (host : RuntimeHost) : Bool :=
  host == .windowsX64

def RuntimeManifest.artifactForHost (manifest : RuntimeManifest urls) (host : RuntimeHost) :
    Option (ManifestArtifact urls) :=
  manifest.entries.find? (·.forHost host)

end Manifests

section Redirects

variable (urls : WebUrls)

def maxManagedDownloadRedirects : Nat := 5

def managedDownloadHosts : List Bytes :=
  [utf8 "github.com", utf8 "objects.githubusercontent.com",
    utf8 "release-assets.githubusercontent.com"]

def isDownloadUrl (url : urls.Url) : Bool :=
  urls.scheme url == utf8 "https" &&
    managedDownloadHosts.any (fun allowed => urls.host url == some (.domain allowed)) &&
    (urls.port url).isNone && (urls.username url).isEmpty && (urls.password url).isNone &&
    (urls.fragment url).isNone

def validateManagedDownloadUrl (url : urls.Url) (redirectCount : Nat) : Except RuntimeError Unit :=
  if maxManagedDownloadRedirects < redirectCount then .error .tooManyRedirects
  else if isDownloadUrl urls url then .ok () else .error .untrustedDownload

end Redirects

section Deliveries

variable {urls : WebUrls}

-- What the rest of an acquisition relies on: the version names a directory that the later checks
-- accept, its first request passes the policy, what is to be extracted stays in its place, and a
-- receipt of the artifact is consistent and is taken for one of it.
structure ManifestArtifact.Deliverable (artifact : ManifestArtifact urls) : Prop where
  token : isManagedVersionToken artifact.sourceTag = true
  trusted : validateManagedDownloadUrl urls artifact.url 0 = .ok ()
  sized : 0 < artifact.maxBytes ∧ artifact.maxBytes ≤ maxManagedArchiveBytes
  places : ∀ path ∈ artifact.requiredPaths, SafePath path
  distinct : artifact.requiredPaths.Nodup
  programs : utf8 "ffmpeg.exe" ∈ artifact.requiredPaths ∧ utf8 "ffprobe.exe" ∈ artifact.requiredPaths
  receipts : ∀ installDigest, isLowercaseSha256 installDigest = true →
    (ManagedVersionReceipt.fromArtifact artifact.toRuntimeArtifact installDigest).matchesArtifact
      artifact.toRuntimeArtifact = true

theorem ensure_ok {condition : Bool} {reason : String} {result : Unit}
    (passed : ensure condition reason = .ok result) : condition = true := by
  unfold ensure at passed
  split at passed
  next holds => exact holds
  next => cases passed

theorem collectPaths_ok {paths normalized result : List Bytes}
    (collected : collectPaths normalized paths = .ok result)
    (safe : ∀ path ∈ normalized, SafePath path) (distinct : normalized.Nodup) :
    (∀ path ∈ result, SafePath path) ∧ result.Nodup := by
  induction paths generalizing normalized with
  | nil =>
    cases collected
    exact ⟨safe, distinct⟩
  | cons path rest ih =>
    obtain ⟨text, accepted, collected⟩ := Results.bind_ok collected
    obtain ⟨_, fresh, collected⟩ := Results.bind_ok collected
    have absent : text ∉ normalized := by simpa using ensure_ok fresh
    refine ih collected (fun other member => ?_) (List.nodup_cons.mpr ⟨absent, distinct⟩)
    obtain rfl | member := List.mem_cons.mp member
    · exact ((normalizeArchivePath_ok_iff path _).mp accepted).2
    · exact safe other member

theorem validateRequiredPaths_ok {paths result : List Bytes}
    (validated : validateRequiredPaths paths = .ok result) :
    (∀ path ∈ result, SafePath path) ∧ result.Nodup := by
  obtain ⟨_, -, validated⟩ := Results.bind_ok validated
  obtain ⟨collected, ran, sorted⟩ := Results.bind_ok validated
  cases sorted
  obtain ⟨safe, distinct⟩ := collectPaths_ok ran (by simp) List.nodup_nil
  exact ⟨fun path member => safe path ((List.mem_insertionSort _).mp member),
    (List.perm_insertionSort _ _).nodup_iff.mpr distinct⟩

theorem isReleaseVersion_plain {value : Bytes} (release : isReleaseVersion value = true) :
    45 ∉ value := by
  intro member
  simp only [isReleaseVersion, Bool.and_eq_true, List.all_eq_true] at release
  obtain ⟨part, isPart, inside⟩ := @Lists.mem_part_of_mem _ _ _ 46 45 value member (by decide)
  have digits := release.1 part isPart
  simp only [isDecimal, Bool.and_eq_true, List.all_eq_true] at digits
  exact absurd (digits.2 45 inside) (by decide)

theorem releaseTag_token {ffmpegVersion jellyfinRevision : Bytes}
    (release : isReleaseVersion ffmpegVersion = true) (revision : isDecimal jellyfinRevision = true) :
    isManagedVersionToken (releaseTag ffmpegVersion jellyfinRevision) = true := by
  have spelled : releaseTag ffmpegVersion jellyfinRevision =
      utf8 "v" ++ (ffmpegVersion ++ 45 :: jellyfinRevision) := by
    simp only [releaseTag, List.append_assoc]
    rfl
  have split : (stripPrefix (utf8 "v") (releaseTag ffmpegVersion jellyfinRevision)).bind
      (splitOnce 45) = some (ffmpegVersion, jellyfinRevision) := by
    rw [spelled]
    exact splitOnce_append (isReleaseVersion_plain release) jellyfinRevision
  unfold isManagedVersionToken
  rw [split]
  simp only [isReleaseVersion, isDecimal, Bool.and_eq_true] at release revision ⊢
  exact ⟨⟨⟨release.2, release.1⟩, revision.1⟩, revision.2⟩

theorem parseGithubUrl_ok {value : Bytes} {url : urls.Url}
    (parsed : parseGithubUrl urls value = .ok url) : isDownloadUrl urls url = true := by
  unfold parseGithubUrl at parsed
  split at parsed
  next => cases parsed
  next found =>
    obtain ⟨_, trusted, same⟩ := Results.bind_ok parsed
    cases same
    have checks := ensure_ok trusted
    simp only [Bool.and_eq_true] at checks
    obtain ⟨⟨⟨⟨⟨⟨scheme, host⟩, port⟩, username⟩, password⟩, -⟩, fragment⟩ := checks
    simp only [isDownloadUrl, Bool.and_eq_true]
    refine ⟨⟨⟨⟨⟨scheme, ?_⟩, port⟩, username⟩, password⟩, fragment⟩
    exact List.any_eq_true.mpr ⟨utf8 "github.com", by simp [managedDownloadHosts], host⟩

theorem fromArtifact_matches (artifact : RuntimeArtifact) (installDigest : Bytes)
    (consistent : (ManagedVersionReceipt.fromArtifact artifact installDigest).isSelfConsistent = true) :
    (ManagedVersionReceipt.fromArtifact artifact installDigest).matchesArtifact artifact = true := by
  unfold ManagedVersionReceipt.matchesArtifact
  rw [consistent]
  simp [ManagedVersionReceipt.fromArtifact]

theorem artifactOf_ok {raw : RawArtifact} {artifact : ManifestArtifact urls}
    (made : artifactOf urls raw = .ok artifact) :
    artifact.Deliverable ∧ raw.platform = utf8 "windows" ∧ raw.arch = utf8 "x86_64" := by
  obtain ⟨_, host, made⟩ := Results.bind_ok made
  obtain ⟨_, release, made⟩ := Results.bind_ok made
  obtain ⟨_, tag, made⟩ := Results.bind_ok made
  obtain ⟨url, parsed, made⟩ := Results.bind_ok made
  obtain ⟨_, -, made⟩ := Results.bind_ok made
  obtain ⟨_, digest, made⟩ := Results.bind_ok made
  obtain ⟨_, sized, made⟩ := Results.bind_ok made
  obtain ⟨paths, validated, made⟩ := Results.bind_ok made
  obtain ⟨_, programs, made⟩ := Results.bind_ok made
  obtain ⟨_, matchers, made⟩ := Results.bind_ok made
  obtain ⟨license, -, made⟩ := Results.bind_ok made
  obtain ⟨_, -, made⟩ := Results.bind_ok made
  obtain ⟨source, -, made⟩ := Results.bind_ok made
  obtain ⟨_, -, made⟩ := Results.bind_ok made
  obtain ⟨_, -, made⟩ := Results.bind_ok made
  cases made
  replace host := ensure_ok host
  replace release := ensure_ok release
  replace tag := beq_iff_eq.mp (ensure_ok tag)
  replace digest := ensure_ok digest
  replace sized := ensure_ok sized
  replace programs := ensure_ok programs
  replace matchers := ensure_ok matchers
  simp only [Bool.and_eq_true, beq_iff_eq, bne_iff_ne, decide_eq_true_eq] at host release sized matchers
  simp only [Bool.and_eq_true, List.contains_iff_mem] at programs
  obtain ⟨safe, distinct⟩ := validateRequiredPaths_ok validated
  have token : isManagedVersionToken raw.sourceTag = true :=
    tag ▸ releaseTag_token release.1 release.2
  have trusted : validateManagedDownloadUrl urls url 0 = .ok () := by
    rw [validateManagedDownloadUrl, if_neg (Nat.not_lt_zero _), if_pos (parseGithubUrl_ok parsed)]
  refine ⟨⟨token, trusted, ⟨Nat.pos_of_ne_zero sized.1, sized.2⟩, safe, distinct, programs, ?_⟩, host⟩
  intro installDigest lowercase
  refine fromArtifact_matches _ _ ?_
  have positive : 0 < raw.maxBytes := Nat.pos_of_ne_zero sized.1
  have bounded : raw.maxBytes ≤ maxManagedArchiveBytes := sized.2
  simp only [ManagedVersionReceipt.isSelfConsistent, ManagedVersionReceipt.fromArtifact, token, digest,
    lowercase, matchers.1, matchers.2, positive, bounded, decide_true, Bool.and_true, Bool.true_and,
    decide_eq_true_eq]
  exact tag

theorem readEntries_hosts {hosts : List Bytes} {entries : List RawArtifact}
    {artifacts : List (ManifestArtifact urls)} (read : readEntries urls hosts entries = .ok artifacts)
    (taken : utf8 "windows:x86_64" ∈ hosts) : artifacts = [] := by
  cases entries with
  | nil =>
    cases read
    rfl
  | cons raw rest =>
    obtain ⟨_, fresh, read⟩ := Results.bind_ok read
    obtain ⟨artifact, made, -⟩ := Results.bind_ok read
    obtain ⟨-, platform, arch⟩ := artifactOf_ok made
    have absent : raw.platform ++ utf8 ":" ++ raw.arch ∉ hosts := by simpa using ensure_ok fresh
    rw [platform, arch] at absent
    exact absurd taken absent

theorem manifest_accepted {document : Option RawManifest} {manifest : RuntimeManifest urls}
    (accepted : fromJson urls document = .ok manifest) :
    ∃ artifact, manifest.entries = [artifact] ∧ artifact.Deliverable ∧
      ∀ host, manifest.artifactForHost host =
        if host = .windowsX64 then some artifact else none := by
  unfold fromJson at accepted
  split at accepted
  next => cases accepted
  next raw =>
    obtain ⟨_, -, accepted⟩ := Results.bind_ok accepted
    obtain ⟨artifacts, read, accepted⟩ := Results.bind_ok accepted
    obtain ⟨_, some, accepted⟩ := Results.bind_ok accepted
    cases accepted
    cases entries : raw.entries with
    | nil =>
      rw [entries] at read
      cases read
      cases some
    | cons first rest =>
      rw [entries] at read
      obtain ⟨_, -, read⟩ := Results.bind_ok read
      obtain ⟨artifact, made, read⟩ := Results.bind_ok read
      obtain ⟨others, later, same⟩ := Results.bind_ok read
      obtain ⟨deliverable, platform, arch⟩ := artifactOf_ok made
      have alone : others = [] := by
        refine readEntries_hosts later (List.mem_cons.mpr (.inl ?_))
        rw [platform, arch]
        rfl
      cases same
      cases alone
      refine ⟨artifact, rfl, deliverable, fun host => ?_⟩
      cases host with
      | windowsX64 => rfl
      | linuxX64 => rfl
      | macOsArm64 => rfl

/-- The `https` URLs of a host and a path, and references to those. -/
def httpsUrls : WebUrls where
  Url := Bytes × Bytes
  parse text := ((stripPrefix (utf8 "https://") text).bind (splitOnce 47)).map fun parts =>
    (parts.1, 47 :: parts.2)
  join _ reference := ((stripPrefix (utf8 "https://") reference).bind (splitOnce 47)).map fun parts =>
    (parts.1, 47 :: parts.2)
  asStr url := utf8 "https://" ++ url.1 ++ url.2
  scheme _ := utf8 "https"
  username _ := []
  password _ := none
  host url := some (.domain url.1)
  portOrKnownDefault _ := some 443
  path url := url.2
  query _ := none
  beforePath url := (utf8 "https://" ++ url.1).length
  afterQuery url := (utf8 "https://" ++ url.1 ++ url.2).length
  clearFragment url := url
  clearUserInfo url := url
  setPath url path := (url.1, path)
  setQuery url _ := url
  port _ := none
  fragment _ := none

-- `resources/jellyfin-ffmpeg-manifest.json`.
def embeddedManifest : RawManifest where
  schemaVersion := 1
  entries := [
    { platform := utf8 "windows"
      arch := utf8 "x86_64"
      ffmpegVersion := utf8 "7.1.4"
      jellyfinRevision := utf8 "3"
      url := utf8 "https://github.com/jellyfin/jellyfin-ffmpeg/releases/download/v7.1.4-3/" ++
        utf8 "jellyfin-ffmpeg_7.1.4-3_portable_win64-clang-gpl.zip"
      sha256 := utf8 "113adeb702683c38be40a65d859f8ef7ffb07bae9df16dfb6c3df5ac3d95ef3c"
      maxBytes := 60257737
      requiredPaths := [utf8 "ffmpeg.exe", utf8 "ffprobe.exe"]
      ffmpegMatcher := utf8 "7.1.4-Jellyfin"
      ffprobeMatcher := utf8 "7.1.4-Jellyfin"
      licenseUrl := utf8 "https://github.com/jellyfin/jellyfin-ffmpeg/blob/v7.1.4-3/LICENSE"
      sourceUrl := utf8 "https://github.com/jellyfin/jellyfin-ffmpeg/tree/v7.1.4-3"
      sourceTag := utf8 "v7.1.4-3"
      minimumOperatingSystemVersion := ⟨6, 0⟩
      minimumSubsystemVersion := ⟨6, 0⟩ }]

def embedded : Except RuntimeError (RuntimeManifest httpsUrls) :=
  fromJson httpsUrls (some embeddedManifest)

theorem manifest_accepted_embedded : ∃ manifest artifact, embedded = .ok manifest ∧
    manifest.entries = [artifact] ∧ artifact.Deliverable := by
  cases accepted : embedded with
  | error error =>
    have passes : embedded.isOk = true := by decide +kernel
    rw [accepted] at passes
    cases passes
  | ok manifest =>
    obtain ⟨artifact, single, deliverable, -⟩ := manifest_accepted accepted
    exact ⟨manifest, artifact, rfl, single, deliverable⟩

end Deliveries

end StreamServer.Transcoding.Acquisition
