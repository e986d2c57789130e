import StreamServer.Settings.Payload
import StreamServer.Shared.Checked
import StreamServer.Shared.Runs
import StreamServer.Updater.TagOrder
import StreamServer.Updater.Version

set_option autoImplicit false

namespace StreamServer.Updater

open ByteText
open Settings (ServerSettings UpdateChannel)

inductive UpdateOperationState where
  | idle
  | checking
  | available
  | downloading
  | staged
  | waitingForIdle
  | installing
  | upToDate
  | failed
deriving DecidableEq, Repr

inductive UpdateErrorKind where
  | notFound
  | conflict
  | invalidRelease
  | unsupported
  | io
  | network
  | unexpected
deriving DecidableEq, Repr

structure UpdateError where
  kind : UpdateErrorKind
  message : String
deriving DecidableEq, Repr

structure GitHubAsset where
  name : Bytes
  browserDownloadUrl : Bytes
  size : Nat

structure GitHubRelease where
  tagName : Bytes
  htmlUrl : Bytes
  draft : Bool
  prerelease : Bool
  assets : List GitHubAsset

structure ReleaseAssetInfo where
  name : Bytes
  downloadUrl : Bytes
  size : Nat
deriving DecidableEq

structure RequiredAssets where
  server : ReleaseAssetInfo
  runtime : ReleaseAssetInfo
  updater : ReleaseAssetInfo
  checksums : ReleaseAssetInfo
  msi : Option ReleaseAssetInfo
deriving DecidableEq

structure UpdateCandidate where
  version : Bytes
  tag : Bytes
  releaseUrl : Bytes
  prerelease : Bool
  assets : RequiredAssets
deriving DecidableEq

abbrev PathBuf := Bytes

structure StagedAssetPaths where
  server : PathBuf
  runtime : PathBuf
  updater : PathBuf
  checksums : PathBuf
  msi : Option PathBuf

structure StagedUpdate where
  version : Bytes
  tag : Bytes
  releaseUrl : Bytes
  dir : PathBuf
  assets : StagedAssetPaths
  hashes : List (Bytes × Bytes)

structure UpdateStatus where
  state : UpdateOperationState
  currentVersion : Bytes
  latestVersion : Option Bytes
  channel : UpdateChannel
  releaseUrl : Option Bytes
  lastCheckedUnixSecs : Option Int
  stagedVersion : Option Bytes
  installBlockedBy : List String
  error : Option String
deriving DecidableEq

structure UpdateInner where
  status : UpdateStatus
  candidate : Option UpdateCandidate
  staged : Option StagedUpdate

namespace UpdateInner

def new (currentVersion : Bytes) (channel : UpdateChannel) : UpdateInner where
  status := ⟨.idle, currentVersion, none, channel, none, none, none, [], none⟩
  candidate := none
  staged := none

def setState (inner : UpdateInner) (state : UpdateOperationState) (error : Option String) :
    UpdateInner :=
  { inner with status := { inner.status with state, error, installBlockedBy := [] } }

def fail (inner : UpdateInner) (message : String) : UpdateInner :=
  { inner with status := { inner.status with state := .failed, error := some message } }

end UpdateInner

section Candidates

variable {semver : Semver}

def ReleaseAssetInfo.ofAsset (asset : GitHubAsset) : ReleaseAssetInfo :=
  ⟨asset.name, asset.browserDownloadUrl, asset.size⟩

def findAsset (assets : List GitHubAsset) (name : String) : Except UpdateError ReleaseAssetInfo :=
  match assets.find? fun asset => asset.name = utf8 name with
  | some asset => .ok (.ofAsset asset)
  | none => .error ⟨.invalidRelease, "release is missing required asset " ++ name⟩

def selectRequiredAssets (assets : List GitHubAsset) : Except UpdateError RequiredAssets := do
  let server ← findAsset assets "stream-server-windows-amd64.exe"
  let runtime ← findAsset assets "stremio-runtime-windows-amd64.exe"
  let updater ← findAsset assets "stream-server-updater-windows-amd64.exe"
  let checksums ← findAsset assets "SHA256SUMS.txt"
  let msi := assets.find? fun asset => (utf8 ".msi").isSuffixOf (asset.name.map toAsciiLowercase)
  return ⟨server, runtime, updater, checksums, msi.map .ofAsset⟩

/-- The version of the best candidate so far, and the last release whose assets are incomplete. -/
structure Selection (semver : Semver) where
  selected : Option (Version semver × UpdateCandidate)
  lastAssetError : Option UpdateError

-- How a tag is read is a parameter here: what an overflow does depends on the build.
variable (parseTag : Bytes → Option (Version semver)) (channel : UpdateChannel)
  (current : Version semver)

def considerRelease (selection : Selection semver) (release : GitHubRelease) : Selection semver :=
  if release.draft then selection
  else if channel = .stable ∧ release.prerelease then selection
  else
    match parseTag release.tagName with
    | none => selection
    | some version =>
        if !isNewer version current then selection
        else
          match selectRequiredAssets release.assets with
          | .error err => { selection with lastAssetError := some err }
          | .ok assets =>
              let candidate : UpdateCandidate :=
                { version := release.tagName.dropWhile (· == 118)
                  tag := release.tagName
                  releaseUrl := release.htmlUrl
                  prerelease := release.prerelease
                  assets }
              let shouldReplace : Bool := match selection.selected with
                | some (selectedVersion, _) => version.cmp selectedVersion == .gt
                | none => true
              if shouldReplace then { selection with selected := some (version, candidate) }
              else selection

def selectLatestCandidate (releases : List GitHubRelease) :
    Except UpdateError (Option UpdateCandidate) :=
  let selection := releases.foldl (considerRelease parseTag channel current) ⟨none, none⟩
  match selection.selected, selection.lastAssetError with
  | some (_, candidate), _ => .ok (some candidate)
  | none, some err =>
      .error ⟨.invalidRelease,
        "latest eligible release is missing required assets: " ++ err.message⟩
  | none, none => .ok none

end Candidates

structure StagedFiles where
  dir : PathBuf
  assets : StagedAssetPaths
  hashes : List (Bytes × Bytes)

def stageUpdate (candidate : UpdateCandidate) (staging : Except UpdateError StagedFiles) :
    Except UpdateError StagedUpdate :=
  staging.map fun files =>
    ⟨candidate.version, candidate.tag, candidate.releaseUrl, files.dir, files.assets, files.hashes⟩

inductive RemoveDirError where
  | notFound
  | other (error : UpdateError)

inductive Call where
  | checkForUpdates (settings : ServerSettings) (force : Bool) (now : Int)
      (makeClient : Except UpdateError Unit) (fetch : Except UpdateError (List GitHubRelease))
  | downloadUpdate (makeClient : Except UpdateError Unit)
      (staging : Except UpdateError StagedFiles)
  | installUpdate (force : Bool) (blockers : List String) (makeClient : Except UpdateError Unit)
      (staging : Except UpdateError StagedFiles) (plan : Except UpdateError (PathBuf × PathBuf))
      (spawn : Except UpdateError Unit)
  | cancelUpdate (removed : Except RemoveDirError Unit)

structure UpdateManager (semver : Semver) where
  parseTag : Bytes → Option (Version semver)
  current : Version semver
  windows : Bool

abbrev Outcome := UpdateInner × Except UpdateError UpdateStatus

namespace UpdateManager

variable {semver : Semver} (manager : UpdateManager semver)

def recentlyChecked (settings : ServerSettings) (now : Int) (inner : UpdateInner) : Bool :=
  match inner.status.lastCheckedUnixSecs with
  | some lastChecked =>
      let intervalSecs := MachineInt.satMul settings.updateCheckIntervalHours.toNat 3600
      0 < intervalSecs &&
        MachineInt.satSubI64 now lastChecked < MachineInt.asI64 intervalSecs
  | none => false

def checkForUpdates (settings : ServerSettings) (force : Bool) (now : Int)
    (makeClient : Except UpdateError Unit) (fetch : Except UpdateError (List GitHubRelease))
    (inner : UpdateInner) : Outcome :=
  if !force && recentlyChecked settings now inner then (inner, .ok inner.status)
  else
    let inner := inner.setState .checking none
    match makeClient with
    | .error err => (inner, .error err)
    | .ok () =>
        match fetch with
        | .error err => (inner.fail err.message, .error err)
        | .ok releases =>
            match selectLatestCandidate manager.parseTag settings.updateChannel manager.current
              releases with
            | .error err => (inner.fail err.message, .error err)
            | .ok selected =>
                let status : UpdateStatus :=
                  { inner.status with
                    state := if selected.isSome then .available else .upToDate
                    channel := settings.updateChannel
                    lastCheckedUnixSecs := some now
                    installBlockedBy := []
                    error := none
                    latestVersion := selected.map UpdateCandidate.version
                    releaseUrl := selected.map UpdateCandidate.releaseUrl }
                ({ inner with status, candidate := selected }, .ok status)

def downloadUpdate (makeClient : Except UpdateError Unit)
    (staging : Except UpdateError StagedFiles) (inner : UpdateInner) : Outcome :=
  match inner.candidate with
  | none => (inner, .error ⟨.notFound, "no eligible update is available to download"⟩)
  | some candidate =>
      let inner := inner.setState .downloading none
      match makeClient with
      | .error err => (inner, .error err)
      | .ok () =>
          match stageUpdate candidate staging with
          | .error err => (inner.fail err.message, .error err)
          | .ok staged =>
              let status : UpdateStatus :=
                { inner.status with
                  state := .staged
                  stagedVersion := some staged.version
                  error := none }
              ({ inner with status, staged := some staged }, .ok status)

def prepareApplyPlan (plan : Except UpdateError (PathBuf × PathBuf)) :
    Except UpdateError (PathBuf × PathBuf) :=
  if !manager.windows then
    .error ⟨.unsupported, "automatic installation is only supported on Windows in this release"⟩
  else plan

def installStaged (plan : Except UpdateError (PathBuf × PathBuf)) (spawn : Except UpdateError Unit)
    (inner : UpdateInner) : Outcome :=
  match manager.prepareApplyPlan plan with
  | .error err => (inner, .error err)
  | .ok _ =>
      match spawn with
      | .error err => (inner, .error err)
      | .ok () =>
          let status : UpdateStatus :=
            { inner.status with state := .installing, installBlockedBy := [], error := none }
          ({ inner with status }, .ok status)

def installUpdate (force : Bool) (blockers : List String) (makeClient : Except UpdateError Unit)
    (staging : Except UpdateError StagedFiles) (plan : Except UpdateError (PathBuf × PathBuf))
    (spawn : Except UpdateError Unit) (inner : UpdateInner) : Outcome :=
  if !force && !blockers.isEmpty then
    let status : UpdateStatus :=
      { inner.status with
        state := .waitingForIdle
        installBlockedBy := blockers
        error := some "install blocked while server is active" }
    ({ inner with status }, .error ⟨.conflict, "install blocked while server is active"⟩)
  else
    match inner.staged with
    | some _ => manager.installStaged plan spawn inner
    | none =>
        match inner.candidate with
        | none => (inner, .error ⟨.notFound, "no staged update is available to install"⟩)
        | some candidate =>
            let inner := inner.setState .downloading none
            match makeClient with
            | .error err => (inner, .error err)
            | .ok () =>
                match stageUpdate candidate staging with
                | .error err => (inner.fail err.message, .error err)
                | .ok staged =>
                    let status : UpdateStatus :=
                      { inner.status with stagedVersion := some staged.version }
                    manager.installStaged plan spawn { inner with status, staged := some staged }

def cancelUpdate (removed : Except RemoveDirError Unit) (inner : UpdateInner) : Outcome :=
  let cancelled : Outcome :=
    let status : UpdateStatus :=
      { inner.status with
        state := .idle
        stagedVersion := none
        installBlockedBy := []
        error := none }
    ({ inner with status, staged := none }, .ok status)
  match inner.staged, removed with
  | some _, .error (.other err) => (inner, .error err)
  | some _, .error .notFound | some _, .ok () | none, _ => cancelled

def apply (call : Call) (inner : UpdateInner) : Outcome :=
  match call with
  | .checkForUpdates settings force now makeClient fetch =>
      manager.checkForUpdates settings force now makeClient fetch inner
  | .downloadUpdate makeClient staging => downloadUpdate makeClient staging inner
  | .installUpdate force blockers makeClient staging plan spawn =>
      manager.installUpdate force blockers makeClient staging plan spawn inner
  | .cancelUpdate removed => cancelUpdate removed inner

/-- The operation lock admits one call at a time. -/
def step (inner : UpdateInner) (call : Call) : Option UpdateInner := some (manager.apply call inner).1

end UpdateManager

structure Published (inner : UpdateInner) : Prop where
  settled : inner.status.state ≠ .checking ∧ inner.status.state ≠ .downloading
  staged : inner.status.state = .staged →
    ∃ staged, inner.staged = some staged ∧ inner.status.stagedVersion = some staged.version
  available : inner.status.state = .available →
    ∃ candidate, inner.candidate = some candidate ∧
      inner.status.latestVersion = some candidate.version
  upToDate : inner.status.state = .upToDate → inner.candidate = none

def HelperStarts (windows : Bool) (plan : Except UpdateError (PathBuf × PathBuf))
    (spawn : Except UpdateError Unit) : Prop :=
  windows = true ∧ (∃ helper, plan = .ok helper) ∧ spawn = .ok ()

-- The client can be made where one is needed, and an install that has to stage its update first
-- does not fail after it has done so.
def Unbroken (windows : Bool) (inner : UpdateInner) : Call → Prop
  | .checkForUpdates settings force now makeClient _ =>
      force = true ∨ UpdateManager.recentlyChecked settings now inner = false →
        makeClient = .ok ()
  | .downloadUpdate makeClient _ => inner.candidate ≠ none → makeClient = .ok ()
  | .installUpdate force blockers makeClient staging plan spawn =>
      force = true ∨ blockers = [] → inner.staged = none → inner.candidate ≠ none →
        makeClient = .ok () ∧
          ((∃ files, staging = .ok files) → HelperStarts windows plan spawn)
  | .cancelUpdate _ => True

namespace UpdateManager

variable {semver : Semver} (manager : UpdateManager semver)

theorem published_failed (inner : UpdateInner) (message : String) : Published (inner.fail message) where
  settled := ⟨nofun, nofun⟩
  staged := nofun
  available := nofun
  upToDate := nofun

theorem checkForUpdates_published {inner : UpdateInner} (published : Published inner)
    (settings : ServerSettings) (force : Bool) (now : Int) (makeClient : Except UpdateError Unit)
    (fetch : Except UpdateError (List GitHubRelease)) :
    Published (manager.checkForUpdates settings force now makeClient fetch inner).1 ↔
      Unbroken manager.windows inner (.checkForUpdates settings force now makeClient fetch) := by
  unfold checkForUpdates Unbroken
  split
  next skipped =>
    simp only [Bool.and_eq_true, Bool.not_eq_true'] at skipped
    simp [published, skipped]
  next due =>
    have due : force = true ∨ recentlyChecked settings now inner = false := by
      cases force <;> simp_all
    cases makeClient with
    | error err =>
        exact iff_of_false (fun after => after.settled.1 rfl) fun made => nomatch made due
    | ok made =>
        refine iff_of_true ?_ fun _ => rfl
        cases fetch with
        | error err => exact published_failed _ _
        | ok releases =>
            simp only
            cases selectLatestCandidate manager.parseTag settings.updateChannel manager.current
              releases with
            | error err => exact published_failed _ _
            | ok selected =>
                cases selected with
                | none => exact ⟨⟨nofun, nofun⟩, nofun, nofun, fun _ => rfl⟩
                | some candidate =>
                    exact ⟨⟨nofun, nofun⟩, nofun, fun _ => ⟨candidate, rfl, rfl⟩, nofun⟩

theorem downloadUpdate_published {inner : UpdateInner} (published : Published inner)
    (makeClient : Except UpdateError Unit) (staging : Except UpdateError StagedFiles) :
    Published (downloadUpdate makeClient staging inner).1 ↔
      Unbroken manager.windows inner (.downloadUpdate makeClient staging) := by
  unfold downloadUpdate Unbroken
  cases found : inner.candidate with
  | none => simp [published]
  | some candidate =>
      cases makeClient with
      | error err =>
          exact iff_of_false (fun after => after.settled.2 rfl) fun made => nomatch made nofun
      | ok made =>
          refine iff_of_true ?_ fun _ => rfl
          simp only
          cases stageUpdate candidate staging with
          | error err => exact published_failed _ _
          | ok staged => exact ⟨⟨nofun, nofun⟩, fun _ => ⟨staged, rfl, rfl⟩, nofun, nofun⟩

theorem installStaged_starts {plan : Except UpdateError (PathBuf × PathBuf)}
    {spawn : Except UpdateError Unit} (starts : HelperStarts manager.windows plan spawn)
    (inner : UpdateInner) : Published (manager.installStaged plan spawn inner).1 := by
  obtain ⟨windows, ⟨helper, rfl⟩, rfl⟩ := starts
  unfold installStaged prepareApplyPlan
  rw [windows]
  exact ⟨⟨nofun, nofun⟩, nofun, nofun, nofun⟩

theorem installStaged_fails {plan : Except UpdateError (PathBuf × PathBuf)}
    {spawn : Except UpdateError Unit} (fails : ¬ HelperStarts manager.windows plan spawn)
    (inner : UpdateInner) : (manager.installStaged plan spawn inner).1 = inner := by
  unfold installStaged prepareApplyPlan
  cases windows : manager.windows with
  | false => rfl
  | true =>
      cases plan with
      | error err => rfl
      | ok helper =>
          cases spawn with
          | error err => rfl
          | ok started => exact absurd ⟨windows, ⟨helper, rfl⟩, rfl⟩ fails

theorem installUpdate_published {inner : UpdateInner} (published : Published inner) (force : Bool)
    (blockers : List String) (makeClient : Except UpdateError Unit)
    (staging : Except UpdateError StagedFiles) (plan : Except UpdateError (PathBuf × PathBuf))
    (spawn : Except UpdateError Unit) :
    Published
        (manager.installUpdate force blockers makeClient staging plan spawn inner).1 ↔
      Unbroken manager.windows inner
        (.installUpdate force blockers makeClient staging plan spawn) := by
  unfold installUpdate Unbroken
  split
  next blocked =>
    have held : ¬ (force = true ∨ blockers = []) := by
      cases force <;> simp_all
    exact iff_of_true ⟨⟨nofun, nofun⟩, nofun, nofun, nofun⟩ fun ready => absurd ready held
  next ready =>
    have ready : force = true ∨ blockers = [] := by
      cases force <;> simp_all
    cases present : inner.staged with
    | some staged =>
        refine iff_of_true ?_ fun _ => nofun
        by_cases starts : HelperStarts manager.windows plan spawn
        · exact manager.installStaged_starts starts inner
        · simpa only [manager.installStaged_fails starts inner] using published
    | none =>
        cases found : inner.candidate with
        | none => exact iff_of_true published fun _ _ other => absurd rfl other
        | some candidate =>
            cases makeClient with
            | error err =>
                exact iff_of_false (fun after => after.settled.2 rfl)
                  fun unbroken => nomatch (unbroken ready rfl nofun).1
            | ok made =>
                cases staging with
                | error err =>
                    exact iff_of_true (published_failed _ _) fun _ _ _ => ⟨rfl, nofun⟩
                | ok files =>
                    by_cases starts : HelperStarts manager.windows plan spawn
                    · exact iff_of_true (manager.installStaged_starts starts _)
                        fun _ _ _ => ⟨rfl, fun _ => starts⟩
                    · refine iff_of_false (fun after => ?_) fun unbroken =>
                        starts ((unbroken ready rfl nofun).2 ⟨files, rfl⟩)
                      simp only [stageUpdate, Except.map, manager.installStaged_fails starts]
                        at after
                      exact after.settled.2 rfl

theorem cancelUpdate_published {inner : UpdateInner} (published : Published inner)
    (removed : Except RemoveDirError Unit) : Published (cancelUpdate removed inner).1 := by
  have cancelled (status : UpdateStatus) (idle : status.state = .idle) :
      Published { inner with status, staged := none } := by
    refine ⟨?_, ?_, ?_, ?_⟩ <;> simp [idle]
  unfold cancelUpdate
  split
  · exact published
  all_goals exact cancelled _ rfl

theorem step_published {inner next : UpdateInner} {call : Call} (published : Published inner)
    (taken : manager.step inner call = some next) :
    Published next ↔ Unbroken manager.windows inner call := by
  cases taken
  cases call with
  | checkForUpdates => exact manager.checkForUpdates_published published ..
  | downloadUpdate => exact manager.downloadUpdate_published published ..
  | installUpdate => exact manager.installUpdate_published published ..
  | cancelUpdate removed => exact iff_of_true (cancelUpdate_published published removed) trivial

end UpdateManager

theorem published_new (currentVersion : Bytes) (channel : UpdateChannel) :
    Published (.new currentVersion channel) :=
  ⟨⟨nofun, nofun⟩, nofun, nofun, nofun⟩

theorem published_always_iff {semver : Semver} (manager : UpdateManager semver)
    (currentVersion : Bytes) (channel : UpdateChannel) (calls : List Call) :
    Runs.Always Published manager.step (.new currentVersion channel) calls ↔
      Runs.Meets (Unbroken manager.windows) manager.step (.new currentVersion channel) calls := by
  constructor
  · have forced (inner : UpdateInner) (call : Call) (next : UpdateInner) (_ : True)
        (published : Published inner) (after : Published next)
        (taken : manager.step inner call = some next) : Unbroken manager.windows inner call :=
      (manager.step_published published taken).mp after
    exact Runs.meets_of_always forced (fun _ _ _ _ _ => trivial) trivial
  · refine Runs.always_of_meets ?_ (published_new currentVersion channel)
    intro inner call next published unbroken taken
    exact (manager.step_published published taken).mpr unbroken

section Linux

open ByteText

def linuxManager : UpdateManager crate where
  parseTag tag := match parseReleaseTag tag with
    | .ok version => version
    | .error _ => none
  current := .new 0 1 70000
  windows := false

def newRelease : GitHubRelease where
  tagName := utf8 "v0.2.0"
  htmlUrl := utf8 "https://github.com/perpetus/stream-server/releases/v0.2.0"
  draft := false
  prerelease := false
  assets := ["stream-server-windows-amd64.exe", "stremio-runtime-windows-amd64.exe",
    "stream-server-updater-windows-amd64.exe", "SHA256SUMS.txt"].map fun name =>
      ⟨utf8 name, utf8 name, 1⟩

def stagedFiles : StagedFiles :=
  ⟨utf8 "updates/v0.2.0", ⟨utf8 "server", utf8 "runtime", utf8 "updater", utf8 "sums", none⟩, []⟩

def checkThenInstall : List Call :=
  [.checkForUpdates Settings.plainSettings false 1700000000 (.ok ()) (.ok [newRelease]),
    .installUpdate false [] (.ok ()) (.ok stagedFiles) (.ok (utf8 "updater", utf8 "plan")) (.ok ())]

-- Installing needs Windows; elsewhere the state stays at the download that is over.
theorem failed_install_downloads :
    (Runs.run linuxManager.step (.new (utf8 "0.1.7") .stable) checkThenInstall).map
        (fun inner => inner.status.state) = some .downloading ∧
      ¬ Runs.Always Published linuxManager.step (.new (utf8 "0.1.7") .stable) checkThenInstall := by
  have downloads : (Runs.run linuxManager.step (.new (utf8 "0.1.7") .stable) checkThenInstall).map
      (fun inner => inner.status.state) = some .downloading := by
    decide +kernel
  refine ⟨downloads, fun always => ?_⟩
  obtain ⟨final, ran, downloading⟩ := Option.map_eq_some_iff.mp downloads
  exact (always.last ran).settled.2 downloading

end Linux

end StreamServer.Updater
