import StreamServer.Transcoding.RuntimeProbe

set_option autoImplicit false

namespace StreamServer.Transcoding.Resolution

open ByteText Results

variable {P : Type}

section Gathering

structure RuntimeConfig (P : Type) where
  explicitRoot : Option P
  managedCurrentRoot : Option P
  systemRoots : List P
  searchPath : Option Bytes

inductive CandidateSource where
  | managedCurrent
  | systemPackage
  | searchPath
deriving DecidableEq, Repr

structure Candidate (P : Type) where
  root : P
  source : CandidateSource
  provenance : RuntimeProvenance P

-- What one resolution runs on. `files` answers while the candidates are gathered, and `view` while
-- the candidate at a place of their list is tried; an explicit root is tried at place 0.
structure Machine (P : Type) where
  system : System P
  manifest : Except RuntimeError (List RuntimeArtifact)
  currentHost : Option RuntimeHost
  files : FileView P
  view : Nat → CandidateView P

def supportedFfmpegVersion : Bytes := utf8 "7.1.4"

def supportedJellyfinMatcher : Bytes := utf8 "7.1.4-Jellyfin"

def maxPathCandidates : Nat := 64

def artifactForHost (entries : List RuntimeArtifact) (host : RuntimeHost) : Option RuntimeArtifact :=
  entries.find? fun _ => host == .windowsX64

variable [DecidableEq P] (machine : Machine P) (config : RuntimeConfig P)

def hostArtifact (entries : List RuntimeArtifact) : Option RuntimeArtifact :=
  machine.currentHost.bind (artifactForHost entries)

structure Requirements where
  version : Bytes
  ffmpegJellyfinMatcher : Bytes
  ffprobeJellyfinMatcher : Bytes

def requirements (artifact : Option RuntimeArtifact) : Requirements where
  version := (artifact.map RuntimeArtifact.ffmpegVersion).getD supportedFfmpegVersion
  ffmpegJellyfinMatcher := (artifact.map RuntimeArtifact.ffmpegMatcher).getD supportedJellyfinMatcher
  ffprobeJellyfinMatcher :=
    (artifact.map RuntimeArtifact.ffprobeMatcher).getD supportedJellyfinMatcher

def managedCandidates (artifact : Option RuntimeArtifact) :
    Except RuntimeError (List (Candidate P)) :=
  match config.managedCurrentRoot, artifact with
  | some root, some artifact => do
      let authenticated ← authenticatedManagedCandidates machine.system machine.files root artifact
      return (authenticated.getD []).map fun (path, provenance) => ⟨path, .managedCurrent, provenance⟩
  | _, _ => .ok []

-- `kept` holds the roots of the search path so far, at most 64 of them.
def pathCandidates (system : System P) (kept : List P) : List P → List P
  | [] => kept
  | root :: rest =>
      if !system.isAbsolute root || isRemoteOrDevicePath system root ||
          kept.any (pathsEqual system · root) then pathCandidates system kept rest
      else if (kept ++ [root]).length = maxPathCandidates then kept ++ [root]
      else pathCandidates system (kept ++ [root]) rest

def searchPathRoots : List P :=
  match config.searchPath with
  | none => []
  | some searchPath => pathCandidates machine.system [] (machine.system.splitPaths searchPath)

def gatherCandidates (artifact : Option RuntimeArtifact) :
    Except RuntimeError (List (Candidate P)) := do
  let managed ← managedCandidates machine config artifact
  return managed ++ config.systemRoots.map (⟨·, .systemPackage, .unproven⟩) ++
    (searchPathRoots machine config).map (⟨·, .searchPath, .unproven⟩)

end Gathering

section Searching

inductive Origin (P : Type) where
  | explicitRoot (root : P)
  | candidate (place : Nat)
deriving DecidableEq

structure Resolved (P : Type) where
  runtime : FfmpegRuntime P
  origin : Origin P
  rolledBack : Option ManagedSelection

-- `degraded` also holds the place of the candidate.
structure Search (P : Type) where
  seen : List P
  degraded : Option (Nat × ProbedPair P)
  sawDeadline : Bool
  sawProbeFailure : Bool
  sawIncompatible : Bool

def Search.empty : Search P := ⟨[], none, false, false, false⟩

structure Outcome (P : Type) where
  result : Except RuntimeError (Resolved P)
  probed : List P

def candidateFailureError : CandidateFailure → RuntimeError
  | .missing => .unavailable
  | .unsafeCandidate => .unsafePath
  | .probe => .probeFailed
  | .deadline => .probeDeadline
  | .cancelled => .cancelled
  | .incompatible => .incompatiblePair

def retainBestSoftwareCandidate (slot : Option (Nat × ProbedPair P)) (place : Nat)
    (candidate : ProbedPair P) : Option (Nat × ProbedPair P) :=
  if slot.all (fun (_, selected) => candidate.jellyfin && !selected.jellyfin) then
    some (place, candidate)
  else slot

variable [DecidableEq P] (machine : Machine P) (config : RuntimeConfig P) (required : Requirements)

def probeCandidate (place : Nat) (candidate : Candidate P) : Except CandidateFailure (ProbedPair P) :=
  match candidate.provenance with
  | .authenticatedManaged receipt _ =>
      probeAuthenticatedPair machine.system (machine.view place) candidate.root receipt.installDigest
        receipt.ffmpegVersion receipt.ffmpegMatcher receipt.ffprobeMatcher
  | .unproven =>
      probePair machine.system (machine.view place) candidate.root required.version
        required.ffmpegJellyfinMatcher required.ffprobeJellyfinMatcher

def acceptJellyfin (place : Nat) (pair : ProbedPair P) (receipt : ManagedVersionReceipt)
    (rollback : Option (P × ManagedSelection)) : Except RuntimeError (Resolved P) :=
  let runtime := pair.intoRuntime machine.system .jellyfin (some receipt.jellyfinRevision)
  match rollback with
  | none => .ok ⟨runtime, .candidate place, none⟩
  | some (managedRoot, expectedSelection) => do
      let selection ← commitManagedRollback machine.system (machine.view place).rollback managedRoot
        expectedSelection receipt
      return ⟨runtime, .candidate place, some selection⟩

def afterProbe (place : Nat) (candidate : Candidate P) (search : Search P)
    (probed : Except CandidateFailure (ProbedPair P)) :
    Search P × Option (Except RuntimeError (Resolved P)) :=
  let retained (pair : ProbedPair P) : Search P :=
    { search with degraded := retainBestSoftwareCandidate search.degraded place pair }
  match probed with
  | .ok pair =>
      if pair.jellyfin then
        match candidate.provenance with
        | .authenticatedManaged receipt rollback =>
            (search, some (acceptJellyfin machine place pair receipt rollback))
        | .unproven => (retained pair, none)
      else (retained pair, none)
  | .error .deadline => ({ search with sawDeadline := true }, none)
  | .error .probe => ({ search with sawProbeFailure := true }, none)
  | .error .incompatible => ({ search with sawIncompatible := true }, none)
  | .error .cancelled => (search, some (.error .cancelled))
  | .error .unsafeCandidate =>
      if config.explicitRoot = some candidate.root then (search, some (.error .unsafePath))
      else (search, none)
  | .error .missing => (search, none)

def visit (place : Nat) (candidate : Candidate P) (search : Search P) :
    Search P × Option (Except RuntimeError (Resolved P)) :=
  match canonicalLocalRoot machine.system (machine.view place).files candidate.root with
  | .ok canonicalKey =>
      if search.seen.any (pathsEqual machine.system · canonicalKey) then (search, none)
      else
        afterProbe machine config place candidate
          { search with seen := search.seen ++ [canonicalKey] }
          (probeCandidate machine required place candidate)
  | .error .unsafeCandidate =>
      if config.explicitRoot = some candidate.root then (search, some (.error .unsafePath))
      else (search, none)
  | .error _ => (search, none)

def conclude (search : Search P) : Except RuntimeError (Resolved P) :=
  match search.degraded with
  | some (place, pair) =>
      .ok ⟨pair.intoRuntime machine.system .softwareCompatible none, .candidate place, none⟩
  | none =>
      if search.sawDeadline then .error .probeDeadline
      else if search.sawIncompatible then .error .incompatiblePair
      else if search.sawProbeFailure then .error .probeFailed
      else .error .unavailable

def searchCandidates (place : Nat) (search : Search P) : List (Candidate P) → Outcome P
  | [] => ⟨conclude machine search, search.seen⟩
  | candidate :: rest =>
      match visit machine config required place candidate search with
      | (reached, some result) => ⟨result, reached.seen⟩
      | (reached, none) => searchCandidates (place + 1) reached rest

def resolveExplicit (root : P) : Outcome P :=
  match canonicalLocalRoot machine.system (machine.view 0).files root with
  | .error failure => ⟨.error (candidateFailureError failure), []⟩
  | .ok canonicalKey =>
      match probePair machine.system (machine.view 0) root required.version
          required.ffmpegJellyfinMatcher required.ffprobeJellyfinMatcher with
      | .error failure => ⟨.error (candidateFailureError failure), [canonicalKey]⟩
      | .ok pair =>
          ⟨.ok ⟨pair.intoRuntime machine.system .softwareCompatible none, .explicitRoot root, none⟩,
            [canonicalKey]⟩

def resolveRuntimeInner : Outcome P :=
  match machine.manifest with
  | .error error => ⟨.error error, []⟩
  | .ok entries =>
      let artifact := hostArtifact machine entries
      if config.explicitRoot.any fun root =>
          isRemoteOrDevicePath machine.system root || !machine.system.isAbsolute root then
        ⟨.error .unsafePath, []⟩
      else
        match gatherCandidates machine config artifact with
        | .error error => ⟨.error error, []⟩
        | .ok candidates =>
            match config.explicitRoot with
            | some root => resolveExplicit machine (requirements artifact) root
            | none =>
                searchCandidates machine config (requirements artifact) 0 .empty candidates

-- `cutOff` is how many probes have begun when the time for the resolution is over. A rollback does not
-- wait between its write and the result, so that none is cut off behind the write.
def resolveRuntime (cutOff : Option Nat) : Outcome P :=
  let outcome := resolveRuntimeInner machine config
  match cutOff with
  | none => outcome
  | some begun => ⟨.error .probeDeadline, outcome.probed.take begun⟩

end Searching

section Invariant

variable [DecidableEq P] {machine : Machine P} {config : RuntimeConfig P} {required : Requirements}
  {candidates : List (Candidate P)}

structure Search.Sound (machine : Machine P) (required : Requirements)
    (candidates : List (Candidate P)) (search : Search P) : Prop where
  distinct : search.seen.Pairwise fun earlier later =>
    pathsEqual machine.system earlier later = false
  degraded : ∀ place pair, search.degraded = some (place, pair) →
    ∃ candidate, candidates[place]? = some candidate ∧
      probeCandidate machine required place candidate = .ok pair

def Accepted (machine : Machine P) (required : Requirements) (place : Nat) (candidate : Candidate P)
    (resolved : Resolved P) : Prop :=
  ∃ receipt rollback pair, candidate.provenance = .authenticatedManaged receipt rollback ∧
    probeCandidate machine required place candidate = .ok pair ∧ pair.jellyfin = true ∧
      acceptJellyfin machine place pair receipt rollback = .ok resolved

theorem Search.Sound.retain {search : Search P} {place : Nat} {candidate : Candidate P}
    {pair : ProbedPair P} (sound : search.Sound machine required candidates)
    (listed : candidates[place]? = some candidate)
    (probed : probeCandidate machine required place candidate = .ok pair) :
    Search.Sound machine required candidates
      { search with degraded := retainBestSoftwareCandidate search.degraded place pair } where
  distinct := sound.distinct
  degraded := by
    intro other kept same
    unfold retainBestSoftwareCandidate at same
    dsimp only at same
    split at same
    · cases same
      exact ⟨candidate, listed, probed⟩
    · exact sound.degraded other kept same

theorem afterProbe_sound {search reached : Search P} {place : Nat} {candidate : Candidate P}
    {result : Option (Except RuntimeError (Resolved P))}
    (sound : search.Sound machine required candidates)
    (listed : candidates[place]? = some candidate)
    (visited : afterProbe machine config place candidate search
      (probeCandidate machine required place candidate) = (reached, result)) :
    reached.Sound machine required candidates ∧
      ∀ resolved, result = some (.ok resolved) →
        Accepted machine required place candidate resolved := by
  cases probed : probeCandidate machine required place candidate with
  | ok pair =>
    have kept := sound.retain listed probed
    rw [probed] at visited
    unfold afterProbe at visited
    dsimp only at visited
    split at visited
    next jellyfin =>
      split at visited
      next receipt rollback provenance =>
        cases visited
        refine ⟨sound, fun resolved accepted => ?_⟩
        exact ⟨receipt, rollback, pair, provenance, probed, jellyfin, Option.some.inj accepted⟩
      next =>
        cases visited
        exact ⟨kept, nofun⟩
    next =>
      cases visited
      exact ⟨kept, nofun⟩
  | error failure =>
    rw [probed] at visited
    cases failure with
    | unsafeCandidate =>
      simp only [afterProbe] at visited
      split at visited
      · cases visited
        exact ⟨sound, nofun⟩
      · cases visited
        exact ⟨sound, nofun⟩
    | missing | probe | deadline | cancelled | incompatible =>
      cases visited
      exact ⟨⟨sound.distinct, sound.degraded⟩, nofun⟩

theorem visit_sound {search reached : Search P} {place : Nat} {candidate : Candidate P}
    {result : Option (Except RuntimeError (Resolved P))}
    (sound : search.Sound machine required candidates)
    (listed : candidates[place]? = some candidate)
    (visited : visit machine config required place candidate search = (reached, result)) :
    reached.Sound machine required candidates ∧
      ∀ resolved, result = some (.ok resolved) →
        Accepted machine required place candidate resolved := by
  unfold visit at visited
  split at visited
  next canonicalKey _ =>
    split at visited
    · cases visited
      exact ⟨sound, nofun⟩
    next fresh =>
      have extended : Search.Sound machine required candidates
          { search with seen := search.seen ++ [canonicalKey] } := by
        refine ⟨List.pairwise_append.mpr ⟨sound.distinct, List.pairwise_singleton .., ?_⟩,
          sound.degraded⟩
        intro earlier member later last
        rw [List.mem_singleton.mp last]
        simp only [List.any_eq_true, not_exists, not_and, Bool.not_eq_true] at fresh
        exact fresh earlier member
      exact afterProbe_sound extended listed visited
  · split at visited
    · cases visited
      exact ⟨sound, nofun⟩
    · cases visited
      exact ⟨sound, nofun⟩
  · cases visited
    exact ⟨sound, nofun⟩

theorem searchCandidates_sound {search : Search P} {place : Nat} {rest : List (Candidate P)}
    (sound : search.Sound machine required candidates) (ahead : candidates.drop place = rest) :
    (searchCandidates machine config required place search rest).probed.Pairwise
        (fun earlier later => pathsEqual machine.system earlier later = false) ∧
      ∀ resolved, (searchCandidates machine config required place search rest).result =
          .ok resolved →
        ∃ origin candidate, candidates[origin]? = some candidate ∧
          ((∃ pair, probeCandidate machine required origin candidate = .ok pair ∧
              resolved = ⟨pair.intoRuntime machine.system .softwareCompatible none,
                .candidate origin, none⟩) ∨
            Accepted machine required origin candidate resolved) := by
  induction rest generalizing place search with
  | nil =>
    refine ⟨sound.distinct, fun resolved concluded => ?_⟩
    unfold searchCandidates conclude at concluded
    dsimp only at concluded
    split at concluded
    next origin pair kept =>
      obtain ⟨candidate, listed, probed⟩ := sound.degraded origin pair kept
      exact ⟨origin, candidate, listed, .inl ⟨pair, probed, (Except.ok.inj concluded).symm⟩⟩
    next =>
      repeat' split at concluded
      all_goals cases concluded
  | cons candidate rest ih =>
    have listed : candidates[place]? = some candidate := by
      rw [← List.head?_drop, ahead]
      rfl
    have behind : candidates.drop (place + 1) = rest := by
      rw [← List.tail_drop, ahead]
      rfl
    unfold searchCandidates
    cases visited : visit machine config required place candidate search with
    | mk reached result =>
      obtain ⟨reachedSound, accepted⟩ := visit_sound sound listed visited
      cases result with
      | none => exact ih reachedSound behind
      | some result =>
        refine ⟨reachedSound.distinct, fun resolved finished => ?_⟩
        exact ⟨place, candidate, listed, .inr (accepted resolved (congrArg some finished))⟩

end Invariant

section Guarantees

variable {machine : Machine P} {config : RuntimeConfig P}

theorem mem_managedCandidates {artifact : Option RuntimeArtifact} {candidates : List (Candidate P)}
    {candidate : Candidate P} (gathered : managedCandidates machine config artifact = .ok candidates)
    (member : candidate ∈ candidates) :
    candidate.source = .managedCurrent ∧ ∃ root selection, config.managedCurrentRoot = some root ∧
      readManagedSelection machine.system machine.files root = .ok (some selection) ∧
      ManagedCandidate machine.system machine.files root selection candidate.root
        candidate.provenance := by
  unfold managedCandidates at gathered
  split at gathered
  next root artifact named =>
    obtain ⟨authenticated, found, rest⟩ := bind_ok gathered
    cases rest
    obtain ⟨⟨path, provenance⟩, listed, rfl⟩ := List.mem_map.mp member
    cases authenticated with
    | none => cases listed
    | some listing =>
      obtain ⟨selection, stored, _, _, managed⟩ := authenticatedManagedCandidates_sound found listed
      exact ⟨rfl, root, selection, named, stored, managed⟩
  next =>
    cases gathered
    cases member

-- The runtime is the version of the managed root that the receipt is for: the stored selection
-- names it, its two programs have the digest of the receipt, and they print its versions.
structure Authenticated (machine : Machine P) (root : P) (selection : ManagedSelection)
    (receipt : ManagedVersionReceipt) (place : Nat) (resolved : Resolved P) : Prop where
  stored : readManagedSelection machine.system machine.files root = .ok (some selection)
  received : readVersionReceipt machine.system machine.files
    (versionRoot machine.system root receipt.version) = .ok receipt
  named : (receipt.version = selection.currentVersion ∧
        receipt.archiveSha256 = selection.currentArchiveSha256 ∧
        receipt.installDigest = selection.currentInstallDigest ∧ resolved.rolledBack = none) ∨
      selection.previousVersion = some receipt.version ∧ ∃ rolledBack,
        commitManagedRollback machine.system (machine.view place).rollback root selection receipt =
          .ok rolledBack ∧
        rolledBack.currentVersion = receipt.version ∧
        rolledBack.currentInstallDigest = receipt.installDigest ∧
        resolved.rolledBack = some rolledBack
  hashed : ∃ opened, (machine.view place).files.openRoot
      (versionRoot machine.system root receipt.version) = .ok opened ∧
    executablesDigest machine.system opened = receipt.installDigest ∧
    resolved.runtime.opened.root = opened.root ∧
    resolved.runtime.id.installDigest = receipt.installDigest
  ffmpeg : PrintsVersion (machine.view place) .ffmpeg receipt.ffmpegMatcher
  ffprobe : PrintsVersion (machine.view place) .ffprobe receipt.ffprobeMatcher

theorem authenticated_of_accepted {required : Requirements} {root : P}
    {selection : ManagedSelection} {place : Nat} {candidate : Candidate P} {resolved : Resolved P}
    (stored : readManagedSelection machine.system machine.files root = .ok (some selection))
    (managed : ManagedCandidate machine.system machine.files root selection candidate.root
      candidate.provenance)
    (accepted : Accepted machine required place candidate resolved) :
    resolved.origin = .candidate place ∧
      ∃ receipt, candidate.root = versionRoot machine.system root receipt.version ∧
        Authenticated machine root selection receipt place resolved := by
  obtain ⟨receipt, rollback, pair, carried, probed, jellyfin, taken⟩ := accepted
  unfold probeCandidate at probed
  rw [carried] at probed
  obtain ⟨⟨opened, answered, sameRoot, digest⟩, installed, versions⟩ :=
    probeAuthenticatedPair_ok probed
  obtain ⟨ffmpeg, ffprobe⟩ := versions jellyfin
  generalize path : candidate.root = candidateRoot at *
  rw [carried] at managed
  cases managed with
  | current _ read version archive sameDigest =>
    cases taken
    rw [← version] at answered read ⊢
    exact ⟨rfl, receipt, rfl, stored, read, .inl ⟨version, archive, sameDigest, rfl⟩,
      ⟨opened, answered, digest, sameRoot, installed⟩, ffmpeg, ffprobe⟩
  | previous previousVersion _ named read version =>
    subst version
    obtain ⟨rolledBack, committed, rest⟩ := bind_ok taken
    cases rest
    have selected := (commitManagedRollback_sound committed).2.2.2.2
    refine ⟨rfl, receipt, rfl, stored, read, .inr ⟨named, rolledBack, committed, ?_, ?_, rfl⟩,
      ⟨opened, answered, digest, sameRoot, installed⟩, ffmpeg, ffprobe⟩
    · rw [selected]
      rfl
    · rw [selected]
      rfl

theorem probeCandidate_opened {required : Requirements} {place : Nat} {candidate : Candidate P}
    {pair : ProbedPair P} (probed : probeCandidate machine required place candidate = .ok pair) :
    ∃ opened, (machine.view place).files.openRoot candidate.root = .ok opened ∧
      pair.opened.root = opened.root := by
  unfold probeCandidate at probed
  split at probed
  · obtain ⟨⟨opened, answered, same, _⟩, _⟩ := probeAuthenticatedPair_ok probed
    exact ⟨opened, answered, same⟩
  · exact probePair_opened probed

variable [DecidableEq P]

theorem mem_gatherCandidates {artifact : Option RuntimeArtifact} {candidates : List (Candidate P)}
    {candidate : Candidate P} (gathered : gatherCandidates machine config artifact = .ok candidates)
    (member : candidate ∈ candidates) :
    candidate.source ≠ .managedCurrent ∧ candidate.provenance = .unproven ∨
      candidate.source = .managedCurrent ∧ ∃ root selection,
        config.managedCurrentRoot = some root ∧
        readManagedSelection machine.system machine.files root = .ok (some selection) ∧
        ManagedCandidate machine.system machine.files root selection candidate.root
          candidate.provenance := by
  obtain ⟨managed, found, rest⟩ := bind_ok gathered
  cases rest
  simp only [List.mem_append, List.mem_map] at member
  rcases member with (listed | ⟨root, _, rfl⟩) | ⟨root, _, rfl⟩
  · exact .inr (mem_managedCandidates found listed)
  · exact .inl ⟨nofun, rfl⟩
  · exact .inl ⟨nofun, rfl⟩

inductive ResolvedFrom (machine : Machine P) (config : RuntimeConfig P) (resolved : Resolved P) :
    Prop
  | explicitRoot (root : P) (named : config.explicitRoot = some root)
      (origin : resolved.origin = .explicitRoot root)
      (kind : resolved.runtime.kind = .softwareCompatible)
      (opened : ∃ opened, (machine.view 0).files.openRoot root = .ok opened ∧
        resolved.runtime.opened.root = opened.root)
  | candidate (entries : List RuntimeArtifact) (candidates : List (Candidate P)) (place : Nat)
      (candidate : Candidate P) (absent : config.explicitRoot = none)
      (manifest : machine.manifest = .ok entries)
      (gathered : gatherCandidates machine config (hostArtifact machine entries) = .ok candidates)
      (listed : candidates[place]? = some candidate) (origin : resolved.origin = .candidate place)
      (opened : ∃ opened, (machine.view place).files.openRoot candidate.root = .ok opened ∧
        resolved.runtime.opened.root = opened.root)
      (unproven : candidate.source ≠ .managedCurrent →
        resolved.runtime.kind = .softwareCompatible)
      (hardware : resolved.runtime.kind.hardwareAllowed = true →
        ∃ root selection receipt, config.managedCurrentRoot = some root ∧
          candidate.root = versionRoot machine.system root receipt.version ∧
          Authenticated machine root selection receipt place resolved)

structure ResolutionGuarantees (machine : Machine P) (config : RuntimeConfig P)
    (outcome : Outcome P) : Prop where
  resolved : ∀ resolved, outcome.result = .ok resolved → ResolvedFrom machine config resolved
  distinct : outcome.probed.Pairwise fun earlier later =>
    pathsEqual machine.system earlier later = false
  explicitOnly : ∀ root, config.explicitRoot = some root → ∀ directory ∈ outcome.probed,
    canonicalLocalRoot machine.system (machine.view 0).files root = .ok directory

theorem ResolutionGuarantees.failed (error : RuntimeError) :
    ResolutionGuarantees machine config ⟨.error error, []⟩ where
  resolved := nofun
  distinct := .nil
  explicitOnly := nofun

theorem resolveExplicit_guarantees {root : P} (required : Requirements)
    (named : config.explicitRoot = some root) :
    ResolutionGuarantees machine config (resolveExplicit machine required root) := by
  unfold resolveExplicit
  split
  · exact .failed _
  next canonicalKey canonical =>
    have only : ∀ other, config.explicitRoot = some other → ∀ directory ∈ [canonicalKey],
        canonicalLocalRoot machine.system (machine.view 0).files other = .ok directory := by
      intro other same directory member
      rw [List.mem_singleton.mp member, ← Option.some.inj (named.symm.trans same)]
      exact canonical
    split
    · exact ⟨nofun, List.pairwise_singleton .., only⟩
    next pair probed =>
      refine ⟨fun resolved finished => ?_, List.pairwise_singleton .., only⟩
      cases finished
      exact .explicitRoot root named rfl rfl (probePair_opened probed)

theorem searchCandidates_guarantees {entries : List RuntimeArtifact}
    {candidates : List (Candidate P)} (required : Requirements)
    (manifest : machine.manifest = .ok entries)
    (gathered : gatherCandidates machine config (hostArtifact machine entries) = .ok candidates)
    (absent : config.explicitRoot = none) :
    ResolutionGuarantees machine config
      (searchCandidates machine config required 0 .empty candidates) := by
  have initial : Search.Sound machine required candidates .empty := ⟨.nil, nofun⟩
  have found := @searchCandidates_sound P _ machine config required candidates .empty 0 candidates
    initial List.drop_zero
  obtain ⟨distinct, sources⟩ := found
  refine ⟨fun resolved finished => ?_, distinct, fun root named => ?_⟩
  · obtain ⟨place, candidate, listed, ⟨pair, probed, rfl⟩ | accepted⟩ := sources resolved finished
    · exact .candidate entries candidates place candidate absent manifest gathered listed rfl
        (probeCandidate_opened probed) (fun _ => rfl) nofun
    · have known := mem_gatherCandidates gathered (List.mem_of_getElem? listed)
      rcases known with ⟨_, unproven⟩ | ⟨source, root, selection, named, stored, managed⟩
      · obtain ⟨_, _, _, carried, _⟩ := accepted
        cases unproven.symm.trans carried
      · obtain ⟨origin, receipt, path, authenticated⟩ :=
          authenticated_of_accepted stored managed accepted
        obtain ⟨opened, answered, _, sameRoot, _⟩ := authenticated.hashed
        exact .candidate entries candidates place candidate absent manifest gathered listed origin
          ⟨opened, path ▸ answered, sameRoot⟩ (absurd source) fun _ =>
            ⟨root, selection, receipt, named, path, authenticated⟩
  · cases absent.symm.trans named

theorem resolveRuntime_guarantees (machine : Machine P) (config : RuntimeConfig P)
    (cutOff : Option Nat) :
    ResolutionGuarantees machine config (resolveRuntime machine config cutOff) := by
  have inner : ResolutionGuarantees machine config (resolveRuntimeInner machine config) := by
    unfold resolveRuntimeInner
    split
    · exact .failed _
    next entries manifest =>
      dsimp only
      split
      · exact .failed _
      · split
        · exact .failed _
        next candidates gathered =>
          split
          next root named => exact resolveExplicit_guarantees _ named
          next absent => exact searchCandidates_guarantees _ manifest gathered absent
  cases cutOff with
  | none => exact inner
  | some begun =>
    refine ⟨nofun, inner.distinct.sublist (List.take_sublist ..), fun root named directory member => ?_⟩
    exact inner.explicitOnly root named directory (List.mem_of_mem_take member)

end Guarantees

section Example

def installed : RuntimeArtifact where
  sourceTag := utf8 "v7.1.4-1"
  sha256 := List.replicate 64 97
  maxBytes := 1024
  ffmpegVersion := utf8 "7.1.4"
  jellyfinRevision := utf8 "1"
  ffmpegMatcher := utf8 "7.1.4-Jellyfin"
  ffprobeMatcher := utf8 "7.1.4-Jellyfin"

def installedReceipt : ManagedVersionReceipt :=
  .fromArtifact installed (Hex.encode (List.replicate 32 7))

def brokenUpgrade : ManagedSelection where
  schemaVersion := managedSelectionSchemaVersion
  manifestVersion := installed.sourceTag
  manifestArchiveSha256 := installed.sha256
  currentVersion := utf8 "v7.1.5-1"
  currentArchiveSha256 := List.replicate 64 98
  currentInstallDigest := List.replicate 64 98
  previousVersion := some installed.sourceTag

def rootSystem : System Bytes where
  windows := false
  toStringLossy := id
  ofText := id
  osBytes := id
  isAbsolute := startsWith (utf8 "/")
  driveIsRemote _ := false
  join path name := path ++ utf8 "/" ++ name
  ancestors path := [path]
  splitPaths := List.splitOn 58
  sha256 _ := List.replicate 32 7
  selectionOfJson _ := some brokenUpgrade
  receiptOfJson _ := some installedReceipt

def rootFiles : FileView Bytes where
  symlinkMetadata path := .ok ⟨if utf8 ".json" <:+ path then .file else .directory, false⟩
  canonicalize := some
  read := .ok
  openRoot path := .ok ⟨path, ⟨1, 1⟩, ⟨[], none, ⟨1, 2⟩⟩, ⟨[], none, ⟨1, 3⟩⟩⟩

def printed : RuntimeExecutable → IdentityArgument → String
  | .ffmpeg, .version => "ffmpeg version 7.1.4-Jellyfin"
  | .ffprobe, .version => "ffprobe version 7.1.4-Jellyfin"
  | _, .buildconf => "configuration: --enable-gpl"

def upgradedMachine : Machine Bytes where
  system := rootSystem
  manifest := .ok [installed]
  currentHost := some .windowsX64
  files := rootFiles
  view _ :=
    { files := rootFiles
      run := fun executable argument => .exited true (utf8 (printed executable argument))
      sourceMetadata := fun executable =>
        some ⟨true, 0, none, ⟨1, if executable = .ffmpeg then 2 else 3⟩⟩
      rollback := ⟨.ok (), rootFiles, true, .ok ()⟩ }

def upgradedConfig : RuntimeConfig Bytes := ⟨none, some (utf8 "/root"), [utf8 "/usr/bin"], none⟩

example : ((resolveRuntime upgradedMachine upgradedConfig none).result.toOption.map fun resolved =>
    (resolved.runtime.kind, resolved.rolledBack.map ManagedSelection.currentVersion)) =
      some (.jellyfin, some installed.sourceTag) := by
  decide +kernel

end Example

end StreamServer.Transcoding.Resolution
