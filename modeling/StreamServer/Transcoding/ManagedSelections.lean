import StreamServer.Shared.Runs
import StreamServer.Transcoding.ManagedRuntime

set_option autoImplicit false

namespace StreamServer.Transcoding

namespace ManagedRoot

open Runs

variable {root next : ManagedRoot} {version : Bytes} {receipt : ManagedVersionReceipt}
variable {selection : ManagedSelection}

structure Receipted (root : ManagedRoot) (version : Bytes) (receipt : ManagedVersionReceipt) :
    Prop where
  directory : ∃ directory, root.versions version = some directory ∧
    directory.receipt = some receipt
  consistent : receipt.isSelfConsistent = true
  version : receipt.version = version

structure Names (root : ManagedRoot) (selection : ManagedSelection) : Prop where
  current : ∃ receipt, root.Receipted selection.currentVersion receipt ∧
    receipt.archiveSha256 = selection.currentArchiveSha256 ∧
      receipt.installDigest = selection.currentInstallDigest
  previous : ∀ version, selection.previousVersion = some version →
    version ≠ selection.currentVersion ∧ ∃ receipt, root.Receipted version receipt

theorem readVersionReceipt_some (read : root.readVersionReceipt version = some receipt)
    (named : receipt.version = version) : root.Receipted version receipt := by
  obtain ⟨found, consistent⟩ := Option.filter_eq_some_iff.mp read
  obtain ⟨directory, held, kept⟩ := Option.bind_eq_some_iff.mp found
  exact ⟨⟨directory, held, kept⟩, consistent, named⟩

theorem authenticate_some {archive digest : Option Bytes}
    (authenticated : root.authenticateManagedVersionDigest version archive digest = some receipt) :
    root.Receipted version receipt := by
  unfold authenticateManagedVersionDigest at authenticated
  split at authenticated
  · cases authenticated
  · obtain ⟨read, checked⟩ := Option.filter_eq_some_iff.mp authenticated
    simp only [Bool.and_eq_true, decide_eq_true_eq] at checked
    exact readVersionReceipt_some read checked.1.1.1

theorem readManagedSelection_ok {prior : Option ManagedSelection}
    (read : root.readManagedSelection = .ok prior) : prior = root.selection := by
  unfold readManagedSelection at read
  split at read
  next absent =>
    cases read
    exact absent.symm
  next stored held =>
    split at read
    · cases read
      exact held.symm
    · cases read

theorem matchesArtifact_version {artifact : RuntimeArtifact}
    (matching : receipt.matchesArtifact artifact = true) :
    receipt.version = artifact.sourceTag ∧ receipt.archiveSha256 = artifact.sha256 := by
  simp only [ManagedVersionReceipt.matchesArtifact, Bool.and_eq_true, decide_eq_true_eq] at matching
  tauto

-- The previous version is the one that the prior selection names beside the new current one.
theorem names_activation {artifact : RuntimeArtifact}
    (stored : ∀ prior, root.selection = some prior → root.Names prior)
    (held : root.Receipted artifact.sourceTag receipt)
    (matching : receipt.matchesArtifact artifact = true) :
    root.Names (root.activationSelection artifact receipt.installDigest root.selection) := by
  constructor
  · exact ⟨receipt, held, (matchesArtifact_version matching).2, rfl⟩
  · intro version named
    have previous : root.previousOfActivation artifact root.selection = some version := named
    unfold previousOfActivation at previous
    split at previous
    · cases previous
    next prior present =>
      split at previous
      next same =>
        -- The version is activated again and keeps its previous one.
        obtain ⟨kept, was, authenticated⟩ := Option.bind_eq_some_iff.mp previous
        obtain ⟨found, receipted, rfl⟩ := Option.map_eq_some_iff.mp authenticated
        have apart := ((stored prior present).previous _ was).1
        rw [same] at apart
        exact ⟨apart, found, authenticate_some receipted⟩
      next other =>
        obtain ⟨found, receipted, rfl⟩ := Option.map_eq_some_iff.mp previous
        exact ⟨other, found, authenticate_some receipted⟩

theorem names_rollback {expected : ManagedSelection}
    (stored : root.Names expected) (previous : expected.previousVersion = some receipt.version)
    (held : root.Receipted receipt.version receipt) :
    root.Names (root.rollbackSelection expected receipt) := by
  constructor
  · exact ⟨receipt, held, rfl, rfl⟩
  · intro version named
    obtain ⟨found, receipted, rfl⟩ := Option.map_eq_some_iff.mp named
    exact ⟨(stored.previous _ previous).1.symm, found, authenticate_some receipted⟩

theorem Receipted.frame (held : root.Receipted version receipt)
    (same : next.versions version = root.versions version) : next.Receipted version receipt := by
  obtain ⟨directory, present, kept⟩ := held.directory
  exact ⟨⟨directory, same.trans present, kept⟩, held.consistent, held.version⟩

theorem Names.frame (names : root.Names selection)
    (same : ∀ version, isKept selection version = true →
      next.versions version = root.versions version) : next.Names selection := by
  constructor
  · obtain ⟨receipt, held, archive, digest⟩ := names.current
    exact ⟨receipt, held.frame (same _ (by simp [isKept])), archive, digest⟩
  · intro version named
    obtain ⟨apart, receipt, held⟩ := names.previous version named
    exact ⟨apart, receipt, held.frame (same _ (by simp [isKept, named]))⟩

def Ready (root : ManagedRoot) : Operation → Prop
  | .activating _ | .staging _ | .found _ => True
  | .received artifact receipt =>
      root.Receipted artifact.sourceTag receipt ∧ receipt.matchesArtifact artifact = true
  | .probed artifact installDigest =>
      ∃ receipt, root.Receipted artifact.sourceTag receipt ∧
        receipt.matchesArtifact artifact = true ∧ receipt.installDigest = installDigest
  | .compared artifact installDigest prior =>
      prior = root.selection ∧ ∃ receipt, root.Receipted artifact.sourceTag receipt ∧
        receipt.matchesArtifact artifact = true ∧ receipt.installDigest = installDigest
  | .rollingBack expected receipt => expected.previousVersion = some receipt.version
  | .unmoved expected receipt =>
      root.selection = some expected ∧ expected.previousVersion = some receipt.version
  | .reread expected receipt =>
      root.selection = some expected ∧ expected.previousVersion = some receipt.version ∧
        root.Receipted receipt.version receipt
  | .selected selection | .admitted selection => root.Names selection
  | .replaced selection | .cleaning selection _ => root.selection = some selection
  | .canonical selection _ name | .removing selection _ name =>
      root.selection = some selection ∧ isKept selection name = false

structure Sound (root : ManagedRoot) : Prop where
  stored : ∀ selection, root.selection = some selection → root.Names selection
  candidates : ∀ candidate ∈ root.candidates,
    candidate.1.previousVersion = some candidate.2.version
  operation : ∀ operation, root.operation = some operation → root.Ready operation

theorem sound_unselected (versions : Bytes → Option VersionDir) : (unselected versions).Sound := by
  constructor <;> simp [unselected]

theorem Ready.frame {operation : Operation} (ready : root.Ready operation)
    (selection : next.selection = root.selection) (versions : next.versions = root.versions) :
    next.Ready operation := by
  have receipted : ∀ {version receipt}, root.Receipted version receipt →
      next.Receipted version receipt := fun held => held.frame (by rw [versions])
  cases operation with
  | activating | staging | found => trivial
  | received => exact ⟨receipted ready.1, ready.2⟩
  | probed =>
    obtain ⟨receipt, held, rest⟩ := ready
    exact ⟨receipt, receipted held, rest⟩
  | compared =>
    obtain ⟨same, receipt, held, rest⟩ := ready
    exact ⟨same.trans selection.symm, receipt, receipted held, rest⟩
  | rollingBack => exact ready
  | unmoved => exact ⟨selection.trans ready.1, ready.2⟩
  | reread => exact ⟨selection.trans ready.1, ready.2.1, receipted ready.2.2⟩
  | selected | admitted => exact Names.frame ready fun _ _ => by rw [versions]
  | replaced | cleaning => exact selection.trans ready
  | canonical | removing => exact ⟨selection.trans ready.1, ready.2⟩

theorem Sound.frame (sound : root.Sound) (selection : next.selection = root.selection)
    (versions : next.versions = root.versions)
    (candidates : ∀ candidate ∈ next.candidates,
      candidate.1.previousVersion = some candidate.2.version)
    (operation : ∀ operation, next.operation = some operation → root.Ready operation) :
    next.Sound := by
  refine ⟨?_, candidates, fun op held => (operation op held).frame selection versions⟩
  intro stored held
  rw [selection] at held
  exact (sound.stored stored held).frame fun _ _ => by rw [versions]

theorem Sound.enter (sound : root.Sound) {operation : Operation} (ready : root.Ready operation) :
    (root.enter operation).Sound := by
  have entered : ∀ other, (root.enter operation).operation = some other → root.Ready other := by
    rintro _ ⟨⟩
    exact ready
  exact sound.frame rfl rfl sound.candidates entered

/-- What one statement of an operation does, a constructor for each of its ends. -/
inductive Advances (root : ManagedRoot) : Operation → OperationStep → ManagedRoot → Prop where
  | entered (operation after : Operation) (step : OperationStep)
      (leads : root.Sound → root.Ready operation → root.Ready after)
      (elsewhere : ∀ selection entries name, after ≠ .removing selection entries name) :
      Advances root operation step (root.enter after)
  | unleased (selection : ManagedSelection) (entries : List Bytes) (name : Bytes)
      (free : root.leases name = 0) :
      Advances root (.canonical selection entries name) .checkCanonical
        (root.enter (.removing selection entries name))
  | published (artifact : RuntimeArtifact) (installDigest : Bytes) (directory : VersionDir)
      (absent : root.versions artifact.sourceTag = none) :
      Advances root (.staging artifact) (.publish installDigest) { root with
        versions := Function.update root.versions artifact.sourceTag (some directory)
        operation := some (.found artifact) }
  | replaced (selection : ManagedSelection) :
      Advances root (.admitted selection) .replace
        { root with selection := some selection, operation := some (.replaced selection) }
  | removed (selection : ManagedSelection) (entries : List Bytes) (name : Bytes)
      (left : Option VersionDir) :
      Advances root (.removing selection entries name) (.remove left) { root with
        versions := Function.update root.versions name left
        operation := some (.cleaning selection entries) }

theorem advance_cases {operation : Operation} {step : OperationStep}
    (taken : root.advance operation step = some next) : Advances root operation step next := by
  unfold advance at taken
  split at taken
  next artifact =>
    split at taken
    · cases taken
    · split at taken <;> cases taken <;> exact .entered _ _ _ (fun _ _ => trivial) (by simp)
  next artifact installDigest =>
    split at taken
    · cases taken
    next absent =>
      cases taken
      exact .published artifact installDigest _ (by simpa using absent)
  next artifact =>
    split at taken
    · cases taken
    next receipt read =>
      split at taken <;> cases taken
      next matching =>
        refine .entered _ _ _ (fun _ _ => ?_) (by simp)
        exact ⟨readVersionReceipt_some read (matchesArtifact_version matching).1, matching⟩
  next artifact receipt =>
    split at taken <;> cases taken
    exact .entered _ _ _ (fun _ ready => ⟨receipt, ready.1, ready.2, rfl⟩) (by simp)
  next artifact installDigest =>
    split at taken <;> cases taken
    next prior read =>
      exact .entered _ _ _ (fun _ ready => ⟨readManagedSelection_ok read, ready⟩) (by simp)
  next artifact installDigest prior =>
    cases taken
    refine .entered _ _ _ (fun sound ready => ?_) (by simp)
    obtain ⟨rfl, receipt, receipted, matching, rfl⟩ := ready
    exact names_activation sound.stored receipted matching
  next expected receipt =>
    split at taken <;> cases taken
    next read =>
      exact .entered _ _ _ (fun _ ready => ⟨(readManagedSelection_ok read).symm, ready⟩) (by simp)
  next expected receipt =>
    split at taken <;> cases taken
    next read =>
      refine .entered _ _ _ (fun _ ready => ?_) (by simp)
      exact ⟨ready.1, ready.2, readVersionReceipt_some read rfl⟩
  next expected receipt =>
    cases taken
    refine .entered _ _ _ (fun sound ready => ?_) (by simp)
    exact names_rollback (sound.stored _ ready.1) ready.2.1 ready.2.2
  next selection =>
    cases taken
    exact .entered _ _ _ (fun _ ready => ready) (by simp)
  next selection =>
    cases taken
    exact .replaced selection
  next selection entries =>
    cases taken
    exact .entered _ _ _ (fun _ ready => ready) (by simp)
  next selection name entries =>
    split at taken <;> cases taken
    next => exact .entered _ _ _ (fun _ ready => ready) (by simp)
    next passed =>
      simp only [not_or, Bool.not_eq_true] at passed
      exact .entered _ _ _ (fun _ ready => ⟨ready, passed.2.1⟩) (by simp)
  next selection entries name =>
    split at taken <;> cases taken
    next => exact .entered _ _ _ (fun _ ready => ready.1) (by simp)
    next free => exact .unleased selection entries name (by simpa using free)
  next selection entries name left =>
    split at taken
    · cases taken
      exact .entered _ _ _ (fun _ ready => ready.1) (by simp)
    · split at taken <;> cases taken
      exact .removed selection entries name left
  next => cases taken

theorem advance_sound {operation : Operation} {step : OperationStep} (sound : root.Sound)
    (held : root.operation = some operation)
    (taken : root.advance operation step = some next) : next.Sound := by
  have ready := sound.operation operation held
  cases advance_cases taken with
  | entered operation after step leads => exact sound.enter (leads sound ready)
  | unleased selection entries name => exact sound.enter ready
  | published artifact installDigest directory absent =>
    refine ⟨?_, sound.candidates, ?_⟩
    -- No selection names a version whose directory is only now published.
    · intro selection stored
      have names := sound.stored selection stored
      apply names.frame
      intro version kept
      apply Function.update_of_ne
      rintro rfl
      have present : (root.versions artifact.sourceTag).isSome := by
        simp only [isKept, Bool.or_eq_true, decide_eq_true_eq] at kept
        rcases kept with current | previous
        · obtain ⟨receipt, receipted, _⟩ := names.current
          obtain ⟨directory, there, _⟩ := receipted.directory
          rw [current, there]
          rfl
        · obtain ⟨_, receipt, receipted⟩ := names.previous _ previous
          obtain ⟨directory, there, _⟩ := receipted.directory
          rw [there]
          rfl
      rw [absent] at present
      cases present
    · rintro _ ⟨⟩
      trivial
  | replaced selection =>
    have names : root.Names selection := ready
    refine ⟨?_, sound.candidates, ?_⟩
    · rintro _ ⟨⟩
      exact names.frame fun _ _ => rfl
    · rintro _ ⟨⟩
      rfl
  | removed selection entries name left =>
    refine ⟨?_, sound.candidates, ?_⟩
    -- The removed directory is none of those that the selection names.
    · intro stored held
      cases ready.1.symm.trans held
      apply (sound.stored selection ready.1).frame
      intro version kept
      apply Function.update_of_ne
      rintro rfl
      rw [ready.2] at kept
      cases kept
    · rintro _ ⟨⟩
      exact ready.1

theorem rollbackCandidate_previous {artifact : RuntimeArtifact}
    {candidate : ManagedSelection × ManagedVersionReceipt}
    (found : root.rollbackCandidate artifact = some candidate) :
    candidate.1.previousVersion = some candidate.2.version := by
  unfold rollbackCandidate at found
  split at found
  next selection _ =>
    split at found
    · cases found
    · obtain ⟨previous, named, found⟩ := Option.bind_eq_some_iff.mp found
      obtain ⟨receipt, read, rfl⟩ := Option.map_eq_some_iff.mp found
      have version := of_decide_eq_true (Option.filter_eq_some_iff.mp read).2
      rw [named, version]
  next => cases found

theorem step_sound {action : RuntimeAction} (sound : root.Sound)
    (taken : root.step action = some next) : next.Sound := by
  cases action with
  | lease version =>
    cases taken
    exact sound.frame rfl rfl sound.candidates sound.operation
  | dropLease version =>
    cases taken
    exact sound.frame rfl rfl sound.candidates sound.operation
  | resolve artifact =>
    simp only [step] at taken
    split at taken
    · cases taken
    next candidate found =>
      cases taken
      refine sound.frame rfl rfl ?_ sound.operation
      intro other member
      rcases List.mem_append.mp member with old | new
      · exact sound.candidates other old
      · rw [List.mem_singleton.mp new]
        exact rollbackCandidate_previous found
  | beginActivation artifact =>
    simp only [step] at taken
    split at taken
    · cases taken
    · cases taken
      exact sound.enter trivial
  | beginRollback place =>
    simp only [step] at taken
    split at taken
    · cases taken
    · split at taken
      · cases taken
      next expected receipt listed =>
        cases taken
        exact sound.enter (sound.candidates _ (List.mem_of_getElem? listed))
  | advance operationStep =>
    simp only [step] at taken
    split at taken
    · cases taken
    next operation held => exact advance_sound sound held taken
  | interrupt =>
    cases taken
    exact sound.frame rfl rfl sound.candidates fun _ impossible => by cases impossible

section Cleanup

/-- What can come between two statements of one operation. -/
def Aside : RuntimeAction → Prop
  | .lease _ | .dropLease _ | .resolve _ => True
  | _ => False

/-- The version directory is not leased when cleanup looks at it last. -/
def Unleased (selection : ManagedSelection) (entries : List Bytes) (name : Bytes) (root : ManagedRoot)
    (action : RuntimeAction) (_ : ManagedRoot) : Prop :=
  action = .advance .checkCanonical ∧ root.leases name = 0 ∧
    root.operation = some (.canonical selection entries name)

def Looked (versions : Bytes → Option VersionDir) (actions : List RuntimeAction)
    (root : ManagedRoot) : Prop :=
  ∀ selection entries name, root.operation = some (.removing selection entries name) →
    Since (Unleased selection entries name) Aside step (unselected versions) actions

theorem advance_removing {operation : Operation} {step : OperationStep} {entries : List Bytes}
    {name : Bytes} (taken : root.advance operation step = some next)
    (removing : next.operation = some (.removing selection entries name)) :
    operation = .canonical selection entries name ∧ step = .checkCanonical ∧
      root.leases name = 0 := by
  cases advance_cases taken with
  | entered _ after _ _ elsewhere => exact absurd (Option.some.inj removing) (elsewhere _ _ _)
  | unleased _ _ _ free =>
    cases removing
    exact ⟨rfl, rfl, free⟩
  | published | replaced | removed => cases removing

theorem looked (versions : Bytes → Option VersionDir) {actions : List RuntimeAction}
    {final : ManagedRoot} (ran : run step (unselected versions) actions = some final) :
    Looked versions actions final := by
  have start : Looked versions [] (unselected versions) := by
    intro selection entries name impossible
    cases impossible
  have extend : ∀ (done : List RuntimeAction) (state : ManagedRoot) (action : RuntimeAction)
      (after : ManagedRoot), run step (unselected versions) done = some state →
        Looked versions done state → step state action = some after →
          Looked versions (done ++ [action]) after := by
    intro done state action after reached earlier taken selection entries name removing
    cases action with
    | lease version | dropLease version =>
      cases taken
      exact (earlier selection entries name removing).snoc trivial
    | resolve artifact =>
      simp only [step] at taken
      split at taken
      · cases taken
      · cases taken
        exact (earlier selection entries name removing).snoc trivial
    | beginActivation artifact =>
      simp only [step] at taken
      split at taken <;> cases taken
      cases removing
    | beginRollback place =>
      simp only [step] at taken
      split at taken
      · cases taken
      · split at taken <;> cases taken
        cases removing
    | advance operationStep =>
      have moved := taken
      simp only [step] at moved
      split at moved
      · cases moved
      next operation held =>
        obtain ⟨rfl, rfl, free⟩ := advance_removing moved removing
        exact since_last reached taken ⟨rfl, free, held⟩
    | interrupt =>
      cases taken
      cases removing
  exact history_of_run start extend ran

theorem step_versions {action : RuntimeAction} {name : Bytes} (taken : root.step action = some next)
    (changed : next.versions name ≠ root.versions name) :
    root.versions name = none ∨
      ∃ selection entries, root.operation = some (.removing selection entries name) := by
  cases action with
  | lease version | dropLease version | interrupt =>
    cases taken
    exact absurd rfl changed
  | resolve artifact =>
    simp only [step] at taken
    split at taken <;> cases taken
    exact absurd rfl changed
  | beginActivation artifact =>
    simp only [step] at taken
    split at taken <;> cases taken
    exact absurd rfl changed
  | beginRollback place =>
    simp only [step] at taken
    split at taken
    · cases taken
    · split at taken <;> cases taken
      exact absurd rfl changed
  | advance operationStep =>
    simp only [step] at taken
    split at taken
    · cases taken
    next operation held =>
      cases advance_cases taken with
      | entered | unleased | replaced => exact absurd rfl changed
      | published artifact installDigest directory absent =>
        by_cases same : name = artifact.sourceTag
        · subst same
          exact .inl absent
        · exact absurd (Function.update_of_ne same ..) changed
      | removed selection entries other left =>
        by_cases same : name = other
        · subst same
          exact .inr ⟨selection, entries, held⟩
        · exact absurd (Function.update_of_ne same ..) changed

end Cleanup

structure Guarantees (versions : Bytes → Option VersionDir) (actions : List RuntimeAction)
    (final : ManagedRoot) : Prop where
  selected : ∀ selection, final.selection = some selection → final.Names selection
  -- A directory that was there changes only in a cleanup, which neither the stored selection nor a
  -- lease held back when that same cleanup looked at it last.
  removed : ∀ (earlier : List RuntimeAction) (action : RuntimeAction) (later : List RuntimeAction)
    (before after : ManagedRoot) (name : Bytes), actions = earlier ++ action :: later →
      run step (unselected versions) earlier = some before → before.step action = some after →
        before.versions name ≠ none → after.versions name ≠ before.versions name →
          ∃ selection entries, before.operation = some (.removing selection entries name) ∧
            before.selection = some selection ∧ name ≠ selection.currentVersion ∧
            selection.previousVersion ≠ some name ∧
              Since (Unleased selection entries name) Aside step (unselected versions) earlier

theorem sound_of_run {versions : Bytes → Option VersionDir} {actions : List RuntimeAction}
    {final : ManagedRoot} (ran : run step (unselected versions) actions = some final) :
    final.Sound :=
  invariant_of_run (fun _ _ _ sound taken => step_sound sound taken) (sound_unselected versions) ran

theorem managed_root_guarantees {versions : Bytes → Option VersionDir}
    {actions : List RuntimeAction} {final : ManagedRoot}
    (ran : run step (unselected versions) actions = some final) :
    Guarantees versions actions final := by
  constructor
  case selected => exact (sound_of_run ran).stored
  case removed =>
    intro earlier action later before after name split reached taken present changed
    rcases step_versions taken changed with absent | ⟨selection, entries, removing⟩
    · exact absurd absent present
    · have ready := (sound_of_run reached).operation _ removing
      have apart : name ≠ selection.currentVersion ∧ selection.previousVersion ≠ some name := by
        simpa [isKept] using ready.2
      exact ⟨selection, entries, removing, ready.1, apart.1, apart.2,
        looked versions reached _ _ _ removing⟩

def release (ffmpeg : String) (digit : UInt8) : RuntimeArtifact where
  sourceTag := utf8 "v" ++ utf8 ffmpeg ++ utf8 "-1"
  sha256 := List.replicate 64 digit
  maxBytes := 1024
  ffmpegVersion := utf8 ffmpeg
  jellyfinRevision := utf8 "1"
  ffmpegMatcher := utf8 ffmpeg ++ utf8 "-Jellyfin"
  ffprobeMatcher := utf8 ffmpeg ++ utf8 "-Jellyfin"

def activation (artifact : RuntimeArtifact) (installDigest : Bytes) : List RuntimeAction :=
  .beginActivation artifact :: List.map .advance
    [.lookVersion, .publish installDigest, .readReceipt, .probe, .readSelection, .authenticate,
      .admitCommit, .replace]

def removal (name : Bytes) : List RuntimeAction :=
  List.map .advance [.list [name], .checkEntry, .checkCanonical, .remove none]

/-- Two upgrades, each cleaned up after; the second removes the version that was activated first. -/
def upgrades : List RuntimeAction :=
  activation (release "7.1.1" 97) (List.replicate 64 48) ++ [.interrupt] ++
    activation (release "7.1.2" 98) (List.replicate 64 49) ++ [.interrupt] ++
      activation (release "7.1.3" 99) (List.replicate 64 50) ++ removal (release "7.1.1" 97).sourceTag

theorem upgrades_keep_two : ∃ final, run step (unselected fun _ => none) upgrades = some final ∧
    Guarantees (fun _ => none) upgrades final := by
  have ran : (run step (unselected fun _ => none) upgrades).any (fun final =>
      final.versions (release "7.1.1" 97).sourceTag == none &&
        decide (final.selection.bind ManagedSelection.previousVersion =
          some (release "7.1.2" 98).sourceTag)) = true := by
    decide +kernel
  obtain ⟨final, reached, _⟩ := (Option.any_eq_true _ _).mp ran
  exact ⟨final, reached, managed_root_guarantees reached⟩

end ManagedRoot

end StreamServer.Transcoding
