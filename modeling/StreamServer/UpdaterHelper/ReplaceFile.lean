import StreamServer.UpdaterHelper.Apply

set_option autoImplicit false

namespace StreamServer.UpdaterHelper

open Fallible

namespace Conditions

variable {conditions : Conditions} {point : FailPoint} {path source target : Path} {data : Bytes}
variable {files : Files}

@[simp]
theorem reach_of_ne (clear : conditions.fails ≠ some point) (files : Files) :
    conditions.reach point files = (some (), files) := by
  simp [reach, require, clear]

@[simp]
theorem reach_of_eq (failing : conditions.fails = some point) (files : Files) :
    conditions.reach point files = (none, files) := by
  simp [reach, require, failing]

theorem reach_keeps (conditions : Conditions) (point : FailPoint) (files : Files) :
    (conditions.reach point files).2 = files := by
  by_cases failing : conditions.fails = some point
  · rw [reach_of_eq failing]
  · rw [reach_of_ne failing]

theorem read_of_ne (clear : conditions.fails ≠ some point) (held : files path = some data) :
    conditions.read point path files = (some data, files) := by
  rw [read, bind_some (reach_of_ne clear files), inspect_bind, held]
  rfl

theorem read_of_eq (failing : conditions.fails = some point) :
    conditions.read point path files = (none, files) := by
  rw [read, bind_none (reach_of_eq failing files)]

theorem read_of_missing (missing : files path = none) :
    conditions.read point path files = (none, files) := by
  by_cases failing : conditions.fails = some point
  · exact read_of_eq failing
  · rw [read, bind_some (reach_of_ne failing files), inspect_bind, missing]
    rfl

theorem copy_of_ne (clear : conditions.fails ≠ some point) (held : files source = some data) :
    conditions.copy point source target files =
      (some (), Function.update files target (some data)) := by
  rw [copy, inspect_bind, held]
  exact if_neg clear

theorem copy_of_eq (failing : conditions.fails = some point) (held : files source = some data) :
    conditions.copy point source target files =
      (none, Function.update files target (conditions.damage (files target))) := by
  rw [copy, inspect_bind, held]
  exact if_pos failing

theorem remove_of_ne (clear : conditions.fails ≠ some point) (held : (files path).isSome) :
    conditions.remove point path files = (some (), Function.update files path none) := by
  obtain ⟨data, held⟩ := Option.isSome_iff_exists.mp held
  rw [remove, bind_some (reach_of_ne clear files), inspect_bind, held]

theorem remove_of_eq (failing : conditions.fails = some point) :
    conditions.remove point path files = (none, files) := by
  rw [remove, bind_none (reach_of_eq failing files)]

theorem rename_of_ne (clear : conditions.fails ≠ some point) (held : files source = some data) :
    conditions.rename point source target files =
      (some (), Function.update (Function.update files source none) target (some data)) := by
  rw [rename, bind_some (reach_of_ne clear files), inspect_bind, held]

theorem rename_of_eq (failing : conditions.fails = some point) :
    conditions.rename point source target files = (none, files) := by
  rw [rename, bind_none (reach_of_eq failing files)]

end Conditions

/-- What a replacement that fails at the step leaves of the destination. -/
def ReplaceStep.leaves (step : ReplaceStep) (old new : Option Bytes) : Option Bytes :=
  match step with
  | rename => none
  | readInstalled => new
  | _ => old

namespace Conditions

variable (conditions : Conditions)

-- Whether the step is taken at all, read off the files before the update; `taken` are the temporary
-- paths of the replacements before it.
def occurs (files : Files) (taken : List Path) (asset : ApplyAsset) : ReplaceStep → Bool
  | .backUp | .removeOld => (files asset.destination).isSome
  | .removeTemp =>
      decide ((files (tempPath asset.destination)).isSome ∧ tempPath asset.destination ∉ taken)
  | _ => true

def blocked (files : Files) (taken : List Path) (place : Nat) (asset : ApplyAsset) :
    Option ReplaceStep :=
  if parent asset.destination = none then some .createParent
  else
    match conditions.fails with
    | some (.replace failing step) =>
        if failing = place ∧ occurs files taken asset step = true then some step else none
    | _ => none

theorem blocked_eq_none {conditions : Conditions} {files : Files} {taken : List Path} {place : Nat}
    {asset : ApplyAsset} (free : conditions.blocked files taken place asset = none) :
    (parent asset.destination).isSome ∧
      ∀ step, occurs files taken asset step = true →
        conditions.fails ≠ some (.replace place step) := by
  unfold blocked at free
  split at free
  next => cases free
  next lies =>
    refine ⟨Option.isSome_iff_ne_none.mpr lies, ?_⟩
    intro step taking failing
    rw [failing] at free
    simp [taking] at free

theorem blocked_eq_some {conditions : Conditions} {files : Files} {taken : List Path} {place : Nat}
    {asset : ApplyAsset} {step : ReplaceStep}
    (stops : conditions.blocked files taken place asset = some step) :
    parent asset.destination = none ∧ step = .createParent ∨
      (parent asset.destination).isSome ∧ conditions.fails = some (.replace place step) ∧
        occurs files taken asset step = true := by
  unfold blocked at stops
  split at stops
  next rootless =>
    cases stops
    exact Or.inl ⟨rootless, rfl⟩
  next lies =>
    refine Or.inr ⟨Option.isSome_iff_ne_none.mpr lies, ?_⟩
    split at stops
    next failing other held =>
      split at stops
      next taking =>
        cases stops
        exact ⟨by rw [held, taking.1], taking.2⟩
      next => cases stops
    next => cases stops

section Replacement

variable {conditions : Conditions} {backupDir : Path} {place : Nat} {asset : ApplyAsset}
variable {files : Files} {data : Bytes}

theorem backUpOld_of_missing (missing : files asset.destination = none) :
    conditions.backUpOld backupDir place asset files = (some none, files) := by
  simp [backUpOld, existsAt, missing]

theorem backUpOld_of_ne (clear : conditions.fails ≠ some (.replace place .backUp))
    (held : files asset.destination = some data) :
    conditions.backUpOld backupDir place asset files =
      (some (some (backupPath backupDir place asset.destination)),
        Function.update files (backupPath backupDir place asset.destination) (some data)) := by
  simp [backUpOld, existsAt, held, bind_some (copy_of_ne clear held)]

theorem backUpOld_of_eq (failing : conditions.fails = some (.replace place .backUp))
    (held : files asset.destination = some data) :
    conditions.backUpOld backupDir place asset files =
      (none, Function.update files (backupPath backupDir place asset.destination)
        (conditions.damage (files (backupPath backupDir place asset.destination)))) := by
  simp [backUpOld, existsAt, held, bind_none (copy_of_eq failing held)]

theorem stageNew_of_ne (removes : (files (tempPath asset.destination)).isSome →
      conditions.fails ≠ some (.replace place .removeTemp))
    (copies : conditions.fails ≠ some (.replace place .copyTemp))
    (apart : asset.source ≠ tempPath asset.destination) (held : files asset.source = some data) :
    conditions.stageNew place asset files =
      (some (), Function.update files (tempPath asset.destination) (some data)) := by
  by_cases stale : (files (tempPath asset.destination)).isSome
  · have kept : Function.update files (tempPath asset.destination) none asset.source = some data := by
      rw [Function.update_of_ne apart, held]
    simp [stageNew, existsAt, stale, bind_some (remove_of_ne (removes stale) stale),
      copy_of_ne copies kept]
  · simp [stageNew, existsAt, stale, copy_of_ne copies held]

theorem stageNew_of_eq {step : ReplaceStep}
    (failing : conditions.fails = some (.replace place step))
    (stops : step = .removeTemp ∧ (files (tempPath asset.destination)).isSome ∨ step = .copyTemp)
    (apart : asset.source ≠ tempPath asset.destination) (held : files asset.source = some data) :
    ∃ left, conditions.stageNew place asset files =
      (none, Function.update files (tempPath asset.destination) left) := by
  rcases stops with ⟨rfl, stale⟩ | rfl
  · refine ⟨files (tempPath asset.destination), ?_⟩
    simp [stageNew, existsAt, stale, bind_none (remove_of_eq failing)]
  · by_cases stale : (files (tempPath asset.destination)).isSome
    · have clear : conditions.fails ≠ some (.replace place .removeTemp) := by
        simp [failing]
      have kept : Function.update files (tempPath asset.destination) none asset.source = some data := by
        rw [Function.update_of_ne apart, held]
      refine ⟨conditions.damage none, ?_⟩
      simp [stageNew, existsAt, stale, bind_some (remove_of_ne clear stale),
        copy_of_eq failing kept]
    · refine ⟨conditions.damage (files (tempPath asset.destination)), ?_⟩
      simp [stageNew, existsAt, stale, copy_of_eq failing held]

theorem install_of_ne (removes : (files asset.destination).isSome →
      conditions.fails ≠ some (.replace place .removeOld))
    (renames : conditions.fails ≠ some (.replace place .rename))
    (apart : tempPath asset.destination ≠ asset.destination)
    (held : files (tempPath asset.destination) = some data) :
    conditions.install place asset files =
      (some (), Function.update (Function.update files (tempPath asset.destination) none)
        asset.destination (some data)) := by
  by_cases old : (files asset.destination).isSome
  · have kept : Function.update files asset.destination none (tempPath asset.destination) =
        some data := by
      rw [Function.update_of_ne apart, held]
    simp [install, existsAt, old, bind_some (remove_of_ne (removes old) old),
      rename_of_ne renames kept, Function.update_comm apart]
  · simp [install, existsAt, old, rename_of_ne renames held]

-- The old file is removed before the new one takes its name, so a rename that fails leaves neither.
theorem install_of_eq {step : ReplaceStep}
    (failing : conditions.fails = some (.replace place step))
    (stops : step = .removeOld ∧ (files asset.destination).isSome ∨ step = .rename) :
    conditions.install place asset files =
      (none, Function.update files asset.destination
        (step.leaves (files asset.destination) none)) := by
  rcases stops with ⟨rfl, old⟩ | rfl
  · simp [install, existsAt, old, bind_none (remove_of_eq failing), ReplaceStep.leaves]
  · by_cases old : (files asset.destination).isSome
    · have clear : conditions.fails ≠ some (.replace place .removeOld) := by simp [failing]
      simp [install, existsAt, old, bind_some (remove_of_ne clear old), rename_of_eq failing,
        ReplaceStep.leaves]
    · have missing : files asset.destination = none := by simpa using old
      simp [install, existsAt, missing, rename_of_eq failing, ReplaceStep.leaves]

end Replacement

section ReplaceFile

variable {conditions : Conditions} {backupDir : Path} {place : Nat} {asset : ApplyAsset}
variable {taken : List Path} {files before after : Files} {data : Bytes}

structure Ready (conditions : Conditions) (files : Files) (taken : List Path) (backupDir : Path)
    (place : Nat) (asset : ApplyAsset) (data : Bytes) (before : Files) : Prop where
  source : before asset.source = some data
  checksum : conditions.matchesChecksum asset data = true
  destination : before asset.destination = files asset.destination
  temp : (before (tempPath asset.destination)).isSome = occurs files taken asset .removeTemp
  sourceTemp : asset.source ≠ tempPath asset.destination
  sourceBackup : asset.source ≠ backupPath backupDir place asset.destination
  destinationTemp : tempPath asset.destination ≠ asset.destination
  destinationBackup : asset.destination ≠ backupPath backupDir place asset.destination
  backupTemp : backupPath backupDir place asset.destination ≠ tempPath asset.destination

structure Replaced (backupDir : Path) (place : Nat) (asset : ApplyAsset) (before after : Files) :
    Prop where
  installed : after asset.destination = before asset.source
  kept : (before asset.destination).isSome →
    after (backupPath backupDir place asset.destination) = before asset.destination
  cleared : after (tempPath asset.destination) = none
  others : ∀ path, path ≠ asset.destination → path ≠ tempPath asset.destination →
    path ≠ backupPath backupDir place asset.destination → after path = before path

structure Halted (backupDir : Path) (place : Nat) (asset : ApplyAsset) (step : ReplaceStep)
    (before after : Files) : Prop where
  destination : after asset.destination =
    step.leaves (before asset.destination) (before asset.source)
  others : ∀ path, path ≠ asset.destination → path ≠ tempPath asset.destination →
    path ≠ backupPath backupDir place asset.destination → after path = before path

def backedUp (backupDir : Path) (place : Nat) (asset : ApplyAsset) (before : Files) : Files :=
  match before asset.destination with
  | none => before
  | some old => Function.update before (backupPath backupDir place asset.destination) (some old)

theorem backedUp_of_ne {path : Path}
    (apart : path ≠ backupPath backupDir place asset.destination) (before : Files) :
    backedUp backupDir place asset before path = before path := by
  cases held : before asset.destination with
  | none => simp [backedUp, held]
  | some old => simp [backedUp, held, Function.update_of_ne apart]

theorem backedUp_backup (existed : (before asset.destination).isSome) :
    backedUp backupDir place asset before (backupPath backupDir place asset.destination) =
      before asset.destination := by
  obtain ⟨old, held⟩ := Option.isSome_iff_exists.mp existed
  simp [backedUp, held]

theorem backUpOld_of_clear (clear : (before asset.destination).isSome →
      conditions.fails ≠ some (.replace place .backUp)) :
    conditions.backUpOld backupDir place asset before =
      (some ((before asset.destination).map fun _ => backupPath backupDir place asset.destination),
        backedUp backupDir place asset before) := by
  cases held : before asset.destination with
  | none => simp [backUpOld_of_missing held, backedUp, held]
  | some old => simp [backUpOld_of_ne (clear (by rw [held]; rfl)) held, backedUp, held]

theorem replaceFile_checked (reads : conditions.fails ≠ some (.replace place .readSource))
    (creates : conditions.fails ≠ some (.replace place .createParent))
    (lies : (parent asset.destination).isSome) (held : before asset.source = some data)
    (checksum : conditions.matchesChecksum asset data = true) :
    conditions.replaceFile backupDir place asset before = (do
      let backup ← conditions.backUpOld backupDir place asset
      conditions.stageNew place asset
      conditions.install place asset
      let installed ← conditions.read (.replace place .readInstalled) asset.destination
      require (conditions.matchesChecksum asset installed)
      return backup : Fallible Files (Option Path)) before := by
  have matched : (require (conditions.matchesChecksum asset data) : Fallible Files Unit) before =
      (some (), before) := by
    rw [checksum]
    rfl
  have rooted : (require (parent asset.destination).isSome : Fallible Files Unit) before =
      (some (), before) := by
    rw [lies]
    rfl
  rw [replaceFile, bind_some (read_of_ne reads held), bind_some matched, bind_some rooted,
    bind_some (reach_of_ne creates before)]

theorem replaceFile_of_free
    (ready : Ready conditions files taken backupDir place asset data before)
    (free : conditions.blocked files taken place asset = none) :
    ∃ after, conditions.replaceFile backupDir place asset before =
        (some ((files asset.destination).map fun _ =>
          backupPath backupDir place asset.destination), after) ∧
      Replaced backupDir place asset before after := by
  obtain ⟨lies, clear⟩ := blocked_eq_none free
  have existing : (before asset.destination).isSome →
      occurs files taken asset .backUp = true ∧ occurs files taken asset .removeOld = true := by
    intro existed
    rw [ready.destination] at existed
    exact ⟨existed, existed⟩
  let backed := backedUp backupDir place asset before
  let staged := Function.update backed (tempPath asset.destination) (some data)
  let done := Function.update (Function.update staged (tempPath asset.destination) none)
    asset.destination (some data)
  have backs : conditions.backUpOld backupDir place asset before =
      (some ((before asset.destination).map fun _ => backupPath backupDir place asset.destination),
        backed) :=
    backUpOld_of_clear fun existed => clear .backUp (existing existed).1
  have sourceHeld : backed asset.source = some data :=
    (backedUp_of_ne ready.sourceBackup before).trans ready.source
  have stages : conditions.stageNew place asset backed = (some (), staged) := by
    apply stageNew_of_ne _ (clear .copyTemp rfl) ready.sourceTemp sourceHeld
    intro stale
    have unchanged : backed (tempPath asset.destination) = before (tempPath asset.destination) :=
      backedUp_of_ne ready.backupTemp.symm before
    rw [unchanged, ready.temp] at stale
    exact clear .removeTemp stale
  have oldKept : staged asset.destination = before asset.destination :=
    (Function.update_of_ne ready.destinationTemp.symm ..).trans
      (backedUp_of_ne ready.destinationBackup before)
  have installs : conditions.install place asset staged = (some (), done) := by
    apply install_of_ne _ (clear .rename rfl) ready.destinationTemp (Function.update_self ..)
    intro existed
    have old : (before asset.destination).isSome := by
      rw [← oldKept]
      exact existed
    exact clear .removeOld (existing old).2
  have installed : done asset.destination = some data := Function.update_self ..
  have elsewhere : ∀ path, path ≠ asset.destination → path ≠ tempPath asset.destination →
      done path = backed path := by
    intro path other notTemp
    simp only [done, staged, Function.update_of_ne other, Function.update_of_ne notTemp]
  have matched : (require (conditions.matchesChecksum asset data) : Fallible Files Unit) done =
      (some (), done) := by
    rw [ready.checksum]
    rfl
  refine ⟨done, ?_, ?_⟩
  · rw [replaceFile_checked (clear .readSource rfl) (clear .createParent rfl) lies ready.source
      ready.checksum, bind_some backs, bind_some stages, bind_some installs,
      bind_some (read_of_ne (clear .readInstalled rfl) installed), bind_some matched,
      ready.destination]
    rfl
  · constructor
    · rw [installed, ready.source]
    · intro existed
      rw [elsewhere _ ready.destinationBackup.symm ready.backupTemp]
      exact backedUp_backup existed
    · simp only [done, Function.update_of_ne ready.destinationTemp, Function.update_self]
    · intro path other notTemp notBackup
      rw [elsewhere path other notTemp]
      exact backedUp_of_ne notBackup before

theorem replaceFile_of_blocked {step : ReplaceStep}
    (ready : Ready conditions files taken backupDir place asset data before)
    (stops : conditions.blocked files taken place asset = some step) :
    ∃ after, conditions.replaceFile backupDir place asset before = (none, after) ∧
      Halted backupDir place asset step before after := by
  have matched : ∀ reached : Files,
      (require (conditions.matchesChecksum asset data) : Fallible Files Unit) reached =
        (some (), reached) := by
    intro reached
    rw [ready.checksum]
    rfl
  have unmoved : ∀ step, step.leaves (before asset.destination) (before asset.source) =
      before asset.destination → Halted backupDir place asset step before before := fun step stays =>
    ⟨stays.symm, fun _ _ _ _ => rfl⟩
  rcases blocked_eq_some stops with ⟨rootless, rfl⟩ | ⟨lies, failing, taking⟩
  -- Without a parent directory the replacement ends before it touches a file.
  · have refused : (require (parent asset.destination).isSome : Fallible Files Unit) before =
        (none, before) := by
      rw [rootless]
      rfl
    refine ⟨before, ?_, unmoved _ rfl⟩
    by_cases reads : conditions.fails = some (.replace place .readSource)
    · rw [replaceFile, bind_none (read_of_eq reads)]
    · rw [replaceFile, bind_some (read_of_ne reads ready.source), bind_some (matched before),
        bind_none refused]
  · by_cases reads : step = .readSource
    · subst reads
      exact ⟨before, by rw [replaceFile, bind_none (read_of_eq failing)], unmoved _ rfl⟩
    have readsClear : conditions.fails ≠ some (.replace place .readSource) := by
      simpa [failing] using reads
    by_cases creates : step = .createParent
    · subst creates
      have rooted : (require (parent asset.destination).isSome : Fallible Files Unit) before =
          (some (), before) := by
        rw [lies]
        rfl
      refine ⟨before, ?_, unmoved _ rfl⟩
      rw [replaceFile, bind_some (read_of_ne readsClear ready.source), bind_some (matched before),
        bind_some rooted, bind_none (reach_of_eq failing before)]
    have createsClear : conditions.fails ≠ some (.replace place .createParent) := by
      simpa [failing] using creates
    simp only [replaceFile_checked readsClear createsClear lies ready.source ready.checksum]
    by_cases backs : step = .backUp
    · subst backs
      have existed : (files asset.destination).isSome := taking
      rw [← ready.destination] at existed
      obtain ⟨old, held⟩ := Option.isSome_iff_exists.mp existed
      refine ⟨_, bind_none (backUpOld_of_eq failing held), ?_, ?_⟩
      · rw [Function.update_of_ne ready.destinationBackup]
        rfl
      · intro path _ _ notBackup
        rw [Function.update_of_ne notBackup]
    have backsClear : conditions.fails ≠ some (.replace place .backUp) := by
      simpa [failing] using backs
    let backed := backedUp backupDir place asset before
    have sourceHeld : backed asset.source = some data :=
      (backedUp_of_ne ready.sourceBackup before).trans ready.source
    have backedDestination : backed asset.destination = before asset.destination :=
      backedUp_of_ne ready.destinationBackup before
    rw [bind_some (backUpOld_of_clear fun _ => backsClear)]
    by_cases staging : step = .removeTemp ∨ step = .copyTemp
    · have stopping : step = .removeTemp ∧ (backed (tempPath asset.destination)).isSome ∨
          step = .copyTemp := by
        rcases staging with rfl | copies
        · refine Or.inl ⟨rfl, ?_⟩
          rw [show backed (tempPath asset.destination) = before (tempPath asset.destination) from
            backedUp_of_ne ready.backupTemp.symm before, ready.temp]
          exact taking
        · exact Or.inr copies
      obtain ⟨left, stages⟩ := stageNew_of_eq failing stopping ready.sourceTemp sourceHeld
      refine ⟨_, bind_none stages, ?_, ?_⟩
      · rw [Function.update_of_ne ready.destinationTemp.symm, backedDestination]
        rcases staging with rfl | rfl <;> rfl
      · intro path _ notTemp notBackup
        rw [Function.update_of_ne notTemp]
        exact backedUp_of_ne notBackup before
    have removesClear : conditions.fails ≠ some (.replace place .removeTemp) := by
      simpa [failing] using fun removes => staging (Or.inl removes)
    have copiesClear : conditions.fails ≠ some (.replace place .copyTemp) := by
      simpa [failing] using fun copies => staging (Or.inr copies)
    let staged := Function.update backed (tempPath asset.destination) (some data)
    have oldKept : staged asset.destination = before asset.destination :=
      (Function.update_of_ne ready.destinationTemp.symm ..).trans backedDestination
    rw [bind_some (stageNew_of_ne (fun _ => removesClear) copiesClear ready.sourceTemp sourceHeld)]
    by_cases installing : step = .removeOld ∨ step = .rename
    · have stopping : step = .removeOld ∧ (staged asset.destination).isSome ∨ step = .rename := by
        rcases installing with rfl | renames
        · rw [oldKept, ready.destination]
          exact Or.inl ⟨rfl, taking⟩
        · exact Or.inr renames
      refine ⟨_, bind_none (install_of_eq failing stopping), ?_, ?_⟩
      · rw [Function.update_self, Function.update_of_ne ready.destinationTemp.symm,
          backedDestination]
        rcases installing with rfl | rfl <;> rfl
      · intro path other notTemp notBackup
        simp only [Function.update_of_ne other, Function.update_of_ne notTemp]
        exact backedUp_of_ne notBackup before
    -- Only reading the installed file is left to fail.
    have removesOldClear : conditions.fails ≠ some (.replace place .removeOld) := by
      simpa [failing] using fun removes => installing (Or.inl removes)
    have renamesClear : conditions.fails ≠ some (.replace place .rename) := by
      simpa [failing] using fun renames => installing (Or.inr renames)
    have last : step = .readInstalled := by
      cases step <;> simp_all
    subst last
    rw [bind_some (install_of_ne (fun _ => removesOldClear) renamesClear ready.destinationTemp
      (Function.update_self ..))]
    refine ⟨_, bind_none (read_of_eq failing), ?_, ?_⟩
    · rw [Function.update_self]
      exact ready.source.symm
    · intro path other notTemp notBackup
      simp only [Function.update_of_ne other, Function.update_of_ne notTemp]
      exact backedUp_of_ne notBackup before

end ReplaceFile

end Conditions

end StreamServer.UpdaterHelper
