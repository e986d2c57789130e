import StreamServer.UpdaterHelper.Apply
import StreamServer.UpdaterHelper.ReplaceFile

set_option autoImplicit false

namespace StreamServer.UpdaterHelper

open Fallible

def temps (assets : List ApplyAsset) : List Path :=
  assets.map fun asset => tempPath asset.destination

namespace Conditions

variable (conditions : Conditions)

def stagingPaths (plan : ApplyPlan) : List Path :=
  temps plan.assets ++
    (plan.assets.mapIdx fun place asset =>
      backupPath (conditions.backupDir plan) place asset.destination) ++
    plan.stremioDirs.map runtimeBackup

structure Separate (plan : ApplyPlan) : Prop where
  destinations : (plan.assets.map ApplyAsset.destination).Nodup
  unstaged : ∀ asset ∈ plan.assets, asset.destination ∉ conditions.stagingPaths plan
  unplanned : ∀ asset ∈ plan.assets, asset.destination ≠ conditions.rollbackPath plan
  sources : ∀ asset ∈ plan.assets, asset.source ∉ conditions.stagingPaths plan ∧
    asset.source ∉ plan.assets.map ApplyAsset.destination

def obstacle (files : Files) : List Path → Nat → List ApplyAsset → Option (Nat × ReplaceStep)
  | _, _, [] => none
  | taken, place, asset :: rest =>
      match conditions.blocked files taken place asset with
      | some step => some (place, step)
      | none => obstacle files (taken ++ [tempPath asset.destination]) (place + 1) rest

end Conditions

def rollbackFiles (backupDir : Path) (files : Files) : Nat → List ApplyAsset → List RollbackFile
  | _, [] => []
  | place, asset :: rest =>
      ((files asset.destination).map fun _ =>
        (⟨backupPath backupDir place asset.destination, asset.destination⟩ : RollbackFile)).toList ++
        rollbackFiles backupDir files (place + 1) rest

section Paths

variable {conditions : Conditions} {plan : ApplyPlan} {path : Path}

theorem mem_stagingPaths : path ∈ conditions.stagingPaths plan ↔
    (∃ asset ∈ plan.assets, tempPath asset.destination = path) ∨
      (∃ (place : Nat) (asset : ApplyAsset), plan.assets[place]? = some asset ∧
        backupPath (conditions.backupDir plan) place asset.destination = path) ∨
      ∃ stremioDir ∈ plan.stremioDirs, runtimeBackup stremioDir = path := by
  simp only [Conditions.stagingPaths, temps, List.mem_append, List.mem_map, List.mem_mapIdx,
    or_assoc]
  constructor
  · rintro (temp | ⟨place, inside, backup⟩ | dir)
    · exact Or.inl temp
    · exact Or.inr (Or.inl ⟨place, _, List.getElem?_eq_getElem inside, backup⟩)
    · exact Or.inr (Or.inr dir)
  · rintro (temp | ⟨place, asset, held, backup⟩ | dir)
    · exact Or.inl temp
    · obtain ⟨inside, rfl⟩ := List.getElem?_eq_some_iff.mp held
      exact Or.inr (Or.inl ⟨place, inside, backup⟩)
    · exact Or.inr (Or.inr dir)

theorem ne_temp_of_unstaged (unstaged : path ∉ conditions.stagingPaths plan) {asset : ApplyAsset}
    (member : asset ∈ plan.assets) : path ≠ tempPath asset.destination := fun same =>
  unstaged (mem_stagingPaths.mpr (Or.inl ⟨asset, member, same.symm⟩))

theorem ne_backup_of_unstaged (unstaged : path ∉ conditions.stagingPaths plan) {place : Nat}
    {asset : ApplyAsset} (held : plan.assets[place]? = some asset) :
    path ≠ backupPath (conditions.backupDir plan) place asset.destination := fun same =>
  unstaged (mem_stagingPaths.mpr (Or.inr (Or.inl ⟨place, asset, held, same.symm⟩)))

theorem not_runtimeBackup_of_unstaged (unstaged : path ∉ conditions.stagingPaths plan) :
    path ∉ plan.stremioDirs.map runtimeBackup := by
  intro member
  exact unstaged (mem_stagingPaths.mpr (Or.inr (Or.inr (List.mem_map.mp member))))

theorem destination_ne (separate : conditions.Separate plan) {left right : Nat}
    {leftAsset rightAsset : ApplyAsset} (leftHeld : plan.assets[left]? = some leftAsset)
    (rightHeld : plan.assets[right]? = some rightAsset) (other : left ≠ right) :
    leftAsset.destination ≠ rightAsset.destination := by
  intro same
  obtain ⟨inside, held⟩ := List.getElem?_eq_some_iff.mp leftHeld
  have mapped : (plan.assets.map ApplyAsset.destination)[left]? =
      (plan.assets.map ApplyAsset.destination)[right]? := by
    rw [List.getElem?_map, List.getElem?_map, leftHeld, rightHeld]
    exact congrArg some same
  exact other ((List.getElem?_inj (by simpa using inside) separate.destinations).mp mapped)

end Paths

section Replacements

variable {conditions : Conditions} {plan : ApplyPlan} {files current after : Files} {place : Nat}

def Untouched (conditions : Conditions) (plan : ApplyPlan) (count : Nat) (path : Path) : Prop :=
  ∀ place < count, ∀ asset, plan.assets[place]? = some asset →
    path ≠ asset.destination ∧ path ≠ tempPath asset.destination ∧
      path ≠ backupPath (conditions.backupDir plan) place asset.destination

structure Progress (conditions : Conditions) (plan : ApplyPlan) (files : Files) (count : Nat)
    (current : Files) : Prop where
  installed : ∀ place < count, ∀ asset, plan.assets[place]? = some asset →
    current asset.destination = files asset.source
  kept : ∀ place < count, ∀ asset, plan.assets[place]? = some asset →
    (files asset.destination).isSome →
      current (backupPath (conditions.backupDir plan) place asset.destination) =
        files asset.destination
  cleared : ∀ place < count, ∀ asset, plan.assets[place]? = some asset →
    current (tempPath asset.destination) = none
  others : ∀ path, path ∉ plan.stremioDirs.map runtimeBackup →
    Untouched conditions plan count path → current path = files path

structure Stopped (conditions : Conditions) (plan : ApplyPlan) (files : Files) (place : Nat)
    (step : ReplaceStep) (current : Files) : Prop where
  installed : ∀ earlier < place, ∀ asset, plan.assets[earlier]? = some asset →
    current asset.destination = files asset.source
  destination : ∀ asset, plan.assets[place]? = some asset →
    current asset.destination = step.leaves (files asset.destination) (files asset.source)
  others : ∀ path, path ∉ plan.stremioDirs.map runtimeBackup →
    Untouched conditions plan (place + 1) path → current path = files path

theorem untouched_destination (separate : conditions.Separate plan) {asset : ApplyAsset}
    {count : Nat} (held : plan.assets[place]? = some asset) (later : count ≤ place) :
    Untouched conditions plan count asset.destination := by
  intro earlier before other otherHeld
  have unstaged := separate.unstaged asset (List.mem_of_getElem? held)
  exact ⟨destination_ne separate held otherHeld (by omega),
    ne_temp_of_unstaged unstaged (List.mem_of_getElem? otherHeld),
    ne_backup_of_unstaged unstaged otherHeld⟩

theorem untouched_source (separate : conditions.Separate plan) {asset : ApplyAsset}
    (member : asset ∈ plan.assets) (count : Nat) :
    Untouched conditions plan count asset.source := by
  intro earlier _ other otherHeld
  obtain ⟨unstaged, apart⟩ := separate.sources asset member
  have otherMember := List.mem_of_getElem? otherHeld
  refine ⟨?_, ne_temp_of_unstaged unstaged otherMember, ne_backup_of_unstaged unstaged otherHeld⟩
  intro same
  exact apart (List.mem_map.mpr ⟨other, otherMember, same.symm⟩)

theorem untouched_rollbackPath (separate : conditions.Separate plan) (count : Nat) :
    Untouched conditions plan count (conditions.rollbackPath plan) := by
  intro earlier _ other otherHeld
  exact ⟨(separate.unplanned other (List.mem_of_getElem? otherHeld)).symm,
    (tempPath_ne_rollbackPath conditions plan _).symm,
    (backupPath_ne_rollbackPath conditions plan _ _ _).symm⟩

theorem rollbackPath_not_runtimeBackup (conditions : Conditions) (plan : ApplyPlan) :
    conditions.rollbackPath plan ∉ plan.stremioDirs.map runtimeBackup := by
  intro member
  obtain ⟨stremioDir, _, same⟩ := List.mem_map.mp member
  exact runtimeBackup_ne_rollbackPath conditions plan stremioDir same

theorem tempPath_not_runtimeBackup (plan : ApplyPlan) (destination : Path) :
    tempPath destination ∉ plan.stremioDirs.map runtimeBackup := by
  intro member
  obtain ⟨stremioDir, _, same⟩ := List.mem_map.mp member
  exact tempPath_ne_runtimeBackup destination stremioDir same.symm

theorem Progress.ready (separate : conditions.Separate plan)
    (progress : Progress conditions plan files place current) {asset : ApplyAsset} {data : Bytes}
    (held : plan.assets[place]? = some asset) (source : files asset.source = some data)
    (checksum : conditions.matchesChecksum asset data = true) :
    conditions.Ready files (temps (plan.assets.take place)) (conditions.backupDir plan) place asset
      data current := by
  have member := List.mem_of_getElem? held
  have unstaged := separate.unstaged asset member
  obtain ⟨sourceUnstaged, _⟩ := separate.sources asset member
  constructor
  case source =>
    rw [progress.others _ (not_runtimeBackup_of_unstaged sourceUnstaged)
      (untouched_source separate member place), source]
  case checksum => exact checksum
  case destination =>
    exact progress.others _ (not_runtimeBackup_of_unstaged unstaged)
      (untouched_destination separate held le_rfl)
  case temp =>
    -- A temporary path that an earlier replacement used is free again.
    by_cases taken : tempPath asset.destination ∈ temps (plan.assets.take place)
    · obtain ⟨other, before, same⟩ := List.mem_map.mp taken
      obtain ⟨earlier, inside, otherHeld⟩ := List.mem_take_iff_getElem.mp before
      have cleared := progress.cleared earlier (by omega) other
        (List.getElem?_eq_some_iff.mpr ⟨by omega, otherHeld⟩)
      rw [same] at cleared
      rw [cleared]
      simp [Conditions.occurs, taken]
    · have free : Untouched conditions plan place (tempPath asset.destination) := by
        intro earlier before other otherHeld
        have otherMember := List.mem_of_getElem? otherHeld
        refine ⟨(ne_temp_of_unstaged (separate.unstaged other otherMember) member).symm, ?_,
          (backupPath_ne_tempPath _ _ _ _).symm⟩
        intro same
        obtain ⟨inside, otherHeld⟩ := List.getElem?_eq_some_iff.mp otherHeld
        exact taken (List.mem_map.mpr ⟨other,
          List.mem_take_iff_getElem.mpr ⟨earlier, by omega, otherHeld⟩, same.symm⟩)
      rw [progress.others _ (tempPath_not_runtimeBackup plan _) free]
      simp [Conditions.occurs, taken]
  case sourceTemp => exact ne_temp_of_unstaged sourceUnstaged member
  case sourceBackup => exact ne_backup_of_unstaged sourceUnstaged held
  case destinationTemp => exact (ne_temp_of_unstaged unstaged member).symm
  case destinationBackup => exact ne_backup_of_unstaged unstaged held
  case backupTemp => exact backupPath_ne_tempPath _ _ _ _

theorem Progress.next (separate : conditions.Separate plan)
    (progress : Progress conditions plan files place current) {asset : ApplyAsset}
    (held : plan.assets[place]? = some asset)
    (replaced : Conditions.Replaced (conditions.backupDir plan) place asset current after) :
    Progress conditions plan files (place + 1) after := by
  have member := List.mem_of_getElem? held
  have unstaged := separate.unstaged asset member
  obtain ⟨sourceUnstaged, _⟩ := separate.sources asset member
  have old : current asset.destination = files asset.destination :=
    progress.others _ (not_runtimeBackup_of_unstaged unstaged)
      (untouched_destination separate held le_rfl)
  constructor
  case installed =>
    intro earlier before other otherHeld
    by_cases last : earlier = place
    · subst last
      obtain rfl := Option.some.inj (held.symm.trans otherHeld)
      rw [replaced.installed]
      exact progress.others _ (not_runtimeBackup_of_unstaged sourceUnstaged)
        (untouched_source separate member earlier)
    · have otherUnstaged := separate.unstaged other (List.mem_of_getElem? otherHeld)
      rw [replaced.others _ (destination_ne separate otherHeld held last)
        (ne_temp_of_unstaged otherUnstaged member) (ne_backup_of_unstaged otherUnstaged held)]
      exact progress.installed earlier (by omega) other otherHeld
  case kept =>
    intro earlier before other otherHeld existed
    by_cases last : earlier = place
    · subst last
      obtain rfl := Option.some.inj (held.symm.trans otherHeld)
      rw [← old] at existed ⊢
      exact replaced.kept existed
    · rw [replaced.others _ (ne_backup_of_unstaged unstaged otherHeld).symm
        (backupPath_ne_tempPath _ _ _ _) fun same => last (backupPath_injective same)]
      exact progress.kept earlier (by omega) other otherHeld existed
  case cleared =>
    intro earlier before other otherHeld
    by_cases shared : tempPath other.destination = tempPath asset.destination
    · rw [shared]
      exact replaced.cleared
    · have different : earlier ≠ place := by
        rintro rfl
        obtain rfl := Option.some.inj (held.symm.trans otherHeld)
        exact shared rfl
      rw [replaced.others _
        (ne_temp_of_unstaged unstaged (List.mem_of_getElem? otherHeld)).symm shared
        (backupPath_ne_tempPath _ _ _ _).symm]
      exact progress.cleared earlier (by omega) other otherHeld
  case others =>
    intro path apart untouched
    obtain ⟨notDestination, notTemp, notBackup⟩ := untouched place (by omega) asset held
    rw [replaced.others path notDestination notTemp notBackup]
    exact progress.others path apart fun earlier before => untouched earlier (by omega)

theorem Progress.stop (separate : conditions.Separate plan)
    (progress : Progress conditions plan files place current) {asset : ApplyAsset}
    (held : plan.assets[place]? = some asset) {step : ReplaceStep}
    (halted : Conditions.Halted (conditions.backupDir plan) place asset step current after) :
    Stopped conditions plan files place step after := by
  have member := List.mem_of_getElem? held
  obtain ⟨sourceUnstaged, _⟩ := separate.sources asset member
  constructor
  case installed =>
    intro earlier before other otherHeld
    have otherUnstaged := separate.unstaged other (List.mem_of_getElem? otherHeld)
    rw [halted.others _ (destination_ne separate otherHeld held (by omega))
      (ne_temp_of_unstaged otherUnstaged member) (ne_backup_of_unstaged otherUnstaged held)]
    exact progress.installed earlier before other otherHeld
  case destination =>
    intro other otherHeld
    obtain rfl := Option.some.inj (held.symm.trans otherHeld)
    rw [halted.destination,
      progress.others _ (not_runtimeBackup_of_unstaged (separate.unstaged asset member))
        (untouched_destination separate held le_rfl),
      progress.others _ (not_runtimeBackup_of_unstaged sourceUnstaged)
        (untouched_source separate member place)]
  case others =>
    intro path apart untouched
    obtain ⟨notDestination, notTemp, notBackup⟩ := untouched place (by omega) asset held
    rw [halted.others path notDestination notTemp notBackup]
    exact progress.others path apart fun earlier before => untouched earlier (by omega)

theorem replaceFiles_outcome (separate : conditions.Separate plan)
    (verified : ∀ asset ∈ plan.assets, ∃ data, files asset.source = some data ∧
      conditions.matchesChecksum asset data = true) :
    ∀ (rest : List ApplyAsset) (place : Nat) (current : Files),
      plan.assets.drop place = rest → Progress conditions plan files place current →
        match conditions.obstacle files (temps (plan.assets.take place)) place rest with
        | none => ∃ after, conditions.replaceFiles (conditions.backupDir plan) place rest current =
              (some (rollbackFiles (conditions.backupDir plan) files place rest), after) ∧
            Progress conditions plan files plan.assets.length after
        | some (stop, step) => stop < plan.assets.length ∧
            ∃ after, conditions.replaceFiles (conditions.backupDir plan) place rest current =
                (none, after) ∧
              Stopped conditions plan files stop step after := by
  intro rest
  induction rest with
  | nil =>
    intro place current suffix progress
    have past : plan.assets.length ≤ place := List.drop_eq_nil_iff.mp suffix
    refine ⟨current, rfl, ?_⟩
    constructor
    · intro earlier before
      exact progress.installed earlier (by omega)
    · intro earlier before
      exact progress.kept earlier (by omega)
    · intro earlier before
      exact progress.cleared earlier (by omega)
    · intro path apart untouched
      apply progress.others path apart
      intro earlier before other otherHeld
      obtain ⟨inside, _⟩ := List.getElem?_eq_some_iff.mp otherHeld
      exact untouched earlier inside other otherHeld
  | cons asset rest ih =>
    intro place current suffix progress
    have held : plan.assets[place]? = some asset := by
      have first := congrArg List.head? suffix
      rwa [List.head?_drop] at first
    obtain ⟨inside, at_place⟩ := List.getElem?_eq_some_iff.mp held
    obtain ⟨data, source, checksum⟩ := verified asset (List.mem_of_getElem? held)
    have ready := progress.ready separate held source checksum
    rw [Conditions.obstacle]
    cases stops : conditions.blocked files (temps (plan.assets.take place)) place asset with
    | some step =>
      obtain ⟨after, fails, halted⟩ := Conditions.replaceFile_of_blocked ready stops
      refine ⟨inside, after, ?_, progress.stop separate held halted⟩
      rw [Conditions.replaceFiles, bind_none fails]
    | none =>
      obtain ⟨replaced, succeeds, outcome⟩ := Conditions.replaceFile_of_free ready stops
      have taken : temps (plan.assets.take (place + 1)) =
          temps (plan.assets.take place) ++ [tempPath asset.destination] := by
        rw [List.take_add_one, held]
        simp [temps]
      have suffix' : plan.assets.drop (place + 1) = rest := by
        rw [← List.tail_drop, suffix]
        rfl
      have continued := ih (place + 1) replaced suffix' (progress.next separate held outcome)
      rw [taken] at continued
      simp only
      cases further : conditions.obstacle files
          (temps (plan.assets.take place) ++ [tempPath asset.destination]) (place + 1) rest with
      | none =>
        rw [further] at continued
        obtain ⟨after, others, done⟩ := continued
        refine ⟨after, ?_, done⟩
        rw [Conditions.replaceFiles, bind_some succeeds, bind_some others]
        simp [rollbackFiles, Option.map_map, Function.comp_def]
      | some failure =>
        rw [further] at continued
        obtain ⟨bounded, after, others, stopped⟩ := continued
        refine ⟨bounded, after, ?_, stopped⟩
        rw [Conditions.replaceFiles, bind_some succeeds, bind_none others]

end Replacements

end StreamServer.UpdaterHelper
