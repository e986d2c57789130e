import StreamServer.UpdaterHelper.Preparation

set_option autoImplicit false

namespace StreamServer.UpdaterHelper

open Fallible

namespace Conditions

variable (conditions : Conditions)

/-- Every destination holds its old or its new content, and one that changed can be undone. -/
structure Undoable (plan : ApplyPlan) (files : Files) : Prop where
  whole : ∀ asset ∈ plan.assets,
    (conditions.applyUpdate plan files).2 asset.destination = files asset.destination ∨
      ∃ data, files asset.source = some data ∧ conditions.matchesChecksum asset data = true ∧
        (conditions.applyUpdate plan files).2 asset.destination = some data
  restored : (∃ asset ∈ plan.assets,
      (conditions.applyUpdate plan files).2 asset.destination ≠ files asset.destination) →
    ∀ asset ∈ plan.assets,
      (rollbackUpdate conditions.crates (conditions.rollbackPath plan)
        (conditions.applyUpdate plan files).2).2 asset.destination = files asset.destination

def rollbackPlan (plan : ApplyPlan) (files : Files) : RollbackPlan :=
  ⟨plan.targetVersion, rollbackFiles (conditions.backupDir plan) files 0 plan.assets⟩

def PlanFails (plan : ApplyPlan) (files : Files) : Prop :=
  conditions.fails = some .writePlan ∨
    conditions.crates.toStringPretty (conditions.rollbackPlan plan files) = none

def Unchanged (files : Files) (asset : ApplyAsset) : Prop :=
  files asset.destination = files asset.source

/-- When the update can be undone, by the files before it. -/
def Recoverable (plan : ApplyPlan) (files : Files) : Prop :=
  conditions.Prepared plan files →
    match conditions.obstacle files [] 0 plan.assets with
    | some (place, step) =>
        (step = .rename → ∀ asset, plan.assets[place]? = some asset →
          files asset.destination = none) ∧
        ∀ asset ∈ plan.assets.take (if step = .readInstalled then place + 1 else place),
          Unchanged files asset
    | none =>
        (conditions.PlanFails plan files → ∀ asset ∈ plan.assets, Unchanged files asset) ∧
        (¬conditions.PlanFails plan files →
          ∀ asset ∈ plan.assets, (files asset.destination).isSome)

/-- No rollback plan of an earlier update can be read, also after a failed write. -/
def Unplanned (plan : ApplyPlan) (files : Files) : Prop :=
  ∀ text, files (conditions.rollbackPath plan) = some text ∨
    conditions.damage (files (conditions.rollbackPath plan)) = some text →
      conditions.crates.fromStr text = none

end Conditions

variable {conditions : Conditions} {plan : ApplyPlan} {files current : Files}

theorem rollbackUpdate_of_unreadable {planPath : Path}
    (unreadable : ∀ text, current planPath = some text → conditions.crates.fromStr text = none) :
    (rollbackUpdate conditions.crates planPath current).2 = current := by
  rw [rollbackUpdate, inspect_bind]
  cases held : current planPath with
  | none => rfl
  | some text =>
    simp only [unreadable text held]
    rfl

theorem rollbackUpdate_of_readable {planPath : Path} {text : Bytes} {rollback : RollbackPlan}
    (held : current planPath = some text)
    (reads : conditions.crates.fromStr text = some rollback) :
    rollbackUpdate conditions.crates planPath current = restoreFiles rollback.files current := by
  rw [rollbackUpdate, inspect_bind, held]
  simp only [reads]

theorem restoreFiles_outcome (separate : conditions.Separate plan) :
    ∀ (rest : List ApplyAsset) (place : Nat) (current : Files),
      plan.assets.drop place = rest →
        (∀ i asset, place ≤ i → plan.assets[i]? = some asset → (files asset.destination).isSome →
          current (backupPath (conditions.backupDir plan) i asset.destination) =
            files asset.destination) →
        (∀ i asset, place ≤ i → plan.assets[i]? = some asset → (files asset.destination).isSome →
          (restoreFiles (rollbackFiles (conditions.backupDir plan) files place rest) current).2
            asset.destination = files asset.destination) ∧
        ∀ path, (∀ i asset, place ≤ i → plan.assets[i]? = some asset →
            (files asset.destination).isSome → path ≠ asset.destination) →
          (restoreFiles (rollbackFiles (conditions.backupDir plan) files place rest) current).2 path =
            current path := by
  intro rest
  induction rest with
  | nil =>
    intro place current suffix backed
    have past : plan.assets.length ≤ place := List.drop_eq_nil_iff.mp suffix
    constructor
    · intro i asset after held
      obtain ⟨inside, _⟩ := List.getElem?_eq_some_iff.mp held
      omega
    · intro path _
      rfl
  | cons asset rest ih =>
    intro place current suffix backed
    have held : plan.assets[place]? = some asset := by
      have first := congrArg List.head? suffix
      rwa [List.head?_drop] at first
    have suffix' : plan.assets.drop (place + 1) = rest := by
      rw [← List.tail_drop, suffix]
      rfl
    cases old : files asset.destination with
    | none =>
      have skipped : rollbackFiles (conditions.backupDir plan) files place (asset :: rest) =
          rollbackFiles (conditions.backupDir plan) files (place + 1) rest := by
        simp [rollbackFiles, old]
      rw [skipped]
      obtain ⟨restored, others⟩ := ih (place + 1) current suffix' fun i other after =>
        backed i other (by omega)
      constructor
      · intro i other after otherHeld existed
        by_cases last : i = place
        · subst last
          cases held.symm.trans otherHeld
          rw [old] at existed
          cases existed
        · exact restored i other (by omega) otherHeld existed
      · intro path apart
        exact others path fun i other after => apart i other (by omega)
    | some data =>
      have backup := backed place asset le_rfl held (by rw [old]; rfl)
      rw [old] at backup
      let restored := Function.update current asset.destination (some data)
      have listed : restoreFiles (rollbackFiles (conditions.backupDir plan) files place
          (asset :: rest)) current =
          restoreFiles (rollbackFiles (conditions.backupDir plan) files (place + 1) rest)
            restored := by
        have copied : restoreFile ⟨backupPath (conditions.backupDir plan) place asset.destination,
            asset.destination⟩ current = (some (), restored) := by
          rw [restoreFile, inspect_bind, backup]
        simp only [rollbackFiles, old, Option.map_some, Option.toList_some, List.singleton_append,
          restoreFiles, bind_some copied]
      -- A destination is never a backup, so restoring one leaves the other backups.
      obtain ⟨later, others⟩ := ih (place + 1) restored suffix' (by
        intro i other after otherHeld existed
        have apart := ne_backup_of_unstaged
          (separate.unstaged asset (List.mem_of_getElem? held)) otherHeld
        simp only [restored, Function.update_of_ne apart.symm]
        exact backed i other (by omega) otherHeld existed)
      rw [listed]
      constructor
      · intro i other after otherHeld existed
        by_cases same : i = place
        · subst same
          cases held.symm.trans otherHeld
          have last : ∀ later other, i + 1 ≤ later → plan.assets[later]? = some other →
              (files other.destination).isSome → asset.destination ≠ other.destination :=
            fun later other after otherHeld _ => destination_ne separate held otherHeld (by omega)
          rw [others _ last, old]
          exact Function.update_self ..
        · exact later i other (by omega) otherHeld existed
      · intro path apart
        rw [others path fun i other after => apart i other (by omega)]
        exact Function.update_of_ne (apart place asset le_rfl held (by rw [old]; rfl)) ..

section Stops

theorem applyUpdate_of_unprepared (unprepared : ¬conditions.Prepared plan files) :
    ∀ path, path ∉ plan.stremioDirs.map runtimeBackup →
      (conditions.applyUpdate plan files).2 path = files path := by
  obtain ⟨others, succeeds⟩ := prepare_outcome conditions plan files
  have refused : (conditions.prepare plan files).1 = none := by
    simpa using succeeds.not.mpr unprepared
  intro path apart
  have stopped : conditions.prepare plan files = (none, (conditions.prepare plan files).2) :=
    Prod.ext refused rfl
  rw [Conditions.applyUpdate, bind_none stopped]
  exact others path apart

theorem prepared_verified (prepared : conditions.Prepared plan files) :
    ∀ asset ∈ plan.assets, ∃ data, files asset.source = some data ∧
      conditions.matchesChecksum asset data = true := by
  intro asset member
  obtain ⟨place, held⟩ := List.getElem?_of_mem member
  exact (prepared.sources place asset held).2

theorem applyUpdate_of_prepared (prepared : conditions.Prepared plan files) :
    ∃ start, Progress conditions plan files 0 start ∧
      conditions.applyUpdate plan files = (do
        let files ← conditions.replaceFiles (conditions.backupDir plan) 0 plan.assets
        conditions.writeRollbackPlan plan files
        conditions.restart plan : Fallible Files Unit) start := by
  obtain ⟨others, succeeds⟩ := prepare_outcome conditions plan files
  obtain ⟨done, succeeded⟩ := Option.isSome_iff_exists.mp (succeeds.mpr prepared)
  have ran : conditions.prepare plan files = (some done, (conditions.prepare plan files).2) :=
    Prod.ext succeeded rfl
  refine ⟨(conditions.prepare plan files).2, ?_, ?_⟩
  · exact ⟨by simp, by simp, by simp, fun path apart _ => others path apart⟩
  · rw [Conditions.applyUpdate, bind_some ran]

theorem applyUpdate_of_obstacle (separate : conditions.Separate plan)
    (prepared : conditions.Prepared plan files) {place : Nat} {step : ReplaceStep}
    (stops : conditions.obstacle files [] 0 plan.assets = some (place, step)) :
    place < plan.assets.length ∧
      Stopped conditions plan files place step (conditions.applyUpdate plan files).2 := by
  obtain ⟨start, progress, ran⟩ := applyUpdate_of_prepared prepared
  have outcome := replaceFiles_outcome separate (prepared_verified prepared) plan.assets 0 start rfl
    progress
  rw [show temps (plan.assets.take 0) = [] from rfl, stops] at outcome
  obtain ⟨inside, after, fails, stopped⟩ := outcome
  rw [ran, bind_none fails]
  exact ⟨inside, stopped⟩

theorem restart_keeps (plan : ApplyPlan) (current : Files) :
    (conditions.restart plan current).2 = current := by
  have restarts : ∀ state : Files,
      ((if plan.restartCommand ≠ [] then conditions.reach .restart
        else pure () : Fallible Files Unit) state).2 = state := by
    intro state
    split
    · exact Conditions.reach_keeps ..
    · rfl
  unfold Conditions.restart
  split
  · have launches : ∀ state, state = current →
        (conditions.reach .launchMsi state).2 = current := by
      intro state same
      rw [Conditions.reach_keeps, same]
    exact bind_keeps launches (fun _ state same => (restarts state).trans same) current rfl
  · exact restarts current

theorem writeRollbackPlan_of_none
    (written : conditions.crates.toStringPretty (conditions.rollbackPlan plan files) = none) :
    conditions.writeRollbackPlan plan
      (rollbackFiles (conditions.backupDir plan) files 0 plan.assets) = fail := by
  rw [Conditions.rollbackPlan] at written
  unfold Conditions.writeRollbackPlan
  rw [written]

theorem writeRollbackPlan_of_some {text : Bytes}
    (written : conditions.crates.toStringPretty (conditions.rollbackPlan plan files) = some text) :
    conditions.writeRollbackPlan plan
      (rollbackFiles (conditions.backupDir plan) files 0 plan.assets) =
        conditions.write .writePlan (conditions.rollbackPath plan) text := by
  rw [Conditions.rollbackPlan] at written
  unfold Conditions.writeRollbackPlan
  rw [written]

theorem applyUpdate_of_free (separate : conditions.Separate plan)
    (prepared : conditions.Prepared plan files)
    (free : conditions.obstacle files [] 0 plan.assets = none) :
    ∃ current, Progress conditions plan files plan.assets.length current ∧
      (conditions.PlanFails plan files →
        (conditions.applyUpdate plan files).2 = current ∨
          (conditions.applyUpdate plan files).2 =
            Function.update current (conditions.rollbackPath plan)
              (conditions.damage (current (conditions.rollbackPath plan)))) ∧
      (¬conditions.PlanFails plan files →
        ∃ text, conditions.crates.toStringPretty (conditions.rollbackPlan plan files) = some text ∧
          (conditions.applyUpdate plan files).2 =
            Function.update current (conditions.rollbackPath plan) (some text)) := by
  obtain ⟨start, progress, ran⟩ := applyUpdate_of_prepared prepared
  have outcome := replaceFiles_outcome separate (prepared_verified prepared) plan.assets 0 start rfl
    progress
  rw [show temps (plan.assets.take 0) = [] from rfl, free] at outcome
  obtain ⟨current, replaced, done⟩ := outcome
  refine ⟨current, done, ?_⟩
  rw [ran, bind_some replaced]
  cases written : conditions.crates.toStringPretty (conditions.rollbackPlan plan files) with
  | none =>
    rw [writeRollbackPlan_of_none written]
    refine ⟨fun _ => Or.inl rfl, ?_⟩
    intro planWritten
    exact absurd (Or.inr written) planWritten
  | some text =>
    rw [writeRollbackPlan_of_some written]
    by_cases failing : conditions.fails = some .writePlan
    · have writes : conditions.write .writePlan (conditions.rollbackPath plan) text current =
          (none, Function.update current (conditions.rollbackPath plan)
            (conditions.damage (current (conditions.rollbackPath plan)))) := if_pos failing
      simp only [bind_none writes]
      refine ⟨fun _ => Or.inr trivial, ?_⟩
      intro planWritten
      exact absurd (Or.inl failing) planWritten
    · have writes : conditions.write .writePlan (conditions.rollbackPath plan) text current =
          (some (), Function.update current (conditions.rollbackPath plan) (some text)) :=
        if_neg failing
      simp only [bind_some writes, restart_keeps]
      refine ⟨?_, fun _ => ⟨text, rfl, rfl⟩⟩
      rintro (failed | unwritten)
      · exact absurd failed failing
      · rw [written] at unwritten
        cases unwritten

end Stops

section Undo

variable {place : Nat} {step : ReplaceStep} {after : Files}

theorem undoable_of_unchanged
    (same : ∀ asset ∈ plan.assets,
      (conditions.applyUpdate plan files).2 asset.destination = files asset.destination) :
    conditions.Undoable plan files := by
  constructor
  · intro asset member
    exact Or.inl (same asset member)
  · rintro ⟨asset, member, changed⟩
    exact absurd (same asset member) changed

-- Without a readable rollback plan every change is final.
theorem unchanged_of_undoable (undoable : conditions.Undoable plan files)
    (unreadable : ∀ text,
      (conditions.applyUpdate plan files).2 (conditions.rollbackPath plan) = some text →
        conditions.crates.fromStr text = none) :
    ∀ asset ∈ plan.assets,
      (conditions.applyUpdate plan files).2 asset.destination = files asset.destination := by
  intro asset member
  by_contra changed
  have restored := undoable.restored ⟨asset, member, changed⟩ asset member
  rw [rollbackUpdate_of_unreadable unreadable] at restored
  exact changed restored

theorem Stopped.destinations (separate : conditions.Separate plan)
    (stopped : Stopped conditions plan files place step after) {i : Nat} {asset : ApplyAsset}
    (held : plan.assets[i]? = some asset) :
    after asset.destination =
      if i < place then files asset.source
      else if i = place then step.leaves (files asset.destination) (files asset.source)
      else files asset.destination := by
  by_cases before : i < place
  · rw [if_pos before]
    exact stopped.installed i before asset held
  rw [if_neg before]
  by_cases same : i = place
  · subst same
    rw [if_pos rfl]
    exact stopped.destination asset held
  · rw [if_neg same]
    have unstaged := separate.unstaged asset (List.mem_of_getElem? held)
    exact stopped.others _ (not_runtimeBackup_of_unstaged unstaged)
      (untouched_destination separate held (by omega))

theorem Stopped.rollbackPath (separate : conditions.Separate plan)
    (stopped : Stopped conditions plan files place step after) :
    after (conditions.rollbackPath plan) = files (conditions.rollbackPath plan) :=
  stopped.others _ (rollbackPath_not_runtimeBackup conditions plan)
    (untouched_rollbackPath separate _)

theorem Progress.rollbackPath (separate : conditions.Separate plan) {count : Nat}
    (progress : Progress conditions plan files count current) :
    current (conditions.rollbackPath plan) = files (conditions.rollbackPath plan) :=
  progress.others _ (rollbackPath_not_runtimeBackup conditions plan)
    (untouched_rollbackPath separate _)

theorem Progress.destinations
    (progress : Progress conditions plan files plan.assets.length current) {asset : ApplyAsset}
    (member : asset ∈ plan.assets) : current asset.destination = files asset.source := by
  obtain ⟨place, held⟩ := List.getElem?_of_mem member
  obtain ⟨inside, _⟩ := List.getElem?_eq_some_iff.mp held
  exact progress.installed place inside asset held

theorem Stopped.same_iff (separate : conditions.Separate plan) (inside : place < plan.assets.length)
    (stopped : Stopped conditions plan files place step after) :
    (∀ asset ∈ plan.assets, after asset.destination = files asset.destination) ↔
      (step = .rename → ∀ asset, plan.assets[place]? = some asset →
        files asset.destination = none) ∧
      ∀ asset ∈ plan.assets.take (if step = .readInstalled then place + 1 else place),
        Conditions.Unchanged files asset := by
  constructor
  · intro same
    constructor
    · rintro rfl asset held
      rw [← same asset (List.mem_of_getElem? held), stopped.destination asset held]
      rfl
    · intro asset member
      obtain ⟨i, bound, found⟩ := List.mem_take_iff_getElem.mp member
      have held : plan.assets[i]? = some asset :=
        List.getElem?_eq_some_iff.mpr ⟨by omega, found⟩
      have kept := same asset (List.mem_of_getElem? held)
      rw [stopped.destinations separate held] at kept
      by_cases before : i < place
      · rw [if_pos before] at kept
        exact kept.symm
      · -- The file at the obstacle counts only where reading it back is what failed.
        split at bound
        next reading =>
          rw [if_neg before, if_pos (by omega), reading] at kept
          exact kept.symm
        next => omega
  · rintro ⟨renames, unchanged⟩ asset member
    obtain ⟨i, held⟩ := List.getElem?_of_mem member
    obtain ⟨bound, found⟩ := List.getElem?_eq_some_iff.mp held
    rw [stopped.destinations separate held]
    by_cases before : i < place
    · rw [if_pos before]
      have listed : asset ∈
          plan.assets.take (if step = .readInstalled then place + 1 else place) := by
        refine List.mem_take_iff_getElem.mpr ⟨i, ?_, found⟩
        split <;> omega
      exact (unchanged asset listed).symm
    rw [if_neg before]
    by_cases same : i = place
    · subst same
      rw [if_pos rfl]
      cases step with
      | rename => exact (renames rfl asset held).symm
      | readInstalled =>
        have listed : asset ∈ plan.assets.take (i + 1) :=
          List.mem_take_iff_getElem.mpr ⟨i, by omega, found⟩
        exact (unchanged asset listed).symm
      | _ => rfl
    · rw [if_neg same]

theorem rollback_of_written (separate : conditions.Separate plan)
    (progress : Progress conditions plan files plan.assets.length current) {text : Bytes}
    (written : conditions.crates.toStringPretty (conditions.rollbackPlan plan files) = some text) :
    let rolledBack := (rollbackUpdate conditions.crates (conditions.rollbackPath plan)
      (Function.update current (conditions.rollbackPath plan) (some text))).2
    ∀ asset ∈ plan.assets, rolledBack asset.destination =
      if (files asset.destination).isSome then files asset.destination
      else files asset.source := by
  have planned : Function.update current (conditions.rollbackPath plan) (some text)
      (conditions.rollbackPath plan) = some text := Function.update_self ..
  rw [rollbackUpdate_of_readable planned (conditions.crates.readsBack _ _ written)]
  have backed : ∀ place asset, 0 ≤ place → plan.assets[place]? = some asset →
      (files asset.destination).isSome →
        Function.update current (conditions.rollbackPath plan) (some text)
          (backupPath (conditions.backupDir plan) place asset.destination) =
            files asset.destination := by
    intro place asset _ held existed
    obtain ⟨inside, _⟩ := List.getElem?_eq_some_iff.mp held
    have apart := backupPath_ne_rollbackPath conditions plan (conditions.backupDir plan) place
      asset.destination
    rw [Function.update_of_ne apart]
    exact progress.kept place inside asset held existed
  obtain ⟨restored, others⟩ := restoreFiles_outcome separate plan.assets 0 _ rfl backed
  intro rolledBack asset member
  obtain ⟨place, held⟩ := List.getElem?_of_mem member
  by_cases existed : (files asset.destination).isSome
  · rw [if_pos existed]
    exact restored place asset (Nat.zero_le _) held existed
  · rw [if_neg existed]
    have unlisted : ∀ i other, 0 ≤ i → plan.assets[i]? = some other →
        (files other.destination).isSome → asset.destination ≠ other.destination := by
      intro i other _ _ otherExisted same
      rw [← same] at otherExisted
      exact existed otherExisted
    have kept := others asset.destination unlisted
    rw [Function.update_of_ne (separate.unplanned asset member)] at kept
    exact kept.trans (progress.destinations member)

end Undo

theorem recoverable_undoable
    (spared : ∀ asset ∈ plan.assets, asset.destination ∉ plan.stremioDirs.map runtimeBackup)
    (separated : conditions.Prepared plan files → conditions.Separate plan) :
    (conditions.Recoverable plan files → conditions.Undoable plan files) ∧
      (conditions.Unplanned plan files →
        conditions.Undoable plan files → conditions.Recoverable plan files) := by
  by_cases prepared : conditions.Prepared plan files
  case neg =>
    refine ⟨fun _ => undoable_of_unchanged ?_, fun _ _ ready => absurd ready prepared⟩
    intro asset member
    exact applyUpdate_of_unprepared prepared _ (spared asset member)
  have separate := separated prepared
  unfold Conditions.Recoverable
  simp only [prepared, forall_const]
  cases stops : conditions.obstacle files [] 0 plan.assets with
  | some failure =>
    obtain ⟨place, step⟩ := failure
    obtain ⟨inside, stopped⟩ := applyUpdate_of_obstacle separate prepared stops
    have same := stopped.same_iff separate inside
    constructor
    · intro recoverable
      exact undoable_of_unchanged (same.mpr recoverable)
    · intro unplanned undoable
      apply same.mp (unchanged_of_undoable undoable _)
      intro text held
      rw [stopped.rollbackPath separate] at held
      exact unplanned text (Or.inl held)
  | none =>
    obtain ⟨current, progress, failed, written⟩ := applyUpdate_of_free separate prepared stops
    by_cases fails : conditions.PlanFails plan files
    case pos =>
      have installed : ∀ asset ∈ plan.assets,
          (conditions.applyUpdate plan files).2 asset.destination = files asset.source := by
        intro asset member
        rcases failed fails with ended | ended <;> rw [ended]
        · exact progress.destinations member
        · rw [Function.update_of_ne (separate.unplanned asset member)]
          exact progress.destinations member
      constructor
      · intro recoverable
        apply undoable_of_unchanged
        intro asset member
        exact (installed asset member).trans (recoverable.1 fails asset member).symm
      · intro unplanned undoable
        refine ⟨fun _ asset member => ?_, fun succeeds => absurd fails succeeds⟩
        have unreadable : ∀ text,
            (conditions.applyUpdate plan files).2 (conditions.rollbackPath plan) = some text →
              conditions.crates.fromStr text = none := by
          intro text held
          have initial := progress.rollbackPath separate
          rcases failed fails with ended | ended <;> rw [ended] at held
          · exact unplanned text (Or.inl (initial ▸ held))
          · rw [Function.update_self, initial] at held
            exact unplanned text (Or.inr held)
        have kept := unchanged_of_undoable undoable unreadable asset member
        exact kept.symm.trans (installed asset member)
    case neg =>
      obtain ⟨text, serialised, ended⟩ := written fails
      have rolledBack := rollback_of_written separate progress serialised
      have installed : ∀ asset ∈ plan.assets,
          (conditions.applyUpdate plan files).2 asset.destination = files asset.source := by
        intro asset member
        rw [ended, Function.update_of_ne (separate.unplanned asset member)]
        exact progress.destinations member
      constructor
      · intro recoverable
        constructor
        · intro asset member
          obtain ⟨data, source, checksum⟩ := prepared_verified prepared asset member
          exact Or.inr ⟨data, source, checksum, (installed asset member).trans source⟩
        · intro _ asset member
          rw [ended, rolledBack asset member, if_pos (recoverable.2 fails asset member)]
      · -- A destination that did not exist is in no rollback plan.
        intro _ undoable
        refine ⟨fun failing => absurd failing fails, fun _ asset member => ?_⟩
        by_contra missing
        obtain ⟨data, source, _⟩ := prepared_verified prepared asset member
        have absent : files asset.destination = none := by simpa using missing
        have changed : (conditions.applyUpdate plan files).2 asset.destination ≠
            files asset.destination := by
          rw [installed asset member, source, absent]
          simp
        have restored := undoable.restored ⟨asset, member, changed⟩ asset member
        rw [ended, rolledBack asset member, if_neg missing, source, absent] at restored
        cases restored

section Installed

def installed : ApplyAsset where
  source := [utf8 "tmp", utf8 "staged", utf8 "stream-server"]
  destination := [utf8 "opt", utf8 "stream-server"]
  sha256 := "11507a0e2f5e69d5dfa40a62a1bd7b6ee57e6bcd85c67c9b8431b36fff21c437"

def standalone : ApplyPlan where
  targetVersion := utf8 "2.0.0"
  restartCommand := []
  stremioDirs := []
  assets := [installed]
  msiSource := none

def standaloneRollback (files : List RollbackFile) : RollbackPlan where
  targetVersion := utf8 "2.0.0"
  files := files

def standaloneBackup : RollbackFile where
  backup := [utf8 "data", utf8 "stremio-server", utf8 "updates", utf8 "backup", utf8 "v2.0.0",
    utf8 "0-stream-server"]
  destination := [utf8 "opt", utf8 "stream-server"]

def replacingText : Bytes := utf8 "\x7b
  \"targetVersion\": \"2.0.0\",
  \"files\": [
    \x7b
      \"backup\": \"/data/stremio-server/updates/backup/v2.0.0/0-stream-server\",
      \"destination\": \"/opt/stream-server\"
    \x7d
  ]
\x7d"

def creatingText : Bytes := utf8 "\x7b
  \"targetVersion\": \"2.0.0\",
  \"files\": []
\x7d"

/-- The crates on the one file that is installed and on its two rollback plans. -/
def standaloneCrates : Crates where
  sha256Hex data := if data = utf8 "new" then installed.sha256 else ""
  toStringPretty rollback :=
    if rollback = standaloneRollback [standaloneBackup] then some replacingText
    else if rollback = standaloneRollback [] then some creatingText
    else none
  fromStr text :=
    if text = replacingText then some (standaloneRollback [standaloneBackup])
    else if text = creatingText then some (standaloneRollback [])
    else none
  readsBack := by
    have texts : creatingText ≠ replacingText := by decide +kernel
    intro rollback text written
    split at written
    next same =>
      have written := Option.some.inj written
      rw [if_pos written.symm, same]
    next =>
      split at written
      next same =>
        have written := Option.some.inj written
        rw [← written, if_neg texts, if_pos rfl, same]
      next => cases written

def standaloneConditions (fails : Option FailPoint) : Conditions where
  crates := standaloneCrates
  dataLocalDir := [utf8 "data"]
  fails := fails
  damage := fun _ => none

def standaloneFiles (old : Option Bytes) : Files := fun path =>
  if path = installed.source then some (utf8 "new")
  else if path = installed.destination then old
  else none

theorem standalone_separate : (standaloneConditions none).Separate standalone := by
  constructor
  · decide
  · decide +kernel
  · decide +kernel
  · decide +kernel

theorem replaced_file_is_undoable :
    (standaloneConditions none).Undoable standalone (standaloneFiles (some (utf8 "old"))) := by
  have spared : ∀ asset ∈ standalone.assets,
      asset.destination ∉ standalone.stremioDirs.map runtimeBackup := fun _ _ => List.not_mem_nil
  apply (recoverable_undoable spared fun _ => standalone_separate).1
  intro _
  have free : (standaloneConditions none).obstacle (standaloneFiles (some (utf8 "old"))) [] 0
      standalone.assets = none := by
    decide +kernel
  rw [free]
  constructor
  · rintro (failing | unwritten)
    · cases failing
    · have written : (standaloneConditions none).crates.toStringPretty
          ((standaloneConditions none).rollbackPlan standalone
            (standaloneFiles (some (utf8 "old")))) = some replacingText := by
        decide +kernel
      rw [written] at unwritten
      cases unwritten
  · intro _
    decide +kernel

theorem updates_are_not_undone :
    ¬(standaloneConditions (some (.replace 0 .rename))).Undoable standalone
        (standaloneFiles (some (utf8 "old"))) ∧
      ¬(standaloneConditions none).Undoable standalone (standaloneFiles none) := by
  have listed : installed ∈ standalone.assets := List.mem_singleton_self _
  constructor
  · intro undoable
    have lost : ((standaloneConditions (some (.replace 0 .rename))).applyUpdate standalone
        (standaloneFiles (some (utf8 "old")))).2 installed.destination = none := by
      decide +kernel
    rcases undoable.whole installed listed with old | ⟨data, _, _, new⟩
    · rw [lost] at old
      revert old
      decide +kernel
    · rw [lost] at new
      cases new
  · intro undoable
    have kept : (rollbackUpdate (standaloneConditions none).crates
        ((standaloneConditions none).rollbackPath standalone)
        ((standaloneConditions none).applyUpdate standalone (standaloneFiles none)).2).2
          installed.destination = some (utf8 "new") := by
      decide +kernel
    have changed : ((standaloneConditions none).applyUpdate standalone (standaloneFiles none)).2
        installed.destination ≠ standaloneFiles none installed.destination := by
      decide +kernel
    have restored := undoable.restored ⟨installed, listed, changed⟩ installed listed
    rw [kept] at restored
    revert restored
    decide +kernel

end Installed

end StreamServer.UpdaterHelper
