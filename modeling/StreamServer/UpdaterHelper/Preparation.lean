import StreamServer.UpdaterHelper.ReplaceFiles

set_option autoImplicit false

namespace StreamServer.UpdaterHelper

open Fallible

namespace Conditions

variable (conditions : Conditions)

/-- A runtime backup is made only once, and only of a runtime that exists. -/
def BacksUpRuntime (plan : ApplyPlan) (files : Files) (place : Nat) (stremioDir : Path) : Prop :=
  (files (serverJs stremioDir)).isSome ∧
    (conditions.fails = some (.backUpRuntime place) →
      (files (runtimeBackup stremioDir)).isSome ∨ files (stremioRuntime stremioDir) = none ∨
        stremioDir ∈ plan.stremioDirs.take place)

structure Prepared (plan : ApplyPlan) (files : Files) : Prop where
  sources : ∀ place asset, plan.assets[place]? = some asset →
    conditions.fails ≠ some (.readSource place) ∧
      ∃ data, files asset.source = some data ∧ conditions.matchesChecksum asset data = true
  stremioDirs : ∀ place stremioDir, plan.stremioDirs[place]? = some stremioDir →
    conditions.BacksUpRuntime plan files place stremioDir
  backupDir : conditions.fails ≠ some .createBackupDir

end Conditions

variable (conditions : Conditions) {plan : ApplyPlan} {files current : Files} {place : Nat}

theorem verifyAssets_keeps (place : Nat) (assets : List ApplyAsset) (files : Files) :
    (conditions.verifyAssets place assets files).2 = files := by
  induction assets generalizing place with
  | nil => rfl
  | cons asset rest ih =>
    rw [Conditions.verifyAssets]
    by_cases failing : conditions.fails = some (.readSource place)
    · rw [bind_none (Conditions.read_of_eq failing)]
    cases held : files asset.source with
    | none => rw [bind_none (Conditions.read_of_missing held)]
    | some data =>
      rw [bind_some (Conditions.read_of_ne failing held)]
      cases matched : conditions.matchesChecksum asset data with
      | false => rfl
      | true => exact ih (place + 1)

theorem verifyAssets_isSome (place : Nat) (assets : List ApplyAsset) (files : Files) :
    (conditions.verifyAssets place assets files).1.isSome ↔
      ∀ i asset, assets[i]? = some asset →
        conditions.fails ≠ some (.readSource (place + i)) ∧
          ∃ data, files asset.source = some data ∧
            conditions.matchesChecksum asset data = true := by
  induction assets generalizing place with
  | nil => simp [Conditions.verifyAssets]
  | cons asset rest ih =>
    have later : (∀ i other, (asset :: rest)[i]? = some other →
        conditions.fails ≠ some (.readSource (place + i)) ∧
          ∃ data, files other.source = some data ∧
            conditions.matchesChecksum other data = true) ↔
        (conditions.fails ≠ some (.readSource place) ∧
          ∃ data, files asset.source = some data ∧
            conditions.matchesChecksum asset data = true) ∧
        ∀ i other, rest[i]? = some other →
          conditions.fails ≠ some (.readSource (place + 1 + i)) ∧
            ∃ data, files other.source = some data ∧
              conditions.matchesChecksum other data = true := by
      constructor
      · intro all
        refine ⟨all 0 asset rfl, ?_⟩
        intro i other held
        have found := all (i + 1) other held
        rwa [show place + (i + 1) = place + 1 + i by omega] at found
      · rintro ⟨first, others⟩ (_ | i) other held
        · cases held
          exact first
        · rw [show place + (i + 1) = place + 1 + i by omega]
          exact others i other held
    rw [later, ← ih (place + 1), Conditions.verifyAssets]
    by_cases failing : conditions.fails = some (.readSource place)
    · rw [bind_none (Conditions.read_of_eq failing)]
      simp [failing]
    cases held : files asset.source with
    | none =>
      rw [bind_none (Conditions.read_of_missing held)]
      simp
    | some data =>
      rw [bind_some (Conditions.read_of_ne failing held)]
      cases matched : conditions.matchesChecksum asset data with
      | false =>
        have refused : ((require false >>= fun _ => conditions.verifyAssets (place + 1) rest)
            files).1 = none := rfl
        rw [refused]
        simp [matched]
      | true =>
        have passed : (require true >>= fun _ => conditions.verifyAssets (place + 1) rest) files =
            conditions.verifyAssets (place + 1) rest files := rfl
        rw [passed]
        simp [failing, matched]

section StremioRuntime

variable {stremioDir path : Path}

theorem ensureStremioRuntimeBackup_apply (place : Nat) (stremioDir : Path) (current : Files) :
    conditions.ensureStremioRuntimeBackup place stremioDir current =
      if current (serverJs stremioDir) = none then (none, current)
      else if (current (runtimeBackup stremioDir)).isSome then (some (), current)
      else
        match current (stremioRuntime stremioDir) with
        | none => (some (), current)
        | some data => conditions.write (.backUpRuntime place) (runtimeBackup stremioDir) data current := by
  rw [Conditions.ensureStremioRuntimeBackup, existsAt, inspect_bind]
  cases served : current (serverJs stremioDir) with
  | none => rfl
  | some script =>
    cases backed : current (runtimeBackup stremioDir) with
    | some backup => simp [existsAt, require, backed]
    | none =>
      cases runtime : current (stremioRuntime stremioDir) with
      | none => simp [existsAt, require, backed, runtime]
      | some data => simp [existsAt, require, backed, runtime, Conditions.copy]

theorem ensureStremioRuntimeBackup_keeps (apart : path ≠ runtimeBackup stremioDir) :
    (conditions.ensureStremioRuntimeBackup place stremioDir current).2 path = current path := by
  rw [ensureStremioRuntimeBackup_apply]
  split
  · rfl
  split
  · rfl
  split
  · rfl
  unfold Conditions.write
  split <;> exact Function.update_of_ne apart ..

theorem ensureStremioRuntimeBackup_isSome :
    (conditions.ensureStremioRuntimeBackup place stremioDir current).1.isSome ↔
      (current (serverJs stremioDir)).isSome ∧
        (conditions.fails = some (.backUpRuntime place) →
          (current (runtimeBackup stremioDir)).isSome ∨
            current (stremioRuntime stremioDir) = none) := by
  rw [ensureStremioRuntimeBackup_apply]
  cases served : current (serverJs stremioDir) with
  | none => simp
  | some script =>
    cases backed : current (runtimeBackup stremioDir) with
    | some backup => simp
    | none =>
      cases runtime : current (stremioRuntime stremioDir) with
      | none => simp
      | some data =>
        by_cases failing : conditions.fails = some (.backUpRuntime place) <;>
          simp [Conditions.write, failing]

theorem ensureStremioRuntimeBackup_backs
    (succeeded : (conditions.ensureStremioRuntimeBackup place stremioDir current).1.isSome) :
    ((conditions.ensureStremioRuntimeBackup place stremioDir current).2
        (runtimeBackup stremioDir)).isSome ∨
      current (stremioRuntime stremioDir) = none := by
  rw [ensureStremioRuntimeBackup_apply] at succeeded ⊢
  split at succeeded
  · cases succeeded
  next served =>
    rw [if_neg served]
    split at succeeded
    next backed =>
      rw [if_pos backed]
      exact Or.inl backed
    next unbacked =>
      rw [if_neg unbacked]
      cases runtime : current (stremioRuntime stremioDir) with
      | none => exact Or.inr rfl
      | some data =>
        simp only [runtime, Conditions.write] at succeeded ⊢
        split at succeeded
        · cases succeeded
        next clear =>
          rw [if_neg clear]
          exact Or.inl (by simp)

end StremioRuntime

structure BackingUp (plan : ApplyPlan) (files : Files) (count : Nat) (current : Files) : Prop where
  others : ∀ path, path ∉ (plan.stremioDirs.take count).map runtimeBackup →
    current path = files path
  backed : ∀ stremioDir ∈ plan.stremioDirs.take count,
    (current (runtimeBackup stremioDir)).isSome ∨ files (stremioRuntime stremioDir) = none

theorem not_runtimeBackups {path : Path} (apart : ∀ stremioDir, path ≠ runtimeBackup stremioDir)
    (dirs : List Path) : path ∉ dirs.map runtimeBackup := by
  intro member
  obtain ⟨stremioDir, _, same⟩ := List.mem_map.mp member
  exact apart stremioDir same.symm

theorem BackingUp.succeeds_iff (backing : BackingUp plan files place current) (stremioDir : Path) :
    (conditions.ensureStremioRuntimeBackup place stremioDir current).1.isSome ↔
      conditions.BacksUpRuntime plan files place stremioDir := by
  have served := backing.others _
    (not_runtimeBackups (serverJs_ne_runtimeBackup stremioDir) _)
  have runtime := backing.others _
    (not_runtimeBackups (stremioRuntime_ne_runtimeBackup stremioDir) _)
  rw [ensureStremioRuntimeBackup_isSome, served, runtime]
  unfold Conditions.BacksUpRuntime
  by_cases earlier : stremioDir ∈ plan.stremioDirs.take place
  · simp [earlier, backing.backed stremioDir earlier]
  · have unbacked : runtimeBackup stremioDir ∉
        (plan.stremioDirs.take place).map runtimeBackup := by
      intro member
      obtain ⟨other, otherMember, same⟩ := List.mem_map.mp member
      exact earlier (runtimeBackup_injective same ▸ otherMember)
    simp [earlier, backing.others _ unbacked]

theorem BackingUp.next (backing : BackingUp plan files place current) {stremioDir : Path}
    (held : plan.stremioDirs[place]? = some stremioDir)
    (succeeded : (conditions.ensureStremioRuntimeBackup place stremioDir current).1.isSome) :
    BackingUp plan files (place + 1)
      (conditions.ensureStremioRuntimeBackup place stremioDir current).2 := by
  have taken : plan.stremioDirs.take (place + 1) = plan.stremioDirs.take place ++ [stremioDir] := by
    rw [List.take_add_one, held]
    rfl
  have runtime := backing.others _
    (not_runtimeBackups (stremioRuntime_ne_runtimeBackup stremioDir) _)
  constructor
  case others =>
    intro path apart
    rw [taken, List.map_append, List.mem_append, not_or] at apart
    rw [ensureStremioRuntimeBackup_keeps conditions (by simpa using apart.2)]
    exact backing.others path apart.1
  case backed =>
    intro other member
    by_cases same : other = stremioDir
    · subst same
      rw [← runtime]
      exact ensureStremioRuntimeBackup_backs conditions succeeded
    · rw [taken, List.mem_append] at member
      rw [ensureStremioRuntimeBackup_keeps conditions fun shared => same (runtimeBackup_injective shared)]
      rcases member with member | member
      · exact backing.backed other member
      · exact absurd (List.mem_singleton.mp member) same

theorem ensureRuntimeBackups_outcome :
    ∀ (rest : List Path) (place : Nat) (current : Files),
      plan.stremioDirs.drop place = rest → BackingUp plan files place current →
        (∀ path, path ∉ plan.stremioDirs.map runtimeBackup →
          (conditions.ensureRuntimeBackups place rest current).2 path = files path) ∧
        ((conditions.ensureRuntimeBackups place rest current).1.isSome ↔
          ∀ i stremioDir, place ≤ i → plan.stremioDirs[i]? = some stremioDir →
            conditions.BacksUpRuntime plan files i stremioDir) := by
  intro rest
  induction rest with
  | nil =>
    intro place current suffix backing
    have past : plan.stremioDirs.length ≤ place := List.drop_eq_nil_iff.mp suffix
    constructor
    · intro path apart
      apply backing.others
      rwa [List.take_of_length_le past]
    · constructor
      · intro _ i stremioDir after held
        obtain ⟨inside, _⟩ := List.getElem?_eq_some_iff.mp held
        omega
      · intro _
        rfl
  | cons stremioDir rest ih =>
    intro place current suffix backing
    have held : plan.stremioDirs[place]? = some stremioDir := by
      have first := congrArg List.head? suffix
      rwa [List.head?_drop] at first
    have member := List.mem_of_getElem? held
    have outcome := backing.succeeds_iff conditions stremioDir
    rw [Conditions.ensureRuntimeBackups]
    cases ran : conditions.ensureStremioRuntimeBackup place stremioDir current with
    | mk result reached =>
      cases result with
      | none =>
        rw [bind_none ran]
        rw [ran] at outcome
        have refused : ¬conditions.BacksUpRuntime plan files place stremioDir := by
          simpa using outcome
        constructor
        · intro path apart
          have kept : (conditions.ensureStremioRuntimeBackup place stremioDir current).2 path =
              current path :=
            ensureStremioRuntimeBackup_keeps conditions
              fun same => apart (List.mem_map.mpr ⟨stremioDir, member, same.symm⟩)
          rw [ran] at kept
          rw [kept]
          apply backing.others
          intro earlier
          obtain ⟨other, otherMember, same⟩ := List.mem_map.mp earlier
          exact apart (List.mem_map.mpr ⟨other, List.mem_of_mem_take otherMember, same⟩)
        · constructor
          · intro impossible
            cases impossible
          · intro all
            exact absurd (all place stremioDir le_rfl held) refused
      | some done =>
        rw [bind_some ran]
        rw [ran] at outcome
        have accepted : conditions.BacksUpRuntime plan files place stremioDir := outcome.mp rfl
        have succeeded :
            (conditions.ensureStremioRuntimeBackup place stremioDir current).1.isSome := by
          rw [ran]
          rfl
        have backed := backing.next conditions held succeeded
        rw [ran] at backed
        have suffix' : plan.stremioDirs.drop (place + 1) = rest := by
          rw [← List.tail_drop, suffix]
          rfl
        obtain ⟨others, later⟩ := ih (place + 1) reached suffix' backed
        refine ⟨others, later.trans ?_⟩
        constructor
        · intro all i other after otherHeld
          by_cases last : i = place
          · subst last
            cases held.symm.trans otherHeld
            exact accepted
          · exact all i other (by omega) otherHeld
        · intro all i other after otherHeld
          exact all i other (by omega) otherHeld

theorem prepare_outcome (plan : ApplyPlan) (files : Files) :
    (∀ path, path ∉ plan.stremioDirs.map runtimeBackup →
      (conditions.prepare plan files).2 path = files path) ∧
    ((conditions.prepare plan files).1.isSome ↔ conditions.Prepared plan files) := by
  have kept := verifyAssets_keeps conditions 0 plan.assets files
  have verified := verifyAssets_isSome conditions 0 plan.assets files
  simp only [Nat.zero_add] at verified
  have start : BackingUp plan files 0 files := by
    constructor
    · intro path _
      rfl
    · intro stremioDir member
      simp at member
  obtain ⟨others, backed⟩ := ensureRuntimeBackups_outcome conditions
    plan.stremioDirs 0 files rfl start
  simp only [Nat.zero_le, forall_const] at backed
  rw [Conditions.prepare]
  cases ranVerify : conditions.verifyAssets 0 plan.assets files with
  | mk result reached =>
    rw [ranVerify] at kept verified
    subst kept
    cases result with
    | none =>
      rw [bind_none ranVerify]
      refine ⟨fun _ _ => rfl, ?_⟩
      have refused := verified.not.mp (by simp)
      constructor
      · intro impossible
        cases impossible
      · intro prepared
        exact absurd prepared.sources refused
    | some done =>
      rw [bind_some ranVerify]
      cases ranBackups : conditions.ensureRuntimeBackups 0 plan.stremioDirs reached with
      | mk result backedUp =>
        rw [ranBackups] at others backed
        cases result with
        | none =>
          rw [bind_none ranBackups]
          refine ⟨others, ?_⟩
          have refused := backed.not.mp (by simp)
          constructor
          · intro impossible
            cases impossible
          · intro prepared
            exact absurd prepared.stremioDirs refused
        | some done =>
          rw [bind_some ranBackups]
          refine ⟨fun path apart => ?_, ?_⟩
          · rw [Conditions.reach_keeps]
            exact others path apart
          · by_cases failing : conditions.fails = some .createBackupDir
            · rw [Conditions.reach_of_eq failing]
              constructor
              · intro impossible
                cases impossible
              · intro prepared
                exact absurd failing prepared.backupDir
            · rw [Conditions.reach_of_ne failing]
              exact ⟨fun _ => ⟨verified.mp rfl, backed.mp rfl, failing⟩, fun _ => rfl⟩

end StreamServer.UpdaterHelper
