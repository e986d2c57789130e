import StreamServer.Settings.Payload
import StreamServer.Shared.ByteText
import StreamServer.Shared.Fallible

set_option autoImplicit false

namespace StreamServer.UpdaterHelper

open ByteText Settings

abbrev Path := List Bytes

/-- The contents of the files that exist; directories are not recorded. -/
abbrev Files := Path → Option Bytes

structure ApplyAsset where
  source : Path
  destination : Path
  sha256 : String
deriving DecidableEq

structure ApplyPlan where
  targetVersion : Bytes
  restartCommand : List Bytes
  stremioDirs : List Path
  assets : List ApplyAsset
  msiSource : Option Path
deriving DecidableEq

structure RollbackFile where
  backup : Path
  destination : Path
deriving DecidableEq

structure RollbackPlan where
  targetVersion : Bytes
  files : List RollbackFile
deriving DecidableEq

-- `sha2` with `hex`, and `serde_json` on the rollback plan; a path that is no text is refused.
structure Crates where
  sha256Hex : Bytes → String
  toStringPretty : RollbackPlan → Option Bytes
  fromStr : Bytes → Option RollbackPlan
  readsBack : ∀ plan text, toStringPretty plan = some text → fromStr text = some plan

inductive ReplaceStep where
  | readSource
  | createParent
  | backUp
  | removeTemp
  | copyTemp
  | removeOld
  | rename
  | readInstalled
deriving DecidableEq, Repr

inductive FailPoint where
  | readSource (place : Nat)
  | backUpRuntime (place : Nat)
  | createBackupDir
  | replace (place : Nat) (step : ReplaceStep)
  | writePlan
  | launchMsi
  | restart
deriving DecidableEq, Repr

/-- The call that fails, and what a copy or a write that fails leaves of its target. -/
structure Conditions where
  crates : Crates
  dataLocalDir : Path
  fails : Option FailPoint
  damage : Option Bytes → Option Bytes

namespace Conditions

open Fallible

variable (conditions : Conditions)

def reach (point : FailPoint) : Fallible Files Unit := require (conditions.fails ≠ some point)

def read (point : FailPoint) (path : Path) : Fallible Files Bytes := do
  conditions.reach point
  match ← inspect fun files => files path with
  | none => fail
  | some data => return data

def write (point : FailPoint) (path : Path) (data : Bytes) : Fallible Files Unit := fun files =>
  if conditions.fails = some point then
    (none, Function.update files path (conditions.damage (files path)))
  else (some (), Function.update files path (some data))

def copy (point : FailPoint) (source target : Path) : Fallible Files Unit := do
  match ← inspect fun files => files source with
  | none => fail
  | some data => conditions.write point target data

def remove (point : FailPoint) (path : Path) : Fallible Files Unit := do
  conditions.reach point
  match ← inspect fun files => files path with
  | none => fail
  | some _ => fun files => (some (), Function.update files path none)

def rename (point : FailPoint) (source target : Path) : Fallible Files Unit := do
  conditions.reach point
  match ← inspect fun files => files source with
  | none => fail
  | some data =>
      fun files => (some (), Function.update (Function.update files source none) target (some data))

end Conditions

def existsAt (path : Path) : Fallible Files Bool := Fallible.inspect fun files => (files path).isSome

def parent (path : Path) : Option Path := if path = [] then none else some path.dropLast

def fileName (path : Path) (otherwise : Bytes) : Bytes :=
  match path.getLast? with
  | none => otherwise
  | some name => if IsUtf8 name ∧ name ≠ utf8 ".." then name else otherwise

def backupPath (backupDir : Path) (place : Nat) (destination : Path) : Path :=
  backupDir ++ [utf8 (toString place) ++ utf8 "-" ++ fileName destination (utf8 "file")]

def tempPath (destination : Path) : Path :=
  (parent destination).getD [] ++
    [utf8 "." ++ fileName destination (utf8 "stream-server") ++ utf8 ".update-tmp"]

def serverJs (stremioDir : Path) : Path := stremioDir ++ [utf8 "server.js"]

def stremioRuntime (stremioDir : Path) : Path := stremioDir ++ [utf8 "stremio-runtime.exe"]

def runtimeBackup (stremioDir : Path) : Path := stremioDir ++ [utf8 "stremio-runtime.node.exe"]

namespace Conditions

open Fallible

variable (conditions : Conditions)

def matchesChecksum (asset : ApplyAsset) (data : Bytes) : Bool :=
  eqIgnoreAsciiCase (conditions.crates.sha256Hex data) (trim asset.sha256)

def backupDir (plan : ApplyPlan) : Path :=
  conditions.dataLocalDir ++ [utf8 "stremio-server", utf8 "updates", utf8 "backup",
    utf8 "v" ++ plan.targetVersion]

def rollbackPath (plan : ApplyPlan) : Path :=
  conditions.backupDir plan ++ [utf8 "rollback-plan.json"]

def verifyAssets : Nat → List ApplyAsset → Fallible Files Unit
  | _, [] => pure ()
  | place, asset :: rest => do
      let data ← conditions.read (.readSource place) asset.source
      require (conditions.matchesChecksum asset data)
      verifyAssets (place + 1) rest

def ensureStremioRuntimeBackup (place : Nat) (stremioDir : Path) : Fallible Files Unit := do
  require (← existsAt (serverJs stremioDir))
  if ← existsAt (runtimeBackup stremioDir) then return ()
  if ← existsAt (stremioRuntime stremioDir) then
    conditions.copy (.backUpRuntime place) (stremioRuntime stremioDir) (runtimeBackup stremioDir)

def ensureRuntimeBackups : Nat → List Path → Fallible Files Unit
  | _, [] => pure ()
  | place, stremioDir :: rest => do
      conditions.ensureStremioRuntimeBackup place stremioDir
      ensureRuntimeBackups (place + 1) rest

def backUpOld (backupDir : Path) (place : Nat) (asset : ApplyAsset) :
    Fallible Files (Option Path) := do
  if ← existsAt asset.destination then
    conditions.copy (.replace place .backUp) asset.destination
      (backupPath backupDir place asset.destination)
    return some (backupPath backupDir place asset.destination)
  else return none

def stageNew (place : Nat) (asset : ApplyAsset) : Fallible Files Unit := do
  if ← existsAt (tempPath asset.destination) then
    conditions.remove (.replace place .removeTemp) (tempPath asset.destination)
  conditions.copy (.replace place .copyTemp) asset.source (tempPath asset.destination)

def install (place : Nat) (asset : ApplyAsset) : Fallible Files Unit := do
  if ← existsAt asset.destination then
    conditions.remove (.replace place .removeOld) asset.destination
  conditions.rename (.replace place .rename) (tempPath asset.destination) asset.destination

def replaceFile (backupDir : Path) (place : Nat) (asset : ApplyAsset) :
    Fallible Files (Option Path) := do
  let data ← conditions.read (.replace place .readSource) asset.source
  require (conditions.matchesChecksum asset data)
  require (parent asset.destination).isSome
  conditions.reach (.replace place .createParent)
  let backup ← conditions.backUpOld backupDir place asset
  conditions.stageNew place asset
  conditions.install place asset
  let installed ← conditions.read (.replace place .readInstalled) asset.destination
  require (conditions.matchesChecksum asset installed)
  return backup

def replaceFiles (backupDir : Path) : Nat → List ApplyAsset → Fallible Files (List RollbackFile)
  | _, [] => pure []
  | place, asset :: rest => do
      let backup ← conditions.replaceFile backupDir place asset
      let others ← replaceFiles backupDir (place + 1) rest
      return (backup.map fun backup => ⟨backup, asset.destination⟩).toList ++ others

def prepare (plan : ApplyPlan) : Fallible Files Unit := do
  conditions.verifyAssets 0 plan.assets
  conditions.ensureRuntimeBackups 0 plan.stremioDirs
  conditions.reach .createBackupDir

def writeRollbackPlan (plan : ApplyPlan) (files : List RollbackFile) : Fallible Files Unit :=
  match conditions.crates.toStringPretty ⟨plan.targetVersion, files⟩ with
  | none => fail
  | some text => conditions.write .writePlan (conditions.rollbackPath plan) text

def restart (plan : ApplyPlan) : Fallible Files Unit := do
  if plan.msiSource.isSome then conditions.reach .launchMsi
  if plan.restartCommand ≠ [] then conditions.reach .restart

def applyUpdate (plan : ApplyPlan) : Fallible Files Unit := do
  conditions.prepare plan
  let files ← conditions.replaceFiles (conditions.backupDir plan) 0 plan.assets
  conditions.writeRollbackPlan plan files
  conditions.restart plan

end Conditions

open Fallible in
def restoreFile (file : RollbackFile) : Fallible Files Unit := do
  match ← inspect fun files => files file.backup with
  | none => fail
  | some data => fun files => (some (), Function.update files file.destination (some data))

def restoreFiles : List RollbackFile → Fallible Files Unit
  | [] => pure ()
  | file :: rest => do
      restoreFile file
      restoreFiles rest

open Fallible in
-- No call fails here but for a missing file.
def rollbackUpdate (crates : Crates) (planPath : Path) : Fallible Files Unit := do
  match ← inspect fun files => files planPath with
  | none => fail
  | some text =>
      match crates.fromStr text with
      | none => fail
      | some plan => restoreFiles plan.files

theorem utf8_ofList (chars : List Char) :
    utf8 (String.ofList chars) = chars.flatMap String.utf8EncodeChar := by
  simp [utf8, String.ofList, List.utf8Encode]

theorem utf8_toString_digits (number : Nat) :
    ∀ byte ∈ utf8 (toString number), isAsciiDigit byte = true := by
  intro byte member
  rw [Nat.toString_eq_ofList_toDigits, utf8_ofList] at member
  obtain ⟨char, digit, member⟩ := List.mem_flatMap.mp member
  have decimal := Nat.isDigit_of_mem_toDigits (by decide) (by decide) digit
  simp only [Char.isDigit, Bool.and_eq_true, decide_eq_true_eq, ge_iff_le] at decimal
  have lower : 48 ≤ char.toNat := decimal.1
  have upper : char.toNat ≤ 57 := decimal.2
  have small : char.val.toNat ≤ 127 := by
    show char.toNat ≤ 127
    omega
  simp only [String.utf8EncodeChar, if_pos small, List.mem_singleton] at member
  subst member
  simp only [isAsciiDigit, Bool.and_eq_true, decide_eq_true_eq, UInt8.le_iff_toNat_le]
  simp
  omega

theorem utf8_toString_ne_nil (number : Nat) : utf8 (toString number) ≠ [] := by
  rw [Nat.toString_eq_ofList_toDigits, utf8_ofList]
  cases digits : Nat.toDigits 10 number with
  | nil => exact absurd digits Nat.toDigits_ne_nil
  | cons char rest =>
    rw [List.flatMap_cons]
    intro empty
    have encoded := (List.append_eq_nil_iff.mp empty).1
    have := String.length_utf8EncodeChar char
    rw [encoded] at this
    simp at this
    have := char.utf8Size_pos
    omega

theorem utf8_injective : Function.Injective utf8 := by
  intro left right same
  apply String.toByteArray_inj.mp
  apply ByteArray.ext
  exact Array.toList_inj.mp same

theorem toString_injective {left right : Nat} (same : toString left = toString right) :
    left = right := by
  have digits : Nat.toDigits 10 left = Nat.toDigits 10 right := by
    simpa [Nat.toString_eq_ofList_toDigits] using congrArg String.toList same
  calc left = Nat.ofDigitChars 10 (Nat.toDigits 10 left) 0 := Nat.ofDigitChars_ten_toDigits.symm
    _ = Nat.ofDigitChars 10 (Nat.toDigits 10 right) 0 := by rw [digits]
    _ = right := Nat.ofDigitChars_ten_toDigits

-- Names in different directories differ by themselves, so it is enough to tell the names apart.
theorem name_eq {leftDir rightDir : Path} {left right : Bytes}
    (same : leftDir ++ [left] = rightDir ++ [right]) : left = right :=
  (List.append_inj' same rfl).2 |> List.singleton_inj.mp

theorem backupPath_injective {backupDir : Path} {left right : Nat} {leftPath rightPath : Path}
    (same : backupPath backupDir left leftPath = backupPath backupDir right rightPath) :
    left = right := by
  have names := name_eq same
  have apart : ∀ number : Nat, (45 : UInt8) ∉ utf8 (toString number) := by
    intro number member
    exact absurd (utf8_toString_digits number 45 member) (by decide)
  have halves : ∀ (number : Nat) (path : Path), splitOnce 45 (utf8 (toString number) ++ utf8 "-" ++
      fileName path (utf8 "file")) = some (utf8 (toString number), fileName path (utf8 "file")) := by
    intro number path
    rw [List.append_assoc]
    exact splitOnce_append (apart number) _
  have numbers := halves left leftPath
  rw [names, halves right rightPath] at numbers
  simp only [Option.some.injEq, Prod.mk.injEq] at numbers
  exact toString_injective (utf8_injective numbers.1.symm)

theorem head?_backupName (place : Nat) (name : Bytes) :
    ∀ byte ∈ (utf8 (toString place) ++ utf8 "-" ++ name).head?, isAsciiDigit byte = true := by
  intro byte first
  rw [List.append_assoc, List.head?_append_of_ne_nil _ (utf8_toString_ne_nil place)] at first
  exact utf8_toString_digits place byte (List.mem_of_mem_head? first)

theorem backupPath_ne_of_head? {backupDir dir destination : Path} {place : Nat} (byte : UInt8)
    {name : Bytes} (first : name.head? = some byte) (other : isAsciiDigit byte = false) :
    backupPath backupDir place destination ≠ dir ++ [name] := by
  intro same
  have leading : byte ∈ (utf8 (toString place) ++ utf8 "-" ++ fileName destination (utf8 "file")).head? := by
    rw [name_eq same, first]
    rfl
  rw [head?_backupName place _ byte leading] at other
  cases other

theorem backupPath_ne_tempPath (backupDir : Path) (place : Nat) (left right : Path) :
    backupPath backupDir place left ≠ tempPath right :=
  backupPath_ne_of_head? 46 rfl rfl

theorem backupPath_ne_rollbackPath (conditions : Conditions) (plan : ApplyPlan) (backupDir : Path)
    (place : Nat) (destination : Path) :
    backupPath backupDir place destination ≠ conditions.rollbackPath plan :=
  backupPath_ne_of_head? 114 (by decide) rfl

theorem tempPath_ne_of_head? {dir destination : Path} (byte : UInt8) {name : Bytes}
    (first : name.head? = some byte) (other : byte ≠ 46) : tempPath destination ≠ dir ++ [name] := by
  intro same
  have leading := congrArg List.head? (name_eq same)
  rw [first] at leading
  exact other (Option.some.inj leading).symm

theorem tempPath_ne_runtimeBackup (destination stremioDir : Path) :
    tempPath destination ≠ runtimeBackup stremioDir :=
  tempPath_ne_of_head? 115 (by decide) (by decide)

theorem tempPath_ne_rollbackPath (conditions : Conditions) (plan : ApplyPlan) (destination : Path) :
    tempPath destination ≠ conditions.rollbackPath plan :=
  tempPath_ne_of_head? 114 (by decide) (by decide)

theorem serverJs_ne_runtimeBackup (left right : Path) : serverJs left ≠ runtimeBackup right := by
  intro same
  exact absurd (name_eq same) (by decide)

theorem stremioRuntime_ne_runtimeBackup (left right : Path) :
    stremioRuntime left ≠ runtimeBackup right := by
  intro same
  exact absurd (name_eq same) (by decide)

theorem runtimeBackup_injective : Function.Injective runtimeBackup := by
  intro left right same
  exact (List.append_inj' same rfl).1

theorem runtimeBackup_ne_rollbackPath (conditions : Conditions) (plan : ApplyPlan)
    (stremioDir : Path) : runtimeBackup stremioDir ≠ conditions.rollbackPath plan := by
  intro same
  exact absurd (name_eq same) (by decide)

end StreamServer.UpdaterHelper
