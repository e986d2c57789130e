import Mathlib.Data.List.AList
import StreamServer.Shared.ByteText
import StreamServer.Shared.Lists
import StreamServer.Shared.Runs

set_option autoImplicit false

namespace StreamServer.LibtorrentSys

open ByteText

structure InfoHash where
  text : Bytes
  nonempty : text ≠ []
deriving DecidableEq

-- A byte of a piece's buffer, with the torrent and the piece whose block it came in. Bytes that only
-- fill the buffer up to a block that came early were written for nobody.
structure Cell where
  value : UInt8
  writtenFor : Option (InfoHash × Int)
deriving DecidableEq

def Cell.filling : Cell := ⟨0, none⟩

-- `owner` is the torrent for which libtorrent made the storage; the code does not record it.
structure MemoryTorrentStorage where
  owner : InfoHash
  infoHash : Bytes
  pieces : AList fun _ : Int => List Cell
deriving DecidableEq

-- `memory_read_piece_direct` on its way through the storages that it found listed.
structure Reading where
  infoHash : InfoHash
  piece : Int
  remaining : List Nat
deriving DecidableEq

/-- Indexes are given out once, so a storage is named by its place among all that were ever made. -/
structure MemoryDiskIo where
  storages : List MemoryTorrentStorage
  torrents : List Nat
  added : List InfoHash
  held : List Nat
  reading : Option Reading
deriving DecidableEq

inductive DiskAction where
  | addTorrent (infoHash : InfoHash)
  | removeFromSession (infoHash : InfoHash)
  | newTorrent (infoHash : InfoHash)
  | removeTorrent (index : Nat)
  | label (infoHash : InfoHash)
  | clear (infoHash : InfoHash)
  | write (index : Nat) (piece : Int) (start : Nat) (block : Bytes)
  | clearPiece (index : Nat) (piece : Int)
  | deleteFiles (index : Nat)
  | beginRead (infoHash : InfoHash) (piece : Int)
  | readStorage

namespace MemoryDiskIo

def empty : MemoryDiskIo := ⟨[], [], [], [], none⟩

def modifyStorage (disk : MemoryDiskIo) (index : Nat)
    (change : MemoryTorrentStorage → MemoryTorrentStorage) : MemoryDiskIo :=
  { disk with storages := disk.storages.modify index change }

def labelled (disk : MemoryDiskIo) (text : Bytes) (index : Nat) : Bool :=
  (disk.storages[index]?).any fun storage => storage.infoHash = text

/-- The map is walked from its greatest index down. -/
def lastUnlabeled (disk : MemoryDiskIo) : Option Nat :=
  disk.torrents.reverse.find? (disk.labelled [])

def labelLastUnlabeledStorage (disk : MemoryDiskIo) (infoHash : InfoHash) : MemoryDiskIo :=
  match disk.lastUnlabeled with
  | none => disk
  | some index => disk.modifyStorage index fun storage => { storage with infoHash := infoHash.text }

def clearTorrent (disk : MemoryDiskIo) (infoHash : InfoHash) : MemoryDiskIo :=
  { disk with torrents := disk.torrents.filter fun index => !disk.labelled infoHash.text index }

def cleared (disk : MemoryDiskIo) (infoHash : InfoHash) : List Nat :=
  disk.torrents.filter (disk.labelled infoHash.text)

def writeBlock (stored : List Cell) (start : Nat) (block : List Cell) : List Cell :=
  let grown := stored ++ List.replicate (start + block.length - stored.length) Cell.filling
  grown.take start ++ block ++ grown.drop (start + block.length)

def asyncWrite (piece : Int) (start : Nat) (block : Bytes) (storage : MemoryTorrentStorage) :
    MemoryTorrentStorage :=
  let cells := block.map fun value => ⟨value, some (storage.owner, piece)⟩
  { storage with
    pieces := storage.pieces.insert piece
      (writeBlock ((storage.pieces.lookup piece).getD []) start cells) }

def asyncClearPiece (piece : Int) (storage : MemoryTorrentStorage) : MemoryTorrentStorage :=
  { storage with pieces := storage.pieces.erase piece }

def asyncDeleteFiles (storage : MemoryTorrentStorage) : MemoryTorrentStorage :=
  { storage with pieces := ∅ }

def found (disk : MemoryDiskIo) (reading : Reading) (index : Nat) : Option (List Cell) :=
  (disk.storages[index]?).bind fun storage =>
    if storage.infoHash = reading.infoHash.text then storage.pieces.lookup reading.piece else none

def answer (disk : MemoryDiskIo) : Option (Reading × List Cell) :=
  disk.reading.bind fun reading =>
    reading.remaining.head?.bind fun index => (disk.found reading index).map fun cells =>
      (reading, cells)

def readStorage (disk : MemoryDiskIo) (reading : Reading) : MemoryDiskIo :=
  match reading.remaining with
  | [] => { disk with reading := none }
  | index :: rest =>
      match disk.found reading index with
      | some _ => { disk with reading := none }
      | none => { disk with reading := some { reading with remaining := rest } }

def holds (disk : MemoryDiskIo) (infoHash : InfoHash) : Bool :=
  disk.held.any fun index => (disk.storages[index]?).any fun storage => storage.owner = infoHash

/-- Labels, clears and direct reads are under one lock; libtorrent's own jobs are not. -/
def step (disk : MemoryDiskIo) : DiskAction → Option MemoryDiskIo
  | .addTorrent infoHash =>
      if infoHash ∈ disk.added then none
      else some { disk with added := disk.added ++ [infoHash] }
  | .removeFromSession infoHash => some { disk with added := disk.added.erase infoHash }
  | .newTorrent infoHash =>
      if infoHash ∈ disk.added ∧ disk.holds infoHash = false then
        some { disk with
          storages := disk.storages ++ [⟨infoHash, [], ∅⟩]
          torrents := disk.torrents ++ [disk.storages.length]
          held := disk.held ++ [disk.storages.length] }
      else none
  | .removeTorrent index =>
      if index ∈ disk.held then
        some { disk with
          torrents := disk.torrents.filter (· ≠ index), held := disk.held.filter (· ≠ index) }
      else none
  | .label infoHash =>
      if disk.reading = none then some (disk.labelLastUnlabeledStorage infoHash) else none
  | .clear infoHash => if disk.reading = none then some (disk.clearTorrent infoHash) else none
  -- The storage may have left the map since the job looked it up.
  | .write index piece start block =>
      if index < disk.storages.length then
        some (disk.modifyStorage index (asyncWrite piece start block))
      else none
  | .clearPiece index piece =>
      if index < disk.storages.length then
        some (disk.modifyStorage index (asyncClearPiece piece))
      else none
  | .deleteFiles index =>
      if index < disk.storages.length then some (disk.modifyStorage index asyncDeleteFiles)
      else none
  | .beginRead infoHash piece =>
      if disk.reading = none then
        some { disk with reading := some ⟨infoHash, piece, disk.torrents⟩ }
      else none
  | .readStorage =>
      match disk.reading with
      | none => none
      | some reading => some (disk.readStorage reading)

def LabelsOwn (disk : MemoryDiskIo) : DiskAction → Prop
  | .label infoHash => ∀ index ∈ disk.lastUnlabeled, ∀ storage ∈ disk.storages[index]?,
      storage.owner = infoHash
  | _ => True

def ClearsOwn (disk : MemoryDiskIo) : Prop :=
  ∀ infoHash, ∀ index ∈ disk.cleared infoHash, ∀ storage ∈ disk.storages[index]?,
    storage.owner = infoHash

/-- No block is missing in front of another in the buffer that a reader finds. -/
def ReadsWhole (disk : MemoryDiskIo) : DiskAction → Prop
  | .readStorage => ∀ reading cells, disk.answer = some (reading, cells) →
      ∀ cell ∈ cells, cell.writtenFor ≠ none
  | _ => True

def ReadsOwn (disk : MemoryDiskIo) : DiskAction → Prop
  | .readStorage => ∀ reading cells, disk.answer = some (reading, cells) →
      ∀ cell ∈ cells, cell.writtenFor = some (reading.infoHash, reading.piece)
  | _ => True

end MemoryDiskIo

theorem InfoHash.ext_text {first second : InfoHash} (same : first.text = second.text) :
    first = second := by
  cases first
  cases second
  cases same
  rfl

namespace MemoryTorrentStorage

def Named (storage : MemoryTorrentStorage) : Prop :=
  storage.infoHash ≠ [] → storage.infoHash = storage.owner.text

def Written (storage : MemoryTorrentStorage) : Prop :=
  ∀ piece cells, storage.pieces.lookup piece = some cells →
    ∀ cell ∈ cells, cell.writtenFor = none ∨ cell.writtenFor = some (storage.owner, piece)

end MemoryTorrentStorage

namespace MemoryDiskIo

variable {disk next : MemoryDiskIo} {action : DiskAction} {storage : MemoryTorrentStorage}

theorem mem_writeBlock {stored block : List Cell} {start : Nat} {cell : Cell}
    (member : cell ∈ writeBlock stored start block) :
    cell ∈ stored ∨ cell = .filling ∨ cell ∈ block := by
  have grown : ∀ other ∈ stored ++ List.replicate (start + block.length - stored.length) Cell.filling,
      other ∈ stored ∨ other = .filling := fun other present =>
    (List.mem_append.mp present).imp_right fun filled => (List.mem_replicate.mp filled).2
  rcases List.mem_append.mp member with front | behind
  · rcases List.mem_append.mp front with before | written
    · exact (grown cell (List.mem_of_mem_take before)).imp_right .inl
    · exact .inr (.inr written)
  · exact (grown cell (List.mem_of_mem_drop behind)).imp_right .inl

theorem asyncWrite_written (written : storage.Written) (piece : Int) (start : Nat) (block : Bytes) :
    (asyncWrite piece start block storage).Written := by
  intro other cells looked cell member
  by_cases same : other = piece
  · subst same
    rw [asyncWrite, AList.lookup_insert] at looked
    cases looked
    rcases mem_writeBlock member with stored | filled | fresh
    · cases before : storage.pieces.lookup other with
      | none =>
        rw [before] at stored
        cases stored
      | some earlier =>
        rw [before] at stored
        exact written other earlier before cell stored
    · rw [filled]
      exact .inl rfl
    · obtain ⟨value, _, rfl⟩ := List.mem_map.mp fresh
      exact .inr rfl
  · rw [asyncWrite, AList.lookup_insert_ne same] at looked
    exact written other cells looked cell member

theorem asyncClearPiece_written (written : storage.Written) (piece : Int) :
    (asyncClearPiece piece storage).Written := by
  intro other cells looked cell member
  by_cases same : other = piece
  · subst same
    rw [asyncClearPiece, AList.lookup_erase] at looked
    cases looked
  · rw [asyncClearPiece, AList.lookup_erase_ne same] at looked
    exact written other cells looked cell member

theorem asyncDeleteFiles_written : (asyncDeleteFiles storage).Written := by
  intro other cells looked
  cases looked

theorem mem_modifyStorage {index : Nat} {change : MemoryTorrentStorage → MemoryTorrentStorage}
    (member : storage ∈ (disk.modifyStorage index change).storages) :
    storage ∈ disk.storages ∨
      ∃ earlier, disk.storages[index]? = some earlier ∧ storage = change earlier := by
  obtain ⟨place, found⟩ := List.mem_iff_getElem?.mp member
  have found : (disk.storages.modify index change)[place]? = some storage := found
  rw [List.getElem?_modify] at found
  obtain ⟨earlier, there, changed⟩ := Option.map_eq_some_iff.mp found
  split at changed
  · next same =>
    subst same
    exact .inr ⟨earlier, there, changed.symm⟩
  · cases changed
    exact .inl (List.mem_of_getElem? there)

theorem step_keeps {property : MemoryTorrentStorage → Prop}
    (made : ∀ infoHash, property ⟨infoHash, [], ∅⟩)
    (wrote : ∀ storage piece start block, property storage →
      property (asyncWrite piece start block storage))
    (erased : ∀ storage piece, property storage → property (asyncClearPiece piece storage))
    (deleted : ∀ storage, property storage → property (asyncDeleteFiles storage))
    (named : ∀ infoHash index storage, action = .label infoHash →
      disk.lastUnlabeled = some index → disk.storages[index]? = some storage → property storage →
      property { storage with infoHash := infoHash.text })
    (all : ∀ storage ∈ disk.storages, property storage) (taken : disk.step action = some next) :
    ∀ storage ∈ next.storages, property storage := by
  have modified : ∀ {index : Nat} {change : MemoryTorrentStorage → MemoryTorrentStorage},
      (∀ storage, disk.storages[index]? = some storage → property (change storage)) →
      ∀ storage ∈ (disk.modifyStorage index change).storages, property storage := by
    intro index change each storage member
    obtain same | ⟨earlier, there, rfl⟩ := mem_modifyStorage member
    · exact all storage same
    · exact each earlier there
  cases action with
  | addTorrent infoHash =>
    simp only [step] at taken
    split at taken
    · cases taken
    · cases taken
      exact all
  | removeFromSession infoHash =>
    cases taken
    exact all
  | newTorrent infoHash =>
    simp only [step] at taken
    split at taken
    · cases taken
      intro storage member
      rcases List.mem_append.mp member with earlier | added
      · exact all storage earlier
      · cases List.mem_singleton.mp added
        exact made infoHash
    · cases taken
  | removeTorrent index =>
    simp only [step] at taken
    split at taken
    · cases taken
      exact all
    · cases taken
  | label infoHash =>
    simp only [step] at taken
    split at taken
    · cases taken
      unfold labelLastUnlabeledStorage
      split
      · exact all
      · next index last =>
        exact modified fun storage there =>
          named infoHash index storage rfl last there (all storage (List.mem_of_getElem? there))
    · cases taken
  | clear infoHash =>
    simp only [step] at taken
    split at taken
    · cases taken
      exact all
    · cases taken
  | write index piece start block =>
    simp only [step] at taken
    split at taken
    · cases taken
      exact modified fun storage there =>
        wrote storage piece start block (all storage (List.mem_of_getElem? there))
    · cases taken
  | clearPiece index piece =>
    simp only [step] at taken
    split at taken
    · cases taken
      exact modified fun storage there =>
        erased storage piece (all storage (List.mem_of_getElem? there))
    · cases taken
  | deleteFiles index =>
    simp only [step] at taken
    split at taken
    · cases taken
      exact modified fun storage there => deleted storage (all storage (List.mem_of_getElem? there))
    · cases taken
  | beginRead infoHash piece =>
    simp only [step] at taken
    split at taken
    · cases taken
      exact all
    · cases taken
  | readStorage =>
    simp only [step] at taken
    split at taken
    · cases taken
    · next reading =>
      cases taken
      unfold readStorage
      split
      · exact all
      · split <;> exact all

structure Separate (disk : MemoryDiskIo) : Prop where
  named : ∀ storage ∈ disk.storages, storage.Named
  written : ∀ storage ∈ disk.storages, storage.Written

theorem separate_empty : empty.Separate :=
  ⟨fun _ member => (by cases member), fun _ member => by cases member⟩

theorem step_separate (separate : disk.Separate) (own : disk.LabelsOwn action)
    (taken : disk.step action = some next) : next.Separate := by
  constructor
  · refine step_keeps (fun infoHash labelled => absurd rfl labelled)
      (fun _ _ _ _ named => named) (fun _ _ named => named) (fun _ named => named) ?_
      separate.named taken
    rintro infoHash index storage rfl last there named labelled
    exact congrArg InfoHash.text (own index last storage there).symm
  · refine step_keeps (fun infoHash piece cells looked => by cases looked)
      (fun _ piece start block written => asyncWrite_written written piece start block)
      (fun _ piece written => asyncClearPiece_written written piece)
      (fun _ _ => asyncDeleteFiles_written) ?_ separate.written taken
    exact fun _ _ _ _ _ _ written => written

theorem Separate.clearsOwn (separate : disk.Separate) : disk.ClearsOwn := by
  intro infoHash index member storage there
  have bears := (List.mem_filter.mp member).2
  unfold labelled at bears
  rw [show disk.storages[index]? = some storage from there, Option.any_some, decide_eq_true_eq]
    at bears
  have named := separate.named storage (List.mem_of_getElem? there)
  refine InfoHash.ext_text ?_
  rw [← named (bears ▸ infoHash.nonempty), bears]

theorem Separate.readsOwn (separate : disk.Separate) (whole : disk.ReadsWhole action) :
    disk.ReadsOwn action := by
  cases action with
  | readStorage =>
    intro reading cells answered cell member
    have filled := whole reading cells answered cell member
    unfold answer at answered
    obtain ⟨current, _, rest⟩ := Option.bind_eq_some_iff.mp answered
    obtain ⟨index, _, rest⟩ := Option.bind_eq_some_iff.mp rest
    obtain ⟨buffer, located, same⟩ := Option.map_eq_some_iff.mp rest
    cases same
    unfold found at located
    obtain ⟨storage, there, looked⟩ := Option.bind_eq_some_iff.mp located
    split at looked
    · next labelled =>
      have present := List.mem_of_getElem? there
      have named := separate.named storage present (labelled ▸ reading.infoHash.nonempty)
      have owner : storage.owner = reading.infoHash :=
        InfoHash.ext_text (named.symm.trans labelled)
      rw [← owner]
      exact (separate.written storage present reading.piece cells looked cell member).resolve_left
        filled
    · cases looked
  | _ => trivial

theorem labelsOwn_of_clearsOwn (after : next.ClearsOwn) (taken : disk.step action = some next) :
    disk.LabelsOwn action := by
  cases action with
  | label infoHash =>
    intro index last storage there
    simp only [step] at taken
    split at taken
    · cases taken
      have last : disk.lastUnlabeled = some index := last
      have there : disk.storages[index]? = some storage := there
      have listed : index ∈ disk.torrents :=
        List.mem_reverse.mp (List.mem_of_find?_eq_some last)
      have named : (disk.labelLastUnlabeledStorage infoHash).storages[index]? =
          some { storage with infoHash := infoHash.text } := by
        unfold labelLastUnlabeledStorage
        rw [last]
        show (disk.storages.modify index _)[index]? = _
        rw [List.getElem?_modify, there]
        simp
      have torrents : (disk.labelLastUnlabeledStorage infoHash).torrents = disk.torrents := by
        unfold labelLastUnlabeledStorage
        rw [last]
        rfl
      have removed : index ∈ (disk.labelLastUnlabeledStorage infoHash).cleared infoHash := by
        unfold cleared
        rw [torrents]
        refine List.mem_filter.mpr ⟨listed, ?_⟩
        unfold labelled
        rw [named, Option.any_some]
        exact decide_eq_true rfl
      have owner := after infoHash index removed { storage with infoHash := infoHash.text } named
      exact owner
    · cases taken
  | _ => trivial

theorem torrents_are_separate_iff (actions : List DiskAction) :
    (Runs.Always ClearsOwn step empty actions ↔ Runs.Meets LabelsOwn step empty actions) ∧
      (Runs.Meets LabelsOwn step empty actions →
        Runs.Meets (fun disk action => disk.ReadsWhole action → disk.ReadsOwn action) step empty
          actions) := by
  have preserved : ∀ disk action next, Separate disk → LabelsOwn disk action →
      step disk action = some next → Separate next := fun _ _ _ => step_separate
  refine ⟨⟨fun always => ?_, fun own => ?_⟩, fun own => ?_⟩
  · have forced : ∀ disk action next, True → ClearsOwn disk → ClearsOwn next →
        step disk action = some next → LabelsOwn disk action :=
      fun _ _ _ _ _ after taken => labelsOwn_of_clearsOwn after taken
    exact Runs.meets_of_always forced (fun _ _ _ _ _ => trivial) trivial always
  · exact (Runs.always_of_meets preserved separate_empty own).mono fun _ => Separate.clearsOwn
  · exact Runs.meets_of_meets preserved (fun _ _ _ separate _ _ => separate.readsOwn)
      separate_empty own

def firstTorrent : InfoHash := ⟨[0x61], by decide⟩

def secondTorrent : InfoHash := ⟨[0x62], by decide⟩

/-- Two magnets whose storages are made once their metadata is there; the first is then played. -/
def twoMagnets : List DiskAction :=
  [.addTorrent firstTorrent, .label firstTorrent, .addTorrent secondTorrent, .label secondTorrent,
    .newTorrent firstTorrent, .newTorrent secondTorrent, .label firstTorrent]

def otherBytes : List DiskAction :=
  [.write 1 0 0 [7], .beginRead firstTorrent 0, .readStorage]

theorem first_torrent_reads_the_second :
    ∃ disk later : MemoryDiskIo,
      Runs.run step empty twoMagnets = some disk ∧ Runs.run step disk otherBytes = some later ∧
      disk.cleared firstTorrent = [1] ∧
      (disk.storages[1]?).map MemoryTorrentStorage.owner = some secondTorrent ∧
      later.answer = some (⟨firstTorrent, 0, [1]⟩, [⟨7, some (secondTorrent, 0)⟩]) := by
  have ran : (Runs.run step empty twoMagnets).any (fun disk =>
      (Runs.run step disk otherBytes).any fun later =>
        decide (disk.cleared firstTorrent = [1] ∧
          (disk.storages[1]?).map MemoryTorrentStorage.owner = some secondTorrent ∧
          later.answer = some (⟨firstTorrent, 0, [1]⟩, [⟨7, some (secondTorrent, 0)⟩]))) = true := by
    decide +kernel
  obtain ⟨disk, reached, rest⟩ := (Option.any_eq_true _ _).mp ran
  obtain ⟨later, continued, facts⟩ := (Option.any_eq_true _ _).mp rest
  exact ⟨disk, later, reached, continued, of_decide_eq_true facts⟩

end MemoryDiskIo

end StreamServer.LibtorrentSys
