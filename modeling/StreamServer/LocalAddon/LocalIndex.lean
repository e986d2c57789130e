import Mathlib.Logic.Function.Basic
import StreamServer.LocalAddon.InfoHash
import StreamServer.Shared.Numerals

set_option autoImplicit false

namespace StreamServer.LocalAddon

open ByteText Decimals Results

-- `parse_filename` stores the list of episodes only when it found one.
structure Episodes where
  first : Int32
  rest : List Int32
deriving DecidableEq, Repr

def Episodes.toList (episodes : Episodes) : List Int32 := episodes.first :: episodes.rest

structure VideoMetadata where
  name : Option Bytes
  year : Option Int32
  season : Option Int32
  episode : Option Episodes
  type : Bytes
  imdbId : Option Bytes
deriving DecidableEq, Repr

structure IndexItem where
  id : Bytes
  imdbId : Option Bytes
  metadata : VideoMetadata
  path : Bytes
  infoHash : Option Bytes
  fileIdx : Option Nat
deriving DecidableEq, Repr

structure LocalIndex where
  items : Bytes → List IndexItem
  pathMap : Bytes → Option Bytes

namespace LocalIndex

def new : LocalIndex := ⟨fun _ => [], fun _ => none⟩

def keyOf (pathHash : Bytes → Nat) (item : IndexItem) : Bytes :=
  if item.id ≠ [] then item.id
  else
    match item.imdbId with
    | some imdb => utf8 "local:" ++ imdb
    | none => utf8 "local:" ++ decimal (pathHash item.path)

def insert (pathHash : Bytes → Nat) (index : LocalIndex) (item : IndexItem) : LocalIndex :=
  let key := keyOf pathHash item
  let item := { item with id := key }
  { items := Function.update index.items key (index.items key ++ [item])
    pathMap := Function.update index.pathMap item.path (some key) }

end LocalIndex

section Scanner

-- What the scan is given: the files of the disk, the names of files and the answers of the service.
structure ScanEnv where
  isTorrent : Bytes → Bool
  isArchive : Bytes → Bool
  read : Bytes → Option Bytes
  listFiles : Bytes → Option (List (Bytes × Bool))
  parseFilename : Bytes → Option VideoMetadata
  resolveImdb : Bytes → Option Int32 → Bytes → Option Bytes
  pathHash : Bytes → Nat

inductive Found where
  | torrentFile (infoHash path : Bytes) (idx : Nat)
  | archiveEntry (archive entry : Bytes)
  | file (path : Bytes)
deriving DecidableEq, Repr

namespace Found

def namePath : Found → Bytes
  | torrentFile _ path _ => path
  | archiveEntry _ entry => entry
  | file path => path

def localId (metadata : VideoMetadata) : Bytes :=
  match metadata.imdbId with
  | some imdb => utf8 "local:" ++ imdb
  | none => []

def item (metadata : VideoMetadata) : Found → IndexItem
  | torrentFile infoHash path idx =>
      { id := utf8 "bt:" ++ infoHash
        imdbId := metadata.imdbId
        metadata := metadata
        path := utf8 "torrent:" ++ path
        infoHash := some infoHash
        fileIdx := some idx }
  | archiveEntry archive entry =>
      { id := localId metadata
        imdbId := metadata.imdbId
        metadata := metadata
        path := utf8 "archive:" ++ archive ++ utf8 "|" ++ entry
        infoHash := none
        fileIdx := none }
  | file path =>
      { id := localId metadata
        imdbId := metadata.imdbId
        metadata := metadata
        path := path
        infoHash := none
        fileIdx := none }

end Found

def torrentFound (torrent : Torrent) : List Found :=
  torrent.files.zipIdx.map fun (file, idx) => .torrentFile torrent.infoHash file.path idx

-- What one file of the disk gives; a panic of the torrent parser ends the whole scan, and one that
-- did not end would.
def foundIn (env : ScanEnv) (path : Bytes) : Option (List Found) :=
  if env.isTorrent path then
    match (env.read path).map parseTorrent with
    | some (.ok torrent) => some (torrentFound torrent)
    | some (.error .panicked) | some (.error .outOfFuel) => none
    | _ => some []
  else if env.isArchive path then
    some (((env.listFiles path).getD []).filterMap fun (entry, isDir) =>
      if isDir then none else some (.archiveEntry path entry))
  else some [.file path]

def resolved (env : ScanEnv) (metadata : VideoMetadata) : VideoMetadata :=
  match metadata.name with
  | some name => { metadata with imdbId := env.resolveImdb name metadata.year metadata.type }
  | none => metadata

def indexed (env : ScanEnv) (found : Found) : Option (Found × VideoMetadata) :=
  (env.parseFilename found.namePath).map fun metadata => (found, resolved env metadata)

def insertAll (env : ScanEnv) (index : LocalIndex) (entries : List (Found × VideoMetadata)) :
    LocalIndex :=
  entries.foldl (fun index entry => index.insert env.pathHash (entry.1.item entry.2)) index

def scanBackground (env : ScanEnv) : List Bytes → LocalIndex → LocalIndex
  | [], index => index
  | path :: rest, index =>
      match foundIn env path with
      | none => index
      | some founds => scanBackground env rest (insertAll env index (founds.filterMap (indexed env)))

end Scanner

section Contents

variable {env : ScanEnv}

def entryKey (env : ScanEnv) (entry : Found × VideoMetadata) : Bytes :=
  LocalIndex.keyOf env.pathHash (entry.1.item entry.2)

def storedItem (env : ScanEnv) (entry : Found × VideoMetadata) : IndexItem :=
  { entry.1.item entry.2 with id := entryKey env entry }

theorem insertAll_items (index : LocalIndex) (entries : List (Found × VideoMetadata)) (key : Bytes) :
    (insertAll env index entries).items key =
      index.items key ++ (entries.filter fun entry => entryKey env entry = key).map (storedItem env) := by
  induction entries generalizing index with
  | nil => simp [insertAll]
  | cons entry rest ih =>
    have later := ih (index.insert env.pathHash (entry.1.item entry.2))
    show (insertAll env (index.insert env.pathHash (entry.1.item entry.2)) rest).items key = _
    rw [later]
    by_cases same : entryKey env entry = key
    · subst same
      simp [LocalIndex.insert, entryKey, storedItem]
    · have kept : (index.insert env.pathHash (entry.1.item entry.2)).items key = index.items key :=
        Function.update_of_ne (Ne.symm same) _ _
      simp [kept, same]

-- As long as no file ends it, a scan puts what it found into the index, file by file.
theorem scanBackground_whole {paths : List Bytes} (index : LocalIndex)
    (whole : ∀ path ∈ paths, (foundIn env path).isSome) :
    scanBackground env paths index = insertAll env index
      (paths.flatMap fun path => ((foundIn env path).getD []).filterMap (indexed env)) := by
  induction paths generalizing index with
  | nil => rfl
  | cons path rest ih =>
    obtain ⟨here, later⟩ := List.forall_mem_cons.mp whole
    obtain ⟨founds, found⟩ := Option.isSome_iff_exists.mp here
    rw [scanBackground, found]
    simp only
    rw [ih _ later, List.flatMap_cons, found, Option.getD_some]
    simp only [insertAll, List.foldl_append]

end Contents

section DeclaredFiles

def declaredFiles (bytes : Bytes) : Option (List BValue) := do
  let (root, _) ← (parseBencode bytes).toOption
  let dict ← root.getDict
  let info ← lookupKey infoKey dict
  let infoDict ← info.getDict
  (lookupKey (utf8 "files") infoDict).bind BValue.getList

def declaredFile (fileDict : BValue) : Option TorrentFile := do
  let entries ← fileDict.getDict
  let length ← (lookupKey (utf8 "length") entries).bind BValue.getInt
  let parts ← (lookupKey (utf8 "path") entries).bind BValue.getList
  let components ← parts.mapM BValue.asStr
  if components ≠ [] ∧ 0 ≤ length ∧ length < 2 ^ 63 then
    some ⟨joinPath components, length.toNat⟩
  else none

theorem filterMap_of_mapM {A B : Type} {read : A → Option B} {parts : List A} {results : List B}
    (complete : parts.mapM read = some results) : parts.filterMap read = results := by
  induction parts generalizing results with
  | nil =>
    cases complete
    rfl
  | cons part rest ih =>
    rw [List.mapM_cons] at complete
    obtain ⟨result, first, complete⟩ := Option.bind_eq_some_iff.mp complete
    obtain ⟨others, later, complete⟩ := Option.bind_eq_some_iff.mp complete
    cases complete
    rw [List.filterMap_cons_some first, ih later]

theorem multiFile_of_declared {fileDict : BValue} {file : TorrentFile}
    (declared : declaredFile fileDict = some file) : multiFile fileDict = some file := by
  obtain ⟨entries, isDict, declared⟩ := Option.bind_eq_some_iff.mp declared
  obtain ⟨length, lengthRead, declared⟩ := Option.bind_eq_some_iff.mp declared
  obtain ⟨parts, pathRead, declared⟩ := Option.bind_eq_some_iff.mp declared
  obtain ⟨components, complete, declared⟩ := Option.bind_eq_some_iff.mp declared
  obtain ⟨⟨nonempty, nonnegative, small⟩, same⟩ := Option.ite_none_right_eq_some.mp declared
  cases same
  have lengthEq : dictInt (utf8 "length") entries = length.toNat := by
    rw [dictInt, lengthRead, Option.getD_some]
    unfold MachineInt.asU64
    omega
  rw [multiFile, isDict]
  simp only [Option.bind_eq_bind, Option.bind_some]
  rw [pathRead, Option.bind_some, filterMap_of_mapM complete, if_neg nonempty, lengthEq]

end DeclaredFiles

section Indices

def IndicesKept (files : List BValue) (kept : List TorrentFile) : Prop :=
  ∀ (index : Nat) (file : TorrentFile), kept[index]? = some file → files[index]?.bind declaredFile = some file

/-- Up to the last file that is kept, every file is declared in full. -/
def DeclaredInFull (files : List BValue) : Prop :=
  ∀ (later : Nat) (file : BValue), files[later]? = some file → (multiFile file).isSome →
    ∀ earlier ≤ later,
      (files[earlier]?.bind declaredFile).isSome

theorem declaredInFull_cons (file : BValue) (rest : List BValue) :
    DeclaredInFull (file :: rest) ↔
      ((multiFile file).isSome ∨ (∃ other ∈ rest, (multiFile other).isSome) →
        (declaredFile file).isSome) ∧ DeclaredInFull rest := by
  constructor
  · intro full
    refine ⟨?_, fun later other present isKept earlier before => ?_⟩
    · rintro (isKept | ⟨other, member, isKept⟩)
      · simpa using full 0 file rfl isKept 0 (Nat.le_refl _)
      · obtain ⟨index, present⟩ := List.getElem?_of_mem member
        simpa using full (index + 1) other (by simpa using present) isKept 0 (Nat.zero_le _)
    · simpa using full (later + 1) other (by simpa using present) isKept (earlier + 1) (by omega)
  · rintro ⟨first, others⟩ later other present isKept earlier before
    cases earlier with
    | zero =>
      have isFull : (declaredFile file).isSome := by
        cases later with
        | zero =>
          cases Option.some.inj present
          exact first (.inl isKept)
        | succ later =>
          exact first (.inr ⟨other, List.mem_of_getElem? (by simpa using present), isKept⟩)
      simpa using isFull
    | succ earlier =>
      cases later with
      | zero => omega
      | succ later =>
        simpa using others later other (by simpa using present) isKept earlier (by omega)

theorem indicesKept_iff (files : List BValue) :
    IndicesKept files (files.filterMap multiFile) ↔ DeclaredInFull files := by
  induction files with
  | nil =>
    refine ⟨fun _ later file present => ?_, fun _ index file present => ?_⟩
    · cases present
    · cases present
  | cons file rest ih =>
    rw [declaredInFull_cons, ← ih]
    cases taken : multiFile file with
    | some entry =>
      rw [List.filterMap_cons_some taken]
      constructor
      · intro indices
        have first : declaredFile file = some entry := by simpa using indices 0 entry rfl
        refine ⟨fun _ => by rw [first]; rfl, fun index other present => ?_⟩
        simpa using indices (index + 1) other (by simpa using present)
      · rintro ⟨first, others⟩ index other present
        cases index with
        | zero =>
          obtain ⟨declared, isDeclared⟩ := Option.isSome_iff_exists.mp (first (.inl rfl))
          have same := multiFile_of_declared isDeclared
          rw [taken] at same
          cases same
          cases present
          simpa using isDeclared
        | succ index => simpa using others index other (by simpa using present)
    | none =>
      have notDeclared : declaredFile file = none := by
        cases declared : declaredFile file with
        | none => rfl
        | some entry =>
          rw [multiFile_of_declared declared] at taken
          cases taken
      rw [List.filterMap_cons_none taken]
      constructor
      · intro indices
        cases found : rest.filterMap multiFile with
        | nil =>
          refine ⟨?_, fun index other present => nomatch present⟩
          rintro (isKept | ⟨other, member, isKept⟩)
          · cases isKept
          · rw [List.filterMap_eq_nil_iff.mp found other member] at isKept
            cases isKept
        | cons entry later =>
          have first := indices 0 entry (by rw [found]; rfl)
          simp [notDeclared] at first
      · rintro ⟨first, _⟩ index other present
        have member := List.mem_of_getElem? present
        obtain ⟨source, sourceMember, isKept⟩ := List.mem_filterMap.mp member
        have declared := first (.inr ⟨source, sourceMember, by rw [isKept]; rfl⟩)
        rw [notDeclared] at declared
        cases declared

end Indices

section Torrents

structure FilesKeepIndices (files : List BValue) (torrent : Torrent) : Prop where
  listed : IndicesKept files torrent.files
  stored : ∀ env, ∀ entry ∈ (torrentFound torrent).filterMap (indexed env), ∃ idx file,
    (storedItem env entry).fileIdx = some idx ∧ files[idx]?.bind declaredFile = some file ∧
      (storedItem env entry).path = utf8 "torrent:" ++ file.path

theorem files_of_accepted {bytes : Bytes} {torrent : Torrent} {files : List BValue}
    (accepted : parseTorrent bytes = .ok torrent) (multi : declaredFiles bytes = some files) :
    torrent.files = files.filterMap multiFile := by
  obtain ⟨⟨root, total⟩, parsed, accepted⟩ := bind_ok accepted
  obtain ⟨dict, isDict, accepted⟩ := bind_ok accepted
  obtain ⟨info, looked, accepted⟩ := bind_ok accepted
  obtain ⟨infoBytes, _, accepted⟩ := bind_ok accepted
  obtain ⟨infoDict, isInfo, accepted⟩ := bind_ok accepted
  have parsed := orMessage_ok parsed
  have isDict := orError_ok (orMessage_ok isDict)
  have looked := orError_ok (orMessage_ok looked)
  have isInfo := orError_ok (orMessage_ok isInfo)
  have sameFiles : declaredFiles bytes =
      (lookupKey (utf8 "files") infoDict).bind BValue.getList := by
    unfold declaredFiles
    rw [parsed]
    simp only [Except.toOption, Option.bind_eq_bind, Option.bind_some, isDict, looked, isInfo]
  cases accepted
  show torrentFiles infoDict _ = _
  rw [torrentFiles, ← sameFiles, multi]

theorem stored_of_listed {files : List BValue} {torrent : Torrent}
    (listed : IndicesKept files torrent.files) : FilesKeepIndices files torrent := by
  refine ⟨listed, fun env entry member => ?_⟩
  obtain ⟨found, foundMember, accepted⟩ := List.mem_filterMap.mp member
  obtain ⟨metadata, _, rfl⟩ := Option.map_eq_some_iff.mp accepted
  obtain ⟨⟨file, idx⟩, placed, rfl⟩ := List.mem_map.mp foundMember
  have present : torrent.files[idx]? = some file := by
    simpa using List.mem_zipIdx_iff_getElem?.mp placed
  exact ⟨idx, file, rfl, listed idx file present, rfl⟩

theorem filesKeepIndices_iff {bytes : Bytes} {torrent : Torrent} {files : List BValue}
    (accepted : parseTorrent bytes = .ok torrent) (multi : declaredFiles bytes = some files) :
    FilesKeepIndices files torrent ↔ DeclaredInFull files := by
  rw [← indicesKept_iff, ← files_of_accepted accepted multi]
  exact ⟨FilesKeepIndices.listed, stored_of_listed⟩

def twoFiles : Bytes :=
  utf8 "d4:infod5:filesld6:lengthi3e4:pathl1:aeed6:lengthi7e4:pathl1:b1:ceee4:name1:tee"

theorem ok_of_toOption {E A : Type} {result : Except E A} {value : A}
    (present : result.toOption = some value) : result = .ok value := by
  cases result with
  | error error => cases present
  | ok found => exact congrArg Except.ok (Option.some.inj present)

theorem twoFiles_keep_indices : ∃ torrent files, parseTorrent twoFiles = .ok torrent ∧
    declaredFiles twoFiles = some files ∧ FilesKeepIndices files torrent := by
  have parsed : (parseTorrent twoFiles).toOption.isSome := by decide +kernel
  have listed : (declaredFiles twoFiles).map (·.map fun file => (declaredFile file).isSome) =
      some [true, true] := by decide +kernel
  obtain ⟨torrent, accepted⟩ := Option.isSome_iff_exists.mp parsed
  obtain ⟨files, multi, complete⟩ := Option.map_eq_some_iff.mp listed
  refine ⟨torrent, files, ok_of_toOption accepted, multi,
    (filesKeepIndices_iff (ok_of_toOption accepted) multi).mpr ?_⟩
  intro later file present _ earlier before
  have inside := (List.getElem?_eq_some_iff.mp present).1
  obtain ⟨other, otherPresent⟩ : ∃ other, files[earlier]? = some other :=
    ⟨_, List.getElem?_eq_getElem (Nat.lt_of_le_of_lt before inside)⟩
  have flag : (files.map fun file => (declaredFile file).isSome)[earlier]? =
      some (declaredFile other).isSome := by rw [List.getElem?_map, otherPresent]; rfl
  rw [complete] at flag
  have isTrue := List.mem_of_getElem? flag
  rw [otherPresent]
  simpa using isTrue

/-- A file whose name is in an older encoding is skipped, and the next one takes its index. -/
def olderEncoding : Bytes :=
  utf8 "d4:infod5:filesld6:lengthi3e4:pathl1:" ++ [0xff] ++
    utf8 "eed6:lengthi7e4:pathl1:beee4:name1:tee"

theorem skipped_file_shifts_indices : ∃ torrent files, parseTorrent olderEncoding = .ok torrent ∧
    declaredFiles olderEncoding = some files ∧ ¬ FilesKeepIndices files torrent := by
  have parsed : (parseTorrent olderEncoding).toOption.map Torrent.files =
      some [⟨utf8 "b", 7⟩] := by decide +kernel
  have listed : (declaredFiles olderEncoding).map (·.map declaredFile) =
      some [none, some ⟨utf8 "b", 7⟩] := by decide +kernel
  obtain ⟨torrent, accepted, kept⟩ := Option.map_eq_some_iff.mp parsed
  obtain ⟨files, multi, declared⟩ := Option.map_eq_some_iff.mp listed
  refine ⟨torrent, files, ok_of_toOption accepted, multi, ?_⟩
  rintro ⟨indices, _⟩
  have first := indices 0 ⟨utf8 "b", 7⟩ (by rw [kept]; rfl)
  have absent : (files.map declaredFile)[0]?.join = some ⟨utf8 "b", 7⟩ := by
    rw [List.getElem?_map]
    cases found : files[0]? with
    | none => rw [found] at first; cases first
    | some file => rw [found] at first; exact first
  rw [declared] at absent
  cases absent

end Torrents

end StreamServer.LocalAddon
