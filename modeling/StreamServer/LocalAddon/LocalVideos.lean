import StreamServer.LocalAddon.BencodeGrammar
import StreamServer.LocalAddon.LocalIndex
import StreamServer.Proxy.Request

set_option autoImplicit false

namespace StreamServer.LocalAddon

open ByteText Decimals

section Handlers

structure EngineFiles where
  name : Bytes
  files : List Bytes
deriving DecidableEq, Repr

/-- What the handlers use beside the index: the engine by info hash, and two library functions. -/
structure Server where
  baseUrl : Bytes
  engine : Bytes → Option EngineFiles
  toLowercase : Bytes → Bytes
  urlEncode : Bytes → Bytes

structure Video where
  id : Bytes
  title : Option Bytes
  season : Option Int32
  episode : Option Int32
  released : Bytes
  stream : Option (Bytes × Nat)
deriving DecidableEq, Repr

structure Meta where
  id : Bytes
  type : Bytes
  name : Option Bytes
  description : Option Bytes
  showAsVideos : Bool
  videos : List Video
deriving DecidableEq, Repr

inductive Stream where
  | torrent (title infoHash : Bytes) (fileIdx : Nat)
  | archive (title url bingeGroup : Bytes)
  | file (title url : Bytes)
deriving DecidableEq, Repr

def withoutJson (idExt : Bytes) : Bytes :=
  if utf8 ".json" <:+ idExt then idExt.take (idExt.length - (utf8 ".json").length) else idExt

def seasonOr (metadata : VideoMetadata) : Int32 := metadata.season.getD 1

def episodeOr (metadata : VideoMetadata) : Int32 := (metadata.episode.map Episodes.first).getD 1

def videoId (id : Bytes) (metadata : VideoMetadata) : Bytes :=
  id ++ 58 :: (decimalInt (seasonOr metadata).toInt ++ 58 :: decimalInt (episodeOr metadata).toInt)

def localVideo (id : Bytes) (item : IndexItem) : Video :=
  { id := videoId id item.metadata
    title := item.metadata.name
    season := some (seasonOr item.metadata)
    episode := some (episodeOr item.metadata)
    released := decimalInt (item.metadata.year.getD 2020).toInt
    stream := none }

def handleMeta (server : Server) (index : LocalIndex) (type idExt : Bytes) : Option Meta :=
  let id := withoutJson idExt
  if startsWith (utf8 "bt:") id then
    let infoHash := server.toLowercase (id.drop (utf8 "bt:").length)
    (server.engine infoHash).map fun stats =>
      { id := id
        type := type
        name := some (if stats.name = [] then utf8 "Torrent" else stats.name)
        description := some (utf8 "Torrent stream")
        showAsVideos := true
        videos := stats.files.zipIdx.map fun (name, idx) =>
          { id := id ++ 58 :: decimal idx
            title := some name
            season := none
            episode := none
            released := utf8 "2020-01-01T00:00:00.000Z"
            stream := some (infoHash, idx) } }
  else
    match index.items id with
    | [] => none
    | first :: rest =>
        some
          { id := id
            type := type
            name := first.metadata.name
            description := none
            showAsVideos := false
            videos := (first :: rest).map (localVideo id) }

def parseI32 (text : Bytes) : Option Int32 :=
  ((parseI64 text).filter fun value => -2 ^ 31 ≤ value ∧ value < 2 ^ 31).map Int32.ofInt

/-- Without a season the request is for a film, and the first item is taken. -/
def isRequested (season episode : Option Int32) (metadata : VideoMetadata) : Bool :=
  if season.isSome then
    metadata.season = season &&
      ((metadata.episode.map fun episodes => episodes.toList.contains (episode.getD 1)).getD false)
  else true

def matchedItem (index : LocalIndex) (parts : List Bytes) : Option IndexItem :=
  let baseId := parts.getD 0 [] ++ 58 :: parts.getD 1 []
  let targetSeason := parts[2]?.bind parseI32
  let targetEpisode := parts[3]?.bind parseI32
  (index.items baseId).find? fun item => isRequested targetSeason targetEpisode item.metadata

def archiveUrl (server : Server) (archive entry : Bytes) : Bytes :=
  server.baseUrl ++ utf8 "/zip/stream?archive=" ++ server.urlEncode archive ++ utf8 "&file=" ++
    server.urlEncode entry

def fileStream (item : IndexItem) : Stream := .file (utf8 "Local File") (utf8 "file://" ++ item.path)

def itemStream (server : Server) (item : IndexItem) : Stream :=
  match item.infoHash, item.fileIdx with
  | some infoHash, some fileIdx =>
      .torrent (item.metadata.name.getD (utf8 "Torrent File")) infoHash fileIdx
  | _, _ =>
      if startsWith (utf8 "archive:") item.path then
        match splitOnce 124 (item.path.drop (utf8 "archive:").length) with
        | some (archive, entry) =>
            .archive (item.metadata.name.getD (utf8 "Archive File")) (archiveUrl server archive entry)
              (utf8 "archive:" ++ archive)
        | none => fileStream item
      else fileStream item

def handleStream (server : Server) (index : LocalIndex) (idExt : Bytes) : List Stream :=
  let parts := (withoutJson idExt).splitOn 58
  if parts.length < 2 then []
  else if parts.getD 0 [] = utf8 "bt" then
    let infoHash := server.toLowercase (parts.getD 1 [])
    let fileIdx := (parts[2]?.bind parseU64).getD 0
    match server.engine infoHash with
    | some stats => [.torrent (stats.files.getD fileIdx (utf8 "Unknown")) infoHash fileIdx]
    | none => []
  else (matchedItem index parts).toList.map (itemStream server)

end Handlers

section Requests

theorem withoutJson_json (id : Bytes) : withoutJson (id ++ utf8 ".json") = id := by
  rw [withoutJson, if_pos (List.suffix_append ..), List.length_append, Nat.add_sub_cancel,
    List.take_left]

theorem decimalInt_last (number : Int) :
    ∃ digit, (decimalInt number).getLast? = some digit ∧ isAsciiDigit digit = true := by
  have last : ∀ number : Nat, ∃ digit, (decimal number).getLast? = some digit ∧
      isAsciiDigit digit = true := by
    intro number
    refine ⟨(decimal number).getLast decimal_ne_nil, List.getLast?_eq_some_getLast _, ?_⟩
    exact isAsciiDigit_of_mem_decimal (List.getLast_mem _)
  unfold decimalInt
  split
  next =>
    obtain ⟨digit, found, isDigit⟩ := last number.natAbs
    exact ⟨digit, by rw [List.getLast?_cons, found]; rfl, isDigit⟩
  next => exact last _

theorem withoutJson_videoId (id : Bytes) (metadata : VideoMetadata) :
    withoutJson (videoId id metadata) = videoId id metadata := by
  obtain ⟨digit, last, isDigit⟩ := decimalInt_last (episodeOr metadata).toInt
  rw [withoutJson, if_neg]
  rintro ⟨before, same⟩
  have written : (videoId id metadata).getLast? = some digit := by
    simp [videoId, List.getLast?_append, List.getLast?_cons, last]
  rw [← same, List.getLast?_append] at written
  cases Option.some.inj written
  cases isDigit

theorem parseI32_decimalInt (number : Int32) : parseI32 (decimalInt number.toInt) = some number := by
  have low := number.le_toInt
  have high := number.toInt_lt
  rw [parseI32, parseI64_decimalInt (by omega) (by omega), Option.filter_some, if_pos (by simpa using ⟨low, high⟩),
    Option.map_some, Int32.ofInt_toInt]

def localScheme : Bytes := utf8 "local"

def localKey (name : Bytes) : Bytes := localScheme ++ 58 :: name

theorem colon_notMem_decimalInt (number : Int) : (58 : UInt8) ∉ decimalInt number := by
  have digits : ∀ number : Nat, (58 : UInt8) ∉ decimal number := fun number member =>
    absurd (isAsciiDigit_of_mem_decimal member) (by decide)
  unfold decimalInt
  split
  next =>
    simp only [List.mem_cons, not_or]
    exact ⟨by decide, digits _⟩
  next => exact digits _

theorem split_localKey (name rest : Bytes) (plain : 58 ∉ name) :
    (localKey name ++ 58 :: rest).splitOn 58 = localScheme :: name :: rest.splitOn 58 := by
  have noColon : (58 : UInt8) ∉ localScheme := by decide
  rw [localKey, List.append_assoc, List.cons_append,
    List.splitOn_append_cons_self_of_not_mem noColon, List.splitOn_append_cons_self_of_not_mem plain]

theorem split_videoId (name : Bytes) (metadata : VideoMetadata) (plain : 58 ∉ name) :
    (videoId (localKey name) metadata).splitOn 58 =
      [localScheme, name, decimalInt (seasonOr metadata).toInt,
        decimalInt (episodeOr metadata).toInt] := by
  rw [videoId, split_localKey _ _ plain,
    List.splitOn_append_cons_self_of_not_mem (colon_notMem_decimalInt _),
    List.splitOn_eq_singleton (colon_notMem_decimalInt _)]

end Requests

section Playback

variable {server : Server} {env : ScanEnv} {entries : List (Found × VideoMetadata)}

abbrev contents (env : ScanEnv) (entries : List (Found × VideoMetadata)) : LocalIndex :=
  insertAll env .new entries

structure Covers (metadata : VideoMetadata) (season episode : Int32) : Prop where
  season : seasonOr metadata = season
  episode : episode ∈ (metadata.episode.map Episodes.toList).getD [1]

/-- What was indexed from an archive is served from that archive and that entry. -/
def NamesSource (server : Server) (env : ScanEnv) (entries : List (Found × VideoMetadata))
    (item : IndexItem) : Prop :=
  ∀ archive entry metadata, (Found.archiveEntry archive entry, metadata) ∈ entries →
    storedItem env (.archiveEntry archive entry, metadata) = item →
      ∃ title group, itemStream server item = .archive title (archiveUrl server archive entry) group

structure CanBePlayed (server : Server) (env : ScanEnv) (entries : List (Found × VideoMetadata))
    (id : Bytes) (entry : Found × VideoMetadata) : Prop where
  advertised : ∀ type, ∃ info,
    handleMeta server (contents env entries) type (id ++ utf8 ".json") = some info ∧
      localVideo id (storedItem env entry) ∈ info.videos
  played : ∀ request ∈ [videoId id entry.2, videoId id entry.2 ++ utf8 ".json"],
    ∃ item ∈ (contents env entries).items id,
      handleStream server (contents env entries) request = [itemStream server item] ∧
      matchedItem (contents env entries) ((withoutJson request).splitOn 58) = some item ∧
      Covers item.metadata (seasonOr entry.2) (episodeOr entry.2) ∧
      NamesSource server env entries item

/-- The item states the season and lists the episode, with no default in their place. -/
def States (season episode : Int32) (metadata : VideoMetadata) : Bool :=
  metadata.season = some season &&
    (metadata.episode.map fun episodes => episodes.toList.contains episode).getD false

-- The id ends at its own colon, an item states what is advertised, and the first such item is not
-- from an archive whose path holds the separator.
def Playable (env : ScanEnv) (entries : List (Found × VideoMetadata)) (name : Bytes)
    (metadata : VideoMetadata) : Prop :=
  58 ∉ name ∧ ∃ item, ((contents env entries).items (localKey name)).find?
      (fun item => States (seasonOr metadata) (episodeOr metadata) item.metadata) = some item ∧
    ∀ archive entry metadata, (Found.archiveEntry archive entry, metadata) ∈ entries →
      storedItem env (.archiveEntry archive entry, metadata) = item → 124 ∉ archive

/-- The URL encoding writes no separator of a query, and it can be undone. -/
structure Server.LawfulUrl (server : Server) : Prop where
  noAmpersand : ∀ text, 38 ∉ server.urlEncode text
  injective : Function.Injective server.urlEncode

theorem contents_items (key : Bytes) : (contents env entries).items key =
    (entries.filter fun entry => entryKey env entry = key).map (storedItem env) := by
  rw [contents, insertAll_items]
  rfl

theorem id_of_mem_contents {key : Bytes} {item : IndexItem}
    (member : item ∈ (contents env entries).items key) : item.id = key := by
  rw [contents_items] at member
  obtain ⟨entry, kept, rfl⟩ := List.mem_map.mp member
  exact of_decide_eq_true (List.mem_filter.mp kept).2

theorem archiveUrl_injective (lawful : server.LawfulUrl) {archive entry other inner : Bytes}
    (same : archiveUrl server archive entry = archiveUrl server other inner) :
    archive = other ∧ entry = inner := by
  simp only [archiveUrl, List.append_assoc, List.append_cancel_left_eq] at same
  have shape : ∀ text rest, server.urlEncode text ++ (utf8 "&file=" ++ rest) =
      server.urlEncode text ++ 38 :: (utf8 "file=" ++ rest) := fun _ _ => rfl
  have split := congrArg (splitOnce 38) same
  rw [shape, shape, splitOnce_append (lawful.noAmpersand _), splitOnce_append (lawful.noAmpersand _)]
    at split
  obtain ⟨left, right⟩ := Prod.mk.inj (Option.some.inj split)
  exact ⟨lawful.injective left, lawful.injective (List.append_cancel_left right)⟩

theorem itemStream_local {item : IndexItem} (noHash : item.infoHash = none) :
    itemStream server item =
      if startsWith (utf8 "archive:") item.path then
        match splitOnce 124 (item.path.drop (utf8 "archive:").length) with
        | some (archive, entry) =>
            .archive (item.metadata.name.getD (utf8 "Archive File")) (archiveUrl server archive entry)
              (utf8 "archive:" ++ archive)
        | none => fileStream item
      else fileStream item := by
  unfold itemStream
  rw [noHash]

theorem itemStream_archive (archive entry : Bytes) (metadata : VideoMetadata) :
    itemStream server (storedItem env (.archiveEntry archive entry, metadata)) =
      match splitOnce 124 (archive ++ 124 :: entry) with
      | some (left, right) =>
          .archive (metadata.name.getD (utf8 "Archive File")) (archiveUrl server left right)
            (utf8 "archive:" ++ left)
      | none => fileStream (storedItem env (.archiveEntry archive entry, metadata)) := by
  have path : (storedItem env (.archiveEntry archive entry, metadata)).path =
      utf8 "archive:" ++ (archive ++ 124 :: entry) := by
    show utf8 "archive:" ++ archive ++ utf8 "|" ++ entry = _
    rw [List.append_assoc, List.append_assoc]
    rfl
  have isArchive : startsWith (utf8 "archive:") (utf8 "archive:" ++ (archive ++ 124 :: entry)) =
      true := List.isPrefixOf_iff_prefix.mpr (List.prefix_append ..)
  rw [itemStream_local rfl, path, if_pos isArchive, List.drop_left]
  rfl

theorem names_archive_iff (lawful : server.LawfulUrl) (archive entry : Bytes)
    (metadata : VideoMetadata) :
    (∃ title group, itemStream server (storedItem env (.archiveEntry archive entry, metadata)) =
      .archive title (archiveUrl server archive entry) group) ↔ 124 ∉ archive := by
  rw [itemStream_archive]
  constructor
  · rintro ⟨title, group, streamed⟩ present
    split at streamed
    next left right split =>
      obtain ⟨joined, absent⟩ := splitOnce_some split
      obtain ⟨-, sameUrl, -⟩ := Stream.archive.inj streamed
      obtain ⟨rfl, -⟩ := archiveUrl_injective lawful sameUrl
      exact absent present
    next =>
      cases streamed
  · intro absent
    rw [splitOnce_append absent]
    exact ⟨_, _, rfl⟩

theorem covers_of_states {metadata : VideoMetadata} {season episode : Int32}
    (states : States season episode metadata = true) : Covers metadata season episode := by
  simp only [States, Bool.and_eq_true, decide_eq_true_eq] at states
  obtain ⟨sameSeason, listed⟩ := states
  refine ⟨by rw [seasonOr, sameSeason]; rfl, ?_⟩
  cases episodes : metadata.episode with
  | none =>
    rw [episodes] at listed
    cases listed
  | some episodes =>
    rw [episodes] at listed
    simpa using listed

theorem matchedItem_videoId (index : LocalIndex) {name : Bytes} (plain : 58 ∉ name)
    (metadata : VideoMetadata) :
    matchedItem index ((videoId (localKey name) metadata).splitOn 58) =
      (index.items (localKey name)).find? fun item =>
        States (seasonOr metadata) (episodeOr metadata) item.metadata := by
  rw [split_videoId name metadata plain]
  show (index.items (localKey name)).find? (fun item => isRequested
    (parseI32 (decimalInt (seasonOr metadata).toInt))
    (parseI32 (decimalInt (episodeOr metadata).toInt)) item.metadata) = _
  rw [parseI32_decimalInt, parseI32_decimalInt]
  rfl

theorem notMem_of_colon {name : Bytes} {metadata : VideoMetadata} {item : IndexItem}
    (matched : matchedItem (contents env entries)
      ((videoId (localKey name) metadata).splitOn 58) = some item)
    (member : item ∈ (contents env entries).items (localKey name)) : 58 ∉ name := by
  intro present
  obtain ⟨before, after, rfl, absent⟩ := List.eq_append_cons_of_mem present
  have written : videoId (localKey (before ++ 58 :: after)) metadata =
      localKey before ++ 58 :: (after ++ 58 :: (decimalInt (seasonOr metadata).toInt ++
        58 :: decimalInt (episodeOr metadata).toInt)) := by
    simp [videoId, localKey]
  rw [written, split_localKey before _ absent] at matched
  have found : item ∈ (contents env entries).items (localKey before) :=
    List.mem_of_find?_eq_some matched
  have sameKey := (id_of_mem_contents found).symm.trans (id_of_mem_contents member)
  simp [localKey] at sameKey

theorem handleStream_local {index : LocalIndex} {request : Bytes} {parts : List Bytes}
    (split : (withoutJson request).splitOn 58 = localScheme :: parts) (some : parts ≠ []) :
    handleStream server index request =
      (matchedItem index (localScheme :: parts)).toList.map (itemStream server) := by
  have long : ¬ (localScheme :: parts).length < 2 := by
    have := List.length_pos_of_ne_nil some
    simp only [List.length_cons]
    omega
  have notTorrent : (localScheme :: parts).getD 0 [] ≠ utf8 "bt" := by
    show localScheme ≠ utf8 "bt"
    decide
  unfold handleStream
  rw [split]
  simp only
  rw [if_neg long, if_neg notTorrent]

theorem handleMeta_local {entry : Found × VideoMetadata} {name : Bytes} (type : Bytes)
    (member : entry ∈ entries) (under : entryKey env entry = localKey name) :
    ∃ info, handleMeta server (contents env entries) type (localKey name ++ utf8 ".json") =
        some info ∧ localVideo (localKey name) (storedItem env entry) ∈ info.videos := by
  have notTorrent : startsWith (utf8 "bt:") (localKey name) = false := rfl
  have stored : storedItem env entry ∈ (contents env entries).items (localKey name) := by
    rw [contents_items]
    exact List.mem_map_of_mem (List.mem_filter.mpr ⟨member, by simpa using under⟩)
  unfold handleMeta
  rw [withoutJson_json]
  simp only [notTorrent, Bool.false_eq_true, if_false]
  cases items : (contents env entries).items (localKey name) with
  | nil =>
    rw [items] at stored
    cases stored
  | cons first rest =>
    rw [items] at stored
    exact ⟨_, rfl, List.mem_map_of_mem stored⟩

theorem namesSource_iff (lawful : server.LawfulUrl) (item : IndexItem) :
    NamesSource server env entries item ↔
      ∀ archive entry metadata, (Found.archiveEntry archive entry, metadata) ∈ entries →
        storedItem env (.archiveEntry archive entry, metadata) = item → 124 ∉ archive := by
  unfold NamesSource
  refine forall_congr' fun archive => forall_congr' fun entry => forall_congr' fun metadata =>
    forall_congr' fun _ => forall_congr' fun same => ?_
  subst same
  exact names_archive_iff lawful archive entry metadata

theorem canBePlayed_iff (lawful : server.LawfulUrl) {name : Bytes} {entry : Found × VideoMetadata}
    (member : entry ∈ entries) (under : entryKey env entry = localKey name) :
    CanBePlayed server env entries (localKey name) entry ↔ Playable env entries name entry.2 := by
  constructor
  · intro playable
    obtain ⟨item, listed, -, matched, -, names⟩ := playable.played _ (List.mem_cons_self ..)
    rw [withoutJson_videoId] at matched
    have plain := notMem_of_colon matched listed
    rw [matchedItem_videoId _ plain] at matched
    exact ⟨plain, item, matched, (namesSource_iff lawful item).mp names⟩
  · rintro ⟨plain, item, found, names⟩
    refine ⟨fun type => handleMeta_local type member under, ?_⟩
    intro request requested
    have bare : withoutJson request = videoId (localKey name) entry.2 := by
      simp only [List.mem_cons, List.not_mem_nil, or_false] at requested
      rcases requested with rfl | rfl
      · exact withoutJson_videoId _ _
      · exact withoutJson_json _
    have matched : matchedItem (contents env entries) ((withoutJson request).splitOn 58) =
        some item := by
      rw [bare, matchedItem_videoId _ plain, found]
    have split := split_videoId name entry.2 plain
    rw [← bare] at split
    refine ⟨item, List.mem_of_find?_eq_some found, ?_, matched, ?_, (namesSource_iff lawful item).mpr names⟩
    · rw [handleStream_local split (by simp), ← split, matched]
      rfl
    · have states := List.find?_some found
      exact covers_of_states states

def exampleServer : Server where
  baseUrl := utf8 "http://127.0.0.1:11470"
  engine _ := none
  toLowercase text := text.map toAsciiLowercase
  urlEncode := Proxy.percentEncoded

theorem exampleServer_lawful : exampleServer.LawfulUrl where
  noAmpersand := Proxy.notMem_percentEncoded (by decide) (by decide)
  injective first second same := by
    have decoded := congrArg (Proxy.percentDecodeBytes false) same
    simpa [exampleServer, Proxy.percentDecodeBytes_encoded] using decoded

def emptyDisk : ScanEnv where
  isTorrent _ := false
  isArchive _ := false
  read _ := none
  listFiles _ := none
  parseFilename _ := none
  resolveImdb _ _ _ := none
  pathHash _ := 7

def showEntry : Found × VideoMetadata :=
  (.archiveEntry (utf8 "/v/show.zip") (utf8 "show.s01e02.mkv"),
    ⟨some (utf8 "show"), none, some 1, some ⟨2, []⟩, utf8 "series", none⟩)

/-- A disk with one archive, which holds one episode. -/
def showDisk : ScanEnv :=
  { emptyDisk with
    isArchive := fun path => path = utf8 "/v/show.zip"
    listFiles := fun _ => some [(utf8 "show.s01e02.mkv", false)]
    parseFilename := fun _ => some showEntry.2 }

theorem show_can_be_played :
    scanBackground showDisk [utf8 "/v/show.zip"] .new = contents showDisk [showEntry] ∧
      CanBePlayed exampleServer showDisk [showEntry] (localKey (utf8 "7")) showEntry := by
  have scanned : ([utf8 "/v/show.zip"].flatMap fun path =>
      ((foundIn showDisk path).getD []).filterMap (indexed showDisk)) = [showEntry] := by
    decide +kernel
  have listed : (contents showDisk [showEntry]).items (localKey (utf8 "7")) =
      [storedItem showDisk showEntry] := by
    rw [contents_items]
    decide +kernel
  constructor
  · rw [scanBackground_whole _ (by decide +kernel), scanned]
  refine (canBePlayed_iff exampleServer_lawful (List.mem_singleton.mpr rfl)
    (by decide +kernel)).mpr ⟨by decide, storedItem showDisk showEntry, ?_, ?_⟩
  · rw [listed]
    decide +kernel
  · intro archive entry metadata member _
    cases List.mem_singleton.mp member
    decide

/-- A film has no season and no episode; the request for its advertised id asks for both. -/
def filmEntry : Found × VideoMetadata :=
  (.file (utf8 "/v/film.2019.mkv"),
    ⟨some (utf8 "film"), some 2019, none, none, utf8 "movie", none⟩)

theorem film_cannot_be_played :
    ¬ CanBePlayed exampleServer emptyDisk [filmEntry] (localKey (utf8 "7")) filmEntry := by
  intro playable
  obtain ⟨item, -, -, matched, -⟩ := playable.played _ (List.mem_cons_self ..)
  rw [withoutJson_videoId, matchedItem_videoId _ (by decide), contents_items] at matched
  have missed : ((([filmEntry].filter fun entry => entryKey emptyDisk entry = localKey (utf8 "7")).map
      (storedItem emptyDisk)).find? fun item =>
        States (seasonOr filmEntry.2) (episodeOr filmEntry.2) item.metadata) = none := by
    decide +kernel
  rw [missed] at matched
  cases matched

end Playback

end StreamServer.LocalAddon
