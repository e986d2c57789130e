import Mathlib.Logic.Function.Basic
import StreamServer.Playback.DiskStream
import StreamServer.Playback.StreamSeek
import StreamServer.Shared.ByteText

set_option autoImplicit false

namespace StreamServer.Playback

open ByteText MachineInt

structure PieceCacheConfig where
  -- 0 is unlimited.
  maxMemoryBytes : Nat
  diskCacheEnabled : Bool
deriving DecidableEq, Repr

-- The pieces of one torrent: those in memory, those in files as a read finds them, and the writes
-- of files that are under way.
structure PieceCacheManager where
  config : PieceCacheConfig
  cache : Int → Option Bytes
  files : Int → Option Bytes
  writing : List (Int × Bytes)

namespace PieceCacheManager

def new (config : PieceCacheConfig) : PieceCacheManager := ⟨config, fun _ => none, fun _ => none, []⟩

def insert (manager : PieceCacheManager) (piece : Int) (data : Bytes) : PieceCacheManager :=
  { manager with cache := Function.update manager.cache piece (some data) }

def putPieceNow (manager : PieceCacheManager) (piece : Int) (data : Bytes) : PieceCacheManager :=
  let stored := manager.insert piece data
  if manager.config.diskCacheEnabled ∧ 0 < manager.config.maxMemoryBytes then
    { stored with writing := stored.writing ++ [(piece, data)] }
  else stored

def getCachedPiece (manager : PieceCacheManager) (piece : Int) : Option Bytes := manager.cache piece

def getPiece (manager : PieceCacheManager) (piece : Int) : Option Bytes × PieceCacheManager :=
  match manager.cache piece with
  | some data => (some data, manager)
  | none =>
      if manager.config.diskCacheEnabled then
        match manager.files piece with
        | some data => (some data, manager.insert piece data)
        | none => (none, manager)
      else (none, manager)

/-- The cache drops a piece when it is full, when the piece is idle, or at once. -/
def evict (manager : PieceCacheManager) (piece : Int) : PieceCacheManager :=
  { manager with cache := Function.update manager.cache piece none }

/-- A write of a file empties it, puts the first bytes into it, and is over once all are there. -/
def writeFile (manager : PieceCacheManager) (index length : Nat) : Option PieceCacheManager :=
  manager.writing[index]?.map fun (piece, data) =>
    { manager with
      files := Function.update manager.files piece (some (data.take length))
      writing := if data.length ≤ length then manager.writing.eraseIdx index else manager.writing }

def abandonFile (manager : PieceCacheManager) (index : Nat) : PieceCacheManager :=
  { manager with writing := manager.writing.eraseIdx index }

def clearTorrent (manager : PieceCacheManager) : PieceCacheManager :=
  { manager with cache := fun _ => none }

/-- Where the disk cache is on, a cleared torrent loses its files later. -/
def removeFile (manager : PieceCacheManager) (piece : Int) : PieceCacheManager :=
  { manager with files := Function.update manager.files piece none }

-- Whatever is kept of a piece is how its bytes start, in memory, in a file and on its way there.
structure Genuine (content : Int → Bytes) (manager : PieceCacheManager) : Prop where
  cache : ∀ piece data, manager.cache piece = some data → data <+: content piece
  files : ∀ piece data, manager.files piece = some data → data <+: content piece
  writing : ∀ entry ∈ manager.writing, entry.2 <+: content entry.1

section Genuine

variable {content : Int → Bytes} {manager : PieceCacheManager}

theorem genuine_update {tier : Int → Option Bytes} {piece : Int} {entry : Option Bytes}
    (genuine : ∀ piece data, tier piece = some data → data <+: content piece)
    (starts : ∀ data, entry = some data → data <+: content piece) :
    ∀ other data, Function.update tier piece entry other = some data → data <+: content other := by
  intro other data kept
  by_cases same : other = piece
  · subst same
    rw [Function.update_self] at kept
    exact starts data kept
  · rw [Function.update_of_ne same] at kept
    exact genuine other data kept

theorem Genuine.insert (genuine : Genuine content manager) {piece : Int} {data : Bytes}
    (starts : data <+: content piece) : Genuine content (manager.insert piece data) where
  cache := genuine_update genuine.cache fun _ same => Option.some.inj same ▸ starts
  files := genuine.files
  writing := genuine.writing

theorem Genuine.putPieceNow (genuine : Genuine content manager) {piece : Int} {data : Bytes}
    (starts : data <+: content piece) : Genuine content (manager.putPieceNow piece data) := by
  have stored := genuine.insert starts
  unfold PieceCacheManager.putPieceNow
  split
  next =>
    refine ⟨stored.cache, stored.files, fun entry member => ?_⟩
    rcases List.mem_append.mp member with earlier | last
    · exact stored.writing entry earlier
    · rw [List.mem_singleton.mp last]
      exact starts
  next => exact stored

theorem Genuine.getPiece (genuine : Genuine content manager) (piece : Int) :
    (∀ data, (manager.getPiece piece).1 = some data → data <+: content piece) ∧
      Genuine content (manager.getPiece piece).2 := by
  unfold PieceCacheManager.getPiece
  split
  next data kept => exact ⟨fun _ same => Option.some.inj same ▸ genuine.cache piece data kept, genuine⟩
  next =>
    split
    next =>
      split
      next data kept =>
        have starts := genuine.files piece data kept
        exact ⟨fun _ same => Option.some.inj same ▸ starts, genuine.insert starts⟩
      next => exact ⟨fun _ impossible => (by cases impossible), genuine⟩
    next => exact ⟨fun _ impossible => (by cases impossible), genuine⟩

theorem Genuine.evict (genuine : Genuine content manager) (piece : Int) :
    Genuine content (manager.evict piece) where
  cache := genuine_update genuine.cache fun _ impossible => by cases impossible
  files := genuine.files
  writing := genuine.writing

theorem Genuine.writeFile {written : PieceCacheManager} (genuine : Genuine content manager)
    {index length : Nat} (wrote : manager.writeFile index length = some written) :
    Genuine content written := by
  obtain ⟨⟨piece, data⟩, found, rfl⟩ := Option.map_eq_some_iff.mp wrote
  have starts := genuine.writing _ (List.mem_of_getElem? found)
  refine ⟨genuine.cache, genuine_update genuine.files ?_, fun entry member => ?_⟩
  · intro _ same
    rw [← Option.some.inj same]
    exact (List.take_prefix length data).trans starts
  · simp only at member
    split at member
    next => exact genuine.writing entry (List.mem_of_mem_eraseIdx member)
    next => exact genuine.writing entry member

theorem Genuine.abandonFile (genuine : Genuine content manager) (index : Nat) :
    Genuine content (manager.abandonFile index) where
  cache := genuine.cache
  files := genuine.files
  writing entry member := genuine.writing entry (List.mem_of_mem_eraseIdx member)

theorem Genuine.clearTorrent (genuine : Genuine content manager) :
    Genuine content manager.clearTorrent where
  cache _ _ kept := by cases kept
  files := genuine.files
  writing := genuine.writing

theorem Genuine.removeFile (genuine : Genuine content manager) (piece : Int) :
    Genuine content (manager.removeFile piece) where
  cache := genuine.cache
  files := genuine_update genuine.files fun _ impossible => by cases impossible
  writing := genuine.writing

end Genuine

end PieceCacheManager

structure MemoryFileStream extends LibtorrentFileStream where
  cachedPieceData : Option (Int × Bytes)
  -- When a piece was asked for, in milliseconds.
  requestedPieceViaApi : Int → Option Nat
  diskLookup : Option Int
  diskLookupMiss : Option Int

inductive DiskLookupPoll where
  | pending
  | finished (found : Option Bytes)
  | cancelled
  | panicked
deriving DecidableEq, Repr

structure MemoryPollContext where
  cancelled : Bool
  remaining : Nat
  swarm : SwarmReading
  lookup : DiskLookupPoll
  havePiece : Bool
  direct : Bytes
  now : Nat

/-- What a poll does besides. -/
inductive MemoryPollEffect where
  | prioritise (context : PriorityContext)
  | abortLookup (piece : Int)
  | spawnLookup (piece : Int)
  | wake
  | registerWaiter (piece : Int)
  | notifyPieceFinished (piece : Int)
  | scheduleRetry (milliseconds : Nat)

structure MemoryPollOutcome where
  poll : ReadPoll
  stream : MemoryFileStream
  cache : PieceCacheManager
  effects : List MemoryPollEffect

def satSucc (count : UInt32) : UInt32 := if count + 1 = 0 then count else count + 1

namespace MemoryFileStream

variable (stream : MemoryFileStream) (cache : PieceCacheManager) (context : MemoryPollContext)
  (piece : Int) (effects : List MemoryPollEffect)

def pieceOf : Int :=
  if stream.pieceLength = 0 then -1
  else asI32 (satAdd stream.fileOffset.toNat stream.currentPos.toNat / stream.pieceLength.toNat)

def offsetInPiece : Nat :=
  ((stream.fileOffset + stream.currentPos) % stream.pieceLength).toNat

def remainingFile : Nat := stream.fileSize.toNat - stream.currentPos.toNat

def localPiece : Option Bytes :=
  stream.cachedPieceData.bind fun (cachedPiece, data) => if cachedPiece = piece then some data else none

def toRead (data : Bytes) (remaining : Nat) : Nat :=
  min (min remaining (data.length - stream.offsetInPiece)) stream.remainingFile

def advanced (length : Nat) : MemoryFileStream :=
  if 0 < length then
    { stream with
      currentPos := stream.currentPos + length.toUInt64
      consecutiveWaits := 0
      firstReadLogged := true }
  else stream

def forgetRequest : MemoryFileStream :=
  { stream with requestedPieceViaApi := Function.update stream.requestedPieceViaApi piece none }

def putSlice (data : Bytes) (remaining : Nat) : ReadPoll :=
  .ready (slice data stream.offsetInPiece (stream.offsetInPiece + stream.toRead data remaining))

def serveLocal (data : Bytes) : MemoryPollOutcome :=
  ⟨stream.putSlice data context.remaining,
    (stream.advanced (stream.toRead data context.remaining)).forgetRequest piece, cache, effects⟩

def serveCached (data : Bytes) : MemoryPollOutcome :=
  let kept := { stream.forgetRequest piece with
    diskLookupMiss := none
    cachedPieceData := some (piece, data) }
  ⟨stream.putSlice data context.remaining, kept.advanced (stream.toRead data context.remaining), cache,
    effects⟩

def waiting : MemoryFileStream := { stream with consecutiveWaits := satSucc stream.consecutiveWaits }

def requestedAt (now : Nat) : MemoryFileStream :=
  { stream with requestedPieceViaApi := Function.update stream.requestedPieceViaApi piece (some now) }

/-- Pieces are read back from libtorrent's memory, where they are once downloaded. -/
def readDirect : PieceCacheManager × List MemoryPollEffect :=
  if context.direct = [] then (cache, [])
  else (cache.putPieceNow piece context.direct, [.notifyPieceFinished piece])

def pollMissing : MemoryPollOutcome :=
  if !context.havePiece then
    ⟨.pending, stream.waiting, cache, effects ++ [.registerWaiter piece, .scheduleRetry 50]⟩
  else
    let (stored, notified) := readDirect cache context piece
    match stream.requestedPieceViaApi piece with
    | none =>
        if context.direct = [] then
          ⟨.pending, stream.waiting, cache, effects ++ [.registerWaiter piece, .scheduleRetry 10]⟩
        else
          ⟨.pending, { stream.requestedAt piece context.now with diskLookupMiss := none }, stored,
            effects ++ notified ++ [.scheduleRetry 10]⟩
    | some requested =>
        if 250 < context.now - requested then
          ⟨.pending, stream.waiting.requestedAt piece context.now, stored,
            effects ++ notified ++ [.registerWaiter piece, .scheduleRetry 15]⟩
        else
          ⟨.pending, stream.waiting, cache, effects ++ [.registerWaiter piece, .scheduleRetry 15]⟩

def lookupFor : Option Int × List MemoryPollEffect :=
  let aborted := stream.diskLookup.filter (· ≠ piece)
  let running := stream.diskLookup.filter (· = piece)
  let spawned := running.isNone ∧ stream.diskLookupMiss ≠ some piece
  (if spawned then some piece else running,
    (aborted.map .abortLookup).toList ++ if spawned then [.spawnLookup piece] else [])

def pollLookup : MemoryPollOutcome :=
  let (lookup, started) := stream.lookupFor piece
  let effects := effects ++ started
  match lookup with
  | none => { stream with diskLookup := none }.pollMissing cache context piece effects
  | some lookupPiece =>
      match context.lookup with
      | .finished (some data) =>
          ⟨.pending, { stream with
              diskLookup := none
              diskLookupMiss := none
              cachedPieceData := some (lookupPiece, data) }, cache, effects ++ [.wake]⟩
      | .finished none =>
          { stream with diskLookup := none, diskLookupMiss := some lookupPiece }.pollMissing cache
            context piece effects
      | .panicked => ⟨.failed .io, { stream with diskLookup := none }, cache, effects⟩
      | .cancelled => { stream with diskLookup := none }.pollMissing cache context piece effects
      | .pending =>
          { stream with diskLookup := some lookupPiece }.pollMissing cache context piece effects

def pollPiece : MemoryPollOutcome :=
  match stream.localPiece piece with
  | some data => stream.serveLocal cache context piece effects data
  | none =>
      match cache.getCachedPiece piece with
      | some data => stream.serveCached cache context piece effects data
      | none => stream.pollLookup cache context piece effects

def prioritised (swarm : SwarmReading) : MemoryFileStream × List MemoryPollEffect :=
  let (prioritised, decided) := stream.toLibtorrentFileStream.setPriorities stream.currentPos swarm
  ({ stream with toLibtorrentFileStream := prioritised }, (decided.map .prioritise).toList)

def pollRead : MemoryPollOutcome :=
  if context.cancelled then ⟨.failed .interrupted, stream, cache, []⟩
  else if stream.fileSize ≤ stream.currentPos ∨ context.remaining = 0 then
    ⟨.ready [], stream, cache, []⟩
  else
    let (stream, effects) := stream.prioritised context.swarm
    if 0 ≤ stream.pieceOf then stream.pollPiece cache context stream.pieceOf effects
    -- The piece lies beyond what `i32` holds, or there are no pieces.
    else ⟨.failed .io, stream, cache, effects⟩

def seek (position : LibtorrentFileStream.SeekFrom) : MemoryFileStream :=
  { stream with
    toLibtorrentFileStream := stream.toLibtorrentFileStream.startSeek position
    cachedPieceData := none
    diskLookup := none
    diskLookupMiss := none }

end MemoryFileStream

-- The stream and the cache that it shares with other readers of the torrent. `found` is what the
-- lookups so far have come to.
structure MemoryReader where
  stream : MemoryFileStream
  cache : PieceCacheManager
  found : List (Int × Option Bytes)

inductive MemoryReaderEvent where
  | poll (context : MemoryPollContext)
  | seek (position : LibtorrentFileStream.SeekFrom)
  -- A task looks a piece up, for this stream or for another.
  | lookup (piece : Int)
  -- A piece is put into the cache from elsewhere.
  | store (piece : Int) (data : Bytes)
  | evict (piece : Int)
  | writeFile (index length : Nat)
  | abandonFile (index : Nat)
  | clearTorrent
  | removeFile (piece : Int)

namespace MemoryReader

def step (reader : MemoryReader) : MemoryReaderEvent → Option MemoryReader
  | .poll context =>
      let outcome := reader.stream.pollRead reader.cache context
      let polled := some { reader with stream := outcome.stream, cache := outcome.cache }
      match context.lookup with
      | .finished found => if (reader.stream.pieceOf, found) ∈ reader.found then polled else none
      | _ => polled
  | .seek position => some { reader with stream := reader.stream.seek position }
  | .lookup piece =>
      let (found, cache) := reader.cache.getPiece piece
      some { reader with cache, found := (piece, found) :: reader.found }
  | .store piece data => some { reader with cache := reader.cache.putPieceNow piece data }
  | .evict piece => some { reader with cache := reader.cache.evict piece }
  | .writeFile index length =>
      (reader.cache.writeFile index length).map fun cache => { reader with cache }
  | .abandonFile index => some { reader with cache := reader.cache.abandonFile index }
  | .clearTorrent => some { reader with cache := reader.cache.clearTorrent }
  | .removeFile piece => some { reader with cache := reader.cache.removeFile piece }

end MemoryReader

end StreamServer.Playback
