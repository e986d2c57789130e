import Mathlib.Data.List.Infix
import StreamServer.Playback.MemoryReads

set_option autoImplicit false

namespace StreamServer.Playback

open ByteText MachineInt Runs

def pieceContent (torrent : Bytes) (pieceLength : Nat) (piece : Int) : Bytes :=
  (torrent.drop (piece.toNat * pieceLength)).take pieceLength

namespace MemoryFileStream

def fileIn (stream : MemoryFileStream) (torrent : Bytes) : Bytes :=
  (torrent.drop stream.fileOffset.toNat).take stream.fileSize.toNat

structure SameLayout (stream other : MemoryFileStream) : Prop where
  firstPiece : other.firstPiece = stream.firstPiece
  lastPiece : other.lastPiece = stream.lastPiece
  pieceLength : other.pieceLength = stream.pieceLength
  fileOffset : other.fileOffset = stream.fileOffset
  fileSize : other.fileSize = stream.fileSize

theorem SameLayout.laidOut {stream other : MemoryFileStream} (same : SameLayout stream other)
    (laidOut : stream.LaidOut) : other.LaidOut where
  length := by rw [same.pieceLength]; exact laidOut.length
  fits := by rw [same.fileOffset, same.fileSize]; exact laidOut.fits
  few := by rw [same.fileOffset, same.fileSize, same.pieceLength]; exact laidOut.few
  first := by rw [same.firstPiece, same.fileOffset, same.pieceLength]; exact laidOut.first
  last := by
    rw [same.lastPiece, same.fileOffset, same.fileSize, same.pieceLength]
    exact laidOut.last

theorem SameLayout.refl (stream : MemoryFileStream) : SameLayout stream stream := ⟨rfl, rfl, rfl, rfl, rfl⟩

theorem SameLayout.trans {first second third : MemoryFileStream} (same : SameLayout first second)
    (same' : SameLayout second third) : SameLayout first third :=
  ⟨same'.firstPiece.trans same.firstPiece, same'.lastPiece.trans same.lastPiece,
    same'.pieceLength.trans same.pieceLength, same'.fileOffset.trans same.fileOffset,
    same'.fileSize.trans same.fileSize⟩

/-- Whatever the stream and the cache keep of a piece is how its bytes start. -/
structure Sound (content : Int → Bytes) (stream : MemoryFileStream) (cache : PieceCacheManager) : Prop where
  cache : cache.Genuine content
  own : ∀ piece data, stream.cachedPieceData = some (piece, data) → data <+: content piece

structure Given (content : Int → Bytes) (piece : Int) (context : MemoryPollContext) : Prop where
  direct : context.direct = [] ∨ context.direct = content piece
  lookup : ∀ data, context.lookup = .finished (some data) → data <+: content piece

structure Keeps (content : Int → Bytes) (stream : MemoryFileStream) (outcome : MemoryPollOutcome) :
    Prop where
  layout : SameLayout stream outcome.stream
  sound : Sound content outcome.stream outcome.cache

section Polls

variable {content : Int → Bytes} {stream : MemoryFileStream} {cache : PieceCacheManager}
  {context : MemoryPollContext} {piece : Int}

theorem advanced_layout (length : Nat) : SameLayout stream (stream.advanced length) := by
  unfold advanced
  split
  next => exact ⟨rfl, rfl, rfl, rfl, rfl⟩
  next => exact .refl stream

theorem advanced_own (length : Nat) :
    (stream.advanced length).cachedPieceData = stream.cachedPieceData := by
  unfold advanced
  split <;> rfl

theorem localPiece_some {data : Bytes} (own : stream.localPiece piece = some data) :
    stream.cachedPieceData = some (piece, data) := by
  obtain ⟨⟨kept, found⟩, cached, same⟩ := Option.bind_eq_some_iff.mp own
  simp only at same
  split at same
  next equal =>
    cases same
    rw [cached, equal]
  next => cases same

theorem pollMissing_keeps (sound : Sound content stream cache) (given : Given content piece context)
    (effects : List MemoryPollEffect) :
    Keeps content stream (stream.pollMissing cache context piece effects) := by
  have stored : (readDirect cache context piece).1.Genuine content := by
    unfold readDirect
    split
    next => exact sound.cache
    next handed =>
      rcases given.direct with none | whole
      · exact absurd none handed
      · exact sound.cache.putPieceNow (whole ▸ List.prefix_refl _)
  unfold pollMissing
  split
  next => exact ⟨⟨rfl, rfl, rfl, rfl, rfl⟩, sound.cache, sound.own⟩
  simp only
  split
  next =>
    split
    next => exact ⟨⟨rfl, rfl, rfl, rfl, rfl⟩, sound.cache, sound.own⟩
    next => exact ⟨⟨rfl, rfl, rfl, rfl, rfl⟩, stored, sound.own⟩
  next =>
    split
    next => exact ⟨⟨rfl, rfl, rfl, rfl, rfl⟩, stored, sound.own⟩
    next => exact ⟨⟨rfl, rfl, rfl, rfl, rfl⟩, sound.cache, sound.own⟩

theorem lookupFor_piece {lookupPiece : Int} (polled : (stream.lookupFor piece).1 = some lookupPiece) :
    lookupPiece = piece := by
  unfold lookupFor at polled
  simp only at polled
  split at polled
  next => exact (Option.some.inj polled).symm
  next =>
    obtain ⟨-, same⟩ := Option.filter_eq_some_iff.mp polled
    simpa using same

theorem pollLookup_keeps (sound : Sound content stream cache) (given : Given content piece context)
    (effects : List MemoryPollEffect) :
    Keeps content stream (stream.pollLookup cache context piece effects) := by
  have missing (other : MemoryFileStream) (effects : List MemoryPollEffect)
      (layout : SameLayout stream other) (own : other.cachedPieceData = stream.cachedPieceData) :
      Keeps content stream (other.pollMissing cache context piece effects) := by
    have soundOther : Sound content other cache := ⟨sound.cache, own ▸ sound.own⟩
    have kept := pollMissing_keeps soundOther given effects
    exact ⟨layout.trans kept.layout, kept.sound⟩
  unfold pollLookup
  simp only
  split
  next => exact missing _ _ ⟨rfl, rfl, rfl, rfl, rfl⟩ rfl
  next lookupPiece polled =>
    split
    next data finished =>
      refine ⟨⟨rfl, rfl, rfl, rfl, rfl⟩, sound.cache, fun kept found same => ?_⟩
      cases same
      rw [lookupFor_piece polled]
      exact given.lookup data finished
    next => exact missing _ _ ⟨rfl, rfl, rfl, rfl, rfl⟩ rfl
    next => exact ⟨⟨rfl, rfl, rfl, rfl, rfl⟩, sound.cache, sound.own⟩
    next => exact missing _ _ ⟨rfl, rfl, rfl, rfl, rfl⟩ rfl
    next => exact missing _ _ ⟨rfl, rfl, rfl, rfl, rfl⟩ rfl

theorem pollPiece_keeps (sound : Sound content stream cache) (given : Given content piece context)
    (effects : List MemoryPollEffect) :
    Keeps content stream (stream.pollPiece cache context piece effects) := by
  unfold pollPiece
  split
  next data own =>
    refine ⟨(advanced_layout _).trans ⟨rfl, rfl, rfl, rfl, rfl⟩, sound.cache, ?_⟩
    unfold serveLocal forgetRequest
    rw [advanced_own]
    exact sound.own
  next =>
    split
    next data cached =>
      have forgotten : SameLayout stream { stream.forgetRequest piece with
          diskLookupMiss := none
          cachedPieceData := some (piece, data) } := ⟨rfl, rfl, rfl, rfl, rfl⟩
      refine ⟨forgotten.trans (advanced_layout _), sound.cache, ?_⟩
      unfold serveCached
      simp only [advanced_own]
      intro kept found same
      cases same
      exact sound.cache.cache piece data cached
    next => exact pollLookup_keeps sound given effects

theorem pollRead_keeps (sound : Sound content stream cache)
    (given : Given content stream.pieceOf context) :
    Keeps content stream (stream.pollRead cache context) := by
  obtain ⟨seekType, last, same⟩ := prioritised_eq stream context.swarm
  have soundBefore : Sound content (stream.prioritised context.swarm).1 cache := by
    rw [same]
    exact ⟨sound.cache, sound.own⟩
  have layout : SameLayout stream (stream.prioritised context.swarm).1 := by
    rw [same]
    exact ⟨rfl, rfl, rfl, rfl, rfl⟩
  have piece : (stream.prioritised context.swarm).1.pieceOf = stream.pieceOf := by
    rw [same]
    rfl
  unfold pollRead
  split
  next => exact ⟨.refl stream, sound⟩
  split
  next => exact ⟨.refl stream, sound⟩
  simp only
  split
  next =>
    have kept := pollPiece_keeps soundBefore (piece.symm ▸ given)
      (stream.prioritised context.swarm).2
    exact ⟨layout.trans kept.layout, kept.sound⟩
  next => exact ⟨layout, soundBefore⟩

end Polls

section Layout

variable {stream : MemoryFileStream}

theorem pieceOf_eq (laidOut : stream.LaidOut) (inside : stream.currentPos < stream.fileSize) :
    stream.pieceOf =
      ((stream.fileOffset.toNat + stream.currentPos.toNat) / stream.pieceLength.toNat : Nat) := by
  have length := laidOut.length
  have fits := laidOut.fits
  have few := laidOut.few
  have before := UInt64.lt_iff_toNat_lt.mp inside
  have positive : stream.pieceLength ≠ 0 := by
    intro zero
    rw [zero] at length
    exact absurd length (by decide)
  have earlier : (stream.fileOffset.toNat + stream.currentPos.toNat) / stream.pieceLength.toNat ≤
      (stream.fileOffset.toNat + stream.fileSize.toNat) / stream.pieceLength.toNat :=
    Nat.div_le_div_right (by omega)
  rw [pieceOf, if_neg positive, satAdd_eq (by omega), asI32_eq (by omega)]

theorem offsetInPiece_eq (laidOut : stream.LaidOut) (inside : stream.currentPos < stream.fileSize) :
    stream.offsetInPiece =
      (stream.fileOffset.toNat + stream.currentPos.toNat) % stream.pieceLength.toNat := by
  have fits := laidOut.fits
  have before := UInt64.lt_iff_toNat_lt.mp inside
  unfold u64Limit at fits
  have sum : (stream.fileOffset.toNat + stream.currentPos.toNat) % 2 ^ 64 =
      stream.fileOffset.toNat + stream.currentPos.toNat := Nat.mod_eq_of_lt (by omega)
  rw [offsetInPiece, UInt64.toNat_mod, UInt64.toNat_add, sum]

theorem genuine_agrees {torrent data : Bytes} (laidOut : stream.LaidOut)
    (inside : stream.currentPos < stream.fileSize)
    (starts : data <+: pieceContent torrent stream.pieceLength.toNat stream.pieceOf) (remaining : Nat) :
    (data.drop stream.offsetInPiece).take (min remaining stream.remainingFile) <+:
      (stream.fileIn torrent).drop stream.currentPos.toNat := by
  have global := Nat.div_add_mod' (stream.fileOffset.toNat + stream.currentPos.toNat)
    stream.pieceLength.toNat
  have behind : data.drop stream.offsetInPiece <+:
      torrent.drop (stream.fileOffset.toNat + stream.currentPos.toNat) := by
    have dropped := starts.drop stream.offsetInPiece
    rw [pieceContent, pieceOf_eq laidOut inside, Int.toNat_natCast, List.drop_take, List.drop_drop,
      offsetInPiece_eq laidOut inside, global] at dropped
    rw [offsetInPiece_eq laidOut inside]
    exact dropped.trans (List.take_prefix _ _)
  have file : (stream.fileIn torrent).drop stream.currentPos.toNat =
      (torrent.drop (stream.fileOffset.toNat + stream.currentPos.toNat)).take stream.remainingFile := by
    rw [fileIn, List.drop_take, List.drop_drop]
    rfl
  rw [file, ← List.take_take]
  exact (List.take_prefix _ _).trans (behind.take _)

theorem serves_genuine_iff {torrent : Bytes} {cache : PieceCacheManager} {context : MemoryPollContext}
    (laidOut : stream.LaidOut)
    (sound : Sound (pieceContent torrent stream.pieceLength.toNat) stream cache)
    (inside : stream.currentPos < stream.fileSize) (room : 0 < context.remaining) :
    Serves (stream.fileIn torrent) stream cache context ↔ context.cancelled = true ∨
      ∀ data, stream.heldPiece cache = some data → stream.offsetInPiece < data.length := by
  cases going : context.cancelled with
  | true => exact iff_of_true (serves_cancelled _ stream cache going) (.inl rfl)
  | false =>
    cases held : stream.heldPiece cache with
    | none => exact iff_of_true (serves_unheld _ inside room held) (.inr fun _ other => by cases other)
    | some data =>
      have genuine : data <+: pieceContent torrent stream.pieceLength.toNat stream.pieceOf := by
        unfold heldPiece at held
        split at held
        next =>
          cases own : stream.localPiece stream.pieceOf with
          | some kept =>
            rw [own, Option.some_or] at held
            cases held
            exact sound.own _ _ (localPiece_some own)
          | none =>
            rw [own, Option.none_or] at held
            exact sound.cache.cache _ _ held
        next => cases held
      rw [serves_held_iff _ going inside room held]
      constructor
      · intro covers
        refine .inr fun other same => ?_
        cases same
        exact covers.reaches
      · rintro (cancelled | reaches)
        · cases cancelled
        · exact ⟨reaches data rfl, genuine_agrees laidOut inside genuine context.remaining⟩

end Layout

end MemoryFileStream

namespace MemoryReader

open MemoryFileStream

/-- What libtorrent and the other readers hand over are pieces of the torrent. -/
def Allowed (torrent : Bytes) (reader : MemoryReader) : MemoryReaderEvent → Prop
  | .poll context => context.direct = [] ∨
      context.direct = pieceContent torrent reader.stream.pieceLength.toNat reader.stream.pieceOf
  | .store piece data => data = pieceContent torrent reader.stream.pieceLength.toNat piece
  | _ => True

structure Invariant (torrent : Bytes) (reader : MemoryReader) : Prop where
  laidOut : reader.stream.LaidOut
  sound : Sound (pieceContent torrent reader.stream.pieceLength.toNat) reader.stream reader.cache
  found : ∀ piece data, (piece, some data) ∈ reader.found →
    data <+: pieceContent torrent reader.stream.pieceLength.toNat piece

variable {torrent : Bytes} {reader next : MemoryReader} {event : MemoryReaderEvent}

theorem Invariant.of_cache (invariant : Invariant torrent reader) {cache : PieceCacheManager}
    (genuine : cache.Genuine (pieceContent torrent reader.stream.pieceLength.toNat)) :
    Invariant torrent { reader with cache } :=
  ⟨invariant.laidOut, ⟨genuine, invariant.sound.own⟩, invariant.found⟩

theorem Invariant.poll (invariant : Invariant torrent reader) {context : MemoryPollContext}
    (given : Given (pieceContent torrent reader.stream.pieceLength.toNat) reader.stream.pieceOf context) :
    Invariant torrent { reader with
      stream := (reader.stream.pollRead reader.cache context).stream
      cache := (reader.stream.pollRead reader.cache context).cache } := by
  have kept := pollRead_keeps invariant.sound given
  refine ⟨kept.layout.laidOut invariant.laidOut, ?_, ?_⟩
  · simp only [kept.layout.pieceLength]
    exact kept.sound
  · simp only [kept.layout.pieceLength]
    exact invariant.found

theorem step_invariant (invariant : Invariant torrent reader) (allowed : Allowed torrent reader event)
    (taken : reader.step event = some next) : Invariant torrent next := by
  cases event with
  | poll context =>
    simp only [step] at taken
    split at taken
    next found finished =>
      split at taken
      next member =>
        cases taken
        refine invariant.poll ⟨allowed, fun data same => invariant.found _ _ ?_⟩
        rw [finished] at same
        cases same
        exact member
      next => cases taken
    next unfinished =>
      cases taken
      exact invariant.poll ⟨allowed, fun data same => absurd same (unfinished _)⟩
  | seek position =>
    cases taken
    have layout : SameLayout reader.stream (reader.stream.seek position) := ⟨rfl, rfl, rfl, rfl, rfl⟩
    exact ⟨layout.laidOut invariant.laidOut,
      ⟨invariant.sound.cache, fun _ _ impossible => by cases impossible⟩, invariant.found⟩
  | lookup piece =>
    cases taken
    obtain ⟨starts, genuine⟩ := invariant.sound.cache.getPiece piece
    refine ⟨invariant.laidOut, ⟨genuine, invariant.sound.own⟩, fun other data member => ?_⟩
    rcases List.mem_cons.mp member with same | earlier
    · obtain ⟨rfl, found⟩ := Prod.mk.inj same
      exact starts data found.symm
    · exact invariant.found other data earlier
  | store piece data =>
    cases taken
    exact invariant.of_cache (invariant.sound.cache.putPieceNow (allowed ▸ List.prefix_refl _))
  | evict piece =>
    cases taken
    exact invariant.of_cache (invariant.sound.cache.evict piece)
  | writeFile index length =>
    obtain ⟨cache, wrote, rfl⟩ := Option.map_eq_some_iff.mp taken
    exact invariant.of_cache (invariant.sound.cache.writeFile wrote)
  | abandonFile index =>
    cases taken
    exact invariant.of_cache (invariant.sound.cache.abandonFile index)
  | clearTorrent =>
    cases taken
    exact invariant.of_cache invariant.sound.cache.clearTorrent
  | removeFile piece =>
    cases taken
    exact invariant.of_cache (invariant.sound.cache.removeFile piece)

theorem run_serves (invariant : Invariant torrent reader) {events : List MemoryReaderEvent}
    (meets : Meets (Allowed torrent) step reader events) :
    Always (fun reader => ∀ context : MemoryPollContext,
      reader.stream.currentPos < reader.stream.fileSize → 0 < context.remaining →
        (Serves (reader.stream.fileIn torrent) reader.stream reader.cache context ↔
          context.cancelled = true ∨ ∀ data, reader.stream.heldPiece reader.cache = some data →
            reader.stream.offsetInPiece < data.length) ∧
        Scheduled (reader.stream.pollRead reader.cache context) ∧
        ∀ filled, (reader.stream.pollRead reader.cache context).poll = .ready filled →
          (reader.stream.pollRead reader.cache context).stream.currentPos.toNat =
            reader.stream.currentPos.toNat + filled.length) step reader events :=
  (always_of_meets (fun _ _ _ => step_invariant) invariant meets).mono
    fun _ invariant _ inside room => ⟨serves_genuine_iff invariant.laidOut invariant.sound inside room,
      pollRead_scheduled _ _ _, fun _ => pollRead_position⟩

end MemoryReader

end StreamServer.Playback
