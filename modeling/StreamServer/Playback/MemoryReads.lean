import StreamServer.Playback.MemoryStream
import StreamServer.Shared.Runs

set_option autoImplicit false

namespace StreamServer.Playback

open ByteText Runs

namespace MemoryFileStream

variable {stream : MemoryFileStream} {cache : PieceCacheManager} {context : MemoryPollContext}

def heldPiece (stream : MemoryFileStream) (cache : PieceCacheManager) : Option Bytes :=
  if 0 ≤ stream.pieceOf then
    (stream.localPiece stream.pieceOf).or (cache.getCachedPiece stream.pieceOf)
  else none

theorem pollMissing_unserved (piece : Int) (effects : List MemoryPollEffect) (filled : Bytes) :
    (stream.pollMissing cache context piece effects).poll ≠ .ready filled := by
  have pending : (stream.pollMissing cache context piece effects).poll = .pending := by
    unfold pollMissing
    split
    next => rfl
    simp only
    split
    next => split <;> rfl
    next => split <;> rfl
  rw [pending]
  exact fun impossible => by cases impossible

theorem pollLookup_unserved (piece : Int) (effects : List MemoryPollEffect) (filled : Bytes) :
    (stream.pollLookup cache context piece effects).poll ≠ .ready filled := by
  unfold pollLookup
  simp only
  split
  next => exact pollMissing_unserved _ _ _
  split
  next => exact fun impossible => by cases impossible
  next => exact pollMissing_unserved _ _ _
  next => exact fun impossible => by cases impossible
  next => exact pollMissing_unserved _ _ _
  next => exact pollMissing_unserved _ _ _

theorem pollPiece_poll (piece : Int) (effects : List MemoryPollEffect) :
    (stream.pollPiece cache context piece effects).poll =
      match (stream.localPiece piece).or (cache.getCachedPiece piece) with
      | some data => stream.putSlice data context.remaining
      | none => (stream.pollLookup cache context piece effects).poll := by
  unfold pollPiece
  cases stream.localPiece piece with
  | some data => rfl
  | none =>
    rw [Option.none_or]
    cases cache.getCachedPiece piece with
    | some data => rfl
    | none => rfl

theorem prioritised_eq (stream : MemoryFileStream) (swarm : SwarmReading) :
    ∃ seekType lastPrioritiesPiece, (stream.prioritised swarm).1 =
      { stream with seekType, lastPrioritiesPiece } := by
  unfold prioritised LibtorrentFileStream.setPriorities
  split
  next prioritised decided same =>
    split at same
    next =>
      cases same
      exact ⟨stream.seekType, stream.lastPrioritiesPiece, rfl⟩
    next =>
      cases same
      exact ⟨.sequential, _, rfl⟩

theorem prioritised_heldPiece (swarm : SwarmReading) :
    (stream.prioritised swarm).1.heldPiece cache = stream.heldPiece cache := by
  obtain ⟨seekType, last, same⟩ := prioritised_eq stream swarm
  rw [same]
  rfl

theorem prioritised_putSlice (swarm : SwarmReading) (data : Bytes) (remaining : Nat) :
    (stream.prioritised swarm).1.putSlice data remaining = stream.putSlice data remaining := by
  obtain ⟨seekType, last, same⟩ := prioritised_eq stream swarm
  rw [same]
  rfl

theorem pollRead_going (going : context.cancelled = false)
    (inside : stream.currentPos < stream.fileSize) (room : 0 < context.remaining) :
    stream.pollRead cache context =
      if 0 ≤ (stream.prioritised context.swarm).1.pieceOf then
        (stream.prioritised context.swarm).1.pollPiece cache context
          (stream.prioritised context.swarm).1.pieceOf (stream.prioritised context.swarm).2
      else ⟨.failed .io, (stream.prioritised context.swarm).1, cache,
        (stream.prioritised context.swarm).2⟩ := by
  have unended : ¬ (stream.fileSize ≤ stream.currentPos ∨ context.remaining = 0) := by
    rw [not_or, UInt64.not_le]
    exact ⟨inside, Nat.ne_of_gt room⟩
  unfold pollRead
  rw [going, if_neg Bool.false_ne_true, if_neg unended]

theorem pollRead_held {data : Bytes} (going : context.cancelled = false)
    (inside : stream.currentPos < stream.fileSize) (room : 0 < context.remaining)
    (held : stream.heldPiece cache = some data) :
    (stream.pollRead cache context).poll = stream.putSlice data context.remaining := by
  rw [← prioritised_heldPiece context.swarm, heldPiece] at held
  split at held
  next within =>
    rw [pollRead_going going inside room, if_pos within, pollPiece_poll, held]
    exact prioritised_putSlice _ _ _
  next => cases held

theorem pollRead_unheld (inside : stream.currentPos < stream.fileSize) (room : 0 < context.remaining)
    (held : stream.heldPiece cache = none) (filled : Bytes) :
    (stream.pollRead cache context).poll ≠ .ready filled := by
  cases going : context.cancelled with
  | true =>
    unfold pollRead
    rw [going, if_pos rfl]
    exact fun impossible => by cases impossible
  | false =>
    rw [← prioritised_heldPiece context.swarm, heldPiece] at held
    rw [pollRead_going going inside room]
    split at held
    next within =>
      rw [if_pos within, pollPiece_poll, held]
      exact pollLookup_unserved _ _ _
    next beyond =>
      rw [if_neg beyond]
      exact fun impossible => by cases impossible

/-- A poll that waits has seen to it that the stream is polled again. -/
def Scheduled (outcome : MemoryPollOutcome) : Prop :=
  outcome.poll = .pending →
    .wake ∈ outcome.effects ∨ ∃ milliseconds, .scheduleRetry milliseconds ∈ outcome.effects

theorem pollMissing_scheduled (piece : Int) (effects : List MemoryPollEffect) :
    Scheduled (stream.pollMissing cache context piece effects) := by
  intro _
  unfold pollMissing
  split
  next => exact .inr ⟨50, by simp⟩
  simp only
  split
  next =>
    split
    next => exact .inr ⟨10, by simp⟩
    next => exact .inr ⟨10, by simp⟩
  next =>
    split
    next => exact .inr ⟨15, by simp⟩
    next => exact .inr ⟨15, by simp⟩

theorem pollLookup_scheduled (piece : Int) (effects : List MemoryPollEffect) :
    Scheduled (stream.pollLookup cache context piece effects) := by
  unfold pollLookup
  simp only
  split
  next => exact pollMissing_scheduled _ _
  split
  next => exact fun _ => .inl (by simp)
  next => exact pollMissing_scheduled _ _
  next => exact fun impossible => by cases impossible
  next => exact pollMissing_scheduled _ _
  next => exact pollMissing_scheduled _ _

theorem pollRead_scheduled (stream : MemoryFileStream) (cache : PieceCacheManager)
    (context : MemoryPollContext) : Scheduled (stream.pollRead cache context) := by
  unfold pollRead
  split
  next => exact fun impossible => by cases impossible
  split
  next => exact fun impossible => by cases impossible
  simp only
  split
  next =>
    unfold pollPiece
    split
    next => exact fun impossible => by cases impossible
    split
    next => exact fun impossible => by cases impossible
    next => exact pollLookup_scheduled _ _
  next => exact fun impossible => by cases impossible

theorem advanced_currentPos {data : Bytes} {remaining : Nat} :
    (stream.advanced (stream.toRead data remaining)).currentPos.toNat =
      stream.currentPos.toNat + stream.toRead data remaining := by
  unfold advanced
  split
  next =>
    have size := stream.fileSize.toNat_lt
    have left : stream.toRead data remaining ≤ stream.remainingFile := Nat.min_le_right _ _
    unfold remainingFile at left
    simp only [UInt64.toNat_add, Nat.toUInt64_eq, UInt64.toNat_ofNat']
    omega
  next nothing => omega

theorem slice_length (data : Bytes) (remaining : Nat) :
    (slice data stream.offsetInPiece (stream.offsetInPiece + stream.toRead data remaining)).length =
      stream.toRead data remaining := by
  unfold slice toRead
  rw [List.length_drop, List.length_take]
  omega

theorem pollPiece_position {piece : Int} {effects : List MemoryPollEffect} {filled : Bytes}
    (ready : (stream.pollPiece cache context piece effects).poll = .ready filled) :
    (stream.pollPiece cache context piece effects).stream.currentPos.toNat =
      stream.currentPos.toNat + filled.length := by
  unfold pollPiece at ready ⊢
  split at ready
  next data _ =>
    cases ready
    rw [slice_length]
    exact advanced_currentPos
  next =>
    split at ready
    next data _ =>
      cases ready
      rw [slice_length]
      exact @advanced_currentPos { stream.forgetRequest piece with
        diskLookupMiss := none
        cachedPieceData := some (piece, data) } data context.remaining
    next => exact absurd ready (pollLookup_unserved _ _ _)

theorem pollRead_position {filled : Bytes}
    (ready : (stream.pollRead cache context).poll = .ready filled) :
    (stream.pollRead cache context).stream.currentPos.toNat =
      stream.currentPos.toNat + filled.length := by
  obtain ⟨seekType, last, same⟩ := prioritised_eq stream context.swarm
  have position : (stream.prioritised context.swarm).1.currentPos = stream.currentPos := by
    rw [same]
  unfold pollRead at ready ⊢
  split at ready
  next => cases ready
  next running =>
    rw [if_neg running]
    split at ready
    next ended =>
      rw [if_pos ended]
      cases ready
      rfl
    next unended =>
      rw [if_neg unended]
      simp only at ready ⊢
      split at ready
      next within =>
        rw [if_pos within, pollPiece_position ready, position]
      next => cases ready

structure Covers (file : Bytes) (stream : MemoryFileStream) (remaining : Nat) (data : Bytes) : Prop where
  reaches : stream.offsetInPiece < data.length
  agrees : (data.drop stream.offsetInPiece).take (min remaining stream.remainingFile) <+:
    file.drop stream.currentPos.toNat

theorem slice_toRead (data : Bytes) (remaining : Nat) :
    slice data stream.offsetInPiece (stream.offsetInPiece + stream.toRead data remaining) =
      (data.drop stream.offsetInPiece).take (min remaining stream.remainingFile) := by
  unfold slice toRead
  rw [List.drop_take, Nat.add_sub_cancel_left, Nat.min_right_comm, ← List.length_drop,
    ← List.take_take, List.take_length]

-- Where the position lies before the end and the buffer has room, a poll that returns without an
-- error or a wait has put bytes of the file into the buffer, those at the position.
def Serves (file : Bytes) (stream : MemoryFileStream) (cache : PieceCacheManager)
    (context : MemoryPollContext) : Prop :=
  ∀ filled, (stream.pollRead cache context).poll = .ready filled →
    filled ≠ [] ∧ filled <+: file.drop stream.currentPos.toNat

theorem serves_cancelled (file : Bytes) (stream : MemoryFileStream) (cache : PieceCacheManager)
    {context : MemoryPollContext} (going : context.cancelled = true) :
    Serves file stream cache context := by
  intro filled ready
  rw [pollRead, going, if_pos rfl] at ready
  cases ready

theorem serves_unheld (file : Bytes) {stream : MemoryFileStream} {cache : PieceCacheManager}
    {context : MemoryPollContext} (inside : stream.currentPos < stream.fileSize)
    (room : 0 < context.remaining) (held : stream.heldPiece cache = none) :
    Serves file stream cache context :=
  fun filled ready => absurd ready (pollRead_unheld inside room held filled)

theorem serves_held_iff (file : Bytes) {stream : MemoryFileStream} {cache : PieceCacheManager}
    {context : MemoryPollContext} {data : Bytes} (going : context.cancelled = false)
    (inside : stream.currentPos < stream.fileSize) (room : 0 < context.remaining)
    (held : stream.heldPiece cache = some data) :
    Serves file stream cache context ↔ Covers file stream context.remaining data := by
  have left : 0 < min context.remaining stream.remainingFile := by
    unfold remainingFile
    have before := UInt64.lt_iff_toNat_lt.mp inside
    omega
  have served := pollRead_held going inside room held
  rw [putSlice, slice_toRead] at served
  have some : (data.drop stream.offsetInPiece).take
      (min context.remaining stream.remainingFile) ≠ [] ↔ stream.offsetInPiece < data.length := by
    rw [ne_eq, List.take_eq_nil_iff, List.drop_eq_nil_iff]
    omega
  constructor
  · intro serves
    obtain ⟨nonempty, starts⟩ := serves _ served
    exact ⟨some.mp nonempty, starts⟩
  · intro covers filled ready
    cases served.symm.trans ready
    exact ⟨some.mpr covers.reaches, covers.agrees⟩

theorem serves_iff (file : Bytes) (stream : MemoryFileStream) (cache : PieceCacheManager)
    (context : MemoryPollContext) (inside : stream.currentPos < stream.fileSize)
    (room : 0 < context.remaining) :
    Serves file stream cache context ↔ context.cancelled = true ∨
      ∀ data, stream.heldPiece cache = some data → Covers file stream context.remaining data := by
  cases going : context.cancelled with
  | true => exact iff_of_true (serves_cancelled file stream cache going) (.inl rfl)
  | false =>
    cases held : stream.heldPiece cache with
    | none =>
      exact iff_of_true (serves_unheld file inside room held) (.inr fun _ other => by cases other)
    | some data =>
      rw [serves_held_iff file going inside room held]
      constructor
      · intro covers
        refine .inr fun other same => ?_
        cases same
        exact covers
      · rintro (cancelled | covers)
        · cases cancelled
        · exact covers data rfl

section ShortPiece

def pairOfPieces : MemoryFileStream where
  firstPiece := 0
  lastPiece := 1
  pieceLength := 4
  fileOffset := 0
  fileSize := 8
  currentPos := 0
  isComplete := true
  lastPrioritiesPiece := 0
  cacheSize := 1073741824
  bitrate := none
  seekType := .sequential
  playbackIntent := .directSequential
  firstReadLogged := false
  consecutiveWaits := 0
  cachedPieceData := none
  requestedPieceViaApi _ := none
  diskLookup := none
  diskLookupMiss := none

def roomyPoll (lookup : DiskLookupPoll) : MemoryPollContext where
  cancelled := false
  remaining := 8
  swarm := ⟨2097152, 10, .normal⟩
  lookup := lookup
  havePiece := true
  direct := []
  now := 0

def wholeFile : Bytes := [1, 2, 3, 4, 5, 6, 7, 8]

theorem serves_first_piece :
    Serves wholeFile pairOfPieces
      ((PieceCacheManager.new ⟨536870912, true⟩).putPieceNow 0 [1, 2, 3, 4]) (roomyPoll .pending) := by
  refine (serves_iff wholeFile pairOfPieces _ (roomyPoll .pending) (by decide) (by decide)).mpr
    (.inr fun data other => ?_)
  have held : pairOfPieces.heldPiece ((PieceCacheManager.new ⟨536870912, true⟩).putPieceNow 0 [1, 2, 3, 4]) =
      some [1, 2, 3, 4] := by decide +kernel
  cases held.symm.trans other
  exact ⟨by decide, by decide +kernel⟩

-- The piece leaves memory while its file is being written, and is read back from there.
theorem short_file_ends_the_stream :
    ∃ reader, run MemoryReader.step ⟨pairOfPieces, .new ⟨536870912, true⟩, []⟩
        [.store 0 [1, 2, 3, 4], .evict 0, .writeFile 0 2, .poll (roomyPoll .pending), .lookup 0,
          .poll (roomyPoll .pending)] = some reader ∧
      reader.stream.currentPos < reader.stream.fileSize ∧ 0 < (roomyPoll .pending).remaining ∧
      (reader.stream.pollRead reader.cache (roomyPoll .pending)).poll = .ready [] ∧
      ¬ Serves wholeFile reader.stream reader.cache (roomyPoll .pending) := by
  have checked : (run MemoryReader.step ⟨pairOfPieces, .new ⟨536870912, true⟩, []⟩
      [.store 0 [1, 2, 3, 4], .evict 0, .writeFile 0 2, .poll (roomyPoll .pending), .lookup 0,
        .poll (roomyPoll .pending)]).any (fun reader =>
      decide (reader.stream.currentPos < reader.stream.fileSize ∧
        (reader.stream.pollRead reader.cache (roomyPoll .pending)).poll = .ready [])) = true := by
    decide +kernel
  obtain ⟨reader, ran, ends⟩ := (Option.any_eq_true _ _).mp checked
  obtain ⟨inside, nothing⟩ := of_decide_eq_true ends
  exact ⟨reader, ran, inside, by decide, nothing, fun serves => (serves [] nothing).1 rfl⟩

end ShortPiece

end MemoryFileStream

end StreamServer.Playback
