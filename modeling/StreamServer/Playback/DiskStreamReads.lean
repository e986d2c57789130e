import StreamServer.Playback.DiskStreamBytes
import StreamServer.Shared.Runs

set_option autoImplicit false

namespace StreamServer.Playback.DiskFileStream

open MachineInt

variable {content : Nat → UInt8} {layout : PieceLayout}

section File

variable {stream next : DiskFileStream} {context : PollContext} {file : DiskFile}

theorem diskBytes_eq {reported : List Int} {position length : Nat} (unverified : Nat → UInt8)
    (verified : layout.pieceAt position ∈ reported) (within : SamePiece layout position length) :
    diskBytes content layout reported unverified position length =
      fileSlice content layout position length := by
  refine List.map_congr_left fun index member => ?_
  rw [(within index (List.mem_range.mp member)).2, if_pos verified]

structure Positioned (stream : DiskFileStream) (file : DiskFile) : Prop where
  present : stream.file = some file
  idle : file.seeking = none
  cursor : file.cursor = stream.currentPos
  known : stream.fileCursor = stream.currentPos
  settled : stream.seekPending = false

theorem pollFileSeek_cases (context : PollContext) (aligned : Aligned stream) (present : stream.file = some file)
    (undisturbed : ∀ target ∈ file.seeking, stream.currentPos = target) :
    (∃ poll next, stream.pollFileSeek context file = (some poll, next) ∧ poll.filled = [] ∧
      Aligned next ∧ next = { stream with file := next.file, seekPending := next.seekPending }) ∨
    ∃ next positioned, stream.pollFileSeek context file = (none, next) ∧ Positioned next positioned ∧
      next = { stream with
        file := next.file, fileCursor := next.fileCursor, seekPending := next.seekPending } := by
  have cursor := aligned.cursor file present
  have pending := aligned.pending file present
  unfold pollFileSeek
  split
  next there =>
    -- A pending seek would be to the position, which the file's cursor is not at.
    have idle : file.seeking = none := Option.eq_none_iff_forall_not_mem.mpr fun target seeks =>
      aligned.distinct file present target seeks ((undisturbed target seeks).symm.trans there.symm)
    exact .inr ⟨stream, file, rfl, ⟨present, idle, cursor.trans there, there,
      by simp [pending, idle]⟩, rfl⟩
  next elsewhere =>
    split
    next => exact .inl ⟨_, stream, rfl, rfl, aligned, rfl⟩
    next =>
      have target : (if stream.seekPending then file.seeking.getD file.cursor
          else stream.currentPos) = stream.currentPos := by
        cases seeks : file.seeking with
        | none => simp [pending, seeks]
        | some target => simp [pending, seeks, undisturbed target seeks]
      simp only [target]
      cases context.fileSeek with
      | pending =>
        refine .inl ⟨_, _, rfl, rfl, ⟨by simp, by simpa using cursor, by simp, ?_⟩, rfl⟩
        simpa using Ne.symm elsewhere
      | failed =>
        exact .inl ⟨_, _, rfl, rfl, ⟨by simp, by simpa using cursor, by simp, by simp⟩, rfl⟩
      | completed => exact .inr ⟨_, _, rfl, ⟨rfl, rfl, rfl, rfl, rfl⟩, rfl⟩

theorem pollFileRead_served {piece : Int} {toRead : Nat} (sound : Sound content layout stream)
    (positioned : Positioned stream file)
    (verified : layout.pieceAt stream.currentPos ∈ stream.reported)
    (within : SamePiece layout stream.currentPos toRead) :
    Served content layout stream.currentPos
      (stream.pollFileRead content layout context file piece toRead) := by
  have aligned : Aligned stream := by
    constructor <;> simp [positioned.present, positioned.cursor, positioned.known,
      positioned.settled, positioned.idle]
  have sized := layout.sized
  unfold pollFileRead
  cases context.fileRead with
  | pending => exact .idle sound aligned rfl rfl
  | failed => exact .idle sound aligned rfl rfl
  | bytes length unverified =>
    simp only [positioned.idle, Option.getD_none, positioned.cursor, positioned.known]
    have withinRead : SamePiece layout stream.currentPos (min length toRead) :=
      fun index lower => within index (by omega)
    have fits : stream.currentPos + min length toRead ≤ layout.fileSize := by
      rcases Nat.eq_zero_or_pos (min length toRead) with none | some
      · have := sound.bounded
        omega
      · have := (withinRead (min length toRead - 1) (by omega)).1
        omega
    -- The stream's copy of the cursor moves with the file's.
    have moved : Aligned { stream with
        file := some ⟨stream.currentPos + min length toRead, none⟩
        fileCursor := satAdd stream.currentPos (min length toRead) } := by
      constructor <;> simp [positioned.settled]
      exact (satAdd_eq (by unfold u64Limit; omega)).symm
    have still : Sound content layout { stream with
        file := some ⟨stream.currentPos + min length toRead, none⟩
        fileCursor := satAdd stream.currentPos (min length toRead) } :=
      ⟨sound.bounded, sound.verified, sound.broker⟩
    split
    next =>
      have same := requestPiece_same { stream with
        file := some ⟨stream.currentPos + min length toRead, none⟩
        fileCursor := satAdd stream.currentPos (min length toRead) } context.now piece
      exact .idle (still.of_same same) (moved.of_same same) same.position rfl
    next =>
      exact advance_served still moved (diskBytes_eq unverified verified withinRead) verified
        withinRead fits

theorem pollFileOpen_cases (aligned : Aligned stream) (poll : FileOpenPoll) :
    (∃ result next, stream.pollFileOpen poll = (some result, next) ∧ result.filled = [] ∧
      SameData stream next) ∨
    ∃ file next, stream.pollFileOpen poll = (none, next) ∧ next.file = some file ∧ Aligned next ∧
      (stream.file = some file ∨ file.seeking = none) ∧
      next = { stream with
        file := next.file, fileCursor := next.fileCursor, seekPending := next.seekPending
        openFile := next.openFile } := by
  unfold pollFileOpen
  split
  next present =>
    obtain ⟨file, found⟩ := Option.isSome_iff_exists.mp present
    exact .inr ⟨file, stream, rfl, found, aligned, .inl found, rfl⟩
  next absent =>
    cases poll with
    | opened =>
      exact .inr ⟨⟨0, none⟩, _, rfl, rfl, ⟨by simp, by simp, by simp, by simp⟩, .inr rfl, rfl⟩
    | pending => exact .inl ⟨_, _, rfl, rfl, rfl, rfl, rfl, rfl, rfl, rfl, rfl⟩
    | notFound => exact .inl ⟨_, _, rfl, rfl, rfl, rfl, rfl, rfl, rfl, rfl, rfl⟩
    | failed => exact .inl ⟨_, _, rfl, rfl, rfl, rfl, rfl, rfl, rfl, rfl, rfl⟩

theorem pollFile_served {piece : Int} {available : Nat} (sound : Sound content layout stream)
    (aligned : Aligned stream)
    (undisturbed : ∀ file ∈ stream.file, ∀ target ∈ file.seeking, stream.currentPos = target)
    (verified : layout.pieceAt stream.currentPos ∈ stream.reported)
    (within : SamePiece layout stream.currentPos available) :
    Served content layout stream.currentPos
      (stream.pollFile content layout context piece available) := by
  unfold pollFile
  rcases pollFileOpen_cases aligned context.fileOpen with
    ⟨result, opened, equal, nothing, same⟩ | ⟨file, opened, equal, found, openAligned, old, only⟩
  · rw [equal]
    have openSound := sound.of_same same
    have openAligned := aligned.of_same same
    cases result with
    | pending =>
      have requested := requestPiece_same opened context.now piece
      exact .idle (openSound.of_same requested) (openAligned.of_same requested)
        (requested.position.trans same.position) rfl
    | failed error => exact .idle openSound openAligned same.position rfl
    | ready filled => exact .idle openSound openAligned same.position nothing
  · have openSound : Sound content layout opened := by
      rw [only]
      exact ⟨sound.bounded, sound.verified, sound.broker⟩
    have position : opened.currentPos = stream.currentPos := by rw [only]
    have reported : opened.reported = stream.reported := by rw [only]
    have still (target : Nat) (seeks : target ∈ file.seeking) : opened.currentPos = target := by
      rcases old with present | idle
      · exact position.trans (undisturbed file present target seeks)
      · simp [idle] at seeks
    simp only [equal, found]
    rcases pollFileSeek_cases context openAligned found still with
      ⟨poll, sought, equal, nothing, soughtAligned, only⟩ | ⟨sought, positioned, equal, there, only⟩
    · rw [equal]
      have soughtSound : Sound content layout sought := by
        rw [only]
        exact ⟨openSound.bounded, openSound.verified, openSound.broker⟩
      exact .idle soughtSound soughtAligned (by rw [only]; exact position) nothing
    · have soughtSound : Sound content layout sought := by
        rw [only]
        exact ⟨openSound.bounded, openSound.verified, openSound.broker⟩
      have samePosition : sought.currentPos = stream.currentPos := by
        rw [only]
        exact position
      have sameReported : sought.reported = stream.reported := by
        rw [only]
        exact reported
      simp only [equal, there.present]
      rw [← samePosition] at verified within ⊢
      refine pollFileRead_served soughtSound there (sameReported ▸ verified) fun index lower => ?_
      exact within index (by omega)

end File

section Reads

variable {stream : DiskFileStream} {context : PollContext}

theorem pollUnverified_served (sound : Sound content layout stream) (aligned : Aligned stream)
    (inside : stream.currentPos < layout.fileSize) :
    Served content layout stream.currentPos
      (stream.pollUnverified content layout context (layout.pieceAt stream.currentPos)) := by
  have requested := requestPiece_same stream context.now (layout.pieceAt stream.currentPos)
  have requestedSound := sound.of_same requested
  have requestedAligned := aligned.of_same requested
  unfold pollUnverified
  generalize stream.requestPieceFromLibtorrent context.now (layout.pieceAt stream.currentPos) =
    requesting at requested requestedSound requestedAligned
  rw [← requested.position] at inside ⊢
  rcases tryBroker_cases context requestedSound requestedAligned inside with
    ⟨poll, next, equal, served⟩ | ⟨next, equal, nextSound, nextAligned, position, -, -⟩
  · simp only [equal]
    exact served
  · simp only [equal]
    have waiting := prioritizeFrom_same layout next (layout.pieceAt requesting.currentPos)
    exact .idle (nextSound.of_same waiting) (nextAligned.of_same waiting)
      (waiting.position.trans position) rfl

theorem pollVerified_served (sound : Sound content layout stream) (aligned : Aligned stream)
    (inside : stream.currentPos < layout.fileSize)
    (undisturbed : ∀ file ∈ stream.file, ∀ target ∈ file.seeking, stream.currentPos = target)
    (verified : layout.pieceAt stream.currentPos ∈ stream.reported) :
    Served content layout stream.currentPos
      (stream.pollVerified content layout context (layout.pieceAt stream.currentPos)) := by
  have available := bytesAvailable_samePiece inside
  unfold pollVerified
  generalize stream.bytesAvailableInVerifiedPiece layout (layout.pieceAt stream.currentPos) =
    length at available
  simp only
  split
  next => exact .idle sound aligned rfl rfl
  next =>
    have requested : SameData stream (if !stream.firstReadLogged || stream.file.isNone then
        stream.requestPieceFromLibtorrent context.now (layout.pieceAt stream.currentPos)
        else stream) := by
      split
      · exact requestPiece_same _ _ _
      · exact ⟨rfl, rfl, rfl, rfl, rfl, rfl, rfl⟩
    have requestedSound := sound.of_same requested
    have requestedAligned := aligned.of_same requested
    generalize (if !stream.firstReadLogged || stream.file.isNone then
      stream.requestPieceFromLibtorrent context.now (layout.pieceAt stream.currentPos)
      else stream) = requesting at requested requestedSound requestedAligned
    rw [← requested.position] at inside verified available ⊢
    rw [← requested.reported] at verified
    rw [← requested.position, ← requested.file] at undisturbed
    rcases tryBroker_cases context requestedSound requestedAligned inside with
      ⟨poll, next, equal, served⟩ | ⟨next, equal, nextSound, nextAligned, position, file, more⟩
    · simp only [equal]
      exact served
    · simp only [equal]
      rw [← position] at verified available ⊢
      rw [← position, ← file] at undisturbed
      exact pollFile_served nextSound nextAligned undisturbed (more verified) available

theorem markVerified_sound (sound : Sound content layout stream) (piece : Int) :
    Sound content layout (stream.markVerified piece) ∧
      piece ∈ (stream.markVerified piece).reported := by
  unfold markVerified
  by_cases known : stream.verifiedPiece = some piece
  · have reported := sound.verified piece known
    exact ⟨⟨sound.bounded, by simpa [known] using reported, by simpa [known] using sound.broker⟩,
      by simpa [known] using reported⟩
  · refine ⟨⟨sound.bounded, by simp [known], fun cached has => ?_⟩, by simp [known]⟩
    obtain ⟨reported, bytes⟩ := sound.broker cached has
    exact ⟨by simp [known, reported], bytes⟩

theorem pollRead_served (sound : Sound content layout stream) (aligned : Aligned stream)
    (undisturbed : stream.SeekUndisturbed (.pollRead context)) :
    Served content layout stream.currentPos (stream.pollRead content layout context) := by
  unfold pollRead
  split
  next => exact .idle sound aligned rfl rfl
  next =>
  split
  next => exact .idle sound aligned rfl rfl
  next room =>
  have inside : stream.currentPos < layout.fileSize := by omega
  split
  next => exact .idle sound aligned rfl rfl
  next piece found =>
  obtain rfl := currentPiece_eq inside found
  split
  next => exact .idle sound aligned rfl rfl
  next =>
  split
  next => exact pollUnverified_served sound aligned inside
  next =>
    obtain ⟨markedSound, reported⟩ := markVerified_sound sound (layout.pieceAt stream.currentPos)
    have markedAligned : Aligned (stream.markVerified (layout.pieceAt stream.currentPos)) :=
      ⟨aligned.absent, aligned.cursor, aligned.pending, aligned.distinct⟩
    exact pollVerified_served markedSound markedAligned inside undisturbed reported

end Reads

section Runs

variable {stream next : DiskFileStream} {event : Event}

open Runs

theorem startSeek_sound (stream : DiskFileStream) (position : SeekFrom) :
    Sound content layout (stream.startSeek layout position) :=
  ⟨Nat.min_le_right _ _, by simp [startSeek], by simp [startSeek]⟩

theorem step_faithful
    (before : Sound content layout stream ∧ Aligned stream ∧
      DeliveriesFaithful content layout stream)
    (undisturbed : stream.SeekUndisturbed event) (taken : stream.step content layout event = some next) :
    Sound content layout next ∧ Aligned next ∧ DeliveriesFaithful content layout next := by
  obtain ⟨sound, aligned, faithful⟩ := before
  cases event with
  | startSeek position =>
    cases taken
    exact ⟨startSeek_sound stream position,
      ⟨aligned.absent, aligned.cursor, aligned.pending, aligned.distinct⟩, faithful⟩
  | pollRead context =>
    have served := pollRead_served sound aligned undisturbed
    obtain rfl := Option.some.inj taken
    refine ⟨⟨served.sound.bounded, served.sound.verified, served.sound.broker⟩,
      ⟨served.aligned.absent, served.aligned.cursor, served.aligned.pending,
        served.aligned.distinct⟩, fun delivery member => ?_⟩
    rcases List.mem_append.mp member with earlier | new
    · exact faithful delivery earlier
    · cases List.mem_singleton.mp new
      exact served.faithful

theorem new_faithful (opened : Bool) :
    Sound content layout (new opened) ∧ Aligned (new opened) ∧
      DeliveriesFaithful content layout (new opened) := by
  refine ⟨⟨Nat.zero_le _, by simp [new], by simp [new]⟩, ?_, by simp [DeliveriesFaithful, new]⟩
  constructor <;> cases opened <;> simp [new]

theorem always_deliveriesFaithful (content : Nat → UInt8) (layout : PieceLayout) (opened : Bool)
    (events : List Event)
    (undisturbed : Meets SeekUndisturbed (step content layout) (new opened) events) :
    Always (DeliveriesFaithful content layout) (step content layout) (new opened) events := by
  have all : Always (fun stream => Sound content layout stream ∧ Aligned stream ∧
      DeliveriesFaithful content layout stream) (step content layout) (new opened) events :=
    always_of_meets (fun _ _ _ before permitted taken => step_faithful before permitted taken)
      (new_faithful opened) undisturbed
  exact all.mono fun _ held => held.2.2

end Runs

section Example

open Runs

def fourPieces : PieceLayout where
  firstPiece := 0
  lastPiece := 3
  pieceLength := 16
  fileOffset := 0
  fileSize := 64
  sized := by decide
  indexed position inside := by omega

def counting (position : Nat) : UInt8 := .ofNat position

def readEight (fileSeek : FileSeekPoll) : PollContext where
  cancelled := false
  remaining := 8
  havePiece := true
  now := 0
  broker := .pending
  fileOpen := .pending
  startSeekOk := true
  fileSeek
  fileRead := .bytes 8 fun _ => 0

theorem read_after_its_own_seek :
    Meets SeekUndisturbed (step counting fourPieces) (new true)
        [.startSeek (.start 40), .pollRead (readEight .pending), .pollRead (readEight .completed)] ∧
      Always (DeliveriesFaithful counting fourPieces) (step counting fourPieces) (new true)
        [.startSeek (.start 40), .pollRead (readEight .pending),
          .pollRead (readEight .completed)] := by
  have undisturbed : Meets SeekUndisturbed (step counting fourPieces) (new true)
      [.startSeek (.start 40), .pollRead (readEight .pending), .pollRead (readEight .completed)] := by
    refine meets_cons rfl trivial (meets_cons rfl ?_ (meets_cons rfl ?_ trivial))
    · rintro file ⟨⟩ target ⟨⟩
    · rintro file ⟨⟩ target ⟨⟩
      rfl
  exact ⟨undisturbed, always_deliveriesFaithful counting fourPieces true _ undisturbed⟩

-- The reader seeks away and back while the file's seek is pending: the bytes at 40 are delivered
-- for the position 8.
theorem seek_during_pending_seek_misdelivers :
    ∃ final, run (step counting fourPieces) (new true)
        [.startSeek (.start 40), .pollRead (readEight .pending), .startSeek (.start 8),
          .pollRead (readEight .completed)] = some final ∧
      (final.deliveries.map fun delivery => (delivery.position, delivery.bytes)) =
        [(40, []), (8, [40, 41, 42, 43, 44, 45, 46, 47])] ∧
      ¬ DeliveriesFaithful counting fourPieces final := by
  refine ⟨_, rfl, by decide +kernel, fun faithful => ?_⟩
  have bytes := (faithful ⟨8, [40, 41, 42, 43, 44, 45, 46, 47], 16, [0, 2]⟩ (by decide +kernel)).bytes
  exact absurd bytes (by decide +kernel)

end Example

end StreamServer.Playback.DiskFileStream
