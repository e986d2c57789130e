import StreamServer.Playback.DiskStream

set_option autoImplicit false

namespace StreamServer.Playback

open MachineInt

variable (content : Nat → UInt8) (layout : PieceLayout)

def fileSlice (position length : Nat) : List UInt8 :=
  (List.range length).map fun index => content (layout.fileOffset + (position + index))

structure Delivery.Faithful (delivery : Delivery) : Prop where
  bytes : delivery.bytes = fileSlice content layout delivery.position delivery.bytes.length
  verified : ∀ index < delivery.bytes.length,
    layout.pieceAt (delivery.position + index) ∈ delivery.reported
  next : delivery.next = delivery.position + delivery.bytes.length

section Arithmetic

variable {layout}

def SamePiece (layout : PieceLayout) (position length : Nat) : Prop :=
  ∀ index < length, position + index < layout.fileSize ∧
    layout.pieceAt (position + index) = layout.pieceAt position

theorem currentPiece_eq {stream : DiskFileStream} {piece : Int}
    (inside : stream.currentPos < layout.fileSize)
    (found : stream.currentPiece layout = some piece) :
    piece = layout.pieceAt stream.currentPos := by
  have sized := layout.sized
  unfold DiskFileStream.currentPiece at found
  split at found
  next => cases found
  next =>
    obtain rfl := Option.some.inj found
    have small : (layout.fileOffset + stream.currentPos) % u64Limit =
        layout.fileOffset + stream.currentPos := Nat.mod_eq_of_lt (by unfold u64Limit; omega)
    rw [small, asI32_eq (layout.indexed stream.currentPos inside)]
    rfl

theorem pieceAt_eq_of_lt {position index : Nat}
    (before : layout.fileOffset + position + index <
      ((layout.fileOffset + position) / layout.pieceLength + 1) * layout.pieceLength) :
    layout.pieceAt (position + index) = layout.pieceAt position := by
  have start := Nat.div_mul_le_self (layout.fileOffset + position) layout.pieceLength
  unfold PieceLayout.pieceAt
  congr 1
  rw [← Nat.add_assoc]
  exact Nat.div_eq_of_lt_le (by omega) (by omega)

theorem bytesAvailable_samePiece {stream : DiskFileStream}
    (inside : stream.currentPos < layout.fileSize) :
    SamePiece layout stream.currentPos (stream.bytesAvailableInVerifiedPiece layout
      (layout.pieceAt stream.currentPos)) := by
  have sized := layout.sized
  have indexed := layout.indexed stream.currentPos inside
  have small : (layout.fileOffset + stream.currentPos) % u64Limit =
      layout.fileOffset + stream.currentPos := Nat.mod_eq_of_lt (by unfold u64Limit; omega)
  have cast : (asU64 (layout.pieceAt stream.currentPos) + 1) % u64Limit =
      (layout.fileOffset + stream.currentPos) / layout.pieceLength + 1 := by
    unfold PieceLayout.pieceAt
    rw [asU64_natCast (by unfold u64Limit; omega)]
    exact Nat.mod_eq_of_lt (by unfold u64Limit; omega)
  intro index available
  simp only [DiskFileStream.bytesAvailableInVerifiedPiece, small, cast, satMul] at available
  exact ⟨by omega, pieceAt_eq_of_lt (by omega)⟩

theorem brokerSliceBounds_cases {position remaining pieceBytes start stop : Nat}
    (inside : position < layout.fileSize)
    (bounds : brokerSliceBounds (layout.pieceAt position) layout.pieceLength layout.fileOffset
      position layout.fileSize pieceBytes remaining = some (start, stop)) :
    (layout.pieceAt position).toNat * layout.pieceLength + start = layout.fileOffset + position ∧
      start ≤ stop ∧ stop ≤ pieceBytes ∧ position + (stop - start) ≤ layout.fileSize := by
  have sized := layout.sized
  have indexed := layout.indexed position inside
  have below := Nat.div_mul_le_self (layout.fileOffset + position) layout.pieceLength
  have cast : (layout.pieceAt position).toNat =
      (layout.fileOffset + position) / layout.pieceLength := rfl
  have index : asU64 (max (layout.pieceAt position) 0) =
      (layout.fileOffset + position) / layout.pieceLength := by
    have nonnegative : 0 ≤ layout.pieceAt position := Int.natCast_nonneg _
    rw [max_eq_left nonnegative]
    exact asU64_natCast (by unfold u64Limit; omega)
  simp only [brokerSliceBounds, index] at bounds
  rw [satMul_eq (by unfold u64Limit; omega), satAdd_eq (by unfold u64Limit; omega)] at bounds
  split at bounds
  next =>
    obtain ⟨rfl, rfl⟩ := Prod.mk.inj (Option.some.inj bounds)
    rw [cast]
    omega
  next => cases bounds

end Arithmetic

namespace DiskFileStream

structure Sound (stream : DiskFileStream) : Prop where
  bounded : stream.currentPos ≤ layout.fileSize
  verified : ∀ piece ∈ stream.verifiedPiece, piece ∈ stream.reported
  broker : ∀ cached ∈ stream.brokerPiece, cached.1 ∈ stream.reported ∧
    ∃ length, cached.2 = pieceBytes content layout cached.1 length

structure Aligned (stream : DiskFileStream) : Prop where
  absent : stream.file = none → stream.seekPending = false
  cursor : ∀ file ∈ stream.file, file.cursor = stream.fileCursor
  pending : ∀ file ∈ stream.file, stream.seekPending = file.seeking.isSome
  distinct : ∀ file ∈ stream.file, ∀ target ∈ file.seeking, target ≠ stream.fileCursor

-- A read that finds a seek of the file pending is for the position that the seek was started for.
def SeekUndisturbed (stream : DiskFileStream) : Event → Prop
  | .pollRead _ => ∀ file ∈ stream.file, ∀ target ∈ file.seeking, stream.currentPos = target
  | .startSeek _ => True

def DeliveriesFaithful (stream : DiskFileStream) : Prop :=
  ∀ delivery ∈ stream.deliveries, delivery.Faithful content layout

variable {content layout}

structure SameData (stream next : DiskFileStream) : Prop where
  position : next.currentPos = stream.currentPos
  verified : next.verifiedPiece = stream.verifiedPiece
  broker : next.brokerPiece = stream.brokerPiece
  reported : next.reported = stream.reported
  file : next.file = stream.file
  cursor : next.fileCursor = stream.fileCursor
  pending : next.seekPending = stream.seekPending

structure Served (content : Nat → UInt8) (layout : PieceLayout) (position : Nat)
    (result : ReadPoll × DiskFileStream) : Prop where
  sound : Sound content layout result.2
  aligned : Aligned result.2
  faithful : Delivery.Faithful content layout
    ⟨position, result.1.filled, result.2.currentPos, result.2.reported⟩

section Frames

variable {stream next : DiskFileStream}

theorem Sound.of_same (sound : Sound content layout stream) (same : SameData stream next) :
    Sound content layout next :=
  ⟨same.position ▸ sound.bounded, same.verified ▸ same.reported ▸ sound.verified,
    same.broker ▸ same.reported ▸ sound.broker⟩

theorem Aligned.of_same (aligned : Aligned stream) (same : SameData stream next) : Aligned next :=
  ⟨same.file ▸ same.pending ▸ aligned.absent, same.file ▸ same.cursor ▸ aligned.cursor,
    same.file ▸ same.pending ▸ aligned.pending, same.file ▸ same.cursor ▸ aligned.distinct⟩

theorem faithful_nothing (position : Nat) (reported : List Int) :
    Delivery.Faithful content layout ⟨position, [], position, reported⟩ :=
  ⟨rfl, by simp, rfl⟩

theorem Served.idle {position : Nat} {poll : ReadPoll} (sound : Sound content layout next)
    (aligned : Aligned next) (unmoved : next.currentPos = position) (nothing : poll.filled = []) :
    Served content layout position (poll, next) :=
  ⟨sound, aligned, by simpa [unmoved, nothing] using faithful_nothing position next.reported⟩

theorem requestPiece_same (stream : DiskFileStream) (now : Nat) (piece : Int) :
    SameData stream (stream.requestPieceFromLibtorrent now piece) := by
  unfold requestPieceFromLibtorrent
  split
  · exact ⟨rfl, rfl, rfl, rfl, rfl, rfl, rfl⟩
  · split <;> exact ⟨rfl, rfl, rfl, rfl, rfl, rfl, rfl⟩

theorem prioritizeFrom_same (layout : PieceLayout) (stream : DiskFileStream) (piece : Int) :
    SameData stream (stream.prioritizeFrom layout piece) := by
  unfold prioritizeFrom
  split <;> exact ⟨rfl, rfl, rfl, rfl, rfl, rfl, rfl⟩

end Frames

section Broker

variable {stream next : DiskFileStream}

theorem pollPieceBroker_sound (sound : Sound content layout stream) (context : PollContext)
    (piece : Int) : Sound content layout (stream.pollPieceBroker content layout context piece).2 := by
  unfold pollPieceBroker
  split
  next => exact sound
  next =>
    cases context.broker with
    | bytes length =>
      refine ⟨sound.bounded, fun other has => .tail _ (sound.verified other has), ?_⟩
      rintro cached ⟨⟩
      exact ⟨.head _, length, rfl⟩
    | pending => exact sound
    | failed | cancelled | panicked => exact sound.of_same ⟨rfl, rfl, rfl, rfl, rfl, rfl, rfl⟩

theorem pollPieceBroker_frame (content : Nat → UInt8) (layout : PieceLayout)
    (stream : DiskFileStream) (context : PollContext) (piece : Int) :
    (stream.pollPieceBroker content layout context piece).2.currentPos = stream.currentPos ∧
      (stream.pollPieceBroker content layout context piece).2.file = stream.file ∧
      (stream.pollPieceBroker content layout context piece).2.fileCursor = stream.fileCursor ∧
      (stream.pollPieceBroker content layout context piece).2.seekPending = stream.seekPending ∧
      stream.reported ⊆ (stream.pollPieceBroker content layout context piece).2.reported := by
  unfold pollPieceBroker
  split
  next => exact ⟨rfl, rfl, rfl, rfl, fun _ member => member⟩
  next =>
    cases context.broker with
    | bytes length => exact ⟨rfl, rfl, rfl, rfl, fun _ member => .tail _ member⟩
    | _ => exact ⟨rfl, rfl, rfl, rfl, fun _ member => member⟩

theorem pollPieceBroker_aligned (content : Nat → UInt8) (layout : PieceLayout)
    (aligned : Aligned stream) (context : PollContext) (piece : Int) :
    Aligned (stream.pollPieceBroker content layout context piece).2 := by
  obtain ⟨-, file, cursor, pending, -⟩ := pollPieceBroker_frame content layout stream context piece
  exact ⟨file ▸ pending ▸ aligned.absent, file ▸ cursor ▸ aligned.cursor,
    file ▸ pending ▸ aligned.pending, file ▸ cursor ▸ aligned.distinct⟩

theorem advance_served {bytes : List UInt8} {piece : Int} {length : Nat}
    (sound : Sound content layout stream) (aligned : Aligned stream)
    (bytesEq : bytes = fileSlice content layout stream.currentPos length)
    (verified : layout.pieceAt stream.currentPos ∈ stream.reported)
    (within : SamePiece layout stream.currentPos length)
    (fits : stream.currentPos + length ≤ layout.fileSize) :
    Served content layout stream.currentPos (.ready bytes, stream.advance layout piece length) := by
  have sized := layout.sized
  have moved : satAdd stream.currentPos length = stream.currentPos + length :=
    satAdd_eq (by unfold u64Limit; omega)
  have counted : bytes.length = length := by simp [bytesEq, fileSlice]
  have same : SameData { stream with
      currentPos := satAdd stream.currentPos length, firstReadLogged := true }
      (stream.advance layout piece length) := prioritizeFrom_same layout _ _
  refine ⟨Sound.of_same ?_ same, Aligned.of_same ?_ same, ?_⟩
  · exact ⟨moved ▸ fits, sound.verified, sound.broker⟩
  · exact ⟨aligned.absent, aligned.cursor, aligned.pending, aligned.distinct⟩
  · refine ⟨?_, fun index inside => ?_, ?_⟩
    · simpa [ReadPoll.filled, counted] using bytesEq
    · have inPiece := (within index (by simpa [ReadPoll.filled, counted] using inside)).2
      show layout.pieceAt (stream.currentPos + index) ∈ (stream.advance layout piece length).reported
      rw [inPiece]
      exact same.reported ▸ verified
    · show (stream.advance layout piece length).currentPos = stream.currentPos + bytes.length
      rw [counted, ← moved]
      exact same.position

theorem extract_pieceBytes {piece : Int} {length start stop : Nat}
    (within : stop ≤ (pieceBytes content layout piece length).length) :
    (pieceBytes content layout piece length).extract start stop =
      (List.range (stop - start)).map fun index =>
        content (piece.toNat * layout.pieceLength + start + index) := by
  simp only [pieceBytes, List.length_map, List.length_range] at within
  refine List.ext_getElem (by simp [pieceBytes]; omega) fun index _ _ => ?_
  simp [pieceBytes, Nat.add_assoc]

theorem serveBrokerPiece_served {bytes : List UInt8} {remaining : Nat}
    (sound : Sound content layout stream) (aligned : Aligned stream)
    (inside : stream.currentPos < layout.fileSize)
    (served : stream.serveBrokerPiece layout (layout.pieceAt stream.currentPos) remaining =
      some (bytes, next)) :
    Served content layout stream.currentPos (.ready bytes, next) := by
  unfold serveBrokerPiece at served
  split at served
  next => cases served
  next cachedPiece data cached =>
    split at served
    next => cases served
    next right =>
      simp only [ne_eq, not_not] at right
      subst right
      split at served
      next => cases served
      next start stop bounds =>
        obtain ⟨rfl, rfl⟩ := Prod.mk.inj (Option.some.inj served)
        obtain ⟨verified, length, piece⟩ := sound.broker _ cached
        replace piece : data = pieceBytes content layout (layout.pieceAt stream.currentPos) length :=
          piece
        subst piece
        obtain ⟨global, ordered, within, fits⟩ := brokerSliceBounds_cases inside bounds
        have start_lt (index : Nat) (lower : index < stop - start) :
            start + index < layout.pieceLength := by
          simp only [pieceBytes, List.length_map, List.length_range] at within
          omega
        refine advance_served sound aligned ?_ verified (fun index lower => ⟨by omega, ?_⟩) fits
        · rw [extract_pieceBytes within, global]
          simp [fileSlice, Nat.add_assoc]
        · -- The piece ends where its bytes do.
          have ends := start_lt index lower
          refine pieceAt_eq_of_lt ?_
          change (layout.fileOffset + stream.currentPos) / layout.pieceLength * layout.pieceLength +
            start = _ at global
          rw [Nat.add_mul]
          omega

theorem tryBroker_cases (context : PollContext) (sound : Sound content layout stream)
    (aligned : Aligned stream) (inside : stream.currentPos < layout.fileSize) :
    (∃ poll next, stream.tryBroker content layout context (layout.pieceAt stream.currentPos) =
        (some poll, next) ∧ Served content layout stream.currentPos (poll, next)) ∨
    ∃ next, stream.tryBroker content layout context (layout.pieceAt stream.currentPos) =
        (none, next) ∧ Sound content layout next ∧ Aligned next ∧
      next.currentPos = stream.currentPos ∧ next.file = stream.file ∧
      stream.reported ⊆ next.reported := by
  have polledSound := pollPieceBroker_sound sound context (layout.pieceAt stream.currentPos)
  have polledAligned := pollPieceBroker_aligned content layout aligned context
    (layout.pieceAt stream.currentPos)
  obtain ⟨position, file, -, -, reported⟩ := pollPieceBroker_frame content layout stream
    context (layout.pieceAt stream.currentPos)
  unfold tryBroker
  generalize stream.pollPieceBroker content layout context (layout.pieceAt stream.currentPos) =
    polled at polledSound polledAligned position file reported
  obtain ⟨failed, next⟩ := polled
  cases failed with
  | true => exact .inl ⟨_, next, rfl, .idle polledSound polledAligned position rfl⟩
  | false =>
    cases served : next.serveBrokerPiece layout (layout.pieceAt stream.currentPos)
        context.remaining with
    | some result =>
      simp only [served]
      simp only at position
      rw [← position] at served inside ⊢
      exact .inl ⟨_, _, rfl, serveBrokerPiece_served polledSound polledAligned inside served⟩
    | none =>
      simp only [served]
      exact .inr ⟨next, rfl, polledSound, polledAligned, position, file, reported⟩

end Broker

end DiskFileStream

end StreamServer.Playback
