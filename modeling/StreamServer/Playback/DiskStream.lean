import Mathlib.Data.List.Basic
import StreamServer.Shared.Checked

set_option autoImplicit false

namespace StreamServer.Playback

open MachineInt

def scratchLength : Nat := 256 * 1024

/-- Instants are in milliseconds. -/
def pieceReadRetryDelay : Nat := 250

structure PieceLayout where
  firstPiece : Int
  lastPiece : Int
  pieceLength : Nat
  fileOffset : Nat
  fileSize : Nat
  sized : fileOffset + fileSize < 2 ^ 63
  indexed : ∀ position < fileSize, (fileOffset + position) / pieceLength < 2 ^ 31

def PieceLayout.pieceAt (layout : PieceLayout) (position : Nat) : Int :=
  (((layout.fileOffset + position) / layout.pieceLength : Nat) : Int)

def PieceLayout.contains (layout : PieceLayout) (piece : Int) : Bool :=
  layout.firstPiece ≤ piece && piece ≤ layout.lastPiece

def brokerSliceBounds (piece : Int) (pieceLength fileOffset currentPos fileSize pieceBytes
    requestedBytes : Nat) : Option (Nat × Nat) :=
  let pieceStart := satMul (asU64 (max piece 0)) pieceLength
  let globalPosition := satAdd fileOffset currentPos
  -- The conversions to `usize` cannot fail on a 64-bit target.
  let offset := globalPosition - pieceStart
  let available := pieceBytes - offset
  let remainingFile := fileSize - currentPos
  let length := min (min requestedBytes available) remainingFile
  if length ≠ 0 then some (offset, offset + length) else none

-- `tokio::fs::File`: a cursor of its own, and the target of the last `start_seek` as long as
-- `poll_complete` has not finished it.
structure DiskFile where
  cursor : Nat
  seeking : Option Nat
deriving DecidableEq, Repr

structure Delivery where
  position : Nat
  bytes : List UInt8
  next : Nat
  reported : List Int
deriving DecidableEq, Repr

structure DiskFileStream where
  currentPos : Nat
  firstReadLogged : Bool
  lastPrioritizedPiece : Int
  file : Option DiskFile
  fileCursor : Nat
  seekPending : Bool
  openFile : Bool
  verifiedPiece : Option Int
  brokerPiece : Option (Int × List UInt8)
  pieceRead : Option Int
  pieceReadRetryAt : Option (Int × Nat)
  -- Not part of the source: the pieces reported verified and the reads made so far.
  reported : List Int
  deliveries : List Delivery
deriving DecidableEq, Repr

inductive BrokerPoll where
  | pending
  -- How many bytes of the piece the alert carried.
  | bytes (length : Nat)
  | failed
  | cancelled
  | panicked
deriving DecidableEq, Repr

inductive FileOpenPoll where
  | pending
  | opened
  | notFound
  | failed
deriving DecidableEq, Repr

inductive FileSeekPoll where
  | pending
  | completed
  | failed
deriving DecidableEq, Repr

inductive FileReadPoll where
  | pending
  -- How many bytes were read, and what the file holds where nothing has been verified.
  | bytes (length : Nat) (unverified : Nat → UInt8)
  | failed

-- The environment of one `poll_read`: the caller's buffer, the answers of libtorrent and the
-- readiness of the broker task and of the file operations.
structure PollContext where
  cancelled : Bool
  remaining : Nat
  havePiece : Bool
  now : Nat
  broker : BrokerPoll
  fileOpen : FileOpenPoll
  startSeekOk : Bool
  fileSeek : FileSeekPoll
  fileRead : FileReadPoll

inductive ReadError where
  | interrupted
  | invalidData
  | unexpectedEof
  | io
deriving DecidableEq, Repr

inductive ReadPoll where
  | pending
  | failed (error : ReadError)
  -- `Ready(Ok(()))`, with the bytes put into the buffer.
  | ready (filled : List UInt8)
deriving DecidableEq, Repr

def ReadPoll.filled : ReadPoll → List UInt8
  | .ready filled => filled
  | _ => []

inductive SeekFrom where
  | start (position : Nat)
  | current (delta : Int)
  | fromEnd (delta : Int)
deriving DecidableEq, Repr

-- What a read of the file at `cursor` yields: the content of the torrent where a piece has been
-- reported verified, and anything elsewhere.
def diskBytes (content : Nat → UInt8) (layout : PieceLayout) (reported : List Int)
    (unverified : Nat → UInt8) (cursor length : Nat) : List UInt8 :=
  (List.range length).map fun index =>
    if layout.pieceAt (cursor + index) ∈ reported then
      content (layout.fileOffset + (cursor + index))
    else unverified (cursor + index)

def pieceBytes (content : Nat → UInt8) (layout : PieceLayout) (piece : Int) (length : Nat) :
    List UInt8 :=
  (List.range (min length layout.pieceLength)).map fun index =>
    content (piece.toNat * layout.pieceLength + index)

namespace DiskFileStream

def new (opened : Bool) : DiskFileStream where
  currentPos := 0
  firstReadLogged := false
  lastPrioritizedPiece := -1
  file := if opened then some ⟨0, none⟩ else none
  fileCursor := 0
  seekPending := false
  openFile := false
  verifiedPiece := none
  brokerPiece := none
  pieceRead := none
  pieceReadRetryAt := none
  reported := []
  deliveries := []

section

variable (content : Nat → UInt8) (layout : PieceLayout)

def currentPiece (stream : DiskFileStream) : Option Int :=
  if layout.pieceLength = 0 then none
  else some (asI32 ((layout.fileOffset + stream.currentPos) % u64Limit / layout.pieceLength))

def bytesAvailableInVerifiedPiece (stream : DiskFileStream) (piece : Int) : Nat :=
  let currentGlobal := (layout.fileOffset + stream.currentPos) % u64Limit
  let pieceEndGlobal := satMul ((asU64 piece + 1) % u64Limit) layout.pieceLength
  min (pieceEndGlobal - currentGlobal) (layout.fileSize - stream.currentPos)

-- `prioritize_from`, less the priority window that it hands to the playback permit.
def prioritizeFrom (stream : DiskFileStream) (piece : Int) : DiskFileStream :=
  if layout.contains piece then { stream with lastPrioritizedPiece := piece } else stream

def requestPieceFromLibtorrent (stream : DiskFileStream) (now : Nat) (piece : Int) :
    DiskFileStream :=
  if stream.pieceReadRetryAt.any fun (failedPiece, retryAt) => failedPiece == piece && now < retryAt
  then stream
  else if stream.pieceRead == some piece || stream.brokerPiece.any (·.1 == piece) then stream
  -- A request for another piece is aborted.
  else { stream with pieceRead := some piece }

def pollPieceBroker (stream : DiskFileStream) (context : PollContext) (piece : Int) :
    Bool × DiskFileStream :=
  if stream.pieceRead ≠ some piece then (false, stream)
  else
    let retryAt := some (piece, context.now + pieceReadRetryDelay)
    match context.broker with
    | .pending => (false, stream)
    | .bytes length =>
        (false, { stream with
          brokerPiece := some (piece, pieceBytes content layout piece length)
          pieceRead := none
          pieceReadRetryAt := none
          reported := piece :: stream.reported })
    | .failed => (false, { stream with pieceRead := none, pieceReadRetryAt := retryAt })
    | .cancelled => (false, { stream with pieceRead := none })
    | .panicked => (true, { stream with pieceRead := none, pieceReadRetryAt := retryAt })

def advance (stream : DiskFileStream) (piece : Int) (length : Nat) : DiskFileStream :=
  prioritizeFrom layout { stream with
    currentPos := satAdd stream.currentPos length
    firstReadLogged := true } (min (piece + 1) (2 ^ 31 - 1))

def serveBrokerPiece (stream : DiskFileStream) (piece : Int) (remaining : Nat) :
    Option (List UInt8 × DiskFileStream) :=
  match stream.brokerPiece with
  | none => none
  | some (cachedPiece, data) =>
      if cachedPiece ≠ piece then none
      else
        match brokerSliceBounds piece layout.pieceLength layout.fileOffset stream.currentPos
            layout.fileSize data.length remaining with
        | none => none
        | some (start, stop) =>
            some (data.extract start stop, stream.advance layout piece (stop - start))

def tryBroker (stream : DiskFileStream) (context : PollContext) (piece : Int) :
    Option ReadPoll × DiskFileStream :=
  match stream.pollPieceBroker content layout context piece with
  | (true, stream) => (some (.failed .io), stream)
  | (false, stream) =>
      match stream.serveBrokerPiece layout piece context.remaining with
      | some (bytes, stream) => (some (.ready bytes), stream)
      | none => (none, stream)

def pollFileOpen (stream : DiskFileStream) (poll : FileOpenPoll) :
    Option ReadPoll × DiskFileStream :=
  if stream.file.isSome then (none, stream)
  else
    match poll with
    | .pending => (some .pending, { stream with openFile := true })
    | .opened =>
        (none, { stream with
          file := some ⟨0, none⟩
          fileCursor := 0
          seekPending := false
          openFile := false })
    | .notFound => (some .pending, { stream with openFile := false })
    | .failed => (some (.failed .io), { stream with openFile := false })

def pollFileSeek (stream : DiskFileStream) (context : PollContext) (file : DiskFile) :
    Option ReadPoll × DiskFileStream :=
  if stream.fileCursor = stream.currentPos then (none, stream)
  else if !stream.seekPending && !context.startSeekOk then (some (.failed .io), stream)
  else
    let target := if stream.seekPending then file.seeking.getD file.cursor else stream.currentPos
    match context.fileSeek with
    | .pending =>
        (some .pending,
          { stream with file := some ⟨file.cursor, some target⟩, seekPending := true })
    | .failed =>
        (some (.failed .io), { stream with file := some ⟨file.cursor, none⟩, seekPending := false })
    | .completed =>
        -- The position that the file reports is the target of its last `start_seek`.
        (none, { stream with file := some ⟨target, none⟩, fileCursor := target, seekPending := false })

/-- The read at the file's own cursor. A seek that is still pending in the file finishes first. -/
def pollFileRead (stream : DiskFileStream) (context : PollContext) (file : DiskFile) (piece : Int)
    (toRead : Nat) : ReadPoll × DiskFileStream :=
  match context.fileRead with
  | .pending => (.pending, stream)
  | .failed => (.failed .io, stream)
  | .bytes length unverified =>
      let cursor := file.seeking.getD file.cursor
      let read := min length toRead
      let bytes := diskBytes content layout stream.reported unverified cursor read
      let stream := { stream with
        file := some ⟨cursor + read, none⟩
        fileCursor := satAdd stream.fileCursor read }
      if read = 0 ∨
          stream.currentPos = 0 ∧ stream.firstReadLogged = false ∧ bytes.all (· == 0) then
        (.pending, stream.requestPieceFromLibtorrent context.now piece)
      else (.ready bytes, stream.advance layout piece read)

def pollFile (stream : DiskFileStream) (context : PollContext) (piece : Int)
    (verifiedAvailable : Nat) : ReadPoll × DiskFileStream :=
  match stream.pollFileOpen context.fileOpen with
  | (some .pending, stream) => (.pending, stream.requestPieceFromLibtorrent context.now piece)
  | (some poll, stream) => (poll, stream)
  | (none, stream) =>
      match stream.file with
      | none => (.pending, stream)
      | some file =>
          match stream.pollFileSeek context file with
          | (some poll, stream) => (poll, stream)
          | (none, stream) =>
              match stream.file with
              | none => (.pending, stream)
              | some file =>
                  stream.pollFileRead content layout context file piece
                    (min (min context.remaining verifiedAvailable) scratchLength)

def pollUnverified (stream : DiskFileStream) (context : PollContext) (piece : Int) :
    ReadPoll × DiskFileStream :=
  let stream := stream.requestPieceFromLibtorrent context.now piece
  match stream.tryBroker content layout context piece with
  | (some poll, stream) => (poll, stream)
  -- `wait_for_piece`
  | (none, stream) => (.pending, stream.prioritizeFrom layout piece)

def markVerified (stream : DiskFileStream) (piece : Int) : DiskFileStream :=
  { stream with
    verifiedPiece := some piece
    reported :=
      if stream.verifiedPiece = some piece then stream.reported else piece :: stream.reported }

def pollVerified (stream : DiskFileStream) (context : PollContext) (piece : Int) :
    ReadPoll × DiskFileStream :=
  let verifiedAvailable := stream.bytesAvailableInVerifiedPiece layout piece
  if verifiedAvailable = 0 then (.ready [], stream)
  else
    let stream :=
      if !stream.firstReadLogged || stream.file.isNone then
        stream.requestPieceFromLibtorrent context.now piece
      else stream
    match stream.tryBroker content layout context piece with
    | (some poll, stream) => (poll, stream)
    | (none, stream) => stream.pollFile content layout context piece verifiedAvailable

def pollRead (stream : DiskFileStream) (context : PollContext) : ReadPoll × DiskFileStream :=
  if context.cancelled then (.failed .interrupted, stream)
  else if layout.fileSize ≤ stream.currentPos ∨ context.remaining = 0 then (.ready [], stream)
  else
    match stream.currentPiece layout with
    | none => (.failed .invalidData, stream)
    | some piece =>
        if !layout.contains piece then (.failed .unexpectedEof, stream)
        else if stream.verifiedPiece ≠ some piece ∧ context.havePiece = false then
          stream.pollUnverified content layout context piece
        else (stream.markVerified piece).pollVerified content layout context piece

def startSeek (stream : DiskFileStream) (position : SeekFrom) : DiskFileStream :=
  let newPos := match position with
    | .start position => position
    | .current delta => asU64 (max (satAddI64 (asI64 stream.currentPos) delta) 0)
    | .fromEnd delta => asU64 (max (satAddI64 (asI64 layout.fileSize) delta) 0)
  { stream with
    currentPos := min newPos layout.fileSize
    lastPrioritizedPiece := -1
    verifiedPiece := none
    brokerPiece := none
    pieceRead := none
    pieceReadRetryAt := none }

inductive Event where
  | startSeek (position : SeekFrom)
  | pollRead (context : PollContext)

def step (stream : DiskFileStream) : Event → Option DiskFileStream
  | .startSeek position => some (stream.startSeek layout position)
  | .pollRead context =>
      let (poll, next) := stream.pollRead content layout context
      let delivery : Delivery := ⟨stream.currentPos, poll.filled, next.currentPos, next.reported⟩
      some { next with deliveries := stream.deliveries ++ [delivery] }

end

end DiskFileStream

end StreamServer.Playback
