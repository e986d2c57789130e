import StreamServer.Playback.Store
import StreamServer.Shared.Checked

set_option autoImplicit false

namespace StreamServer.Playback

open MachineInt

-- What ends the call instead of a decision: arithmetic that does not fit, or a length below zero
-- that becomes a capacity.
inductive Fault where
  | i32Overflow
  | divisionByZero
  | clampOrder
  | negativeCapacity
  deriving DecidableEq

def checkedI32 (value : Int) : Except Fault Int :=
  if -2 ^ 31 ≤ value ∧ value < 2 ^ 31 then .ok value else .error .i32Overflow

def saturatedI32 (value : Int) : Int := max (-2 ^ 31) (min value (2 ^ 31 - 1))

def dividedBy (left right : Nat) : Except Fault Nat :=
  if right = 0 then .error .divisionByZero else .ok (left / right)

def clampI32 (value lower upper : Int) : Except Fault Int :=
  if lower ≤ upper then .ok (max lower (min value upper)) else .error .clampOrder

def minStartupBytes : Nat := 4 * 1024 * 1024
def maxStartupWindowBytes : Nat := 4 * 1024 * 1024
def maxSeekHotWindowBytes : Nat := 128 * 1024 * 1024
def maxWarmWindowBytes : Nat := 256 * 1024 * 1024
def maxContainerMetadataWindowBytes : Nat := 16 * 1024 * 1024
def maxDownloadRangeWindowBytes : Nat := 32 * 1024 * 1024
def smallFileBytes : Nat := 64 * 1024 * 1024

def maxStartupPieces : Int := 4
def maxSmallFileStartupPieces : Int := 32
def minStartupPieces : Int := 2
def minSeekHotPieces : Int := 24
def seekImmediatePieces : Int := 12
def maxHotPieces : Int := 96
def maxWarmPieces : Int := 192
def minPieceDeadlineStepMs : Nat := 500
def maxPieceDeadlineStepMs : Nat := 30000

inductive MemoryPressure where
  | normal
  | high
  deriving DecidableEq

inductive PriorityBand where
  | immediate
  | hot
  | warm
  | metadata
  | background
  deriving DecidableEq

structure PriorityContext where
  intent : PlaybackIntent
  currentPiece : Int32
  firstPiece : Int32
  lastPiece : Int32
  pieceLength : UInt64
  fileSize : UInt64
  bitrateBytesPerSec : Option UInt64
  downloadRateBytesPerSec : UInt64
  peers : UInt64
  cacheSizeBytes : UInt64
  memoryPressure : MemoryPressure
  consecutiveWaits : UInt32
  firstByteSent : Bool

structure PriorityAssignment where
  pieceIdx : Int
  piecePriority : Int
  deadline : Int
  band : PriorityBand
  deriving DecidableEq

structure PriorityDecision where
  assignments : List PriorityAssignment
  targetWindowPieces : Int
  immediatePieces : Int
  hotWindowPieces : Int
  warmWindowPieces : Int
  reason : String
  deriving DecidableEq

structure Windows where
  immediate : Int
  hot : Int
  warm : Int
  reason : String

def PlaybackIntent.isHls : PlaybackIntent → Bool
  | .hlsInitial | .hlsSeek | .hlsSequential => true
  | _ => false

def PlaybackIntent.isSeek : PlaybackIntent → Bool
  | .directSeek | .hlsSeek => true
  | _ => false

def PlaybackIntent.reason : PlaybackIntent → String
  | .directInitial | .hlsInitial => "initial"
  | .directSeek | .hlsSeek => "seek"
  | .directSequential | .hlsSequential => "sequential"
  | .downloadFull => "download-full"
  | .downloadRange => "download-range"
  | .containerMetadata => "container-metadata"
  | .internalProbe => "internal-probe"
  | .background => "background"

/-- The double nearest to an unsigned integer, ties to even; it is an integer again. -/
def f64OfU64 (value : Nat) : Nat :=
  let exponent := value.log2 - 52
  let quotient := value >>> exponent
  let rest := value % 2 ^ exponent
  let half := 2 ^ exponent / 2
  if half < rest ∨ (half = rest ∧ 0 < exponent ∧ quotient % 2 = 1) then
    (quotient + 1) <<< exponent
  else quotient <<< exponent

-- The double nearest to the quotient of two doubles is at least a bound with an even significand:
-- the quotient is at least `middle / scale`, halfway to the double below the bound.
def ratioAtLeast (ratio : Nat × Nat) (middle scale : Nat) : Bool :=
  middle * ratio.2 ≤ scale * ratio.1

def piecesForBytes (bytes pieceLength : Nat) : Int :=
  if bytes = 0 ∨ pieceLength = 0 then 0
  else
    let pieces := satAdd bytes (pieceLength - 1) / pieceLength
    asI32 (max 1 (min pieces (2 ^ 31 - 1)))

def capPiecesByBytes (pieces : Int) (pieceLength maxBytes : Nat) : Int :=
  if pieces ≤ 0 then 0
  else if maxBytes = 0 then 0
  else min pieces (max (piecesForBytes maxBytes pieceLength) 1)

def playbackDeadlineStepMs (pieceLength : Nat) (bitrate : Option UInt64) (downloadRate : Nat) :
    Except Fault Int :=
  let bitrate := (bitrate.map UInt64.toNat).filter (0 < ·)
  let effective :=
    match bitrate, if 0 < downloadRate then some downloadRate else none with
    | some bitrate, some downloadRate => min bitrate downloadRate
    | some bitrate, none => bitrate
    | none, some downloadRate => downloadRate
    | none, none => 1024 * 1024
  (dividedBy (satMul pieceLength 1000 + (effective - 1)) effective).map fun step =>
    asI32 (max minPieceDeadlineStepMs (min step maxPieceDeadlineStepMs))

namespace PriorityContext

def bitrateRatio (ctx : PriorityContext) : Option (Nat × Nat) :=
  ((ctx.bitrateBytesPerSec.map UInt64.toNat).filter (0 < ·)).map fun bitrate =>
    (f64OfU64 ctx.downloadRateBytesPerSec.toNat, f64OfU64 bitrate)

def hotByteCap (ctx : PriorityContext) : Nat :=
  match ctx.intent with
  | .directInitial | .hlsInitial =>
      if !ctx.firstByteSent then maxStartupWindowBytes else maxSeekHotWindowBytes
  | .directSeek | .hlsSeek | .directSequential | .hlsSequential => maxSeekHotWindowBytes
  | .downloadFull => maxWarmWindowBytes
  | .downloadRange => maxDownloadRangeWindowBytes
  | .containerMetadata | .internalProbe | .background => maxContainerMetadataWindowBytes

def warmByteCap : PlaybackIntent → Nat
  | .directInitial | .directSeek | .directSequential | .hlsInitial | .hlsSeek | .hlsSequential
  | .downloadFull => maxWarmWindowBytes
  | .downloadRange | .containerMetadata | .internalProbe | .background => 0

def speedWindow (ctx : PriorityContext) : Int :=
  match ctx.bitrateRatio with
  | some ratio =>
      if ratioAtLeast ratio (3 * 2 ^ 52 - 1) (2 ^ 52) then 96
      else if ratioAtLeast ratio (3 * 2 ^ 52 - 1) (2 ^ 53) then 48
      else if ratioAtLeast ratio (2 ^ 54 - 1) (2 ^ 54) then 32
      else minSeekHotPieces
  | none =>
      let rate := ctx.downloadRateBytesPerSec.toNat
      if rate > 10 * 1024 * 1024 then 96
      else if rate > 5 * 1024 * 1024 then 48
      else if rate > 1024 * 1024 then minSeekHotPieces
      else 16

def piecesForTenSeconds (ctx : PriorityContext) (bitrate : Nat) : Except Fault Int :=
  (dividedBy (satMul bitrate 10) ctx.pieceLength.toNat).map fun pieces => asI32 (max pieces 1)

def dynamicHotWindow (ctx : PriorityContext) : Except Fault Int := do
  let hot ← match (ctx.bitrateBytesPerSec.map UInt64.toNat).filter (0 < ·) with
    | some bitrate => (ctx.piecesForTenSeconds bitrate).map (max ctx.speedWindow)
    | none => .ok ctx.speedWindow
  .ok (if ctx.peers.toNat < 3 then min hot minSeekHotPieces else hot)

def startupPieces (ctx : PriorityContext) : Except Fault Int := do
  let pieceLength := ctx.pieceLength.toNat
  let fileSize := ctx.fileSize.toNat
  let wanted :=
    match ctx.bitrateBytesPerSec with
    | some bitrate => max (satMul bitrate.toNat 10) minStartupBytes
    | none =>
        if 0 < fileSize ∧ fileSize ≤ smallFileBytes then min fileSize maxStartupWindowBytes
        else minStartupBytes
  let targetBytes := min (max wanted pieceLength) (max maxStartupWindowBytes pieceLength)
  let pieces ← dividedBy (satAdd targetBytes (pieceLength - 1)) pieceLength
  let maxPieces ←
    if ctx.bitrateBytesPerSec.isNone ∧ fileSize ≤ smallFileBytes then
      clampI32 (piecesForBytes (min fileSize maxStartupWindowBytes) pieceLength) 1
        maxSmallFileStartupPieces
    else .ok maxStartupPieces
  clampI32 (asI32 pieces) (max (min minStartupPieces maxPieces) 1) maxPieces

def sequentialWindows (ctx : PriorityContext) : Except Fault Windows := do
  let hot ← ctx.dynamicHotWindow
  .ok (if ctx.intent.isHls then ⟨2, min hot 48, 32, ctx.intent.reason ++ "-hls-cap"⟩
    else ⟨2, hot, 32, ctx.intent.reason⟩)

def seekWindows (ctx : PriorityContext) : Except Fault Windows := do
  let hot := max (← ctx.dynamicHotWindow) minSeekHotPieces
  if 3 ≤ ctx.consecutiveWaits.toNat then
    let doubled ← checkedI32 (hot * 2)
    let hot := min doubled maxHotPieces
    let immediate ← checkedI32 (seekImmediatePieces * 2)
    .ok ⟨min immediate hot, hot, 32, ctx.intent.reason ++ "-blocked-expand"⟩
  else
    .ok (if ctx.intent.isHls then
        ⟨seekImmediatePieces, min hot 48, 32, ctx.intent.reason ++ "-hls-cap"⟩
      else ⟨seekImmediatePieces, hot, 32, ctx.intent.reason⟩)

def requestedWindows (ctx : PriorityContext) : Except Fault Windows :=
  match ctx.intent with
  | .directInitial | .hlsInitial =>
      if !ctx.firstByteSent then
        ctx.startupPieces.map fun pieces => ⟨min pieces maxStartupPieces, pieces, 0, ctx.intent.reason⟩
      else ctx.sequentialWindows
  | .directSequential | .hlsSequential => ctx.sequentialWindows
  | .downloadFull => .ok ⟨2, 16, 0, ctx.intent.reason⟩
  | .downloadRange => .ok ⟨1, 4, 0, ctx.intent.reason⟩
  | .directSeek | .hlsSeek =>
      if !ctx.firstByteSent then .ok ⟨1, 1, 0, ctx.intent.reason ++ "-first-piece-only"⟩
      else ctx.seekWindows
  | .containerMetadata => .ok ⟨1, 2, 0, ctx.intent.reason⟩
  | .internalProbe => .ok ⟨0, 2, 0, ctx.intent.reason⟩
  | .background => .ok ⟨0, 4, 0, ctx.intent.reason⟩

def memoryClamped (ctx : PriorityContext) (windows : Windows) : Windows :=
  match ctx.memoryPressure with
  | .normal => windows
  | .high =>
      { windows with
        hot := min windows.hot (if ctx.intent.isHls then 16 else minSeekHotPieces)
        warm := 0
        reason := windows.reason ++ "-memory-clamp" }

def byteCapped (ctx : PriorityContext) (windows : Windows) : Windows :=
  let warm :=
    match ctx.intent with
    | .background | .internalProbe => 0
    | _ => windows.warm
  let cappedHot := capPiecesByBytes windows.hot ctx.pieceLength.toNat ctx.hotByteCap
  let cappedWarm := capPiecesByBytes warm ctx.pieceLength.toNat (warmByteCap ctx.intent)
  { windows with
    hot := cappedHot
    warm := cappedWarm
    reason :=
      if cappedHot < windows.hot ∨ cappedWarm < warm then windows.reason ++ "-byte-cap"
      else windows.reason }

def assignmentFor (ctx : PriorityContext) (distance immediate hot : Int) :
    Except Fault (PriorityBand × Int × Int) := do
  let step ← playbackDeadlineStepMs ctx.pieceLength.toNat ctx.bitrateBytesPerSec
    ctx.downloadRateBytesPerSec.toNat
  let deadline ← checkedI32 (distance * step)
  match ctx.intent with
  | .containerMetadata => .ok (.metadata, 7, deadline)
  | .internalProbe => (checkedI32 (10000 + deadline)).map fun late => (.background, 1, late)
  | .background => (checkedI32 (30000 + deadline)).map fun late => (.background, 1, late)
  | _ =>
      if distance < immediate then .ok (.immediate, 7, deadline)
      else if distance < hot then .ok (.hot, 4, deadline)
      else (checkedI32 (10000 + deadline)).map fun late => (.warm, 2, late)

def assignmentsFrom (ctx : PriorityContext) (immediate hot : Int) :
    Nat → Nat → Except Fault (List PriorityAssignment)
  | _, 0 => .ok []
  | distance, count + 1 => do
      let pieceIdx ← checkedI32 (ctx.currentPiece.toInt + distance)
      if ctx.lastPiece.toInt < pieceIdx then .ok []
      else
        let (band, piecePriority, deadline) ← ctx.assignmentFor distance immediate hot
        let rest ← ctx.assignmentsFrom immediate hot (distance + 1) count
        .ok (⟨pieceIdx, piecePriority, deadline, band⟩ :: rest)

def fitted (ctx : PriorityContext) (maxCachePieces remainingPieces : Int) (windows : Windows) :
    Except Fault PriorityDecision := do
  let hot := min (min (max 0 (min windows.hot maxHotPieces)) maxCachePieces) remainingPieces
  let warm := min (min (max 0 (min windows.warm maxWarmPieces))
    (saturatedI32 (maxCachePieces - hot))) (saturatedI32 (remainingPieces - hot))
  let immediate := max (min windows.immediate hot) 0
  let targetWindow ← checkedI32 (hot + warm)
  -- `target_window as usize`, which no vector can hold where it is negative.
  if targetWindow < 0 then .error .negativeCapacity
  else
    let assignments ← ctx.assignmentsFrom immediate hot 0 targetWindow.toNat
    .ok ⟨assignments, targetWindow, immediate, hot, warm, windows.reason⟩

def maxCachePieces (ctx : PriorityContext) : Except Fault Int :=
  if 0 < ctx.cacheSizeBytes.toNat then
    (dividedBy ctx.cacheSizeBytes.toNat ctx.pieceLength.toNat).map fun pieces =>
      asI32 (max pieces 1)
  else .ok maxHotPieces

def invalid (ctx : PriorityContext) : Bool :=
  ctx.pieceLength.toNat = 0 || ctx.currentPiece.toInt < ctx.firstPiece.toInt ||
    ctx.lastPiece.toInt < ctx.firstPiece.toInt

def decide (ctx : PriorityContext) : Except Fault PriorityDecision :=
  if ctx.invalid then .ok ⟨[], 0, 0, 0, 0, "invalid-context"⟩
  else do
    let maxCachePieces ← ctx.maxCachePieces
    let remainingPieces ←
      checkedI32 (saturatedI32 (ctx.lastPiece.toInt - ctx.currentPiece.toInt) + 1)
    let windows ← ctx.requestedWindows
    ctx.fitted maxCachePieces remainingPieces (ctx.byteCapped (ctx.memoryClamped windows))

end PriorityContext

end StreamServer.Playback
