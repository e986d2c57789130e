import StreamServer.Playback.PriorityBounds

set_option autoImplicit false

namespace StreamServer.Playback

open MachineInt

def PriorityAssignment.urgency (assignment : PriorityAssignment) : PriorityBand × Int × Int :=
  (assignment.band, assignment.piecePriority, assignment.deadline)

namespace PriorityContext

variable {ctx : PriorityContext}

/-- The cache holds a number of pieces that is not negative as an `i32`. -/
def CacheFits (ctx : PriorityContext) : Prop :=
  0 < ctx.cacheSizeBytes.toNat →
    0 ≤ asI32 (max (ctx.cacheSizeBytes.toNat / ctx.pieceLength.toNat) 1)

def ArithmeticFits (ctx : PriorityContext) : Prop :=
  ctx.invalid = true ∨
    ctx.currentPiece.toInt ≤ ctx.lastPiece.toInt + 1 ∧
    ctx.lastPiece.toInt - ctx.currentPiece.toInt < 2 ^ 31 - 1 ∧ ctx.CacheFits ∧ ctx.DoublingFits

structure Fitted (ctx : PriorityContext) (maxCachePieces remainingPieces : Int)
    (windows : Windows) (decision : PriorityDecision) : Prop where
  assignments : ∃ step, 0 ≤ step ∧ decision.assignments =
    (List.range' 0 decision.targetWindowPieces.toNat).map
      (ctx.assignmentAt step decision.immediatePieces decision.hotWindowPieces)
  target : decision.targetWindowPieces = decision.hotWindowPieces + decision.warmWindowPieces
  hot : decision.hotWindowPieces =
    min (min (min windows.hot maxHotPieces) maxCachePieces) remainingPieces
  warm : 0 ≤ decision.warmWindowPieces
  cache : decision.targetWindowPieces ≤ maxCachePieces
  remaining : decision.targetWindowPieces ≤ remainingPieces

theorem saturatedI32_eq {value : Int} (lower : -2 ^ 31 ≤ value) (upper : value < 2 ^ 31) :
    saturatedI32 value = value := by
  unfold saturatedI32
  omega

theorem saturatedI32_nonneg {value : Int} (positive : 0 ≤ value) : 0 ≤ saturatedI32 value := by
  unfold saturatedI32
  omega

theorem fitted_ok {maxCachePieces remainingPieces : Int} {windows : Windows}
    (cache : 0 ≤ maxCachePieces) (cacheFits : maxCachePieces < 2 ^ 31)
    (remaining : 0 ≤ remainingPieces) (remainingFits : remainingPieces < 2 ^ 31)
    (same : remainingPieces = ctx.lastPiece.toInt - ctx.currentPiece.toInt + 1)
    (some : 1 ≤ windows.hot) :
    ∃ decision, ctx.fitted maxCachePieces remainingPieces windows = .ok decision ∧
      Fitted ctx maxCachePieces remainingPieces windows decision := by
  obtain ⟨step, stepped, least, most⟩ := playbackDeadlineStepMs_ok ctx.pieceLength.toNat
    ctx.bitrateBytesPerSec ctx.downloadRateBytesPerSec.toNat
  unfold fitted maxHotPieces maxWarmPieces
  rw [Int.max_eq_right (show 0 ≤ min windows.hot 96 by omega)]
  generalize hotIs : min (min (min windows.hot 96) maxCachePieces) remainingPieces = hot
  have hotWindow : 0 ≤ hot ∧ hot ≤ 96 ∧ hot ≤ maxCachePieces ∧ hot ≤ remainingPieces := by omega
  dsimp only
  rw [saturatedI32_eq (show -2 ^ 31 ≤ maxCachePieces - hot by omega) (by omega),
    saturatedI32_eq (show -2 ^ 31 ≤ remainingPieces - hot by omega) (by omega)]
  generalize warmIs : min (min (max 0 (min windows.warm 192)) (maxCachePieces - hot))
    (remainingPieces - hot) = warm
  have warmWindow : 0 ≤ warm ∧ warm ≤ 192 ∧ hot + warm ≤ maxCachePieces ∧
      hot + warm ≤ remainingPieces := by omega
  clear warmIs
  generalize max (min windows.immediate hot) 0 = immediate
  have assigned := ctx.assignmentsFrom_ok immediate hot stepped least most 0 (hot + warm).toNat
    (by omega) (by omega)
  simp only [checkedI32_eq (show -2 ^ 31 ≤ hot + warm by omega) (by omega), assigned, bind,
    Except.bind]
  rw [if_neg (by omega)]
  exact ⟨_, rfl, ⟨step, by omega, rfl⟩, rfl, hotIs.symm, warmWindow.1, warmWindow.2.2.1,
    warmWindow.2.2.2⟩

theorem fitted_error {maxCachePieces remainingPieces : Int} {windows : Windows}
    (cacheLeast : -2 ^ 31 ≤ maxCachePieces) (remainingLeast : -2 ^ 31 ≤ remainingPieces)
    (negative : maxCachePieces < 0 ∨ remainingPieces < 0) :
    ctx.fitted maxCachePieces remainingPieces windows = .error .negativeCapacity := by
  unfold fitted
  dsimp only
  generalize hotIs : min (min (max 0 (min windows.hot maxHotPieces)) maxCachePieces)
    remainingPieces = hot
  have hotWindow : hot < 0 ∧ -2 ^ 31 ≤ hot ∧ (hot = maxCachePieces ∨ hot = remainingPieces) ∧
      hot ≤ maxCachePieces ∧ hot ≤ remainingPieces := by omega
  clear hotIs
  -- The hot window takes the limit that is below zero, and no piece is left for the warm one.
  have cached := saturatedI32_nonneg (show 0 ≤ maxCachePieces - hot by omega)
  have rest := saturatedI32_nonneg (show 0 ≤ remainingPieces - hot by omega)
  have used : saturatedI32 (maxCachePieces - hot) = 0 ∨
      saturatedI32 (remainingPieces - hot) = 0 := by
    obtain same | same := hotWindow.2.2.1
    · exact .inl (by rw [same, Int.sub_self]; rfl)
    · exact .inr (by rw [same, Int.sub_self]; rfl)
  have none : min (min (max 0 (min windows.warm maxWarmPieces))
      (saturatedI32 (maxCachePieces - hot))) (saturatedI32 (remainingPieces - hot)) = 0 := by
    omega
  rw [none, Int.add_zero]
  simp only [checkedI32_eq hotWindow.2.1 (show hot < 2 ^ 31 by omega), bind, Except.bind]
  rw [if_pos hotWindow.1]

theorem valid_iff : ctx.invalid = false ↔ 0 < ctx.pieceLength.toNat ∧
    ctx.firstPiece.toInt ≤ ctx.currentPiece.toInt ∧
    ctx.firstPiece.toInt ≤ ctx.lastPiece.toInt := by
  simp only [invalid, Bool.or_eq_false_iff, decide_eq_false_iff_not]
  omega

theorem maxCachePieces_ok (length : 0 < ctx.pieceLength.toNat) :
    ctx.maxCachePieces = .ok (if 0 < ctx.cacheSizeBytes.toNat then
      asI32 (max (ctx.cacheSizeBytes.toNat / ctx.pieceLength.toNat) 1) else maxHotPieces) := by
  unfold maxCachePieces
  split
  · rw [dividedBy_eq _ length]
    rfl
  · rfl

theorem byteCapped_hot {windows : Windows} (length : 0 < ctx.pieceLength.toNat)
    (some : 1 ≤ windows.hot) :
    1 ≤ (ctx.byteCapped (ctx.memoryClamped windows)).hot ∧
      ((ctx.byteCapped (ctx.memoryClamped windows)).hot - 1) * ctx.pieceLength.toNat <
        ctx.hotByteCap := by
  have cap : 0 < ctx.hotByteCap ∧ ctx.hotByteCap < 2 ^ 31 := by
    unfold hotByteCap
    cases ctx.intent <;> first | decide | (cases ctx.firstByteSent <;> decide)
  have clamped : 1 ≤ (ctx.memoryClamped windows).hot := by
    unfold memoryClamped minSeekHotPieces
    split
    · exact some
    · dsimp only
      split <;> omega
  obtain ⟨least, _, within⟩ := capPiecesByBytes_bounds
    (show 0 < (ctx.memoryClamped windows).hot by omega) cap.1 cap.2 length ctx.pieceLength_lt
  exact ⟨least, within⟩

theorem decide_valid (length : 0 < ctx.pieceLength.toNat) (valid : ctx.invalid = false)
    (span : ctx.lastPiece.toInt - ctx.currentPiece.toInt < 2 ^ 31 - 1)
    {windows : Windows}
    (requested : ctx.requestedWindows = .ok windows) :
    ctx.decide = ctx.fitted
      (if 0 < ctx.cacheSizeBytes.toNat then
        asI32 (max (ctx.cacheSizeBytes.toNat / ctx.pieceLength.toNat) 1) else maxHotPieces)
      (saturatedI32 (ctx.lastPiece.toInt - ctx.currentPiece.toInt) + 1)
      (ctx.byteCapped (ctx.memoryClamped windows)) := by
  have remaining : checkedI32 (saturatedI32 (ctx.lastPiece.toInt - ctx.currentPiece.toInt) + 1) =
      .ok (saturatedI32 (ctx.lastPiece.toInt - ctx.currentPiece.toInt) + 1) := by
    unfold saturatedI32
    exact checkedI32_eq (by omega) (by omega)
  unfold decide
  simp only [valid, Bool.false_eq_true, if_false, maxCachePieces_ok length, remaining, requested,
    bind, Except.bind]

theorem pieceIdx_assignmentAt (step immediate hot : Int) (distance : Nat) :
    (ctx.assignmentAt step immediate hot distance).pieceIdx =
      ctx.currentPiece.toInt + distance := rfl

theorem urgency_assignmentAt (step immediate hot : Int) (distance : Nat) :
    (ctx.assignmentAt step immediate hot distance).urgency =
      ctx.intent.placed step distance immediate hot := rfl

section Decided

variable {maxCachePieces remainingPieces : Int} {windows : Windows} {decision : PriorityDecision}

theorem Fitted.length (fitted : Fitted ctx maxCachePieces remainingPieces windows decision) :
    decision.assignments.length = decision.targetWindowPieces.toNat := by
  obtain ⟨step, _, assignments⟩ := fitted.assignments
  rw [assignments, List.length_map, List.length_range']

theorem Fitted.pieceIdx (fitted : Fitted ctx maxCachePieces remainingPieces windows decision)
    {index : Nat} {assignment : PriorityAssignment}
    (found : decision.assignments[index]? = some assignment) :
    assignment.pieceIdx = ctx.currentPiece.toInt + index ∧
      (index : Int) < decision.targetWindowPieces := by
  have inside := (List.getElem?_eq_some_iff.mp found).1
  rw [fitted.length] at inside
  obtain ⟨step, _, assignments⟩ := fitted.assignments
  rw [assignments, List.getElem?_map, List.getElem?_range' inside] at found
  cases found
  rw [pieceIdx_assignmentAt]
  omega

theorem Fitted.ordered (fitted : Fitted ctx maxCachePieces remainingPieces windows decision) :
    decision.assignments.Pairwise fun earlier later =>
      LessUrgent earlier.urgency later.urgency := by
  obtain ⟨step, positive, assignments⟩ := fitted.assignments
  rw [assignments, List.pairwise_map]
  refine List.Pairwise.imp ?_ (List.pairwise_lt_range' 1)
  intro earlier later order
  rw [urgency_assignmentAt, urgency_assignmentAt]
  exact ctx.intent.placed_mono _ _ positive (by omega)

end Decided

theorem decide_window (first : ctx.firstPiece.toInt ≤ ctx.currentPiece.toInt)
    (last : ctx.currentPiece.toInt ≤ ctx.lastPiece.toInt) (length : 0 < ctx.pieceLength.toNat)
    (quotient : ctx.cacheSizeBytes.toNat / ctx.pieceLength.toNat < 2 ^ 31)
    (span : ctx.lastPiece.toInt - ctx.currentPiece.toInt < 2 ^ 31 - 1)
    (doubling : ctx.DoublingFits) :
    ∃ decision, ctx.decide = .ok decision ∧ decision.assignments ≠ [] ∧
      (∀ (index : Nat) (assignment : PriorityAssignment),
        decision.assignments[index]? = some assignment →
        assignment.pieceIdx = ctx.currentPiece.toInt + index ∧
          assignment.pieceIdx ≤ ctx.lastPiece.toInt) ∧
      decision.assignments.length = decision.hotWindowPieces + decision.warmWindowPieces ∧
      decision.assignments.length ≤ (if ctx.cacheSizeBytes.toNat = 0 then 96
        else max 1 (ctx.cacheSizeBytes.toNat / ctx.pieceLength.toNat)) ∧
      decision.assignments.length ≤ ctx.lastPiece.toInt - ctx.currentPiece.toInt + 1 ∧
      (decision.assignments.Pairwise fun earlier later =>
        LessUrgent earlier.urgency later.urgency) ∧
      (decision.hotWindowPieces - 1) * ctx.pieceLength.toNat < ctx.hotByteCap := by
  obtain ⟨windows, requested, some, _⟩ := requestedWindows_ok length doubling
  obtain ⟨hot, within⟩ := byteCapped_hot length some
  have valid : ctx.invalid = false := valid_iff.mpr ⟨length, first, by omega⟩
  have remaining : saturatedI32 (ctx.lastPiece.toInt - ctx.currentPiece.toInt) + 1 =
      ctx.lastPiece.toInt - ctx.currentPiece.toInt + 1 := by
    unfold saturatedI32
    omega
  have cache : (if 0 < ctx.cacheSizeBytes.toNat then
      asI32 (max (ctx.cacheSizeBytes.toNat / ctx.pieceLength.toNat) 1) else maxHotPieces) =
      ((if ctx.cacheSizeBytes.toNat = 0 then 96
        else max 1 (ctx.cacheSizeBytes.toNat / ctx.pieceLength.toNat) : Nat) : Int) := by
    unfold maxHotPieces
    by_cases none : ctx.cacheSizeBytes.toNat = 0
    · rw [if_neg (by omega), if_pos none]
      rfl
    · rw [if_pos (by omega), if_neg none, asI32_eq (by omega), Nat.max_comm]
  generalize limitIs : (if ctx.cacheSizeBytes.toNat = 0 then 96
    else max 1 (ctx.cacheSizeBytes.toNat / ctx.pieceLength.toNat) : Nat) = limit at cache ⊢
  have limited : 1 ≤ limit ∧ limit < 2 ^ 31 := by
    rw [← limitIs]
    split <;> omega
  have decided := decide_valid length valid span requested
  rw [remaining, cache] at decided
  obtain ⟨decision, reached, fitted⟩ := @fitted_ok ctx _ _ (ctx.byteCapped (ctx.memoryClamped windows))
    (show 0 ≤ (limit : Int) by omega) (by omega)
    (show 0 ≤ ctx.lastPiece.toInt - ctx.currentPiece.toInt + 1 by omega) (by omega) rfl hot
  have count := fitted.length
  have window := fitted.target
  have hotWindow := fitted.hot
  have warm := fitted.warm
  have cached := fitted.cache
  have rest := fitted.remaining
  unfold maxHotPieces at hotWindow
  refine ⟨decision, decided.trans reached, ?_, fun index assignment found => ?_, by omega, by omega,
    by omega, fitted.ordered, ?_⟩
  · rw [← List.length_pos_iff]
    omega
  · obtain ⟨piece, inside⟩ := fitted.pieceIdx found
    omega
  · refine lt_of_le_of_lt (Int.mul_le_mul_of_nonneg_right ?_ (by omega)) within
    omega

/-- A sequential read at the start of a file of 1000 pieces, with no bound on the cache. -/
def uncachedRead : PriorityContext where
  intent := .directSequential
  currentPiece := 0
  firstPiece := 0
  lastPiece := 999
  pieceLength := 1048576
  fileSize := 1048576000
  bitrateBytesPerSec := none
  downloadRateBytesPerSec := 2097152
  peers := 10
  cacheSizeBytes := 0
  memoryPressure := .normal
  consecutiveWaits := 0
  firstByteSent := true

theorem uncached_read_decides : ∃ decision, uncachedRead.decide = .ok decision ∧
    decision.assignments.length = decision.hotWindowPieces + decision.warmWindowPieces := by
  obtain ⟨decision, decided, _, _, count, _⟩ := @decide_window uncachedRead (by decide)
    (by decide) (by decide) (by decide) (by decide) (fun seek => by cases seek)
  exact ⟨decision, decided, count⟩

theorem uncached_read_exceeds_one_piece : ∃ decision, uncachedRead.decide = .ok decision ∧
    max 1 (uncachedRead.cacheSizeBytes.toNat / uncachedRead.pieceLength.toNat) <
      decision.assignments.length := by
  have decided : (match uncachedRead.decide with
      | .ok decision => Nat.blt (max 1 (uncachedRead.cacheSizeBytes.toNat /
          uncachedRead.pieceLength.toNat)) decision.assignments.length
      | .error _ => false) = true := by decide +kernel
  split at decided
  next decision reached => exact ⟨decision, reached, Nat.blt_eq.mp decided⟩
  · cases decided

theorem decide_iff (ctx : PriorityContext) :
    (∃ decision, ctx.decide = .ok decision ∧ ∀ assignment ∈ decision.assignments,
      ctx.firstPiece.toInt ≤ assignment.pieceIdx ∧ assignment.pieceIdx ≤ ctx.lastPiece.toInt) ↔
    ctx.ArithmeticFits := by
  have currentLeast := Int32.le_toInt ctx.currentPiece
  have currentMost := Int32.toInt_lt ctx.currentPiece
  have lastLeast := Int32.le_toInt ctx.lastPiece
  have lastMost := Int32.toInt_lt ctx.lastPiece
  unfold ArithmeticFits
  cases valid : ctx.invalid with
  | true =>
    refine iff_of_true ⟨_, if_pos valid, fun assignment member => by cases member⟩ (.inl rfl)
  | false =>
    obtain ⟨length, first, _⟩ := valid_iff.mp valid
    have cacheIs := maxCachePieces_ok length
    generalize limitIs : (if 0 < ctx.cacheSizeBytes.toNat then
      asI32 (max (ctx.cacheSizeBytes.toNat / ctx.pieceLength.toNat) 1) else maxHotPieces) = limit
      at cacheIs
    have limited : -2 ^ 31 ≤ limit ∧ limit < 2 ^ 31 := by
      rw [← limitIs]
      split
      · exact asI32_bounds _
      · decide
    have cacheFits : ctx.CacheFits ↔ 0 ≤ limit := by
      unfold CacheFits
      rw [← limitIs]
      split
      next cached => exact ⟨fun fits => fits cached, fun fits _ => fits⟩
      next none => exact iff_of_true (fun cached => absurd cached none) (by decide)
    have remaining : ctx.lastPiece.toInt - ctx.currentPiece.toInt < 2 ^ 31 - 1 →
        saturatedI32 (ctx.lastPiece.toInt - ctx.currentPiece.toInt) + 1 =
          max (-2 ^ 31 + 1) (ctx.lastPiece.toInt - ctx.currentPiece.toInt + 1) := by
      unfold saturatedI32
      omega
    constructor
    · rintro ⟨decision, decided, _⟩
      right
      -- Each limit that does not hold stops the policy before it has decided.
      by_cases span : ctx.lastPiece.toInt - ctx.currentPiece.toInt < 2 ^ 31 - 1
      · by_cases doubling : ctx.DoublingFits
        · obtain ⟨windows, requested, some, _⟩ := requestedWindows_ok length doubling
          have onward := decide_valid length valid span requested
          rw [limitIs, remaining span] at onward
          rw [onward] at decided
          refine ⟨?_, span, ?_, doubling⟩
          · by_contra past
            rw [fitted_error limited.1 (by omega) (.inr (by omega))] at decided
            cases decided
          · rw [cacheFits]
            by_contra negative
            rw [fitted_error limited.1 (by omega) (.inl (by omega))] at decided
            cases decided
        · have failed := requestedWindows_error length doubling
          unfold PriorityContext.decide at decided
          rw [if_neg (by simp [valid]), cacheIs, failed] at decided
          simp only [bind, Except.bind] at decided
          split at decided <;> cases decided
      · unfold PriorityContext.decide at decided
        have outside : 2 ^ 31 ≤
            saturatedI32 (ctx.lastPiece.toInt - ctx.currentPiece.toInt) + 1 := by
          unfold saturatedI32
          omega
        rw [if_neg (by simp [valid]), cacheIs, checkedI32_error (.inr outside)] at decided
        cases decided
    · rintro (impossible | ⟨past, span, cache, doubling⟩)
      · cases impossible
      · obtain ⟨windows, requested, some, _⟩ := requestedWindows_ok length doubling
        obtain ⟨hot, _⟩ := byteCapped_hot length some
        have onward := decide_valid length valid span requested
        rw [limitIs, remaining span] at onward
        obtain ⟨decision, reached, fitted⟩ := @fitted_ok ctx _ _
          (ctx.byteCapped (ctx.memoryClamped windows)) (cacheFits.mp cache) limited.2
          (show 0 ≤ max (-2 ^ 31 + 1) (ctx.lastPiece.toInt - ctx.currentPiece.toInt + 1) by omega)
          (by omega) (by omega) hot
        refine ⟨decision, onward.trans reached, fun assignment member => ?_⟩
        obtain ⟨index, found⟩ := List.mem_iff_getElem?.mp member
        obtain ⟨piece, inside⟩ := fitted.pieceIdx found
        have within := fitted.remaining
        omega

end PriorityContext

inductive SeekType where
  | sequential
  | initialPlayback
  | userScrub
  | containerMetadata
  deriving DecidableEq

/-- The fields of a memory-only stream that decide what is prioritised at a position. -/
structure LibtorrentFileStream where
  firstPiece : Int32
  lastPiece : Int32
  pieceLength : UInt64
  fileOffset : UInt64
  fileSize : UInt64
  currentPos : UInt64
  isComplete : Bool
  lastPrioritiesPiece : Int32
  cacheSize : UInt64
  bitrate : Option UInt64
  seekType : SeekType
  playbackIntent : PlaybackIntent
  firstReadLogged : Bool
  consecutiveWaits : UInt32

/-- What a replan reads of libtorrent: the smoothed speed as an integer, the peers, the memory. -/
structure SwarmReading where
  downloadSpeed : UInt64
  peers : UInt64
  memoryPressure : MemoryPressure

def PlaybackIntent.sequentialAfterFirstByte : PlaybackIntent → PlaybackIntent
  | .directInitial | .directSeek | .directSequential => .directSequential
  | .hlsInitial | .hlsSeek | .hlsSequential => .hlsSequential
  | other => other

def PlaybackIntent.seekForSameFamily (intent : PlaybackIntent) : PlaybackIntent :=
  if intent.isHls then .hlsSeek
  else if intent.isDownload then .downloadRange
  else .directSeek

/-- The wrapping sum that an optimised build computes, at least zero. -/
def offsetPosition (base : UInt64) (delta : Int64) : UInt64 :=
  let sum := base.toInt64 + delta
  if sum < 0 then 0 else sum.toUInt64

namespace LibtorrentFileStream

inductive SeekFrom where
  | start (pos : UInt64)
  | current (delta : Int64)
  | end (delta : Int64)

def priorityReplanIntent (stream : LibtorrentFileStream) : PlaybackIntent :=
  match stream.playbackIntent with
  | .containerMetadata | .internalProbe | .background => stream.playbackIntent
  | intent => intent.seekForSameFamily

def startSeek (stream : LibtorrentFileStream) (position : SeekFrom) : LibtorrentFileStream :=
  { stream with
    currentPos :=
      match position with
      | .start pos => pos
      | .current delta => offsetPosition stream.currentPos delta
      | .end delta => offsetPosition stream.fileSize delta
    seekType :=
      if stream.playbackIntent = .containerMetadata then .containerMetadata else .userScrub }

def pieceAt (stream : LibtorrentFileStream) (pos : UInt64) : Int32 :=
  ((stream.fileOffset + pos) / stream.pieceLength).toUInt32.toInt32

def contextAt (stream : LibtorrentFileStream) (pos : UInt64) (reading : SwarmReading) :
    PriorityContext where
  intent :=
    match stream.seekType with
    | .containerMetadata => .containerMetadata
    | .userScrub => stream.priorityReplanIntent
    | .initialPlayback | .sequential =>
        if stream.firstReadLogged then stream.playbackIntent.sequentialAfterFirstByte
        else stream.playbackIntent
  currentPiece := stream.pieceAt pos
  firstPiece := stream.firstPiece
  lastPiece := stream.lastPiece
  pieceLength := stream.pieceLength
  fileSize := stream.fileSize
  bitrateBytesPerSec := stream.bitrate
  downloadRateBytesPerSec := reading.downloadSpeed
  peers := reading.peers
  cacheSizeBytes := stream.cacheSize
  memoryPressure := reading.memoryPressure
  consecutiveWaits := stream.consecutiveWaits
  firstByteSent := stream.firstReadLogged

def setPriorities (stream : LibtorrentFileStream) (pos : UInt64) (reading : SwarmReading) :
    LibtorrentFileStream × Option PriorityContext :=
  if stream.isComplete ∨ stream.pieceLength = 0 ∨
      stream.pieceAt pos = stream.lastPrioritiesPiece then (stream, none)
  else
    ({ stream with seekType := .sequential, lastPrioritiesPiece := stream.pieceAt pos },
      some (stream.contextAt pos reading))

def pollComplete (stream : LibtorrentFileStream) (reading : SwarmReading) :
    LibtorrentFileStream × Option PriorityContext :=
  let global := satAdd stream.fileOffset.toNat stream.currentPos.toNat
  let pieceIdx : Int :=
    if stream.pieceLength = 0 then -1 else asI32 (global / stream.pieceLength.toNat)
  if pieceIdx ≠ stream.lastPrioritiesPiece.toInt then
    stream.setPriorities stream.currentPos reading
  else (stream, none)

structure LaidOut (stream : LibtorrentFileStream) : Prop where
  length : 0 < stream.pieceLength.toNat
  fits : stream.fileOffset.toNat + stream.fileSize.toNat < u64Limit
  few : (stream.fileOffset.toNat + stream.fileSize.toNat) / stream.pieceLength.toNat < 2 ^ 31 - 1
  first : stream.firstPiece.toInt =
    ((stream.fileOffset.toNat / stream.pieceLength.toNat : Nat) : Int)
  last : stream.lastPiece.toInt =
    (((stream.fileOffset.toNat + stream.fileSize.toNat - 1) / stream.pieceLength.toNat : Nat) : Int)


section PastTheEnd

def shortFile : LibtorrentFileStream where
  firstPiece := 0
  lastPiece := 9
  pieceLength := 1048576
  fileOffset := 0
  fileSize := 10485760
  currentPos := 0
  isComplete := false
  lastPrioritiesPiece := 0
  cacheSize := 1073741824
  bitrate := none
  seekType := .sequential
  playbackIntent := .directSequential
  firstReadLogged := true
  consecutiveWaits := 0

-- Piece 11 of a file whose last piece is 9.
theorem seek_past_end_fails :
    ∃ context,
      ((shortFile.startSeek (.start 11534336)).pollComplete ⟨2097152, 10, .normal⟩).2 =
        some context ∧
      context.decide = .error .negativeCapacity := by
  refine ⟨_, rfl, ?_⟩
  decide +kernel

end PastTheEnd

end LibtorrentFileStream

end StreamServer.Playback
