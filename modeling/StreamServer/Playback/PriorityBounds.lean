import StreamServer.Playback.PriorityPolicy

set_option autoImplicit false

namespace StreamServer.Playback

open MachineInt

theorem checkedI32_eq {value : Int} (lower : -2 ^ 31 ≤ value) (upper : value < 2 ^ 31) :
    checkedI32 value = .ok value := if_pos ⟨lower, upper⟩

theorem checkedI32_error {value : Int} (outside : value < -2 ^ 31 ∨ 2 ^ 31 ≤ value) :
    checkedI32 value = .error .i32Overflow := if_neg (by omega)

theorem dividedBy_eq (left : Nat) {right : Nat} (positive : 0 < right) :
    dividedBy left right = .ok (left / right) := if_neg (by omega)

theorem playbackDeadlineStepMs_ok (pieceLength : Nat) (bitrate : Option UInt64)
    (downloadRate : Nat) : ∃ step, playbackDeadlineStepMs pieceLength bitrate downloadRate =
      .ok step ∧ 500 ≤ step ∧ step ≤ 30000 := by
  have bounded : ∀ step : Nat, 500 ≤ asI32 (max minPieceDeadlineStepMs
      (min step maxPieceDeadlineStepMs)) ∧ asI32 (max minPieceDeadlineStepMs
      (min step maxPieceDeadlineStepMs)) ≤ 30000 := by
    intro step
    unfold minPieceDeadlineStepMs maxPieceDeadlineStepMs
    rw [asI32_eq (by omega)]
    omega
  have rated : ∀ effective : Nat, 0 < effective →
      ∃ step, ((dividedBy (satMul pieceLength 1000 + (effective - 1)) effective).map fun step =>
        asI32 (max minPieceDeadlineStepMs (min step maxPieceDeadlineStepMs))) = .ok step ∧
        500 ≤ step ∧ step ≤ 30000 := by
    intro effective positive
    rw [dividedBy_eq _ positive]
    exact ⟨_, rfl, bounded _⟩
  unfold playbackDeadlineStepMs
  apply rated
  -- Both rates are left out where they are zero.
  cases given : (bitrate.map UInt64.toNat).filter (0 < ·) with
  | none =>
    by_cases rate : 0 < downloadRate <;> simp [rate]
  | some known =>
    have positive : 0 < known := by simpa using (Option.filter_eq_some_iff.mp given).2
    by_cases rate : 0 < downloadRate
    · simp only [rate, if_true]
      exact Nat.lt_min.mpr ⟨positive, rate⟩
    · simpa [rate] using positive

def banded (step distance immediate hot : Int) : PriorityBand × Int × Int :=
  if distance < immediate then (.immediate, 7, distance * step)
  else if distance < hot then (.hot, 4, distance * step)
  else (.warm, 2, 10000 + distance * step)

def PlaybackIntent.placed (intent : PlaybackIntent) (step distance immediate hot : Int) :
    PriorityBand × Int × Int :=
  match intent with
  | .containerMetadata => (.metadata, 7, distance * step)
  | .internalProbe => (.background, 1, 10000 + distance * step)
  | .background => (.background, 1, 30000 + distance * step)
  | _ => banded step distance immediate hot

def PriorityBand.rank : PriorityBand → Nat
  | immediate => 0
  | hot => 1
  | warm => 2
  | metadata => 3
  | background => 4

def LessUrgent (earlier later : PriorityBand × Int × Int) : Prop :=
  earlier.1.rank ≤ later.1.rank ∧ later.2.1 ≤ earlier.2.1 ∧ earlier.2.2 ≤ later.2.2

theorem banded_mono {step earlier later : Int} (immediate hot : Int)
    (product : earlier * step ≤ later * step) (order : earlier ≤ later) :
    LessUrgent (banded step earlier immediate hot) (banded step later immediate hot) := by
  unfold banded LessUrgent
  by_cases first : later < immediate
  · rw [if_pos first, if_pos (by omega)]
    exact ⟨Nat.le_refl _, Int.le_refl _, product⟩
  · rw [if_neg first]
    by_cases second : later < hot
    · rw [if_pos second]
      split
      · exact ⟨Nat.zero_le _, by dsimp only; omega, product⟩
      · rw [if_pos (by omega)]
        exact ⟨Nat.le_refl _, Int.le_refl _, product⟩
    · rw [if_neg second]
      split
      · exact ⟨Nat.zero_le _, by dsimp only; omega, by dsimp only; omega⟩
      · split
        · exact ⟨Nat.le_succ 1, by dsimp only; omega, by dsimp only; omega⟩
        · exact ⟨Nat.le_refl _, Int.le_refl _, by dsimp only; omega⟩

theorem PlaybackIntent.placed_mono (intent : PlaybackIntent) {step earlier later : Int}
    (immediate hot : Int) (positive : 0 ≤ step) (order : earlier ≤ later) :
    LessUrgent (intent.placed step earlier immediate hot)
      (intent.placed step later immediate hot) := by
  have product : earlier * step ≤ later * step := Int.mul_le_mul_of_nonneg_right order positive
  cases intent with
  | containerMetadata => exact ⟨Nat.le_refl _, Int.le_refl _, product⟩
  | internalProbe | background =>
    exact ⟨Nat.le_refl _, Int.le_refl _, Int.add_le_add_left product _⟩
  | directInitial | directSeek | directSequential | hlsInitial | hlsSeek | hlsSequential
  | downloadFull | downloadRange => exact banded_mono immediate hot product order

section Caps

theorem piecesForBytes_bounds {bytes pieceLength : Nat} (positive : 0 < bytes)
    (small : bytes < 2 ^ 31) (length : 0 < pieceLength) (fits : pieceLength < u64Limit) :
    1 ≤ piecesForBytes bytes pieceLength ∧
      (piecesForBytes bytes pieceLength - 1) * pieceLength < bytes := by
  unfold piecesForBytes
  rw [if_neg (by omega), asI32_eq (by omega)]
  have few : satAdd bytes (pieceLength - 1) / pieceLength ≤ bytes := by
    have sum : satAdd bytes (pieceLength - 1) ≤ bytes * pieceLength := by
      have grows : bytes - 1 ≤ (bytes - 1) * pieceLength := Nat.le_mul_of_pos_right _ length
      rw [Nat.sub_mul] at grows
      have one : pieceLength ≤ bytes * pieceLength := Nat.le_mul_of_pos_left _ positive
      unfold satAdd
      omega
    exact Nat.div_le_of_le_mul (by rw [Nat.mul_comm]; exact sum)
  have some : 1 ≤ satAdd bytes (pieceLength - 1) / pieceLength := by
    rw [Nat.le_div_iff_mul_le length]
    unfold satAdd u64Limit at *
    omega
  have below : satAdd bytes (pieceLength - 1) / pieceLength * pieceLength ≤
      bytes + (pieceLength - 1) :=
    (Nat.div_mul_le_self _ _).trans (Nat.min_le_left _ _)
  rw [show max 1 (min (satAdd bytes (pieceLength - 1) / pieceLength) (2 ^ 31 - 1)) =
    satAdd bytes (pieceLength - 1) / pieceLength by omega]
  refine ⟨by omega, ?_⟩
  rw [Int.sub_mul]
  have cast : ((satAdd bytes (pieceLength - 1) / pieceLength : Nat) : Int) * pieceLength ≤
      bytes + (pieceLength - 1 : Nat) := by exact_mod_cast below
  omega

theorem capPiecesByBytes_bounds {pieces : Int} {pieceLength maxBytes : Nat} (some : 0 < pieces)
    (positive : 0 < maxBytes) (small : maxBytes < 2 ^ 31) (length : 0 < pieceLength)
    (fits : pieceLength < u64Limit) :
    1 ≤ capPiecesByBytes pieces pieceLength maxBytes ∧
      capPiecesByBytes pieces pieceLength maxBytes ≤ pieces ∧
      (capPiecesByBytes pieces pieceLength maxBytes - 1) * pieceLength < maxBytes := by
  obtain ⟨enough, within⟩ := piecesForBytes_bounds positive small length fits
  unfold capPiecesByBytes
  rw [if_neg (by omega), if_neg (by omega)]
  refine ⟨by omega, by omega, lt_of_le_of_lt ?_ within⟩
  exact Int.mul_le_mul_of_nonneg_right (by omega) (by omega)

end Caps

namespace PriorityContext

variable (ctx : PriorityContext)

theorem pieceLength_lt : ctx.pieceLength.toNat < u64Limit := UInt64.toNat_lt ctx.pieceLength

section Assignments

variable (step immediate hot : Int)

theorem assignmentFor_ok {step distance : Int}
    (same : playbackDeadlineStepMs ctx.pieceLength.toNat ctx.bitrateBytesPerSec
      ctx.downloadRateBytesPerSec.toNat = .ok step)
    (least : 500 ≤ step) (most : step ≤ 30000) (inside : 0 ≤ distance) (few : distance ≤ 288) :
    ctx.assignmentFor distance immediate hot =
      .ok (ctx.intent.placed step distance immediate hot) := by
  have above : 0 ≤ distance * step := Int.mul_nonneg inside (by omega)
  have below : distance * step ≤ 288 * 30000 := Int.mul_le_mul few most (by omega) (by decide)
  have deadline : checkedI32 (distance * step) = .ok (distance * step) :=
    checkedI32_eq (by omega) (by omega)
  have late : ∀ delay : Int, 0 ≤ delay → delay ≤ 30000 →
      checkedI32 (delay + distance * step) = .ok (delay + distance * step) := fun delay _ _ =>
    checkedI32_eq (by omega) (by omega)
  have first := late 10000 (by decide) (by decide)
  have second := late 30000 (by decide) (by decide)
  unfold assignmentFor PlaybackIntent.placed banded
  simp only [same, deadline, first, second, bind, Except.bind, Except.map]
  cases ctx.intent <;> first | rfl | (dsimp only; split <;> first | rfl | (split <;> rfl))

def assignmentAt (distance : Nat) : PriorityAssignment :=
  let (band, piecePriority, deadline) := ctx.intent.placed step distance immediate hot
  ⟨ctx.currentPiece.toInt + distance, piecePriority, deadline, band⟩

theorem assignmentsFrom_ok {step : Int}
    (same : playbackDeadlineStepMs ctx.pieceLength.toNat ctx.bitrateBytesPerSec
      ctx.downloadRateBytesPerSec.toNat = .ok step)
    (least : 500 ≤ step) (most : step ≤ 30000) (distance count : Nat) (few : distance + count ≤ 288)
    (inside : ctx.currentPiece.toInt + distance + count ≤ ctx.lastPiece.toInt + 1) :
    ctx.assignmentsFrom immediate hot distance count =
      .ok ((List.range' distance count).map (ctx.assignmentAt step immediate hot)) := by
  have lower := Int32.le_toInt ctx.currentPiece
  have upper := Int32.toInt_lt ctx.lastPiece
  induction count generalizing distance with
  | zero => rfl
  | succ count ih =>
    have piece : checkedI32 (ctx.currentPiece.toInt + distance) =
        .ok (ctx.currentPiece.toInt + distance) := checkedI32_eq (by omega) (by omega)
    have assigned : ctx.assignmentFor distance immediate hot =
        .ok (ctx.intent.placed step distance immediate hot) :=
      ctx.assignmentFor_ok immediate hot same least most (by omega) (by omega)
    have rest := ih (distance + 1) (by omega) (by omega)
    unfold assignmentsFrom
    simp only [piece, assigned, rest, bind, Except.bind]
    rw [if_neg (by omega)]
    rfl

end Assignments

section Requested

def TenSecondsFit : Prop :=
  ∀ bitrate, ctx.bitrateBytesPerSec = some bitrate → 0 < bitrate.toNat → 3 ≤ ctx.peers.toNat →
    asI32 (max (satMul bitrate.toNat 10 / ctx.pieceLength.toNat) 1) < 2 ^ 30

def DoublingFits : Prop :=
  ctx.intent.isSeek = true → ctx.firstByteSent = true → 3 ≤ ctx.consecutiveWaits.toNat →
    ctx.TenSecondsFit

theorem asI32_bounds (value : Nat) : -2 ^ 31 ≤ asI32 value ∧ asI32 value < 2 ^ 31 := by
  unfold asI32
  rw [Int.bmod_def]
  omega

theorem speedWindow_bounds : 16 ≤ ctx.speedWindow ∧ ctx.speedWindow ≤ 96 := by
  unfold speedWindow minSeekHotPieces
  split
  · split
    · decide
    · split
      · decide
      · split <;> decide
  · dsimp only
    split
    · decide
    · split
      · decide
      · split <;> decide

variable {ctx}

theorem dynamicHotWindow_ok (length : 0 < ctx.pieceLength.toNat) :
    ∃ hot, ctx.dynamicHotWindow = .ok hot ∧ 16 ≤ hot ∧ hot < 2 ^ 31 ∧
      (hot < 2 ^ 30 ↔ ctx.TenSecondsFit) := by
  have speed := ctx.speedWindow_bounds
  unfold dynamicHotWindow TenSecondsFit minSeekHotPieces
  cases given : ctx.bitrateBytesPerSec with
  | none =>
    refine ⟨_, rfl, ?_, ?_, ?_⟩
    · split <;> omega
    · split <;> omega
    · refine iff_of_true (by split <;> omega) (fun bitrate known => by cases known)
  | some bitrate =>
    by_cases positive : 0 < bitrate.toNat
    · have counted := asI32_bounds (max (satMul bitrate.toNat 10 / ctx.pieceLength.toNat) 1)
      simp only [Option.map_some, Option.filter_some, positive, decide_true, if_true,
        piecesForTenSeconds, dividedBy_eq _ length, Except.map, bind, Except.bind]
      refine ⟨_, rfl, by split <;> omega, by split <;> omega, ?_⟩
      constructor
      · intro small other same _ peers
        cases same
        rw [if_neg (by omega)] at small
        omega
      · intro fits
        split
        · omega
        · have bounded := fits bitrate rfl positive (by omega)
          omega
    · simp only [Option.map_some, Option.filter_some, positive, decide_false, Bool.false_eq_true,
        if_false, bind, Except.bind]
      refine ⟨_, rfl, by split <;> omega, by split <;> omega, iff_of_true (by split <;> omega) ?_⟩
      intro other same above
      cases same
      exact absurd above positive

theorem clampI32_bounds {value lower upper : Int} (order : lower ≤ upper) :
    ∃ clamped, clampI32 value lower upper = .ok clamped ∧ lower ≤ clamped ∧ clamped ≤ upper :=
  ⟨_, if_pos order, by omega, by omega⟩

theorem startupPieces_ok (length : 0 < ctx.pieceLength.toNat) :
    ∃ pieces, ctx.startupPieces = .ok pieces ∧ 1 ≤ pieces := by
  have finish : ∀ value maxPieces : Int, 1 ≤ maxPieces → ∃ pieces,
      clampI32 value (max (min minStartupPieces maxPieces) 1) maxPieces = .ok pieces ∧
        1 ≤ pieces := by
    intro value maxPieces positive
    obtain ⟨clamped, done, least, _⟩ := @clampI32_bounds value
      (max (min minStartupPieces maxPieces) 1) maxPieces (by omega)
    exact ⟨clamped, done, by omega⟩
  unfold startupPieces
  simp only [dividedBy_eq _ length, bind, Except.bind]
  split
  · obtain ⟨maxPieces, bound, positive, _⟩ := @clampI32_bounds (piecesForBytes
      (min ctx.fileSize.toNat maxStartupWindowBytes) ctx.pieceLength.toNat) 1
        maxSmallFileStartupPieces (by decide)
    rw [bound]
    exact finish _ maxPieces positive
  · exact finish _ maxStartupPieces (by decide)

theorem sequentialWindows_ok (length : 0 < ctx.pieceLength.toNat) :
    ∃ windows, ctx.sequentialWindows = .ok windows ∧ 1 ≤ windows.hot ∧ 0 ≤ windows.warm := by
  obtain ⟨hot, computed, least, _⟩ := dynamicHotWindow_ok length
  unfold sequentialWindows
  simp only [computed, bind, Except.bind]
  refine ⟨_, rfl, ?_⟩
  split <;> constructor <;> dsimp only <;> omega

theorem seekWindows_ok (length : 0 < ctx.pieceLength.toNat)
    (fits : 3 ≤ ctx.consecutiveWaits.toNat → ctx.TenSecondsFit) :
    ∃ windows, ctx.seekWindows = .ok windows ∧ 1 ≤ windows.hot ∧ 0 ≤ windows.warm := by
  obtain ⟨hot, computed, least, _, small⟩ := dynamicHotWindow_ok length
  unfold seekWindows minSeekHotPieces maxHotPieces seekImmediatePieces
  simp only [computed, bind, Except.bind]
  by_cases blocked : 3 ≤ ctx.consecutiveWaits.toNat
  · have below := small.mpr (fits blocked)
    rw [if_pos blocked, checkedI32_eq (by omega) (by omega)]
    exact ⟨_, rfl, by dsimp only; omega, by dsimp only; omega⟩
  · rw [if_neg blocked]
    refine ⟨_, rfl, ?_⟩
    split <;> constructor <;> dsimp only <;> omega

theorem seekWindows_error (length : 0 < ctx.pieceLength.toNat)
    (blocked : 3 ≤ ctx.consecutiveWaits.toNat) (large : ¬ctx.TenSecondsFit) :
    ctx.seekWindows = .error .i32Overflow := by
  obtain ⟨hot, computed, least, _, small⟩ := dynamicHotWindow_ok length
  have above : ¬hot < 2 ^ 30 := fun below => large (small.mp below)
  unfold seekWindows minSeekHotPieces
  simp only [computed, bind, Except.bind]
  rw [if_pos blocked, checkedI32_error (by omega)]

theorem requestedWindows_ok (length : 0 < ctx.pieceLength.toNat) (fits : ctx.DoublingFits) :
    ∃ windows, ctx.requestedWindows = .ok windows ∧ 1 ≤ windows.hot ∧ 0 ≤ windows.warm := by
  unfold DoublingFits at fits
  unfold requestedWindows
  have startup : ∃ windows : Windows, (ctx.startupPieces.map fun pieces =>
      Windows.mk (min pieces maxStartupPieces) pieces 0 ctx.intent.reason) = .ok windows ∧
        1 ≤ windows.hot ∧ 0 ≤ windows.warm := by
    obtain ⟨pieces, computed, least⟩ := startupPieces_ok length
    rw [computed]
    exact ⟨_, rfl, least, Int.le_refl 0⟩
  cases intent : ctx.intent with
  | directInitial | hlsInitial =>
    rw [intent] at startup
    cases ctx.firstByteSent with
    | false => exact startup
    | true => exact sequentialWindows_ok length
  | directSequential | hlsSequential => exact sequentialWindows_ok length
  | directSeek | hlsSeek =>
    cases sent : ctx.firstByteSent with
    | false => exact ⟨_, rfl, Int.le_refl 1, Int.le_refl 0⟩
    | true => exact seekWindows_ok length fun blocked => fits (by rw [intent]; rfl) sent blocked
  | downloadFull | downloadRange | containerMetadata | internalProbe | background =>
    exact ⟨_, rfl, by dsimp only; omega, Int.le_refl 0⟩

theorem requestedWindows_error (length : 0 < ctx.pieceLength.toNat) (large : ¬ctx.DoublingFits) :
    ctx.requestedWindows = .error .i32Overflow := by
  simp only [DoublingFits, Classical.not_imp] at large
  obtain ⟨seek, sent, blocked, large⟩ := large
  have failed := seekWindows_error length blocked large
  unfold requestedWindows
  rw [sent, failed]
  cases intent : ctx.intent <;> rw [intent] at seek <;> first | rfl | cases seek

end Requested

end PriorityContext

end StreamServer.Playback
