import StreamServer.Metadata.CriticalRanges

set_option autoImplicit false

namespace StreamServer.Metadata

open Checked Loops

section Elements

variable {data : Bytes}

theorem shiftIn_lt (limit : Nat) {start bound : Nat} (small : start < bound) (bytes : Bytes) :
    shiftIn limit start bytes < bound * 256 ^ bytes.length := by
  unfold shiftIn
  induction bytes generalizing start bound with
  | nil => simpa using small
  | cons byte rest ih =>
    have value := byte.toNat_lt
    have shifted : start * 256 % limit ≤ start * 256 := Nat.mod_le _ _
    have next := ih (show start * 256 % limit + byte.toNat < bound * 256 by omega)
    rw [List.foldl_cons, List.length_cons, Nat.pow_succ', ← Nat.mul_assoc]
    exact next

theorem parseVint_ok (data : Bytes) :
    ∃ found, parseVint data = .ok found ∧ ∀ vint, found = some vint → vint.1 < 2 ^ 56 := by
  unfold parseVint
  by_cases empty : data = []
  · exact ⟨none, by simp [empty], by simp⟩
  have opens : 0 < data.length := List.length_pos_iff.mpr empty
  rw [if_neg empty, get_ok opens, ok_bind]
  by_cases tooLong : leadingZeros data[0] + 1 > 8 ∨ data.length < leadingZeros data[0] + 1
  · exact ⟨none, by rw [if_pos tooLong]; rfl, by simp⟩
  have fits : leadingZeros data[0] + 1 ≤ 8 ∧ leadingZeros data[0] + 1 ≤ data.length := by omega
  have mask : 1 ≤ 2 ^ (8 - (leadingZeros data[0] + 1)) := Nat.one_le_two_pow
  simp only [if_neg tooLong, sub_ok fits.1, sub_ok mask, ok_bind, pure_ok]
  refine ⟨_, rfl, ?_⟩
  rintro vint ⟨⟩
  have masked : data[0].toNat &&& 2 ^ (8 - (leadingZeros data[0] + 1)) - 1 <
      2 ^ (8 - (leadingZeros data[0] + 1)) :=
    Nat.and_lt_two_pow _ (by omega)
  have value := shiftIn_lt u64Limit masked ((data.take (leadingZeros data[0] + 1)).drop 1)
  refine Nat.lt_of_lt_of_le value ?_
  rw [List.length_drop, List.length_take_of_le fits.2, Nat.add_sub_cancel,
    show (256 : Nat) = 2 ^ 8 from rfl, ← Nat.pow_mul, ← Nat.pow_add]
  exact Nat.pow_le_pow_right (by decide) (by omega)

theorem parseEbmlElementHeader_ok (bounded : data.length < sliceLimit) :
    ∃ found, parseEbmlElementHeader data = .ok found ∧
      ∀ header, found = some header → header.size < 2 ^ 56 := by
  unfold parseEbmlElementHeader
  by_cases empty : data = []
  · exact ⟨none, by simp [empty], by simp⟩
  rw [if_neg empty]
  obtain ⟨id, parsed, -⟩ := parseVint_ok data
  rw [parsed, ok_bind]
  cases id with
  | none => exact ⟨none, rfl, by simp⟩
  | some vint =>
    obtain ⟨value, idLen⟩ := vint
    have idBounds := parseVint_bounds parsed
    simp only [if_neg (Nat.not_lt.mpr idBounds.2), sliceFrom_ok idBounds.2, ok_bind]
    obtain ⟨length, measured, small⟩ := parseVint_ok (data.drop idLen)
    rw [measured, ok_bind]
    cases length with
    | none => exact ⟨none, rfl, by simp⟩
    | some vint =>
      obtain ⟨size, sizeLen⟩ := vint
      have sizeBounds := parseVint_bounds measured
      rw [List.length_drop] at sizeBounds
      have room := sliceLimit_room
      have fits : idLen + sizeLen < usizeLimit := by omega
      simp only [add_ok fits, ok_bind, pure_ok]
      refine ⟨_, rfl, ?_⟩
      rintro header ⟨⟩
      exact small (size, sizeLen) rfl

theorem hasId_ok (bounded : data.length < sliceLimit) (id : Bytes) :
    ∀ pos, pos + id.length ≤ data.length → ∃ matched, hasId data pos id = .ok matched := by
  induction id with
  | nil => exact fun pos _ => ⟨true, rfl⟩
  | cons byte rest ih =>
    intro pos inside
    rw [List.length_cons] at inside
    have room := sliceLimit_room
    have fits : pos + 1 < usizeLimit := by omega
    simp only [hasId, get_ok (show pos < data.length by omega), ok_bind]
    by_cases same : data[pos] = byte
    · simpa [same, add_ok fits] using ih (pos + 1) (by omega)
    · exact ⟨false, by simp [same]⟩

theorem elementAt_ok (bounded : data.length < sliceLimit) {pos : Nat} (id : Bytes)
    (inside : pos + id.length ≤ data.length) :
    ∃ found, elementAt data pos id = .ok found ∧
      ∀ header, found = some header → header.size < 2 ^ 56 ∧
        0 < header.headerSize ∧ pos + header.headerSize ≤ data.length := by
  have start : pos ≤ data.length := by omega
  obtain ⟨matched, read⟩ := hasId_ok bounded id pos inside
  have parsed : ∃ found, elementAt data pos id = .ok found ∧
      ∀ header, found = some header → header.size < 2 ^ 56 := by
    unfold elementAt
    rw [read, ok_bind]
    cases matched with
    | false => exact ⟨none, rfl, by simp⟩
    | true =>
      rw [if_pos rfl, sliceFrom_ok start, ok_bind]
      refine parseEbmlElementHeader_ok ?_
      rw [List.length_drop]
      omega
  obtain ⟨found, same, small⟩ := parsed
  refine ⟨found, same, fun header shape => ⟨small header shape, ?_⟩⟩
  subst shape
  exact elementAt_bounds start same

end Elements

section Seeks

variable {data : Bytes}

def Reachable (pos : Nat) : Prop := pos < sliceLimit + 2 ^ 56

theorem reachable_zero : Reachable 0 := by
  show 0 < sliceLimit + 2 ^ 56
  decide

theorem numberIn_ok (limit size : Nat) {start : Nat} (inside : start ≤ data.length) :
    ∃ number, numberIn limit data start size = .ok number := by
  unfold numberIn
  rw [sliceFrom_ok inside, ok_bind]
  split
  next => exact ⟨_, rfl⟩
  next => exact ⟨_, rfl⟩

variable (bounded : data.length < sliceLimit)

include bounded

theorem SeekEntry.skip_ok (entry : SeekEntry) {header : ElementHeader}
    (small : header.size < 2 ^ 56) (inside : entry.pos + header.headerSize ≤ data.length) :
    ∃ next, entry.skip header = .ok next ∧ Reachable next.pos := by
  have room := sliceLimit_room
  unfold skip
  rw [add_ok (show header.headerSize + header.size < usizeLimit by omega), ok_bind,
    add_ok (show entry.pos + (header.headerSize + header.size) < usizeLimit by omega), ok_bind]
  refine ⟨_, rfl, ?_⟩
  show entry.pos + (header.headerSize + header.size) < sliceLimit + 2 ^ 56
  omega

theorem SeekEntry.turn_ok (entry : SeekEntry) (reached : Reachable entry.pos) :
    ∃ turn, entry.turn data = .ok turn ∧
      turn.Leads (fun next => Reachable next.pos) (fun _ => True) := by
  have room := sliceLimit_room
  unfold Reachable at reached
  unfold turn
  rw [add_ok (show entry.pos + 2 < usizeLimit by omega), ok_bind]
  by_cases inside : entry.pos + 2 < data.length
  case neg => exact ⟨.done entry, by simp [inside], trivial⟩
  rw [if_neg (not_not_intro inside)]
  obtain ⟨id, found, idBounds⟩ :=
    elementAt_ok bounded EbmlIds.seekId (Nat.le_of_lt inside)
  rw [found, ok_bind]
  cases id with
  | some header =>
    obtain ⟨small, -, within⟩ := idBounds header rfl
    obtain ⟨number, read⟩ := numberIn_ok u32Limit header.size within
    simp only [add_ok (show entry.pos + header.headerSize < usizeLimit by omega), ok_bind, read]
    obtain ⟨next, skipped, reaches⟩ :=
      skip_ok bounded { entry with seekId := number.or entry.seekId } small within
    rw [skipped, ok_bind]
    exact ⟨_, rfl, reaches⟩
  | none =>
    obtain ⟨position, found, positionBounds⟩ :=
      elementAt_ok bounded EbmlIds.seekPosition (Nat.le_of_lt inside)
    simp only [found, ok_bind]
    cases position with
    | some header =>
      obtain ⟨small, -, within⟩ := positionBounds header rfl
      obtain ⟨number, read⟩ := numberIn_ok u64Limit header.size within
      simp only [add_ok (show entry.pos + header.headerSize < usizeLimit by omega), ok_bind, read]
      obtain ⟨next, skipped, reaches⟩ :=
        skip_ok bounded { entry with seekPosition := number.or entry.seekPosition } small within
      rw [skipped, ok_bind]
      exact ⟨_, rfl, reaches⟩
    | none =>
      simp only [add_ok (show entry.pos + 1 < usizeLimit by omega), ok_bind]
      refine ⟨_, rfl, ?_⟩
      show entry.pos + 1 < sliceLimit + 2 ^ 56
      omega

theorem parseSeekElement_ok : ∃ found, parseSeekElement data = .ok found := by
  obtain ⟨entry, ran, -⟩ := Loop.run_ok (seekEntryLoop data) (fun entry => Reachable entry.pos)
    (fun _ => True) (SeekEntry.turn_ok bounded) ⟨0, none, none⟩
    reachable_zero
  unfold parseSeekElement
  rw [ran, ok_bind]
  split
  next => exact ⟨_, rfl⟩
  next => exact ⟨_, rfl⟩

theorem take_bounded (start count : Nat) : ((data.drop start).take count).length < sliceLimit := by
  rw [List.length_take, List.length_drop]
  omega

theorem seekHeadTurn_ok (pos : Nat) (reached : Reachable pos) :
    ∃ turn, seekHeadTurn data pos = .ok turn ∧ turn.Leads Reachable (fun _ => True) := by
  have room := sliceLimit_room
  unfold Reachable at reached
  unfold seekHeadTurn
  rw [add_ok (show pos + 2 < usizeLimit by omega), ok_bind]
  by_cases inside : pos + 2 < data.length
  case neg => exact ⟨.done none, by simp [inside], trivial⟩
  rw [if_neg (not_not_intro inside)]
  obtain ⟨seek, found, seekBounds⟩ := elementAt_ok bounded EbmlIds.seek (Nat.le_of_lt inside)
  rw [found, ok_bind]
  cases seek with
  | some header =>
    obtain ⟨small, -, within⟩ := seekBounds header rfl
    simp only [add_ok (show pos + header.headerSize < usizeLimit by omega), ok_bind,
      sliceFrom_ok within]
    obtain ⟨cues, parsed⟩ := parseSeekElement_ok (take_bounded bounded (pos + header.headerSize)
      (min header.size (data.drop (pos + header.headerSize)).length))
    rw [parsed, ok_bind]
    cases cues with
    | some cuesPos => exact ⟨_, rfl, trivial⟩
    | none =>
      simp only [add_ok (show header.headerSize + header.size < usizeLimit by omega), ok_bind,
        add_ok (show pos + (header.headerSize + header.size) < usizeLimit by omega)]
      refine ⟨_, rfl, ?_⟩
      show pos + (header.headerSize + header.size) < sliceLimit + 2 ^ 56
      omega
  | none =>
    simp only [add_ok (show pos + 1 < usizeLimit by omega), ok_bind]
    refine ⟨_, rfl, ?_⟩
    show pos + 1 < sliceLimit + 2 ^ 56
    omega

theorem parseSeekHead_ok : ∃ found, parseSeekHead data = .ok found := by
  obtain ⟨found, ran, -⟩ := Loop.run_ok (seekHeadLoop data) Reachable (fun _ => True)
    (seekHeadTurn_ok bounded) 0 reachable_zero
  exact ⟨found, ran⟩

end Seeks

end StreamServer.Metadata
