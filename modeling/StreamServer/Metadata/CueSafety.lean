import StreamServer.Metadata.CriticalRanges
import StreamServer.Metadata.RangeBounds

set_option autoImplicit false

namespace StreamServer.Metadata

open Checked Loops Results

namespace EbmlIds

def cuesElement : Bytes := [0x1C, 0x53, 0xBB, 0x6B]
def cuePoint : Bytes := [0xBB]
def cueTrackPositions : Bytes := [0xB7]
def cueClusterPosition : Bytes := [0xF1]

end EbmlIds

def ElementHeader.endFrom (header : ElementHeader) (pos : Nat) : Checked Nat := do
  add usizeLimit pos (← add usizeLimit header.headerSize header.size)

theorem ElementHeader.endFrom_eq {header : ElementHeader} {pos stop : Nat}
    (computed : header.endFrom pos = .ok stop) : stop = pos + (header.headerSize + header.size) := by
  obtain ⟨-, computed⟩ := add_bind_ok computed
  exact (add_ok_iff.mp computed).2.symm

section CuePoint

def trackTurn (trackData : Bytes) (trackSize tpos : Nat) : Checked (Turn Nat (Option Nat)) := do
  if ¬ (← add usizeLimit tpos 1) < trackSize then return .done none
  match ← elementAt trackData tpos EbmlIds.cueClusterPosition with
  | some header =>
      let start ← add usizeLimit tpos header.headerSize
      match ← numberIn u64Limit trackData start header.size with
      | some clusterPos => return .done (some clusterPos)
      | none => return .again (← add usizeLimit tpos 1)
  | none => return .again (← add usizeLimit tpos 1)

theorem trackTurn_pos {trackData : Bytes} {trackSize tpos next : Nat}
    (taken : trackTurn trackData trackSize tpos = .ok (.again next)) :
    next = tpos + 1 ∧ tpos < trackSize := by
  unfold trackTurn at taken
  obtain ⟨-, taken⟩ := add_bind_ok taken
  split at taken
  next => cases taken
  next inside =>
    have inside : tpos < trackSize := by omega
    refine ⟨?_, inside⟩
    obtain ⟨found, -, taken⟩ := bind_ok taken
    split at taken
    next =>
      obtain ⟨start, -, taken⟩ := bind_ok taken
      obtain ⟨number, -, taken⟩ := bind_ok taken
      split at taken
      next => cases taken
      next =>
        obtain ⟨-, taken⟩ := add_bind_ok taken
        cases taken
        rfl
    next =>
      obtain ⟨-, taken⟩ := add_bind_ok taken
      cases taken
      rfl

def trackLoop (trackData : Bytes) (trackSize : Nat) : Loop Fault Nat (Option Nat) where
  turn := trackTurn trackData trackSize
  size tpos := trackSize - tpos
  lowers tpos next taken := by
    have moved := trackTurn_pos taken
    omega

def cuePointTurn (data : Bytes) (pos : Nat) : Checked (Turn Nat (Option Nat)) := do
  if ¬ (← add usizeLimit pos 1) < data.length then return .done none
  match ← elementAt data pos EbmlIds.cueTrackPositions with
  | some header =>
      let trackData ← sliceFrom data (← add usizeLimit pos header.headerSize)
      match ← (trackLoop trackData (min header.size trackData.length)).run 0 with
      | some clusterPos => return .done (some clusterPos)
      | none => return .again (← header.endFrom pos)
  | none => return .again (← add usizeLimit pos 1)

theorem cuePointTurn_pos {data : Bytes} {pos next : Nat}
    (taken : cuePointTurn data pos = .ok (.again next)) : pos < next ∧ pos < data.length := by
  unfold cuePointTurn at taken
  obtain ⟨-, taken⟩ := add_bind_ok taken
  split at taken
  next => cases taken
  next inside =>
    have inside : pos < data.length := by omega
    refine ⟨?_, inside⟩
    obtain ⟨found, header, taken⟩ := bind_ok taken
    split at taken
    next positions =>
      have bounds := elementAt_bounds (Nat.le_of_lt inside) header
      obtain ⟨_, -, taken⟩ := bind_ok taken
      obtain ⟨_, -, taken⟩ := bind_ok taken
      obtain ⟨cluster, -, taken⟩ := bind_ok taken
      split at taken
      next => cases taken
      next =>
        obtain ⟨_, moved, taken⟩ := bind_ok taken
        have moved := ElementHeader.endFrom_eq moved
        cases taken
        omega
    next =>
      obtain ⟨-, taken⟩ := add_bind_ok taken
      cases taken
      exact Nat.lt_succ_self _

def cuePointLoop (data : Bytes) : Loop Fault Nat (Option Nat) where
  turn := cuePointTurn data
  size pos := data.length - pos
  lowers _ _ taken :=
    have moved := cuePointTurn_pos taken
    Nat.sub_lt_sub_left moved.2 moved.1

def parseCuePoint (data : Bytes) : Checked (Option Nat) := (cuePointLoop data).run 0

end CuePoint

section CuePoints

structure CueScan where
  pos : Nat
  positions : List Nat
deriving DecidableEq, Repr

def cuesStart (data : Bytes) : Checked Nat := do
  if ¬ (← add usizeLimit 0 4) < data.length then return 0
  match ← elementAt data 0 EbmlIds.cuesElement with
  | some header => add usizeLimit 0 header.headerSize
  | none => return 0

def CueScan.turn (data : Bytes) (scan : CueScan) : Checked (Turn CueScan (List Nat)) := do
  if ¬ ((← add usizeLimit scan.pos 1) < data.length ∧ scan.positions.length < 50) then
    return .done scan.positions
  match ← elementAt data scan.pos EbmlIds.cuePoint with
  | some header =>
      let cueData ← sliceFrom data (← add usizeLimit scan.pos header.headerSize)
      let found ← parseCuePoint (← slice cueData 0 (min header.size cueData.length))
      return .again ⟨← header.endFrom scan.pos, scan.positions ++ found.toList⟩
  | none => return .again { scan with pos := ← add usizeLimit scan.pos 1 }

theorem CueScan.turn_pos {data : Bytes} {scan next : CueScan}
    (taken : scan.turn data = .ok (.again next)) :
    scan.pos < next.pos ∧ scan.pos < data.length := by
  unfold turn at taken
  obtain ⟨-, taken⟩ := add_bind_ok taken
  split at taken
  next => cases taken
  next inside =>
    have inside : scan.pos < data.length := by omega
    refine ⟨?_, inside⟩
    obtain ⟨found, header, taken⟩ := bind_ok taken
    split at taken
    next point =>
      have bounds := elementAt_bounds (Nat.le_of_lt inside) header
      obtain ⟨_, -, taken⟩ := bind_ok taken
      obtain ⟨_, -, taken⟩ := bind_ok taken
      obtain ⟨_, -, taken⟩ := bind_ok taken
      obtain ⟨cluster, -, taken⟩ := bind_ok taken
      obtain ⟨stop, moved, taken⟩ := bind_ok taken
      have moved := ElementHeader.endFrom_eq moved
      cases taken
      show scan.pos < stop
      omega
    next =>
      obtain ⟨-, taken⟩ := add_bind_ok taken
      cases taken
      exact Nat.lt_succ_self _

def cuePointsLoop (data : Bytes) : Loop Fault CueScan (List Nat) where
  turn := CueScan.turn data
  size scan := data.length - scan.pos
  lowers _ _ taken :=
    have moved := CueScan.turn_pos taken
    Nat.sub_lt_sub_left moved.2 moved.1

def parseCuePoints (data : Bytes) : Checked (List Nat) := do
  (cuePointsLoop data).run ⟨← cuesStart data, []⟩

variable {R : Type} (reader : Reader R)

/-- The keyframe positions, or `none` where the reader fails behind a known cues offset. -/
def findMkvKeyframes (totalSize : Nat) (state : R) : Checked (Option (List Nat) × R) := do
  match ← findMkvCuesOffset reader totalSize state with
  | (some (some cuesOffset), state) =>
      match reader.seek state cuesOffset with
      | (false, state) => return (none, state)
      | (true, state) =>
          let readSize := min 1048576 (← sub totalSize cuesOffset)
          match reader.read state readSize with
          | (none, state) => return (none, state)
          | (some buffer, state) => return (some (← parseCuePoints buffer), state)
  | (_, state) => return (some [], state)

end CuePoints

section Turns

variable {data : Bytes}

theorem ElementHeader.endFrom_ok {header : ElementHeader} {pos : Nat} (bounded : data.length < sliceLimit)
    (small : header.size < 2 ^ 56) (within : pos + header.headerSize ≤ data.length) :
    ∃ stop, header.endFrom pos = .ok stop ∧ Reachable stop := by
  have room := sliceLimit_room
  unfold endFrom
  rw [add_ok (show header.headerSize + header.size < usizeLimit by omega), ok_bind,
    add_ok (show pos + (header.headerSize + header.size) < usizeLimit by omega)]
  refine ⟨_, rfl, ?_⟩
  show pos + (header.headerSize + header.size) < sliceLimit + 2 ^ 56
  omega

theorem Reachable.succ_of_inside {pos : Nat} (bounded : data.length < sliceLimit)
    (inside : pos < data.length) : Reachable (pos + 1) := by
  show pos + 1 < sliceLimit + 2 ^ 56
  omega

variable (bounded : data.length < sliceLimit)

include bounded

theorem trackTurn_ok {trackSize : Nat} (short : trackSize ≤ data.length) (tpos : Nat)
    (inside : tpos ≤ trackSize) :
    ∃ turn, trackTurn data trackSize tpos = .ok turn ∧
      turn.Leads (fun tpos => tpos ≤ trackSize) (fun _ => True) := by
  have room := sliceLimit_room
  unfold trackTurn
  rw [add_ok (show tpos + 1 < usizeLimit by omega), ok_bind]
  by_cases more : tpos + 1 < trackSize
  case neg => exact ⟨.done none, by simp [more], trivial⟩
  rw [if_neg (not_not_intro more)]
  obtain ⟨element, found, bounds⟩ :=
    elementAt_ok bounded EbmlIds.cueClusterPosition (show tpos + 1 ≤ data.length by omega)
  rw [found, ok_bind]
  have onward : (Turn.again (tpos + 1) : Turn Nat (Option Nat)).Leads
      (fun tpos => tpos ≤ trackSize) (fun _ => True) := Nat.le_of_lt more
  cases element with
  | none => exact ⟨_, rfl, onward⟩
  | some header =>
    obtain ⟨-, -, within⟩ := bounds header rfl
    obtain ⟨number, read⟩ := numberIn_ok u64Limit header.size within
    simp only [add_ok (show tpos + header.headerSize < usizeLimit by omega), ok_bind, read]
    cases number with
    | some clusterPos => exact ⟨_, rfl, trivial⟩
    | none => exact ⟨_, rfl, onward⟩

theorem trackLoop_ok {trackSize : Nat} (short : trackSize ≤ data.length) :
    ∃ found, (trackLoop data trackSize).run 0 = .ok found := by
  obtain ⟨found, ran, -⟩ := Loop.run_ok (trackLoop data trackSize) (fun tpos => tpos ≤ trackSize)
    (fun _ => True) (trackTurn_ok bounded short) 0 (Nat.zero_le _)
  exact ⟨found, ran⟩

theorem cuePointTurn_ok (pos : Nat) (reached : Reachable pos) :
    ∃ turn, cuePointTurn data pos = .ok turn ∧ turn.Leads Reachable (fun _ => True) := by
  have room := sliceLimit_room
  unfold Reachable at reached
  unfold cuePointTurn
  rw [add_ok (show pos + 1 < usizeLimit by omega), ok_bind]
  by_cases inside : pos + 1 < data.length
  case neg => exact ⟨.done none, by simp [inside], trivial⟩
  rw [if_neg (not_not_intro inside)]
  obtain ⟨positions, found, bounds⟩ :=
    elementAt_ok bounded EbmlIds.cueTrackPositions (Nat.le_of_lt inside)
  rw [found, ok_bind]
  cases positions with
  | some header =>
    obtain ⟨small, -, within⟩ := bounds header rfl
    simp only [add_ok (show pos + header.headerSize < usizeLimit by omega), ok_bind,
      sliceFrom_ok within]
    have rest : (data.drop (pos + header.headerSize)).length < sliceLimit := by
      rw [List.length_drop]
      omega
    obtain ⟨cluster, ran⟩ := trackLoop_ok rest (Nat.min_le_right header.size _)
    rw [ran, ok_bind]
    cases cluster with
    | some clusterPos => exact ⟨_, rfl, trivial⟩
    | none =>
      obtain ⟨stop, moved, reaches⟩ := ElementHeader.endFrom_ok bounded small within
      simp only [moved, ok_bind]
      exact ⟨_, rfl, reaches⟩
  | none =>
    simp only [ok_bind]
    exact ⟨_, rfl, Reachable.succ_of_inside bounded (Nat.lt_of_succ_lt inside)⟩

theorem parseCuePoint_ok : ∃ found, parseCuePoint data = .ok found := by
  obtain ⟨found, ran, -⟩ := Loop.run_ok (cuePointLoop data) Reachable (fun _ => True)
    (cuePointTurn_ok bounded) 0 reachable_zero
  exact ⟨found, ran⟩

theorem CueScan.turn_ok (scan : CueScan) (reached : Reachable scan.pos) :
    ∃ turn, scan.turn data = .ok turn ∧
      turn.Leads (fun next => Reachable next.pos) (fun _ => True) := by
  have room := sliceLimit_room
  unfold Reachable at reached
  unfold turn
  rw [add_ok (show scan.pos + 1 < usizeLimit by omega), ok_bind]
  by_cases inside : scan.pos + 1 < data.length ∧ scan.positions.length < 50
  case neg => exact ⟨.done scan.positions, by simp [inside], trivial⟩
  rw [if_neg (not_not_intro inside)]
  obtain ⟨point, found, bounds⟩ := elementAt_ok bounded EbmlIds.cuePoint (Nat.le_of_lt inside.1)
  rw [found, ok_bind]
  cases point with
  | some header =>
    obtain ⟨small, -, within⟩ := bounds header rfl
    simp only [add_ok (show scan.pos + header.headerSize < usizeLimit by omega), ok_bind,
      sliceFrom_ok within, slice_ok (Nat.zero_le _) (Nat.min_le_right header.size _)]
    obtain ⟨cluster, parsed⟩ := parseCuePoint_ok (take_bounded bounded
      (scan.pos + header.headerSize) (min header.size (data.drop (scan.pos + header.headerSize)).length))
    obtain ⟨stop, moved, reaches⟩ := ElementHeader.endFrom_ok bounded small within
    rw [List.drop_zero, Nat.sub_zero, parsed, ok_bind, moved, ok_bind]
    exact ⟨_, rfl, reaches⟩
  | none =>
    simp only [ok_bind]
    exact ⟨_, rfl, Reachable.succ_of_inside bounded (Nat.lt_of_succ_lt inside.1)⟩

theorem cuesStart_ok : ∃ pos, cuesStart data = .ok pos ∧ pos ≤ data.length := by
  have room := sliceLimit_room
  unfold cuesStart
  rw [add_ok (show 0 + 4 < usizeLimit by decide), ok_bind]
  by_cases inside : 0 + 4 < data.length
  case neg => exact ⟨0, by simp [inside], Nat.zero_le _⟩
  rw [if_neg (not_not_intro inside)]
  obtain ⟨cues, found, bounds⟩ := elementAt_ok bounded EbmlIds.cuesElement (Nat.le_of_lt inside)
  rw [found, ok_bind]
  cases cues with
  | some header =>
    obtain ⟨-, -, within⟩ := bounds header rfl
    exact ⟨_, add_ok (by omega), within⟩
  | none => exact ⟨_, rfl, Nat.zero_le _⟩

theorem Reachable.of_le {pos : Nat} (inside : pos ≤ data.length) : Reachable pos := by
  show pos < sliceLimit + 2 ^ 56
  omega

theorem parseCuePoints_ok : ∃ positions, parseCuePoints data = .ok positions := by
  obtain ⟨start, begins, inside⟩ := cuesStart_ok bounded
  obtain ⟨positions, ran, -⟩ := Loop.run_ok (cuePointsLoop data) (fun scan => Reachable scan.pos)
    (fun _ => True) (CueScan.turn_ok bounded) ⟨start, []⟩ (Reachable.of_le bounded inside)
  unfold parseCuePoints
  rw [begins, ok_bind]
  exact ⟨positions, ran⟩

-- Both the cue point and its track positions declare the unknown size and are cut short.
example : parseCuePoints [0xBB, 0x01, 255, 255, 255, 255, 255, 255, 255,
    0xB7, 0x01, 255, 255, 255, 255, 255, 255, 255, 0xF1, 0x81, 7] = .ok [7] := by decide +kernel

end Turns

section Keyframes

variable {R : Type} (reader : Reader R) {totalSize : Nat}

theorem findMkvKeyframes_ok (fits : totalSize < u64Limit) {state : R}
    (inside : CuesInside reader totalSize state) :
    ∃ keyframes after, findMkvKeyframes reader totalSize state = .ok (keyframes, after) := by
  unfold findMkvKeyframes
  rcases findMkvCuesOffset_cases reader state with
    ⟨found, after, looked, unnamed, -⟩ | ⟨after, segmentDataStart, cuesPos, looked, inside_iff⟩
  · rw [looked]
    rcases found with _ | _ | offset
    · exact ⟨_, _, rfl⟩
    · exact ⟨_, _, rfl⟩
    · exact absurd rfl (unnamed offset)
  have covered := inside_iff.mp inside
  simp only [looked, add_ok (Nat.lt_of_le_of_lt covered fits), ok_bind, pure_ok]
  split
  next => exact ⟨_, _, rfl⟩
  next after _ =>
    rw [sub_ok covered, ok_bind]
    split
    next => exact ⟨_, _, rfl⟩
    next cues after read =>
      have most := reader.atMost _ _ _ _ read
      have bounded : cues.length < sliceLimit := by
        have room : 1048576 < sliceLimit := by decide
        omega
      obtain ⟨positions, parsed⟩ := parseCuePoints_ok bounded
      rw [parsed, ok_bind]
      exact ⟨_, _, rfl⟩

end Keyframes

section Scans

variable {data : Bytes} (bounded : data.length < sliceLimit)

include bounded

theorem headerScans_safe :
    (scanLoop EbmlIds.ebml data).Safe (fun pos => pos) 0 ∧
      ∃ matched pos, skipEbmlHeader data = .ok (matched, pos) ∧
        (scanLoop EbmlIds.segment data).Safe (fun pos => pos) pos ∧
        ∃ found start, findSegment data pos = .ok (found, start) ∧
          (cuesLoop data).Safe (fun pos => pos) start := by
  have scans (id : Bytes) (short : id.length = 4) (pos : Nat) (inside : pos ≤ data.length) :
      (scanLoop id data).Safe (fun pos => pos) pos := by
    refine Loop.safe_of_invariant (scanLoop id data) (fun pos => pos) (fun pos => pos ≤ data.length)
      (fun result => result.2 ≤ data.length) ?_ (scanTurn_ok bounded id short) pos inside
    intro pos next taken
    have moved := scanTurn_pos taken
    omega
  obtain ⟨⟨matched, pos⟩, skipped, inside⟩ :=
    scanLoop_ok bounded EbmlIds.ebml rfl 0 (Nat.zero_le _)
  obtain ⟨⟨found, start⟩, located, within⟩ := scanLoop_ok bounded EbmlIds.segment rfl pos inside
  refine ⟨scans _ rfl 0 (Nat.zero_le _), matched, pos, skipped, scans _ rfl pos inside, found, start,
    located, ?_⟩
  refine Loop.safe_of_invariant (cuesLoop data) (fun pos => pos) (fun pos => pos ≤ data.length)
    (fun _ => True) ?_ (cuesTurn_ok bounded) start within
  intro pos next taken
  have moved := cuesTurn_pos taken
  omega

theorem seekHeadLoop_safe : (seekHeadLoop data).Safe (fun pos => pos) 0 :=
  Loop.safe_of_invariant (seekHeadLoop data) (fun pos => pos) Reachable (fun _ => True)
    (fun _ _ taken => (seekHeadTurn_pos taken).1) (seekHeadTurn_ok bounded) 0 reachable_zero

theorem seekEntryLoop_safe : (seekEntryLoop data).Safe SeekEntry.pos ⟨0, none, none⟩ :=
  Loop.safe_of_invariant (seekEntryLoop data) SeekEntry.pos (fun entry => Reachable entry.pos)
    (fun _ => True) (fun _ _ taken => (SeekEntry.turn_pos taken).1) (SeekEntry.turn_ok bounded)
    ⟨0, none, none⟩ reachable_zero

theorem cuePointsLoop_safe {start : Nat} (inside : start ≤ data.length) :
    (cuePointsLoop data).Safe CueScan.pos ⟨start, []⟩ :=
  Loop.safe_of_invariant (cuePointsLoop data) CueScan.pos (fun scan => Reachable scan.pos)
    (fun _ => True) (fun _ _ taken => (CueScan.turn_pos taken).1) (CueScan.turn_ok bounded)
    ⟨start, []⟩ (Reachable.of_le bounded inside)

theorem cuePointLoop_safe : (cuePointLoop data).Safe (fun pos => pos) 0 :=
  Loop.safe_of_invariant (cuePointLoop data) (fun pos => pos) Reachable (fun _ => True)
    (fun _ _ taken => (cuePointTurn_pos taken).1) (cuePointTurn_ok bounded) 0 reachable_zero

theorem trackLoop_safe {trackSize : Nat} (short : trackSize ≤ data.length) :
    (trackLoop data trackSize).Safe (fun tpos => tpos) 0 := by
  refine Loop.safe_of_invariant (trackLoop data trackSize) (fun tpos => tpos)
    (fun tpos => tpos ≤ trackSize) (fun _ => True) ?_ (trackTurn_ok bounded short) 0 (Nat.zero_le _)
  intro tpos next taken
  have moved := trackTurn_pos taken
  omega

end Scans

theorem ebmlScans_safe (data : Slice) :
    ((scanLoop EbmlIds.ebml data.val).Safe (fun pos => pos) 0 ∧
      ∃ matched pos, skipEbmlHeader data.val = .ok (matched, pos) ∧
        (scanLoop EbmlIds.segment data.val).Safe (fun pos => pos) pos ∧
        ∃ found start, findSegment data.val pos = .ok (found, start) ∧
          (cuesLoop data.val).Safe (fun pos => pos) start) ∧
    (seekHeadLoop data.val).Safe (fun pos => pos) 0 ∧
    (seekEntryLoop data.val).Safe SeekEntry.pos ⟨0, none, none⟩ ∧
    (∃ start, cuesStart data.val = .ok start ∧
      (cuePointsLoop data.val).Safe CueScan.pos ⟨start, []⟩) ∧
    (cuePointLoop data.val).Safe (fun pos => pos) 0 ∧
    ∀ trackSize, trackSize ≤ data.val.length →
      (trackLoop data.val trackSize).Safe (fun tpos => tpos) 0 := by
  have bounded := data.property
  obtain ⟨start, begins, inside⟩ := cuesStart_ok bounded
  exact ⟨headerScans_safe bounded, seekHeadLoop_safe bounded, seekEntryLoop_safe bounded,
    ⟨start, begins, cuePointsLoop_safe bounded inside⟩, cuePointLoop_safe bounded,
    fun _ short => trackLoop_safe bounded short⟩

end StreamServer.Metadata
