import StreamServer.Metadata.EbmlSafety
import StreamServer.Metadata.SampleExpansion

set_option autoImplicit false

namespace StreamServer.Metadata

open Checked Loops

def Within (totalSize : Nat) (ranges : List (Nat × Nat)) : Prop :=
  ∀ range ∈ ranges, range.1 + range.2 ≤ totalSize

section Matroska

variable {buffer : Bytes} (bounded : buffer.length < sliceLimit)

include bounded

theorem scanTurn_ok (id : Bytes) (short : id.length = 4) (pos : Nat) (inside : pos ≤ buffer.length) :
    ∃ turn, scanTurn id buffer pos = .ok turn ∧
      turn.Leads (fun pos => pos ≤ buffer.length) (fun result => result.2 ≤ buffer.length) := by
  have room := sliceLimit_room
  unfold scanTurn
  rw [add_ok (show pos + 4 < usizeLimit by omega), ok_bind]
  by_cases more : pos + 4 < buffer.length
  case neg => exact ⟨.done (false, pos), by simp [more], inside⟩
  rw [if_neg (not_not_intro more)]
  obtain ⟨element, found, bounds⟩ := elementAt_ok bounded id (show pos + id.length ≤ _ by omega)
  rw [found, ok_bind]
  cases element with
  | some header =>
    obtain ⟨-, -, within⟩ := bounds header rfl
    simp only [add_ok (show pos + header.headerSize < usizeLimit by omega), ok_bind]
    exact ⟨_, rfl, within⟩
  | none =>
    simp only [add_ok (show pos + 1 < usizeLimit by omega), ok_bind]
    refine ⟨_, rfl, ?_⟩
    show pos + 1 ≤ buffer.length
    omega

theorem scanLoop_ok (id : Bytes) (short : id.length = 4) (pos : Nat) (inside : pos ≤ buffer.length) :
    ∃ result, (scanLoop id buffer).run pos = .ok result ∧ result.2 ≤ buffer.length :=
  Loop.run_ok (scanLoop id buffer) (fun pos => pos ≤ buffer.length)
    (fun result => result.2 ≤ buffer.length) (scanTurn_ok bounded id short) pos inside

theorem cuesIn_ok {pos : Nat} (inside : pos + 4 ≤ buffer.length) :
    ∃ found, cuesIn buffer pos = .ok found := by
  have room := sliceLimit_room
  unfold cuesIn
  obtain ⟨seekHead, found, bounds⟩ := elementAt_ok bounded EbmlIds.seekHead inside
  rw [found, ok_bind]
  cases seekHead with
  | none => exact ⟨none, rfl⟩
  | some header =>
    obtain ⟨-, -, within⟩ := bounds header rfl
    simp only [add_ok (show pos + header.headerSize < usizeLimit by omega), ok_bind,
      sliceFrom_ok within]
    exact parseSeekHead_ok (take_bounded bounded _ _)

theorem cuesTurn_ok (pos : Nat) (inside : pos ≤ buffer.length) :
    ∃ turn, cuesTurn buffer pos = .ok turn ∧
      turn.Leads (fun pos => pos ≤ buffer.length) (fun _ => True) := by
  have room := sliceLimit_room
  unfold cuesTurn
  rw [add_ok (show pos + 4 < usizeLimit by omega), ok_bind]
  by_cases more : pos + 4 < buffer.length
  case neg => exact ⟨.done none, by simp [more], trivial⟩
  rw [if_neg (not_not_intro more)]
  obtain ⟨cues, found⟩ := cuesIn_ok bounded (Nat.le_of_lt more)
  rw [found, ok_bind]
  cases cues with
  | some cuesPos => exact ⟨_, rfl, trivial⟩
  | none =>
    obtain ⟨cluster, read⟩ := hasId_ok bounded EbmlIds.cluster pos (Nat.le_of_lt more)
    simp only [read, ok_bind]
    cases cluster with
    | true => exact ⟨_, rfl, trivial⟩
    | false =>
      simp only [add_ok (show pos + 1 < usizeLimit by omega), ok_bind]
      refine ⟨_, rfl, ?_⟩
      show pos + 1 ≤ buffer.length
      omega

theorem cuesLoop_ok (pos : Nat) (inside : pos ≤ buffer.length) :
    ∃ found, (cuesLoop buffer).run pos = .ok found := by
  obtain ⟨found, ran, -⟩ := Loop.run_ok (cuesLoop buffer) (fun pos => pos ≤ buffer.length)
    (fun _ => True) (cuesTurn_ok bounded) pos inside
  exact ⟨found, ran⟩

theorem cuesReference_ok : ∃ found, cuesReference buffer = .ok found := by
  unfold cuesReference skipEbmlHeader findSegment
  obtain ⟨header, skipped, inside⟩ := scanLoop_ok bounded EbmlIds.ebml rfl 0 (Nat.zero_le _)
  obtain ⟨segment, found, inside⟩ := scanLoop_ok bounded EbmlIds.segment rfl _ inside
  obtain ⟨cues, named⟩ := cuesLoop_ok bounded _ inside
  simp only [skipped, found, named, ok_bind]
  exact ⟨_, rfl⟩

end Matroska

section Ranges

variable {R : Type} (reader : Reader R) {totalSize : Nat}

theorem readExact_ok (count : Nat) (state : R) :
    ∃ result, readExact reader count state = .ok result ∧
      ∀ buffer, result.1 = some buffer → buffer.length ≤ count := by
  refine Loop.run_ok (exactLoop reader count) (fun state => state.1.length ≤ count)
    (fun result => ∀ buffer, result.1 = some buffer → buffer.length ≤ count)
    (fun state short => ?_) ([], state) (Nat.zero_le _)
  show ∃ turn, exactTurn reader count state = .ok turn ∧ _
  unfold exactTurn
  split
  next =>
    refine ⟨_, rfl, ?_⟩
    rintro buffer ⟨⟩
    exact short
  next =>
    split
    next => exact ⟨_, rfl, by rintro buffer ⟨⟩⟩
    next => exact ⟨_, rfl, by rintro buffer ⟨⟩⟩
    next byte rest after read =>
      have most := reader.atMost _ _ _ _ read
      refine ⟨_, rfl, ?_⟩
      show (state.1 ++ byte :: rest).length ≤ count
      rw [List.length_append]
      omega

def CuesInside (totalSize : Nat) (state : R) : Prop :=
  ∀ opened buffer after segmentDataStart cuesPos, reader.seek state 0 = (true, opened) →
    readExact reader (min 102400 totalSize) opened = .ok (some buffer, after) →
    cuesReference buffer = .ok (some (segmentDataStart, cuesPos)) →
    segmentDataStart + cuesPos ≤ totalSize

theorem within_front (count : Nat) : Within totalSize [(0, min count totalSize)] := by
  intro range member
  obtain rfl := List.mem_singleton.mp member
  show 0 + min count totalSize ≤ totalSize
  omega

theorem within_back {count : Nat} (large : count < totalSize) :
    Within totalSize [(totalSize - count, count)] := by
  intro range member
  obtain rfl := List.mem_singleton.mp member
  show totalSize - count + count ≤ totalSize
  omega

theorem Within.append {first second : List (Nat × Nat)} (left : Within totalSize first)
    (right : Within totalSize second) : Within totalSize (first ++ second) := by
  intro range member
  rcases List.mem_append.mp member with member | member
  · exact left range member
  · exact right range member

-- Without cues the end of the file stands in for them.
theorem mkvFallback_ok (state : R) :
    ∃ ranges after, ((if totalSize > 1000000 then do
        return ([(0, min 1048576 totalSize)] ++ [(← sub totalSize 1000000, 1000000)], state)
      else return ([(0, min 1048576 totalSize)], state)) : Checked (List (Nat × Nat) × R)) =
        .ok (ranges, after) ∧ Within totalSize ranges := by
  by_cases large : totalSize > 1000000
  · rw [if_pos large, sub_ok (Nat.le_of_lt large)]
    exact ⟨_, _, rfl, (within_front _).append (within_back large)⟩
  · rw [if_neg large]
    exact ⟨_, _, rfl, within_front _⟩

-- Either no cues are named, or what names them is followed, where the sum fits the word.
theorem findMkvCuesOffset_cases (state : R) :
    (∃ found after, findMkvCuesOffset reader totalSize state = .ok (found, after) ∧
      (∀ offset, found ≠ some (some offset)) ∧ CuesInside reader totalSize state) ∨
    ∃ after segmentDataStart cuesPos,
      findMkvCuesOffset reader totalSize state =
        (do return (some (some (← add u64Limit segmentDataStart cuesPos)), after)) ∧
      (CuesInside reader totalSize state ↔ segmentDataStart + cuesPos ≤ totalSize) := by
  unfold findMkvCuesOffset
  cases sought : reader.seek state 0 with
  | mk done opened =>
  cases done with
  | false =>
    refine .inl ⟨none, opened, rfl, by simp, ?_⟩
    intro opened' _ _ _ _ impossible
    cases sought.symm.trans impossible
  | true =>
  obtain ⟨⟨content, after⟩, read, short⟩ := readExact_ok reader (min 102400 totalSize) opened
  have sole {opened' : R} {content' : Option Bytes} {after' : R}
      (other : reader.seek state 0 = (true, opened'))
      (read' : readExact reader (min 102400 totalSize) opened' = .ok (content', after')) :
      content' = content := by
    cases sought.symm.trans other
    cases read.symm.trans read'
    rfl
  simp only [read, ok_bind]
  cases content with
  | none =>
    refine .inl ⟨none, after, rfl, by simp, ?_⟩
    intro opened' buffer after' _ _ other read' _
    cases sole other read'
  | some buffer =>
  have bounded : buffer.length < sliceLimit := by
    have room : 102400 < sliceLimit := by decide
    have := short buffer rfl
    omega
  obtain ⟨reference, parsed⟩ := cuesReference_ok bounded
  simp only [parsed, ok_bind]
  cases reference with
  | none =>
    refine .inl ⟨some none, after, rfl, by simp, ?_⟩
    intro opened' buffer' after' _ _ other read' parsed'
    cases sole other read'
    cases parsed.symm.trans parsed'
  | some reference =>
  obtain ⟨segmentDataStart, cuesPos⟩ := reference
  refine .inr ⟨after, segmentDataStart, cuesPos, rfl, ?_⟩
  constructor
  · intro cuesInside
    exact cuesInside opened buffer after segmentDataStart cuesPos sought read parsed
  · intro inside opened' buffer' after' start pos other read' parsed'
    cases sole other read'
    cases parsed.symm.trans parsed'
    exact inside

theorem inspectMkvFull_iff (fits : totalSize < u64Limit) (state : R) :
    (∃ ranges after, inspectMkvFull reader totalSize state = .ok (ranges, after) ∧
      Within totalSize ranges) ↔ CuesInside reader totalSize state := by
  unfold inspectMkvFull
  rcases findMkvCuesOffset_cases reader state with
    ⟨found, after, looked, unnamed, cuesInside⟩ | ⟨after, segmentDataStart, cuesPos, looked, inside_iff⟩
  · refine iff_of_true ?_ cuesInside
    rw [looked]
    rcases found with _ | _ | offset
    · exact mkvFallback_ok after
    · exact mkvFallback_ok after
    · exact absurd rfl (unnamed offset)
  rw [inside_iff, looked]
  constructor
  · rintro ⟨ranges, final, ran, -⟩
    obtain ⟨_, offset, ran⟩ := Results.bind_ok ran
    obtain ⟨cuesOffset, sum, offset⟩ := Results.bind_ok offset
    obtain ⟨-, rfl⟩ := add_ok_iff.mp sum
    cases offset
    obtain ⟨_, size, -⟩ := Results.bind_ok ran
    exact (sub_ok_iff.mp size).1
  · intro inside
    simp only [add_ok (Nat.lt_of_le_of_lt inside fits), ok_bind, pure_ok, sub_ok inside]
    refine ⟨_, _, rfl, (within_front _).append ?_⟩
    intro range member
    obtain rfl := List.mem_singleton.mp member
    show segmentDataStart + cuesPos + min 500000 (totalSize - (segmentDataStart + cuesPos)) ≤
      totalSize
    omega

end Ranges

end StreamServer.Metadata
