import StreamServer.Metadata.RangeBounds

set_option autoImplicit false

namespace StreamServer.Metadata

open Checked Loops

section Tail

def tailMoov (tail : Bytes) : Option (Nat × Nat) :=
  (atomAt tail (utf8 "moov")).map fun index => (index, beFrom tail 4 index)

def tailStart (totalSize : Nat) : Nat := totalSize - min 5000000 totalSize

variable {R : Type} (reader : Reader R) {totalSize : Nat}

/-- A `moov` box in the last 5 MB ends inside the file, at its declared size or at 50 MB. -/
def TailInside (totalSize : Nat) (state : R) : Prop :=
  ∀ opened tail after index size, reader.seek state (tailStart totalSize) = (true, opened) →
    reader.read opened (min 5000000 totalSize) = (some tail, after) →
    tailMoov tail = some (index, size) →
    tailStart totalSize + index + min size moovLimit ≤ totalSize

theorem firstOf_moovAt {tail : Bytes} {start : Nat} (bounded : tail.length < sliceLimit)
    (fits : start + tail.length < u64Limit) :
    firstOf (moovAt start tail) (List.range (tail.length - 8)) =
      .ok ((tailMoov tail).map fun found => (start + found.1, min found.2 moovLimit)) := by
  have looked : ∀ index ∈ List.range (tail.length - 8), moovAt start tail index =
      .ok ((Option.guard (fun index => (tail.drop (index + 4)).take 4 = utf8 "moov") index).map
        fun index => (start + index, min (beFrom tail 4 index) moovLimit)) := by
    intro index member
    have inside : index < tail.length - 8 := List.mem_range.mp member
    have room := sliceLimit_room
    have width : index + 8 - (index + 4) = 4 := by omega
    unfold moovAt
    rw [add_ok (show index + 4 < usizeLimit by omega), add_ok (show index + 8 < usizeLimit by omega),
      ok_bind, ok_bind, slice_ok (by omega) (by omega), width, ok_bind]
    by_cases found : (tail.drop (index + 4)).take 4 = utf8 "moov"
    · have read : u32At tail index = .ok (beFrom tail 4 index) := beAt_ok (by omega) bounded
      simp [found, read, add_ok (show start + index < u64Limit by omega), Option.guard]
    · simp [found, Option.guard]
  rw [firstOf_ok looked]
  unfold tailMoov atomAt
  rw [List.find?_eq_findSome?_guard, Option.map_map, List.map_findSome?]
  rfl

theorem checkMp4End_ok (fits : totalSize < u64Limit) (state : R) :
    ∃ found after, checkMp4End reader totalSize state = .ok (found, after) ∧
      (Within totalSize (found.getD []) ↔ TailInside reader totalSize state) := by
  have start : sub totalSize (min 5000000 totalSize) = .ok (tailStart totalSize) :=
    sub_ok (Nat.min_le_right _ _)
  unfold checkMp4End
  simp only [start, ok_bind]
  cases sought : reader.seek state (tailStart totalSize) with
  | mk done opened =>
  cases done with
  | false =>
    refine ⟨none, opened, rfl, fun _ => ?_, fun _ => List.forall_mem_nil _⟩
    intro opened' _ _ _ _ impossible
    cases sought.symm.trans impossible
  | true =>
  cases read : reader.read opened (min 5000000 totalSize) with
  | mk content after =>
  simp only [read]
  cases content with
  | none =>
    refine ⟨none, after, rfl, fun _ => ?_, fun _ => List.forall_mem_nil _⟩
    intro opened' _ _ _ _ other read'
    cases sought.symm.trans other
    cases read.symm.trans read'
  | some tail =>
  have short := reader.atMost _ _ _ _ read
  have room : 5000000 < sliceLimit := by decide
  have whole : tailStart totalSize + min 5000000 totalSize = totalSize := by
    unfold tailStart
    omega
  simp only [firstOf_moovAt (show tail.length < sliceLimit by omega)
    (show tailStart totalSize + tail.length < u64Limit by omega), ok_bind]
  refine ⟨_, after, rfl, ?_⟩
  simp only [Option.getD_some]
  constructor
  · intro within opened' tail' after' index size other read' found
    cases sought.symm.trans other
    cases read.symm.trans read'
    rw [found] at within
    exact within _ (List.mem_singleton.mpr rfl)
  · intro inside range member
    obtain ⟨⟨index, size⟩, found, rfl⟩ := Option.map_eq_some_iff.mp (Option.mem_toList.mp member)
    exact inside opened tail after index size sought read found

end Tail

section Boxes

variable {R : Type} (reader : Reader R) {totalSize : Nat}

theorem readHeader_ok {pos : Nat} (inside : pos ≤ totalSize) (state : R) :
    ∃ header after, readHeader reader totalSize pos state = .ok (header, after) := by
  have room : 8 < sliceLimit := by decide
  unfold readHeader
  cases read : reader.read state 8 with
  | mk content after =>
  cases content with
  | none => exact ⟨_, _, rfl⟩
  | some buffer =>
  have short := reader.atMost _ _ _ _ read
  simp only
  split
  next => exact ⟨_, _, rfl⟩
  next complete =>
    have size : u32At buffer 0 = .ok (beFrom buffer 4 0) := beAt_ok (by omega) (by omega)
    simp only [size, ok_bind]
    split
    next =>
      cases extended : reader.read after 8 with
      | mk content after' =>
      cases content with
      | none => exact ⟨_, _, rfl⟩
      | some further =>
        have short := reader.atMost _ _ _ _ extended
        simp only
        split
        next => exact ⟨_, _, rfl⟩
        next complete =>
          have size : u64At further 0 = .ok (beFrom further 8 0) := beAt_ok (by omega) (by omega)
          simp only [size, ok_bind]
          exact ⟨_, _, rfl⟩
    next =>
      split
      next =>
        rw [sub_ok inside]
        exact ⟨_, _, rfl⟩
      next => exact ⟨_, _, rfl⟩

structure HeaderAt (totalSize : Nat) (scan : Scan R) (boxType : Bytes) (size : Nat) (after : R) :
    Prop where
  inside : scan.pos + 8 ≤ totalSize
  early : scan.iterations < 100
  read : ∃ opened, reader.seek scan.state scan.pos = (true, opened) ∧
    readHeader reader totalSize scan.pos opened = .ok (.box boxType size, after)

-- The places the scan comes to: from the start of the file, behind each box that is inside the file
-- and has no `moov` box in or behind it.
inductive Visited (totalSize : Nat) (initial : R) : Scan R → Prop where
  | start : Visited totalSize initial ⟨0, 0, initial⟩
  | next {scan : Scan R} {boxType : Bytes} {size : Nat} {after left : R}
      {found : Option (List (Nat × Nat))} (visited : Visited totalSize initial scan)
      (header : HeaderAt reader totalSize scan boxType size after)
      (other : boxType ≠ utf8 "moov")
      (behind : behindBox reader totalSize boxType size after = .ok (found, left))
      (absent : found.getD [] = []) (whole : 8 ≤ size) (inside : size ≤ totalSize - scan.pos) :
      Visited totalSize initial ⟨scan.pos + size, scan.iterations + 1, left⟩

-- The `moov` box that the scan comes to, or that it finds behind a large `mdat` box, ends inside
-- the file, at its declared size or at 50 MB; and no box ends so far out that eight bytes more have
-- no position.
structure BoxesInside (totalSize : Nat) (initial : R) : Prop where
  counted : ∀ scan, Visited reader totalSize initial scan → scan.pos + 8 < u64Limit
  moov : ∀ scan size after, Visited reader totalSize initial scan →
    HeaderAt reader totalSize scan (utf8 "moov") size after →
    scan.pos + min size moovLimit ≤ totalSize
  tail : ∀ scan size after, Visited reader totalSize initial scan →
    HeaderAt reader totalSize scan (utf8 "mdat") size after → size > 10000000 →
    TailInside reader totalSize after

variable {reader} {initial : R}

theorem Visited.pos_le {scan : Scan R} (visited : Visited reader totalSize initial scan) :
    scan.pos ≤ totalSize := by
  cases visited with
  | start => exact Nat.zero_le _
  | next visited header other behind absent whole inside =>
    have opened := header.inside
    show _ + _ ≤ totalSize
    omega

theorem HeaderAt.turn (fits : totalSize < u64Limit) {scan : Scan R} {boxType : Bytes} {size : Nat}
    {after : R} (header : HeaderAt reader totalSize scan boxType size after) :
    scan.turn reader totalSize = scan.enterBox reader totalSize boxType size after := by
  obtain ⟨opened, sought, read⟩ := header.read
  unfold Scan.turn
  rw [add_ok (Nat.lt_of_le_of_lt header.inside fits), ok_bind,
    if_neg (not_not_intro ⟨header.inside, header.early⟩), sought]
  simp only [read, ok_bind]

theorem enterBox_moov {scan : Scan R} {size : Nat} {after : R} :
    scan.enterBox reader totalSize (utf8 "moov") size after =
      .ok (.done (some [(scan.pos, min size moovLimit)], after)) := by
  unfold Scan.enterBox
  rw [if_pos rfl]
  rfl

theorem enterBox_found {scan : Scan R} {boxType : Bytes} {size : Nat} {after left : R}
    {range : Nat × Nat} {rest : List (Nat × Nat)} (other : boxType ≠ utf8 "moov")
    (behind : behindBox reader totalSize boxType size after = .ok (some (range :: rest), left)) :
    scan.enterBox reader totalSize boxType size after =
      .ok (.done (some (range :: rest), left)) := by
  unfold Scan.enterBox
  rw [if_neg other, behind]
  rfl

theorem enterBox_absent (fits : totalSize < u64Limit) {scan : Scan R} {boxType : Bytes} {size : Nat}
    {after left : R} {found : Option (List (Nat × Nat))} (inside : scan.pos ≤ totalSize)
    (other : boxType ≠ utf8 "moov")
    (behind : behindBox reader totalSize boxType size after = .ok (found, left))
    (absent : found.getD [] = []) :
    scan.enterBox reader totalSize boxType size after =
      if size < 8 ∨ size > totalSize - scan.pos then .ok (.done (some [], left))
      else .ok (.again ⟨scan.pos + size, scan.iterations + 1, left⟩) := by
  unfold Scan.enterBox
  rw [if_neg other, behind, ok_bind]
  have rest : (if size < 8 ∨ size > totalSize - scan.pos then
        (.ok (.done (some [], left)) : Checked (Turn (Scan R) (Scanned R)))
      else do return .again ⟨← add u64Limit scan.pos size, scan.iterations + 1, left⟩) =
      if size < 8 ∨ size > totalSize - scan.pos then .ok (.done (some [], left))
      else .ok (.again ⟨scan.pos + size, scan.iterations + 1, left⟩) := by
    split
    next => rfl
    next small => rw [add_ok (show scan.pos + size < u64Limit by omega)]; rfl
  cases found with
  | none =>
    simp only [sub_ok inside, ok_bind]
    exact rest
  | some ranges =>
    cases ranges with
    | nil =>
      simp only [sub_ok inside, ok_bind]
      exact rest
    | cons range ranges => cases absent

theorem Visited.run_eq (fits : totalSize < u64Limit) {scan : Scan R}
    (visited : Visited reader totalSize initial scan) :
    (scanBoxes reader totalSize).run ⟨0, 0, initial⟩ = (scanBoxes reader totalSize).run scan := by
  induction visited with
  | start => rfl
  | next visited header other behind absent whole inside ih =>
    refine ih.trans (Loop.run_again ?_)
    refine (header.turn fits).trans ((enterBox_absent fits visited.pos_le other behind absent).trans ?_)
    rw [if_neg (by omega)]

theorem behindBox_ok (fits : totalSize < u64Limit) (boxType : Bytes) (size : Nat) (state : R) :
    ∃ found left, behindBox reader totalSize boxType size state = .ok (found, left) ∧
      (Within totalSize (found.getD []) ↔
        (boxType = utf8 "mdat" ∧ size > 10000000 → TailInside reader totalSize state)) := by
  unfold behindBox
  by_cases large : boxType = utf8 "mdat" ∧ size > 10000000
  · obtain ⟨found, left, checked, within⟩ := checkMp4End_ok reader fits state
    exact ⟨found, left, by rw [if_pos large, checked], within.trans ⟨fun inside _ => inside,
      fun inside => inside large⟩⟩
  · exact ⟨none, state, by rw [if_neg large], fun _ both => absurd both large,
      fun _ => List.forall_mem_nil _⟩

theorem ranges_cases (found : Option (List (Nat × Nat))) :
    found.getD [] = [] ∨ ∃ range rest, found = some (range :: rest) := by
  cases found with
  | none => exact .inl rfl
  | some ranges =>
    cases ranges with
    | nil => exact .inl rfl
    | cons range rest => exact .inr ⟨range, rest, rfl⟩

theorem BoxesInside.turn_ok (fits : totalSize < u64Limit)
    (boxes : BoxesInside reader totalSize initial) (scan : Scan R)
    (visited : Visited reader totalSize initial scan) :
    ∃ turn, scan.turn reader totalSize = .ok turn ∧ turn.Leads (Visited reader totalSize initial)
      (fun result => Within totalSize (result.1.getD [])) := by
  by_cases guard : scan.pos + 8 ≤ totalSize ∧ scan.iterations < 100
  case neg =>
    refine ⟨.done (some [], scan.state), ?_, List.forall_mem_nil _⟩
    unfold Scan.turn
    rw [add_ok (boxes.counted scan visited), ok_bind, if_pos guard]
    rfl
  cases sought : reader.seek scan.state scan.pos with
  | mk done opened =>
  cases done with
  | false =>
    refine ⟨.done (none, opened), ?_, List.forall_mem_nil _⟩
    unfold Scan.turn
    rw [add_ok (boxes.counted scan visited), ok_bind, if_neg (not_not_intro guard)]
    simp only [sought]
    rfl
  | true =>
  obtain ⟨header, after, read⟩ := readHeader_ok reader visited.pos_le opened
  cases header with
  | failed =>
    refine ⟨.done (none, after), ?_, List.forall_mem_nil _⟩
    unfold Scan.turn
    rw [add_ok (boxes.counted scan visited), ok_bind, if_neg (not_not_intro guard)]
    simp only [sought, read, ok_bind]
    rfl
  | ended =>
    refine ⟨.done (some [], after), ?_, List.forall_mem_nil _⟩
    unfold Scan.turn
    rw [add_ok (boxes.counted scan visited), ok_bind, if_neg (not_not_intro guard)]
    simp only [sought, read, ok_bind]
    rfl
  | box boxType size =>
  have header : HeaderAt reader totalSize scan boxType size after :=
    ⟨guard.1, guard.2, opened, sought, read⟩
  rw [header.turn fits]
  by_cases moov : boxType = utf8 "moov"
  · subst moov
    refine ⟨_, enterBox_moov, ?_⟩
    intro range member
    obtain rfl := List.mem_singleton.mp member
    exact boxes.moov scan size after visited header
  obtain ⟨found, left, behind, within⟩ := behindBox_ok fits boxType size after
  rcases ranges_cases found with absent | ⟨range, rest, rfl⟩
  · rw [enterBox_absent fits visited.pos_le moov behind absent]
    split
    next => exact ⟨_, rfl, List.forall_mem_nil _⟩
    next ordered =>
      rw [not_or, Nat.not_lt, Nat.not_lt] at ordered
      exact ⟨_, rfl, visited.next header moov behind absent ordered.1 ordered.2⟩
  · refine ⟨_, enterBox_found moov behind, within.mpr ?_⟩
    rintro ⟨rfl, large⟩
    exact boxes.tail scan size after visited header large

theorem boxesInside_of_run (fits : totalSize < u64Limit) {result : Scanned R}
    (ran : (scanBoxes reader totalSize).run ⟨0, 0, initial⟩ = .ok result)
    (within : Within totalSize (result.1.getD [])) : BoxesInside reader totalSize initial where
  counted scan visited := by
    by_contra exceeds
    have failed : scan.turn reader totalSize = .error .overflow := by
      unfold Scan.turn add
      rw [if_neg exceeds]
      rfl
    rw [visited.run_eq fits, Loop.run_error failed] at ran
    cases ran
  moov scan size after visited header := by
    have done := (header.turn fits).trans enterBox_moov
    rw [visited.run_eq fits, Loop.run_done done] at ran
    cases ran
    exact within _ (List.mem_singleton.mpr rfl)
  tail scan size after visited header large := by
    have other : utf8 "mdat" ≠ utf8 "moov" := by decide
    obtain ⟨found, left, behind, inside⟩ :=
      behindBox_ok fits (utf8 "mdat") size after
    refine inside.mp ?_ ⟨rfl, large⟩
    rcases ranges_cases found with absent | ⟨range, rest, rfl⟩
    · rw [absent]
      exact List.forall_mem_nil _
    · have done := (header.turn fits).trans (enterBox_found other behind)
      rw [visited.run_eq fits, Loop.run_done done] at ran
      cases ran
      exact within

theorem inspectMp4Full_iff (fits : totalSize < u64Limit) :
    (∃ ranges after, inspectMp4Full reader totalSize initial = .ok (ranges, after) ∧
      Within totalSize (ranges.getD [])) ↔ BoxesInside reader totalSize initial := by
  unfold inspectMp4Full
  constructor
  · rintro ⟨ranges, after, inspected, within⟩
    obtain ⟨result, ran, ended⟩ := Results.bind_ok inspected
    refine boxesInside_of_run fits ran ?_
    split at ended
    next => exact List.forall_mem_nil _
    next =>
      cases ended
      exact within
  · intro boxes
    obtain ⟨⟨found, after⟩, ran, within⟩ := Loop.run_ok (scanBoxes reader totalSize)
      (Visited reader totalSize initial) (fun result => Within totalSize (result.1.getD []))
      (boxes.turn_ok fits) ⟨0, 0, initial⟩ .start
    rw [ran, ok_bind]
    split
    next =>
      by_cases large : totalSize > 2000000
      · rw [if_pos large, sub_ok (Nat.le_of_lt large)]
        exact ⟨_, _, rfl, within_back large⟩
      · rw [if_neg large]
        exact ⟨_, _, rfl, List.forall_mem_nil _⟩
    next => exact ⟨_, _, rfl, within⟩

end Boxes

section Files

variable {R : Type}

/-- What the places and sizes that the file declares have to keep, for the container of its name. -/
def DeclaredInside (reader : Reader R) (totalSize : Nat) (name : Bytes) (state : R) : Prop :=
  match guessContainer name with
  | .mp4 => BoxesInside reader totalSize state
  | .matroska => CuesInside reader totalSize state
  | .unknown => True

theorem findCriticalRanges_iff (reader : Reader R) (totalSize : UInt64) (name : Bytes) (state : R) :
    (∃ ranges after, findCriticalRanges reader totalSize.toNat name state = .ok (ranges, after) ∧
      Within totalSize.toNat ranges) ↔ DeclaredInside reader totalSize.toNat name state := by
  have fits : totalSize.toNat < u64Limit := totalSize.toNat_lt
  unfold findCriticalRanges DeclaredInside
  cases guessContainer name with
  | mp4 =>
    rw [← inspectMp4Full_iff fits]
    constructor
    · rintro ⟨ranges, after, found, within⟩
      obtain ⟨⟨mp4Ranges, left⟩, inspected, found⟩ := Results.bind_ok found
      cases found
      exact ⟨mp4Ranges, _, inspected, fun range member =>
        within range (List.mem_append_right _ member)⟩
    · rintro ⟨ranges, after, inspected, within⟩
      simp only [inspected, ok_bind]
      exact ⟨_, _, rfl, (within_front _).append within⟩
  | matroska =>
    rw [← inspectMkvFull_iff reader fits state]
    constructor
    · rintro ⟨ranges, after, found, within⟩
      obtain ⟨⟨mkvRanges, left⟩, inspected, found⟩ := Results.bind_ok found
      cases found
      exact ⟨mkvRanges, _, inspected, fun range member =>
        within range (List.mem_append_right _ member)⟩
    · rintro ⟨ranges, after, inspected, within⟩
      simp only [inspected, ok_bind]
      exact ⟨_, _, rfl, (within_front _).append within⟩
  | unknown =>
    refine ⟨fun _ => trivial, fun _ => ?_⟩
    by_cases large : totalSize.toNat > 128000
    · simp only [if_pos large, sub_ok (Nat.le_of_lt large), ok_bind]
      exact ⟨_, _, rfl, (within_front _).append (within_back large)⟩
    · simp only [if_neg large]
      exact ⟨_, _, rfl, within_front _⟩

def wholeFile (content : Bytes) : Reader Nat where
  seek _ pos := (true, pos)
  read pos count := (some ((content.drop pos).take count), pos + ((content.drop pos).take count).length)
  atMost pos count bytes next taken := by
    cases taken
    exact List.length_take_le _ _

def longMoov : Bytes := [0, 0, 0, 100] ++ utf8 "moov"

/-- An EBML header, and a segment whose seek head places the cues 255 bytes into its data. -/
def distantCues : Bytes :=
  [0x1A, 0x45, 0xDF, 0xA3, 0x80] ++ [0x18, 0x53, 0x80, 0x67, 0xFF] ++ [0x11, 0x4D, 0x9B, 0x74, 0x8E] ++
    [0x4D, 0xBB, 0x8B] ++ [0x53, 0xAB, 0x84, 0x1C, 0x53, 0xBB, 0x6B] ++ [0x53, 0xAC, 0x81, 0xFF]

theorem declared_sizes_leave_the_file :
    findCriticalRanges (wholeFile longMoov) 8 (utf8 "a.mp4") 0 = .ok ([(0, 8), (0, 100)], 8) ∧
      ¬ Within 8 [(0, 8), (0, 100)] ∧ distantCues.length = 29 ∧
      findCriticalRanges (wholeFile distantCues) 29 (utf8 "a.mkv") 0 = .error .overflow := by
  refine ⟨by decide +kernel, ?_, by decide, by decide +kernel⟩
  intro within
  have outside := within (0, 100) (by simp)
  revert outside
  decide

end Files

end StreamServer.Metadata
