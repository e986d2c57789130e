import StreamServer.Metadata.Ebml

set_option autoImplicit false

namespace StreamServer.Metadata

open Checked Loops Results

inductive ContainerType where
  | mp4
  | matroska
  | unknown
deriving DecidableEq, Repr

/-- The name is the file name in lower case. -/
def guessContainer (name : Bytes) : ContainerType :=
  if utf8 ".mp4" <:+ name ∨ utf8 ".m4v" <:+ name ∨ utf8 ".mov" <:+ name then .mp4
  else if utf8 ".mkv" <:+ name ∨ utf8 ".webm" <:+ name then .matroska
  else .unknown

structure Reader (R : Type) where
  seek : R → Nat → Bool × R
  read : R → Nat → Option Bytes × R
  atMost : ∀ state count bytes next, read state count = (some bytes, next) → bytes.length ≤ count

variable {R : Type} (reader : Reader R)

section Matroska

def scanTurn (id buffer : Bytes) (pos : Nat) : Checked (Turn Nat (Bool × Nat)) := do
  if ¬ (← add usizeLimit pos 4) < buffer.length then return .done (false, pos)
  match ← elementAt buffer pos id with
  | some header => return .done (true, ← add usizeLimit pos header.headerSize)
  | none => return .again (← add usizeLimit pos 1)

theorem scanTurn_pos {id buffer : Bytes} {pos next : Nat}
    (taken : scanTurn id buffer pos = .ok (.again next)) : next = pos + 1 ∧ pos < buffer.length := by
  unfold scanTurn at taken
  obtain ⟨-, taken⟩ := add_bind_ok taken
  split at taken
  next => cases taken
  next inside =>
    obtain ⟨found, -, taken⟩ := bind_ok taken
    split at taken
    next =>
      obtain ⟨_, -, taken⟩ := bind_ok taken
      cases taken
    next =>
      obtain ⟨-, taken⟩ := add_bind_ok taken
      cases taken
      exact ⟨rfl, by omega⟩

def scanLoop (id buffer : Bytes) : Loop Fault Nat (Bool × Nat) where
  turn := scanTurn id buffer
  size pos := buffer.length - pos
  lowers pos next taken := by
    have moved := scanTurn_pos taken
    omega

def skipEbmlHeader (buffer : Bytes) : Checked (Bool × Nat) := (scanLoop EbmlIds.ebml buffer).run 0

def findSegment (buffer : Bytes) (pos : Nat) : Checked (Bool × Nat) :=
  (scanLoop EbmlIds.segment buffer).run pos

def cuesIn (buffer : Bytes) (pos : Nat) : Checked (Option Nat) := do
  match ← elementAt buffer pos EbmlIds.seekHead with
  | some header =>
      let seekHeadData ← sliceFrom buffer (← add usizeLimit pos header.headerSize)
      parseSeekHead (seekHeadData.take (min header.size seekHeadData.length))
  | none => return none

def cuesTurn (buffer : Bytes) (pos : Nat) : Checked (Turn Nat (Option Nat)) := do
  if ¬ (← add usizeLimit pos 4) < buffer.length then return .done none
  match ← cuesIn buffer pos with
  | some cuesPos => return .done (some cuesPos)
  | none =>
      if ← hasId buffer pos EbmlIds.cluster then return .done none
      return .again (← add usizeLimit pos 1)

theorem cuesTurn_pos {buffer : Bytes} {pos next : Nat}
    (taken : cuesTurn buffer pos = .ok (.again next)) : next = pos + 1 ∧ pos < buffer.length := by
  unfold cuesTurn at taken
  obtain ⟨-, taken⟩ := add_bind_ok taken
  split at taken
  next => cases taken
  next inside =>
    obtain ⟨found, -, taken⟩ := bind_ok taken
    split at taken
    next => cases taken
    next =>
      obtain ⟨cluster, -, taken⟩ := bind_ok taken
      split at taken
      next => cases taken
      next =>
        obtain ⟨-, taken⟩ := add_bind_ok taken
        cases taken
        exact ⟨rfl, by omega⟩

def cuesLoop (buffer : Bytes) : Loop Fault Nat (Option Nat) where
  turn := cuesTurn buffer
  size pos := buffer.length - pos
  lowers pos next taken := by
    have moved := cuesTurn_pos taken
    omega

def cuesReference (buffer : Bytes) : Checked (Option (Nat × Nat)) := do
  let (_, pos) ← skipEbmlHeader buffer
  let (found, pos) ← findSegment buffer pos
  let cuesPos ← (cuesLoop buffer).run pos
  return cuesPos.map fun cuesPos => (if found then pos else 0, cuesPos)

def exactTurn (count : Nat) (state : Bytes × R) :
    Checked (Turn (Bytes × R) (Option Bytes × R)) :=
  if count ≤ state.1.length then .ok (.done (some state.1, state.2))
  else
    match reader.read state.2 (count - state.1.length) with
    | (none, next) | (some [], next) => .ok (.done (none, next))
    | (some (byte :: rest), next) => .ok (.again (state.1 ++ byte :: rest, next))

def exactLoop (count : Nat) : Loop Fault (Bytes × R) (Option Bytes × R) where
  turn := exactTurn reader count
  size state := count - state.1.length
  lowers state next taken := by
    unfold exactTurn at taken
    split at taken
    next => cases taken
    next short =>
      split at taken
      next => cases taken
      next => cases taken
      next =>
        cases taken
        simp only [List.length_append, List.length_cons]
        omega

def readExact (count : Nat) (state : R) : Checked (Option Bytes × R) :=
  (exactLoop reader count).run ([], state)

def findMkvCuesOffset (totalSize : Nat) (state : R) : Checked (Option (Option Nat) × R) :=
  match reader.seek state 0 with
  | (false, state) => .ok (none, state)
  | (true, state) => do
    match ← readExact reader (min 102400 totalSize) state with
    | (none, state) => return (none, state)
    | (some buffer, state) =>
        match ← cuesReference buffer with
        | none => return (some none, state)
        | some (segmentDataStart, cuesPos) =>
            return (some (some (← add u64Limit segmentDataStart cuesPos)), state)

def inspectMkvFull (totalSize : Nat) (state : R) : Checked (List (Nat × Nat) × R) := do
  let ranges := [(0, min 1048576 totalSize)]
  match ← findMkvCuesOffset reader totalSize state with
  | (some (some cuesOffset), state) =>
      let cuesSize := min 500000 (← sub totalSize cuesOffset)
      return (ranges ++ [(cuesOffset, cuesSize)], state)
  | (_, state) =>
      if totalSize > 1000000 then
        return (ranges ++ [(← sub totalSize 1000000, 1000000)], state)
      return (ranges, state)

end Matroska

section Mp4

def moovLimit : Nat := 50000000

inductive HeaderRead where
  | failed
  | ended
  | box (boxType : Bytes) (actualSize : Nat)
deriving DecidableEq, Repr

def readHeader (totalSize pos : Nat) (state : R) : Checked (HeaderRead × R) :=
  match reader.read state 8 with
  | (none, state) => .ok (.failed, state)
  | (some buffer, state) =>
    if buffer.length < 8 then .ok (.ended, state)
    else do
      let boxSize ← u32At buffer 0
      let boxType := (buffer.drop 4).take 4
      if boxSize = 1 then
        match reader.read state 8 with
        | (none, state) => return (.failed, state)
        | (some extended, state) =>
            if extended.length < 8 then return (.ended, state)
            return (.box boxType (← u64At extended 0), state)
      else if boxSize = 0 then return (.box boxType (← sub totalSize pos), state)
      else return (.box boxType boxSize, state)

def moovAt (startPos : Nat) (buffer : Bytes) (index : Nat) : Checked (Option (Nat × Nat)) := do
  let atom ← slice buffer (← add usizeLimit index 4) (← add usizeLimit index 8)
  if atom ≠ utf8 "moov" then return none
  let boxSize ← u32At buffer index
  return some (← add u64Limit startPos index, min boxSize moovLimit)

def checkMp4End (totalSize : Nat) (state : R) : Checked (Option (List (Nat × Nat)) × R) := do
  let checkSize := min 5000000 totalSize
  let startPos ← sub totalSize checkSize
  match reader.seek state startPos with
  | (false, state) => return (none, state)
  | (true, state) =>
    match reader.read state checkSize with
    | (none, state) => return (none, state)
    | (some buffer, state) =>
        let found ← firstOf (moovAt startPos buffer) (List.range (buffer.length - 8))
        return (some found.toList, state)

structure Scan (R : Type) where
  pos : Nat
  iterations : Nat
  state : R

-- `none` is the error of a seek or a read; the `moov` box was found where there is a range.
abbrev Scanned (R : Type) := Option (List (Nat × Nat)) × R

/-- The end of the file is looked at behind a large `mdat` only. -/
def behindBox (totalSize : Nat) (boxType : Bytes) (actualSize : Nat) (state : R) :
    Checked (Option (List (Nat × Nat)) × R) :=
  if boxType = utf8 "mdat" ∧ actualSize > 10000000 then checkMp4End reader totalSize state
  else .ok (none, state)

def Scan.enterBox (totalSize : Nat) (scan : Scan R) (boxType : Bytes) (actualSize : Nat)
    (state : R) : Checked (Turn (Scan R) (Scanned R)) := do
  if boxType = utf8 "moov" then return .done (some [(scan.pos, min actualSize moovLimit)], state)
  let (endRanges, state) ← behindBox reader totalSize boxType actualSize state
  match endRanges with
  | some (range :: rest) => return .done (some (range :: rest), state)
  | _ =>
      if actualSize < 8 ∨ actualSize > (← sub totalSize scan.pos) then return .done (some [], state)
      return .again ⟨← add u64Limit scan.pos actualSize, scan.iterations + 1, state⟩

def Scan.turn (totalSize : Nat) (scan : Scan R) : Checked (Turn (Scan R) (Scanned R)) := do
  if ¬ ((← add u64Limit scan.pos 8) ≤ totalSize ∧ scan.iterations < 100) then
    return .done (some [], scan.state)
  match reader.seek scan.state scan.pos with
  | (false, state) => return .done (none, state)
  | (true, state) =>
    match ← readHeader reader totalSize scan.pos state with
    | (.failed, state) => return .done (none, state)
    | (.ended, state) => return .done (some [], state)
    | (.box boxType actualSize, state) => scan.enterBox reader totalSize boxType actualSize state

theorem Scan.enterBox_iterations {totalSize actualSize : Nat} {scan next : Scan R} {boxType : Bytes}
    {state : R} (taken : scan.enterBox reader totalSize boxType actualSize state = .ok (.again next)) :
    next.iterations = scan.iterations + 1 := by
  unfold enterBox at taken
  split at taken
  next => cases taken
  obtain ⟨⟨endRanges, state⟩, -, taken⟩ := bind_ok taken
  simp only at taken
  split at taken
  next => cases taken
  obtain ⟨_, -, taken⟩ := bind_ok taken
  split at taken
  next => cases taken
  next =>
    obtain ⟨_, -, taken⟩ := bind_ok taken
    cases taken
    rfl

theorem Scan.turn_iterations {totalSize : Nat} {scan next : Scan R}
    (taken : scan.turn reader totalSize = .ok (.again next)) :
    next.iterations = scan.iterations + 1 ∧ scan.iterations < 100 := by
  unfold turn at taken
  obtain ⟨_, -, taken⟩ := bind_ok taken
  split at taken
  next => cases taken
  next inside =>
    refine ⟨?_, (not_not.mp inside).2⟩
    split at taken
    next => cases taken
    next =>
      obtain ⟨⟨header, state⟩, -, taken⟩ := bind_ok taken
      cases header with
      | failed => cases taken
      | ended => cases taken
      | box boxType actualSize => exact enterBox_iterations reader taken

def scanBoxes (totalSize : Nat) : Loop Fault (Scan R) (Scanned R) where
  turn := Scan.turn reader totalSize
  size scan := 100 - scan.iterations
  lowers scan next taken := by
    have moved := Scan.turn_iterations reader taken
    omega

def inspectMp4Full (totalSize : Nat) (state : R) : Checked (Scanned R) := do
  match ← (scanBoxes reader totalSize).run ⟨0, 0, state⟩ with
  | (some [], state) =>
      if totalSize > 2000000 then return (some [(← sub totalSize 2000000, 2000000)], state)
      return (some [], state)
  | found => return found

end Mp4

def findCriticalRanges (totalSize : Nat) (name : Bytes) (state : R) :
    Checked (List (Nat × Nat) × R) := do
  let ranges := [(0, min 65536 totalSize)]
  match guessContainer name with
  | .mp4 =>
      let (mp4Ranges, state) ← inspectMp4Full reader totalSize state
      return (ranges ++ mp4Ranges.getD [], state)
  | .matroska =>
      let (mkvRanges, state) ← inspectMkvFull reader totalSize state
      return (ranges ++ mkvRanges, state)
  | .unknown =>
      if totalSize > 128000 then
        return (ranges ++ [(← sub totalSize 128000, 128000)], state)
      return (ranges, state)

end StreamServer.Metadata
