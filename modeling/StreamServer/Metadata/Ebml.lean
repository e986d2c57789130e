import StreamServer.Metadata.SampleTables
import StreamServer.Shared.Checked
import StreamServer.Shared.Fallible

set_option autoImplicit false

namespace StreamServer.Metadata

open Checked Loops Results

def leadingZeros (byte : UInt8) : Nat := if byte = 0 then 8 else 7 - Nat.log2 byte.toNat

-- `(value << 8) | byte`: the shift drops the bits above the word.
def shiftIn (limit : Nat) (start : Nat) (bytes : Bytes) : Nat :=
  bytes.foldl (fun value byte => value * 256 % limit + byte.toNat) start

def parseVint (data : Bytes) : Checked (Option (Nat × Nat)) := do
  if data = [] then return none
  let first ← get data 0
  let len := leadingZeros first + 1
  if len > 8 ∨ data.length < len then return none
  let mask ← sub (2 ^ (← sub 8 len)) 1
  return some (shiftIn u64Limit (first.toNat &&& mask) ((data.take len).drop 1), len)

structure ElementHeader where
  size : Nat
  headerSize : Nat
deriving DecidableEq, Repr

def parseEbmlElementHeader (data : Bytes) : Checked (Option ElementHeader) := do
  if data = [] then return none
  match ← parseVint data with
  | none => return none
  | some (_, idLen) =>
      if data.length < idLen then return none
      match ← parseVint (← sliceFrom data idLen) with
      | none => return none
      | some (size, sizeLen) => return some ⟨size, ← add usizeLimit idLen sizeLen⟩

/-- The comparisons stop at the first byte that differs. -/
def hasId (data : Bytes) (pos : Nat) : Bytes → Checked Bool
  | [] => .ok true
  | byte :: rest => do
    if (← get data pos) ≠ byte then return false
    hasId data (← add usizeLimit pos 1) rest

def elementAt (data : Bytes) (pos : Nat) (id : Bytes) : Checked (Option ElementHeader) := do
  if ← hasId data pos id then parseEbmlElementHeader (← sliceFrom data pos) else return none

namespace EbmlIds

def ebml : Bytes := [0x1A, 0x45, 0xDF, 0xA3]
def segment : Bytes := [0x18, 0x53, 0x80, 0x67]
def seekHead : Bytes := [0x11, 0x4D, 0x9B, 0x74]
def seek : Bytes := [0x4D, 0xBB]
def seekId : Bytes := [0x53, 0xAB]
def seekPosition : Bytes := [0x53, 0xAC]
def cluster : Bytes := [0x1F, 0x43, 0xB6, 0x75]
def cues : Nat := 0x1C53BB6B

end EbmlIds

theorem parseVint_bounds {data : Bytes} {value len : Nat}
    (parsed : parseVint data = .ok (some (value, len))) : 0 < len ∧ len ≤ data.length := by
  unfold parseVint at parsed
  split at parsed
  next => cases parsed
  obtain ⟨first, -, parsed⟩ := bind_ok parsed
  simp only at parsed
  split at parsed
  next => cases parsed
  next fits =>
    obtain ⟨width, -, parsed⟩ := bind_ok parsed
    obtain ⟨mask, -, parsed⟩ := bind_ok parsed
    cases parsed
    omega

theorem parseEbmlElementHeader_bounds {data : Bytes} {header : ElementHeader}
    (parsed : parseEbmlElementHeader data = .ok (some header)) :
    0 < header.headerSize ∧ header.headerSize ≤ data.length := by
  unfold parseEbmlElementHeader at parsed
  split at parsed
  next => cases parsed
  obtain ⟨found, id, parsed⟩ := bind_ok parsed
  split at parsed
  next => cases parsed
  next idLen =>
    have idBounds := parseVint_bounds id
    split at parsed
    next => cases parsed
    rw [sliceFrom_ok idBounds.2, ok_bind] at parsed
    obtain ⟨found, length, parsed⟩ := bind_ok parsed
    split at parsed
    next => cases parsed
    next size sizeLen =>
      have sizeBounds := parseVint_bounds length
      rw [List.length_drop] at sizeBounds
      obtain ⟨-, parsed⟩ := add_bind_ok parsed
      cases parsed
      exact ⟨by show 0 < idLen + sizeLen; omega, by show idLen + sizeLen ≤ data.length; omega⟩

theorem elementAt_bounds {data id : Bytes} {pos : Nat} {header : ElementHeader}
    (inside : pos ≤ data.length) (found : elementAt data pos id = .ok (some header)) :
    0 < header.headerSize ∧ pos + header.headerSize ≤ data.length := by
  unfold elementAt at found
  obtain ⟨matched, -, found⟩ := bind_ok found
  split at found
  next =>
    rw [sliceFrom_ok inside, ok_bind] at found
    have bounds := parseEbmlElementHeader_bounds found
    rw [List.length_drop] at bounds
    omega
  next => cases found

section Seeks

structure SeekEntry where
  pos : Nat
  seekId : Option Nat
  seekPosition : Option Nat
deriving DecidableEq, Repr

def numberIn (limit : Nat) (data : Bytes) (start size : Nat) : Checked (Option Nat) := do
  let content ← sliceFrom data start
  if size ≤ content.length then return some (shiftIn limit 0 (content.take size))
  return none

def SeekEntry.skip (entry : SeekEntry) (header : ElementHeader) : Checked SeekEntry := do
  let length ← add usizeLimit header.headerSize header.size
  return { entry with pos := ← add usizeLimit entry.pos length }

def SeekEntry.turn (data : Bytes) (entry : SeekEntry) : Checked (Turn SeekEntry SeekEntry) := do
  if ¬ (← add usizeLimit entry.pos 2) < data.length then return .done entry
  match ← elementAt data entry.pos EbmlIds.seekId with
  | some header =>
      let id ← numberIn u32Limit data (← add usizeLimit entry.pos header.headerSize) header.size
      return .again (← { entry with seekId := id.or entry.seekId }.skip header)
  | none =>
      match ← elementAt data entry.pos EbmlIds.seekPosition with
      | some header =>
          let position ←
            numberIn u64Limit data (← add usizeLimit entry.pos header.headerSize) header.size
          return .again (← { entry with seekPosition := position.or entry.seekPosition }.skip header)
      | none => return .again { entry with pos := ← add usizeLimit entry.pos 1 }

theorem SeekEntry.skip_pos {entry next : SeekEntry} {header : ElementHeader}
    (skipped : entry.skip header = .ok next) :
    next.pos = entry.pos + (header.headerSize + header.size) := by
  obtain ⟨-, skipped⟩ := add_bind_ok skipped
  obtain ⟨-, skipped⟩ := add_bind_ok skipped
  cases skipped
  rfl

theorem SeekEntry.turn_pos {data : Bytes} {entry next : SeekEntry}
    (taken : entry.turn data = .ok (.again next)) :
    entry.pos < next.pos ∧ entry.pos < data.length := by
  unfold turn at taken
  obtain ⟨-, taken⟩ := add_bind_ok taken
  split at taken
  next => cases taken
  next inside =>
    have inside : entry.pos < data.length := by omega
    refine ⟨?_, inside⟩
    obtain ⟨found, header, taken⟩ := bind_ok taken
    split at taken
    next id =>
      have bounds := elementAt_bounds (Nat.le_of_lt inside) header
      obtain ⟨_, -, taken⟩ := bind_ok taken
      obtain ⟨_, -, taken⟩ := bind_ok taken
      obtain ⟨skipped, moved, taken⟩ := bind_ok taken
      cases taken
      have moved := skip_pos moved
      simp only at moved
      omega
    next =>
      obtain ⟨found, header, taken⟩ := bind_ok taken
      split at taken
      next id =>
        have bounds := elementAt_bounds (Nat.le_of_lt inside) header
        obtain ⟨_, -, taken⟩ := bind_ok taken
        obtain ⟨_, -, taken⟩ := bind_ok taken
        obtain ⟨skipped, moved, taken⟩ := bind_ok taken
        cases taken
        have moved := skip_pos moved
        simp only at moved
        omega
      next =>
        obtain ⟨-, taken⟩ := add_bind_ok taken
        cases taken
        exact Nat.lt_succ_self _

def seekEntryLoop (data : Bytes) : Loop Fault SeekEntry SeekEntry where
  turn := SeekEntry.turn data
  size entry := data.length - entry.pos
  lowers entry next taken := by
    have moved := SeekEntry.turn_pos taken
    omega

def parseSeekElement (data : Bytes) : Checked (Option Nat) := do
  let entry ← (seekEntryLoop data).run ⟨0, none, none⟩
  match entry.seekId, entry.seekPosition with
  | some id, some position => return if id = EbmlIds.cues then some position else none
  | _, _ => return none

def seekHeadTurn (data : Bytes) (pos : Nat) : Checked (Turn Nat (Option Nat)) := do
  if ¬ (← add usizeLimit pos 2) < data.length then return .done none
  match ← elementAt data pos EbmlIds.seek with
  | some header =>
      let seekData ← sliceFrom data (← add usizeLimit pos header.headerSize)
      match ← parseSeekElement (seekData.take (min header.size seekData.length)) with
      | some cuesPos => return .done (some cuesPos)
      | none =>
          return .again (← add usizeLimit pos (← add usizeLimit header.headerSize header.size))
  | none => return .again (← add usizeLimit pos 1)

theorem seekHeadTurn_pos {data : Bytes} {pos next : Nat}
    (taken : seekHeadTurn data pos = .ok (.again next)) : pos < next ∧ pos < data.length := by
  unfold seekHeadTurn at taken
  obtain ⟨-, taken⟩ := add_bind_ok taken
  split at taken
  next => cases taken
  next inside =>
    have inside : pos < data.length := by omega
    refine ⟨?_, inside⟩
    obtain ⟨found, header, taken⟩ := bind_ok taken
    split at taken
    next seek =>
      have bounds := elementAt_bounds (Nat.le_of_lt inside) header
      obtain ⟨_, -, taken⟩ := bind_ok taken
      obtain ⟨_, -, taken⟩ := bind_ok taken
      obtain ⟨cues, -, taken⟩ := bind_ok taken
      split at taken
      next => cases taken
      next =>
        obtain ⟨-, taken⟩ := add_bind_ok taken
        obtain ⟨-, taken⟩ := add_bind_ok taken
        cases taken
        omega
    next =>
      obtain ⟨-, taken⟩ := add_bind_ok taken
      cases taken
      exact Nat.lt_succ_self _

def seekHeadLoop (data : Bytes) : Loop Fault Nat (Option Nat) where
  turn := seekHeadTurn data
  size pos := data.length - pos
  lowers pos next taken := by
    have moved := seekHeadTurn_pos taken
    omega

def parseSeekHead (data : Bytes) : Checked (Option Nat) := (seekHeadLoop data).run 0

end Seeks

end StreamServer.Metadata
