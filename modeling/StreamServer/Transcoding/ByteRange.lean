import StreamServer.Shared.Fallible
import StreamServer.Shared.Numerals

set_option autoImplicit false

namespace StreamServer.Transcoding

open ByteText Results

inductive SourceError where
  | invalidSource
  | notFound
  | invalidCapability
  | expired
  | revoked
  | rateLimited
  | invalidRange
  | capacity
  | io
deriving DecidableEq, Repr

def sourceErrorStatus : SourceError → Nat
  | .invalidCapability => 401
  | .expired | .revoked => 410
  | .rateLimited | .capacity => 429
  | .invalidRange => 416
  | .notFound => 404
  | .invalidSource | .io => 500

structure ByteRange where
  start : Nat
  endInclusive : Nat
  fullSize : Nat
  isPartial : Bool
deriving DecidableEq, Repr

namespace ByteRange

def full (fullSize : Nat) : ByteRange := ⟨0, fullSize - 1, fullSize, false⟩

def part (start endInclusive fullSize : Nat) : ByteRange := ⟨start, endInclusive, fullSize, true⟩

def len (range : ByteRange) : Nat :=
  if range.fullSize = 0 then 0 else range.endInclusive - range.start + 1

end ByteRange

def boundOf (text : Bytes) : Except SourceError Nat :=
  match Decimals.parseU64 text with
  | some value => .ok value
  | none => .error .invalidRange

def stripPrefix (leading text : Bytes) : Option Bytes :=
  if leading.isPrefixOf text then some (text.drop leading.length) else none

def parseSpec (spec : Bytes) (size : Nat) : Except SourceError ByteRange := do
  if spec = [] ∨ 44 ∈ spec ∨ size = 0 then throw .invalidRange
  match splitOnce 45 spec with
  | none => throw .invalidRange
  | some ([], []) => throw .invalidRange
  | some ([], right) =>
      let suffix ← boundOf right
      if suffix = 0 then throw .invalidRange
      return .part (size - min suffix size) (size - 1) size
  | some (left, []) =>
      let start ← boundOf left
      if start ≥ size then throw .invalidRange
      return .part start (size - 1) size
  | some (left, right) =>
      let start ← boundOf left
      let last ← boundOf right
      if start > last ∨ start ≥ size then throw .invalidRange
      return .part start (min last (size - 1)) size

def parseSingleRange (value : Option Bytes) (size : Nat) : Except SourceError ByteRange :=
  match value with
  | none => .ok (.full size)
  | some value =>
      match stripPrefix (utf8 "bytes=") value with
      | none => .error .invalidRange
      | some spec => parseSpec spec size

structure ByteRange.Inside (range : ByteRange) (size : Nat) : Prop where
  fullSize : range.fullSize = size
  ends : range.start + range.len ≤ size

theorem inside_full (size : Nat) : (ByteRange.full size).Inside size := by
  refine ⟨rfl, ?_⟩
  unfold ByteRange.len ByteRange.full
  split
  · exact Nat.zero_le _
  · simp only at *
    omega

theorem inside_part {start last size : Nat} (begins : start ≤ last) (ends : last < size) :
    (ByteRange.part start last size).Inside size := by
  refine ⟨rfl, ?_⟩
  unfold ByteRange.len ByteRange.part
  simp only
  rw [if_neg (by omega)]
  omega

theorem of_throw_unless {refused : Prop} [Decidable refused] {error : SourceError}
    {next : Except SourceError ByteRange} {range : ByteRange}
    (passed : (if refused then throw error else next) = .ok range) :
    ¬refused ∧ next = .ok range := by
  by_cases holds : refused
  · rw [if_pos holds] at passed
    cases passed
  · rw [if_neg holds] at passed
    exact ⟨holds, passed⟩

theorem parseSpec_inside {spec : Bytes} {size : Nat} {range : ByteRange}
    (parsed : parseSpec spec size = .ok range) : range.Inside size := by
  unfold parseSpec at parsed
  obtain ⟨accepted, parsed⟩ := of_throw_unless parsed
  have positive : 0 < size := by
    simp only [not_or] at accepted
    omega
  split at parsed
  · cases parsed
  · cases parsed
  next right _ =>
    obtain ⟨suffix, _, parsed⟩ := bind_ok parsed
    obtain ⟨nonzero, parsed⟩ := of_throw_unless parsed
    cases parsed
    exact inside_part (by omega) (by omega)
  next left _ =>
    obtain ⟨start, _, parsed⟩ := bind_ok parsed
    obtain ⟨before, parsed⟩ := of_throw_unless parsed
    cases parsed
    exact inside_part (by omega) (by omega)
  next left right _ _ _ =>
    obtain ⟨start, _, parsed⟩ := bind_ok parsed
    obtain ⟨last, _, parsed⟩ := bind_ok parsed
    obtain ⟨before, parsed⟩ := of_throw_unless parsed
    cases parsed
    exact inside_part (by omega) (by omega)

theorem parseSingleRange_inside {value : Option Bytes} {size : Nat} {range : ByteRange}
    (parsed : parseSingleRange value size = .ok range) : range.Inside size := by
  unfold parseSingleRange at parsed
  split at parsed
  · cases parsed
    exact inside_full size
  · split at parsed
    · cases parsed
    · exact parseSpec_inside parsed

example : parseSingleRange (some (utf8 "bytes=-3")) 10 = .ok (.part 7 9 10) := by decide

end StreamServer.Transcoding
