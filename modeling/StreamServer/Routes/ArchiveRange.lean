import StreamServer.Routes.RangeHeader
import StreamServer.Transcoding.ByteRange

set_option autoImplicit false

namespace StreamServer.Routes

open ByteText Decimals Transcoding

structure Response where
  status : Nat
  contentLength : Nat
  contentRange : Option Bytes
  body : Bytes
deriving DecidableEq, Repr

namespace Archive

/-- A header that is not understood is passed over, and the whole entry is sent. -/
def requestedRange (range : Option Bytes) (fileSize : Nat) : Checked (Option (Nat × Nat)) :=
  match range.bind headerText with
  | none => .ok none
  | some header => parseRange header fileSize

def respond (entry : Bytes) (range : Option Bytes) : Checked Response := do
  let fileSize := entry.length
  let parsed ← requestedRange range fileSize
  let (start, last) := parsed.getD (0, fileSize - 1)
  let covered ← Checked.sub last start
  let len ← Checked.add u64Limit covered 1
  .ok {
    status := if parsed.isSome then 206 else 200
    contentLength := len
    contentRange := if parsed.isSome then some (contentRangeText start last fileSize) else none
    body := (entry.drop start).take len }

end Archive

section Agreement

def Archive.Agrees (header : Bytes) (size : Nat) : Prop :=
  Archive.parseRange header size = .ok (Stream.parseRange header size) ∧
    (parseSingleRange (some header) size).toOption =
      (Stream.parseRange header size).map fun range => .part range.1 range.2 size

theorem Archive.parseRange_eq {size : Nat} (header : Bytes) (positive : 0 < size) :
    Archive.parseRange header size = .ok (Stream.parseRange header size) := by
  have last : Checked.sub size 1 = .ok (size - 1) := Checked.sub_ok positive
  unfold Archive.parseRange Stream.parseRange
  rw [if_neg (by omega), last]
  cases rangeParts header with
  | none => rfl
  | some parts =>
    obtain ⟨left, right⟩ := parts
    simp only
    split
    next =>
      cases parseU64 right with
      | none => rfl
      | some suffix =>
        simp only [Option.bind_eq_bind, Option.bind_some]
        split <;> rfl
    next =>
      cases parseU64 left with
      | none => rfl
      | some start =>
        simp only [Option.bind_eq_bind, Option.bind_some]
        split
        next =>
          simp only [Except.map, Checked.ok_bind]
          split <;> rfl
        next =>
          cases parseU64 right with
          | none => rfl
          | some last =>
            simp only [Checked.ok_bind, Option.bind_some]
            split <;> rfl

theorem boundOf_ok_iff {text : Bytes} {value : Nat} :
    boundOf text = .ok value ↔ parseU64 text = some value := by
  unfold boundOf
  cases parseU64 text <;> simp

theorem parseSpec_denoted {spec : Bytes} {size : Nat} {range : ByteRange}
    (parsed : parseSpec spec size = .ok range) :
    ∃ denoted start last, RangeSpec.Spells WordNumber spec denoted ∧
      denoted.assigned size = some (start, last) ∧ range = .part start last size := by
  unfold parseSpec at parsed
  obtain ⟨accepted, parsed⟩ := of_throw_unless parsed
  simp only [not_or] at accepted
  split at parsed
  · cases parsed
  · cases parsed
  next right _ split =>
    obtain ⟨joined, _⟩ := splitOnce_some split
    obtain ⟨suffix, read, parsed⟩ := Results.bind_ok parsed
    obtain ⟨nonzero, parsed⟩ := of_throw_unless parsed
    cases parsed
    have number := (parseU64_some_iff _ _).mp (boundOf_ok_iff.mp read)
    refine ⟨.suffix suffix, size - suffix, size - 1, joined ▸ .suffix number, ?_, ?_⟩
    · exact if_pos (by omega)
    · rw [show size - min suffix size = size - suffix by omega]
  next left _ split =>
    obtain ⟨joined, _⟩ := splitOnce_some split
    obtain ⟨start, read, parsed⟩ := Results.bind_ok parsed
    obtain ⟨before, parsed⟩ := of_throw_unless parsed
    cases parsed
    have number := (parseU64_some_iff _ _).mp (boundOf_ok_iff.mp read)
    exact ⟨.opened start, start, size - 1, joined ▸ .opened number, if_pos (by omega), rfl⟩
  next left right _ _ split =>
    obtain ⟨joined, _⟩ := splitOnce_some split
    obtain ⟨start, startRead, parsed⟩ := Results.bind_ok parsed
    obtain ⟨last, lastRead, parsed⟩ := Results.bind_ok parsed
    obtain ⟨before, parsed⟩ := of_throw_unless parsed
    cases parsed
    have first := (parseU64_some_iff _ _).mp (boundOf_ok_iff.mp startRead)
    have final := (parseU64_some_iff _ _).mp (boundOf_ok_iff.mp lastRead)
    exact ⟨.closed start last, start, min last (size - 1), joined ▸ .closed first final,
      if_pos (by omega), rfl⟩

theorem parseSpec_of_denoted {spec : Bytes} {denoted : RangeSpec} {size start last : Nat}
    (spelled : RangeSpec.Spells WordNumber spec denoted)
    (assigned : denoted.assigned size = some (start, last)) :
    parseSpec spec size = .ok (.part start last size) := by
  have noComma : (44 : UInt8) ∉ spec := by
    intro member
    rcases spelled.byte _ (fun _ _ number _ inside => number.byte inside) 44 member with other | other
    · exact absurd other (by decide)
    · exact absurd other (by decide)
  have inside := RangeSpec.assigned_inside assigned
  obtain ⟨left, right, joined, leftClean, _, read⟩ :=
    spelled.parts parseU64_some_iff WordNumber.nonempty WordNumber.unhyphened
  have nonempty : spec ≠ [] := by simp [joined]
  have split : splitOnce 45 spec = some (left, right) := by
    rw [joined, splitOnce_append leftClean]
  have accepted : ¬ (spec = [] ∨ 44 ∈ spec ∨ size = 0) := by
    simp only [nonempty, noComma, false_or]
    omega
  unfold parseSpec
  rw [if_neg accepted, split]
  unfold RangeSpec.readSpec at read
  cases left with
  | nil =>
    rw [if_pos rfl] at read
    obtain ⟨length, value, rfl⟩ := Option.map_eq_some_iff.mp read
    simp only [RangeSpec.assigned, Option.ite_none_right_eq_some, Option.some.injEq,
      Prod.mk.injEq] at assigned
    obtain ⟨satisfiable, rfl, rfl⟩ := assigned
    cases right with
    | nil => cases value
    | cons byte rest =>
      simp only [Checked.pure_ok, Checked.ok_bind, boundOf_ok_iff.mpr value]
      rw [if_neg (by omega), show size - min length size = size - length by omega]
  | cons head tail =>
    rw [if_neg (List.cons_ne_nil _ _)] at read
    cases right with
    | nil =>
      rw [if_pos rfl] at read
      obtain ⟨first, value, rfl⟩ := Option.map_eq_some_iff.mp read
      simp only [RangeSpec.assigned, Option.ite_none_right_eq_some, Option.some.injEq,
        Prod.mk.injEq] at assigned
      obtain ⟨satisfiable, rfl, rfl⟩ := assigned
      simp only [Checked.pure_ok, Checked.ok_bind, boundOf_ok_iff.mpr value]
      rw [if_neg (by omega)]
    | cons byte rest =>
      rw [if_neg (List.cons_ne_nil _ _)] at read
      obtain ⟨first, leading, read⟩ := Option.bind_eq_some_iff.mp read
      obtain ⟨final, trailing, rfl⟩ := Option.map_eq_some_iff.mp read
      simp only [RangeSpec.assigned, Option.ite_none_right_eq_some, Option.some.injEq,
        Prod.mk.injEq] at assigned
      obtain ⟨satisfiable, rfl, rfl⟩ := assigned
      simp only [Checked.pure_ok, Checked.ok_bind, boundOf_ok_iff.mpr leading,
        boundOf_ok_iff.mpr trailing]
      rw [if_neg (by omega)]

theorem parseSingleRange_ok_iff (header : Bytes) (size : Nat) (range : ByteRange) :
    parseSingleRange (some header) size = .ok range ↔ ∃ start last,
      Stream.parseRange header size = some (start, last) ∧ range = .part start last size := by
  simp only [Stream.parseRange_denotes]
  unfold parseSingleRange stripPrefix
  simp only
  constructor
  · intro parsed
    split at parsed
    · cases parsed
    next spec stripped =>
      simp only [Option.ite_none_right_eq_some, Option.some.injEq] at stripped
      obtain ⟨starts, rfl⟩ := stripped
      obtain ⟨text, rfl⟩ := List.isPrefixOf_iff_prefix.mp starts
      rw [List.drop_left] at parsed
      obtain ⟨denoted, start, last, spelled, assigned, rfl⟩ := parseSpec_denoted parsed
      exact ⟨start, last, ⟨denoted, ⟨text, rfl, spelled⟩, assigned⟩, rfl⟩
  · rintro ⟨start, last, ⟨denoted, ⟨text, rfl, spelled⟩, assigned⟩, rfl⟩
    have starts : (utf8 "bytes=").isPrefixOf (utf8 "bytes=" ++ text) = true :=
      List.isPrefixOf_iff_prefix.mpr ⟨text, rfl⟩
    rw [if_pos starts, List.drop_left]
    exact parseSpec_of_denoted spelled assigned

theorem parseSingleRange_toOption (header : Bytes) (size : Nat) :
    (parseSingleRange (some header) size).toOption =
      (Stream.parseRange header size).map fun range => .part range.1 range.2 size := by
  apply Option.ext
  intro range
  have accepted := parseSingleRange_ok_iff header size range
  cases parsed : parseSingleRange (some header) size with
  | error error =>
    rw [parsed] at accepted
    simp only [Except.toOption, Option.map_eq_some_iff, Prod.exists]
    constructor
    · rintro ⟨⟩
    · rintro ⟨start, last, found, rfl⟩
      exact nomatch accepted.mpr ⟨start, last, found, rfl⟩
  | ok result =>
    rw [parsed] at accepted
    simp only [Except.toOption, Option.map_eq_some_iff, Prod.exists, Option.some.injEq]
    rw [Except.ok.injEq] at accepted
    simpa [eq_comm] using accepted

theorem Archive.agrees_of_pos {size : Nat} (header : Bytes) (positive : 0 < size) :
    Archive.Agrees header size :=
  ⟨Archive.parseRange_eq header positive, parseSingleRange_toOption header size⟩

end Agreement

section Announcement

structure Archive.Announces (entry : Bytes) (response : Response) : Prop where
  length : response.contentLength = response.body.length
  range : (response.status = 200 ∧ response.contentRange = none ∧ response.body = entry) ∨
    (response.status = 206 ∧ ∃ start last, start ≤ last ∧ last < entry.length ∧
      response.contentRange = some (contentRangeText start last entry.length) ∧
      response.body = (entry.drop start).take (last - start + 1))

theorem Archive.respond_announces {entry : Bytes} (range : Option Bytes) (nonempty : entry ≠ [])
    (fits : entry.length < u64Limit) :
    ∃ response, Archive.respond entry range = .ok response ∧ Archive.Announces entry response := by
  have positive : 0 < entry.length := List.length_pos_of_ne_nil nonempty
  have parsed : ∃ parsed, Archive.requestedRange range entry.length = .ok parsed ∧
      ∀ start last, parsed = some (start, last) → start ≤ last ∧ last < entry.length := by
    unfold Archive.requestedRange
    cases range.bind headerText with
    | none => exact ⟨none, rfl, by simp⟩
    | some header =>
      exact ⟨_, Archive.parseRange_eq header positive, fun _ _ found => Stream.parseRange_inside found⟩
  obtain ⟨parsed, requested, inside⟩ := parsed
  unfold Archive.respond
  simp only [requested]
  cases parsed with
  | none =>
    simp only [Checked.ok_bind, Option.getD_none, Option.isSome_none]
    rw [Checked.sub_ok (Nat.zero_le _), Checked.ok_bind, Checked.add_ok (by omega)]
    refine ⟨_, rfl, ?_, .inl ⟨rfl, rfl, ?_⟩⟩
    · simp only [List.drop_zero, List.length_take]
      omega
    · simp only [List.drop_zero]
      exact List.take_of_length_le (by omega)
  | some bounds =>
    obtain ⟨start, last⟩ := bounds
    have within := inside start last rfl
    simp only [Checked.ok_bind, Option.getD_some, Option.isSome_some]
    rw [Checked.sub_ok within.1, Checked.ok_bind, Checked.add_ok (by omega)]
    refine ⟨_, rfl, ?_, .inr ⟨rfl, start, last, within.1, within.2, rfl, rfl⟩⟩
    simp only [List.length_take, List.length_drop]
    omega

theorem Archive.respond_sizes {entry : Bytes} {range : Option Bytes} {response : Response}
    (responded : Archive.respond entry range = .ok response) :
    0 < response.contentLength ∧ response.body.length ≤ entry.length := by
  unfold Archive.respond at responded
  simp only at responded
  obtain ⟨parsed, _, responded⟩ := Results.bind_ok responded
  obtain ⟨covered, _, responded⟩ := Results.bind_ok responded
  obtain ⟨len, added, responded⟩ := Results.bind_ok responded
  obtain ⟨_, rfl⟩ := Checked.add_ok_iff.mp added
  cases responded
  refine ⟨Nat.succ_pos _, ?_⟩
  simp only [List.length_take, List.length_drop]
  omega

structure Archive.Serves (entry : Bytes) (range : Option Bytes) : Prop where
  agrees : ∀ header ∈ range, Archive.Agrees header entry.length
  announces : ∃ response, Archive.respond entry range = .ok response ∧ Archive.Announces entry response

theorem Archive.serves_iff_nonempty (entry : Bytes) (range : Option Bytes) (fits : entry.length < u64Limit) :
    Archive.Serves entry range ↔ entry ≠ [] := by
  constructor
  · rintro ⟨_, response, responded, announces⟩ rfl
    have sizes := Archive.respond_sizes responded
    rw [announces.length] at sizes
    exact absurd sizes.1 (Nat.not_lt.mpr sizes.2)
  · intro nonempty
    exact ⟨fun header _ => Archive.agrees_of_pos header (List.length_pos_of_ne_nil nonempty),
      Archive.respond_announces range nonempty fits⟩

theorem Archive.serves_three : Archive.Serves [1, 2, 3] (some (utf8 "bytes=-2")) :=
  (Archive.serves_iff_nonempty [1, 2, 3] (some (utf8 "bytes=-2")) (by decide)).mpr (by decide)

-- An empty entry is announced as one byte; asked for its last bytes, the route underflows.
theorem Archive.empty_entry :
    (Archive.respond [] none).map (·.contentLength) = .ok 1 ∧
      Archive.parseRange (utf8 "bytes=-1") 0 = .error .overflow ∧
      Stream.parseRange (utf8 "bytes=-1") 0 = none ∧
      ¬ Archive.Serves [] (some (utf8 "bytes=-1")) := by
  refine ⟨by decide, by decide, by decide, fun serves => ?_⟩
  obtain ⟨response, responded, announces⟩ := serves.announces
  have sizes := Archive.respond_sizes responded
  rw [announces.length] at sizes
  exact absurd sizes.1 (Nat.not_lt.mpr sizes.2)

end Announcement

end StreamServer.Routes
