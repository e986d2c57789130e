import StreamServer.Shared.Checked
import StreamServer.Shared.Numerals
import StreamServer.Shared.RangeSpec
import StreamServer.Shared.Splices

set_option autoImplicit false

namespace StreamServer.Routes

open ByteText Decimals

def hyphen : UInt8 := 45

-- `HeaderValue::to_str`: a value with another byte than visible ASCII or a tab has no text.
def headerText (value : Bytes) : Option Bytes :=
  if value.all fun byte => (32 ≤ byte && byte < 127) || byte == 9 then some value else none

def contentRangeText (start last size : Nat) : Bytes :=
  utf8 ("bytes " ++ toString start ++ "-" ++ toString last ++ "/" ++ toString size)

/-- Both routes look for the prefix and split what follows at every hyphen. -/
def rangeParts (header : Bytes) : Option (Bytes × Bytes) :=
  let leading := utf8 "bytes="
  if startsWith leading header then
    match (header.drop leading.length).splitOn hyphen with
    | [startStr, endStr] => some (startStr, endStr)
    | _ => none
  else none

namespace Stream

def parseRange (header : Bytes) (size : Nat) : Option (Nat × Nat) :=
  if size = 0 then none
  else
    match rangeParts header with
    | none => none
    | some (startStr, endStr) =>
        if startStr = [] then do
          let suffix ← parseU64 endStr
          if suffix = 0 then none else some (size - suffix, size - 1)
        else do
          let start ← parseU64 startStr
          let last ← if endStr = [] then some (size - 1) else parseU64 endStr
          if start > last ∨ start ≥ size then none else some (start, min last (size - 1))

end Stream

namespace Archive

/-- As the stream route has it, but for the test of the size: an empty entry meets `size - 1`. -/
def parseRange (header : Bytes) (size : Nat) : Checked (Option (Nat × Nat)) :=
  match rangeParts header with
  | none => .ok none
  | some (startStr, endStr) =>
      if startStr = [] then
        match parseU64 endStr with
        | none => .ok none
        | some suffix =>
            if suffix = 0 then .ok none
            else do
              let last ← Checked.sub size 1
              .ok (some (size - suffix, last))
      else
        match parseU64 startStr with
        | none => .ok none
        | some start => do
            let parsed ← if endStr = [] then (Checked.sub size 1).map some else .ok (parseU64 endStr)
            match parsed with
            | none => .ok none
            | some last =>
                if start > last ∨ start ≥ size then .ok none
                else do
                  let final ← Checked.sub size 1
                  .ok (some (start, min last final))

end Archive

section Numbers

def DecimalNumber (text : Bytes) (value : Nat) : Prop :=
  text ≠ [] ∧ (∀ byte ∈ text, isAsciiDigit byte = true) ∧ digitsValue text = value

/-- What `str::parse` takes: a plus sign may come first, and the value fits the word. -/
def WordNumber (text : Bytes) (value : Nat) : Prop :=
  ∃ digits, (text = digits ∨ text = 43 :: digits) ∧ DecimalNumber digits value ∧ value < u64Limit

theorem parseDigits_some_iff (text : Bytes) (value : Nat) :
    parseDigits text = some value ↔ DecimalNumber text value := by
  unfold parseDigits DecimalNumber
  rw [Option.ite_none_right_eq_some, List.all_eq_true, and_assoc, Option.some.injEq]

theorem not_decimalNumber_plus (rest : Bytes) (value : Nat) : ¬ DecimalNumber (43 :: rest) value := by
  rintro ⟨_, digits, _⟩
  exact absurd (digits 43 (List.mem_cons_self ..)) (by decide)

theorem parseU64_some_iff (text : Bytes) (value : Nat) :
    parseU64 text = some value ↔ WordNumber text value := by
  unfold parseU64 WordNumber
  simp only [Option.filter_eq_some_iff, parseDigits_some_iff, decide_eq_true_eq]
  by_cases plus : text.head? = some 43
  · obtain ⟨rest, rfl⟩ := List.head?_eq_some_iff.mp plus
    rw [if_pos plus]
    constructor
    · rintro ⟨decimal, fits⟩
      exact ⟨rest, .inr rfl, decimal, fits⟩
    · rintro ⟨digits, rfl | same, decimal, fits⟩
      · exact absurd decimal (not_decimalNumber_plus _ _)
      · cases same
        exact ⟨decimal, fits⟩
  · rw [if_neg plus]
    constructor
    · rintro ⟨decimal, fits⟩
      exact ⟨text, .inl rfl, decimal, fits⟩
    · rintro ⟨digits, rfl | rfl, decimal, fits⟩
      · exact ⟨decimal, fits⟩
      · exact absurd rfl plus

theorem WordNumber.byte {text : Bytes} {value : Nat} (number : WordNumber text value) {byte : UInt8}
    (member : byte ∈ text) : byte = 43 ∨ isAsciiDigit byte = true := by
  obtain ⟨digits, rfl | rfl, ⟨_, decimal, _⟩, _⟩ := number
  · exact .inr (decimal byte member)
  · exact (List.mem_cons.mp member).imp_right (decimal byte)

theorem WordNumber.unhyphened (text : Bytes) (value : Nat) (number : WordNumber text value) :
    (45 : UInt8) ∉ text :=
  fun member => absurd (number.byte member) (by decide)

theorem WordNumber.nonempty (value : Nat) : ¬ WordNumber [] value := by
  rintro ⟨digits, empty | empty, ⟨nonempty, _⟩, _⟩
  · exact nonempty empty.symm
  · cases empty

end Numbers

section Reading

theorem rangeParts_some_iff (header left right : Bytes) :
    rangeParts header = some (left, right) ↔
      header = utf8 "bytes=" ++ (left ++ 45 :: right) ∧ 45 ∉ left ∧ 45 ∉ right := by
  unfold rangeParts
  simp only [Option.ite_none_right_eq_some]
  constructor
  · rintro ⟨starts, found⟩
    obtain ⟨text, rfl⟩ := List.isPrefixOf_iff_prefix.mp starts
    rw [List.drop_left] at found
    split at found
    next startStr endStr parts =>
      cases found
      obtain ⟨rfl, clean⟩ := Splitting.splitOn_eq_pair_iff.mp parts
      exact ⟨rfl, clean⟩
    next => cases found
  · rintro ⟨rfl, clean⟩
    refine ⟨List.isPrefixOf_iff_prefix.mpr ⟨_, rfl⟩, ?_⟩
    rw [List.drop_left, hyphen, Splitting.splitOn_eq_pair_iff.mpr ⟨rfl, clean⟩]

theorem denotes_iff (header : Bytes) (spec : RangeSpec) :
    RangeSpec.Denotes WordNumber header spec ↔ ∃ left right,
      rangeParts header = some (left, right) ∧ RangeSpec.readSpec parseU64 left right = some spec := by
  constructor
  · rintro ⟨text, rfl, spelled⟩
    obtain ⟨left, right, rfl, leftClean, rightClean, read⟩ :=
      spelled.parts parseU64_some_iff WordNumber.nonempty WordNumber.unhyphened
    exact ⟨left, right, (rangeParts_some_iff _ _ _).mpr ⟨rfl, leftClean, rightClean⟩, read⟩
  · rintro ⟨left, right, parts, read⟩
    exact ⟨_, ((rangeParts_some_iff _ _ _).mp parts).1,
      RangeSpec.spells_of_readSpec parseU64_some_iff read⟩

theorem Stream.parseRange_eq (header : Bytes) (size : Nat) :
    Stream.parseRange header size = (rangeParts header).bind fun parts =>
      (RangeSpec.readSpec parseU64 parts.1 parts.2).bind (·.assigned size) := by
  unfold Stream.parseRange
  split
  next empty =>
    subst empty
    simp [RangeSpec.assigned_empty]
  next nonempty =>
    cases rangeParts header with
    | none => rfl
    | some parts =>
      obtain ⟨left, right⟩ := parts
      simp only [Option.bind_some, RangeSpec.readSpec]
      split
      next =>
        cases parseU64 right with
        | none => rfl
        | some length =>
          simp only [Option.bind_eq_bind, Option.bind_some, Option.map_some, RangeSpec.assigned]
          split
          next zero => rw [if_neg (by omega)]
          next => rw [if_pos (by omega)]
      next =>
        cases parseU64 left with
        | none => split <;> rfl
        | some start =>
          simp only [Option.bind_eq_bind, Option.bind_some]
          split
          next =>
            simp only [Option.bind_some, Option.map_some, RangeSpec.assigned]
            split
            next => rw [if_neg (by omega)]
            next => rw [if_pos (by omega), Nat.min_self]
          next =>
            cases parseU64 right with
            | none => rfl
            | some last =>
              simp only [Option.bind_some, Option.map_some, RangeSpec.assigned]
              split
              next => rw [if_neg (by omega)]
              next => rw [if_pos (by omega)]

theorem bind_assigned_iff (header : Bytes) (size : Nat) (range : Nat × Nat) :
    ((rangeParts header).bind fun parts =>
      (RangeSpec.readSpec parseU64 parts.1 parts.2).bind (·.assigned size)) = some range ↔
    ∃ spec, RangeSpec.Denotes WordNumber header spec ∧ spec.assigned size = some range := by
  simp only [Option.bind_eq_some_iff, denotes_iff]
  constructor
  · rintro ⟨⟨left, right⟩, parts, spec, read, assigned⟩
    exact ⟨spec, ⟨left, right, parts, read⟩, assigned⟩
  · rintro ⟨spec, ⟨left, right, parts, read⟩, assigned⟩
    exact ⟨(left, right), parts, spec, read, assigned⟩

end Reading

section Acceptance

theorem Stream.parseRange_denotes (header : Bytes) (size : Nat) (range : Nat × Nat) :
    Stream.parseRange header size = some range ↔
      ∃ spec, RangeSpec.Denotes WordNumber header spec ∧ spec.assigned size = some range := by
  rw [Stream.parseRange_eq]
  exact bind_assigned_iff header size range

theorem Stream.parseRange_inside {header : Bytes} {size start last : Nat}
    (parsed : Stream.parseRange header size = some (start, last)) : start ≤ last ∧ last < size := by
  obtain ⟨spec, _, assigned⟩ := (Stream.parseRange_denotes header size (start, last)).mp parsed
  exact RangeSpec.assigned_inside assigned

theorem Stream.parseRange_some_iff (header : Bytes) (size start last : Nat) :
    (Stream.parseRange header size = some (start, last) ↔
      ∃ spec, RangeSpec.Denotes WordNumber header spec ∧ spec.assigned size = some (start, last)) ∧
    (Stream.parseRange header size = some (start, last) → start ≤ last ∧ last < size) := by
  constructor
  · exact Stream.parseRange_denotes header size (start, last)
  · exact Stream.parseRange_inside

theorem not_denotes_plus (spec : RangeSpec) :
    ¬ RangeSpec.Denotes DecimalNumber (utf8 "bytes=+0-+5") spec := by
  rintro ⟨text, joined, spelled⟩
  have whole : utf8 "bytes=" ++ utf8 "+0-+5" = utf8 "bytes=" ++ text := by
    rw [← joined]
    decide
  have rest : utf8 "+0-+5" = text := List.append_cancel_left whole
  have digits := spelled.byte (isAsciiDigit · = true) (fun _ _ number => number.2.1)
  rw [← rest] at digits
  exact absurd (digits 43 (by decide)) (by decide)

-- Digits alone are too narrow for a plus sign, and too wide for a number that no word holds.
theorem Stream.parseRange_not_decimal :
    ¬ (Stream.parseRange (utf8 "bytes=+0-+5") 10 = some (0, 5) ↔
      ∃ spec, RangeSpec.Denotes DecimalNumber (utf8 "bytes=+0-+5") spec ∧
        spec.assigned 10 = some (0, 5)) ∧
    ¬ (Stream.parseRange (utf8 "bytes=0-18446744073709551616") 10 = some (0, 9) ↔
      ∃ spec, RangeSpec.Denotes DecimalNumber (utf8 "bytes=0-18446744073709551616") spec ∧
        spec.assigned 10 = some (0, 9)) := by
  constructor
  · intro same
    obtain ⟨spec, denoted, _⟩ := same.mp (by decide)
    exact not_denotes_plus spec denoted
  · intro same
    have first : DecimalNumber (utf8 "0") 0 := (parseDigits_some_iff _ _).mp (by decide)
    have last : DecimalNumber (utf8 "18446744073709551616") 18446744073709551616 :=
      (parseDigits_some_iff _ _).mp (by decide)
    have parsed := same.mpr ⟨.closed 0 18446744073709551616,
      ⟨utf8 "0-18446744073709551616", by decide, RangeSpec.Spells.closed first last⟩, by decide⟩
    exact absurd parsed (by decide)

end Acceptance

end StreamServer.Routes

namespace StreamServer.Routes.Stream

structure ResponseHead where
  status : Nat
  contentLength : Option Nat
  contentRange : Option Bytes
deriving DecidableEq, Repr

def refusal (status : Nat) : ResponseHead := ⟨status, none, none⟩

/-- What the engines say of the file while a request for it is served. -/
structure StreamFile where
  size : Nat
  -- Where the disk has no room, the file as the memory engine lists it, or the status of its refusal.
  fallback : Option (Except Nat Nat)
  -- The size that the opened file reports, if `get_file_with_intent` opens it.
  opened : Option Nat
  seeks : Bool

/-- Every engine that lists or opens the file gives it one size. -/
structure StreamFile.Same (file : StreamFile) : Prop where
  fallback : ∀ size, file.fallback = some (.ok size) → size = file.size
  opened : ∀ size, file.opened = some size → size = file.size

/-- The first and the last byte of the answer, and whether it is a part of the file. -/
def requestedRange (range : Option Bytes) (size : Nat) : Option (Nat × Nat × Bool) :=
  match range.bind headerText with
  | some header => (parseRange header size).map fun (start, last) => (start, last, true)
  | none => some (0, size - 1, false)

def responseHead (contentLength size : Nat) : Nat × Nat × Bool → ResponseHead
  | (start, last, isPartial) =>
      { status := if isPartial then 206 else 200
        contentLength := some contentLength
        contentRange := if isPartial then some (contentRangeText start last size) else none }

def headStreamVideo (size : Nat) (range : Option Bytes) : ResponseHead :=
  match requestedRange range size with
  | none => refusal 416
  | some (start, last, isPartial) => responseHead (last - start + 1) size (start, last, isPartial)

def serve (file : StreamFile) (size : Nat) : Nat × Nat × Bool → ResponseHead
  | (start, last, isPartial) =>
      let requestedContentLength := if size = 0 then 0 else last - start + 1
      match file.opened with
      | none => refusal 500
      | some size =>
          if start ≥ size then refusal 416
          else if start > 0 ∧ file.seeks = false then refusal 500
          else responseHead requestedContentLength size (start, last, isPartial)

def streamVideo (file : StreamFile) (range : Option Bytes) : ResponseHead :=
  match requestedRange range file.size with
  | none => refusal 416
  | some requested =>
      match file.fallback with
      | none => serve file file.size requested
      | some (.error status) => refusal status
      | some (.ok size) =>
          -- The memory engine lists its own files, and the range is worked out again.
          match requestedRange range size with
          | none => refusal 416
          | some requested => serve file size requested

structure StreamFile.Reaches (file : StreamFile) (start : Nat) : Prop where
  fallback : ∀ status, file.fallback ≠ some (.error status)
  opened : file.opened ≠ none
  seeks : start = 0 ∨ file.seeks = true

def StreamFile.Delivers (file : StreamFile) (range : Option Bytes) : Prop :=
  ∀ start last isPartial, requestedRange range file.size = some (start, last, isPartial) →
    0 < file.size ∧ file.Reaches start

theorem requestedRange_inside {range : Option Bytes} {size start last : Nat} {isPartial : Bool}
    (requested : requestedRange range size = some (start, last, isPartial)) (positive : 0 < size) :
    start < size := by
  unfold requestedRange at requested
  split at requested
  next header _ =>
    obtain ⟨⟨first, final⟩, parsed, paired⟩ := Option.map_eq_some_iff.mp requested
    cases paired
    have inside := parseRange_inside parsed
    omega
  next =>
    cases requested
    exact positive

theorem serve_same {file : StreamFile} {start last : Nat} {isPartial : Bool} (same : file.Same)
    (inside : start < file.size) (opened : file.opened ≠ none)
    (seeks : start = 0 ∨ file.seeks = true) :
    serve file file.size (start, last, isPartial) =
      responseHead (last - start + 1) file.size (start, last, isPartial) := by
  obtain ⟨size, found⟩ := Option.ne_none_iff_exists'.mp opened
  obtain rfl := same.opened size found
  have sought : ¬ (start > 0 ∧ file.seeks = false) := by
    rintro ⟨later, stuck⟩
    rcases seeks with first | reached
    · omega
    · rw [stuck] at reached
      cases reached
  unfold serve
  rw [found]
  simp only
  rw [if_neg (by omega), if_neg sought, if_neg (by omega)]

theorem serve_contentLength {file : StreamFile} {start last length : Nat} {isPartial : Bool}
    (same : file.Same)
    (served : (serve file file.size (start, last, isPartial)).contentLength = some length) :
    0 < file.size ∧ file.opened ≠ none ∧ (start = 0 ∨ file.seeks = true) := by
  unfold serve at served
  cases found : file.opened with
  | none =>
    rw [found] at served
    cases served
  | some size =>
    obtain rfl := same.opened size found
    rw [found] at served
    simp only at served
    split at served
    next => cases served
    next inside =>
      split at served
      next => cases served
      next sought =>
        refine ⟨by omega, by simp, ?_⟩
        rw [not_and_or, Bool.not_eq_false] at sought
        exact sought.imp_left (by omega)

theorem streamVideo_same {file : StreamFile} {range : Option Bytes} {requested : Nat × Nat × Bool}
    (same : file.Same) (planned : requestedRange range file.size = some requested)
    (accepted : ∀ status, file.fallback ≠ some (.error status)) :
    streamVideo file range = serve file file.size requested := by
  unfold streamVideo
  rw [planned]
  cases fallback : file.fallback with
  | none => rfl
  | some outcome =>
    cases outcome with
    | error status => exact absurd fallback (accepted status)
    | ok size =>
      obtain rfl := same.fallback size fallback
      simp only [planned]

theorem headStreamVideo_eq_iff (file : StreamFile) (range : Option Bytes) (same : file.Same) :
    headStreamVideo file.size range = streamVideo file range ↔ file.Delivers range := by
  cases planned : requestedRange range file.size with
  | none =>
    have refused : streamVideo file range = refusal 416 := by simp only [streamVideo, planned]
    have heads : headStreamVideo file.size range = refusal 416 := by
      simp only [headStreamVideo, planned]
    refine ⟨fun _ start last isPartial found => ?_, fun _ => heads.trans refused.symm⟩
    rw [planned] at found
    cases found
  | some requested =>
    obtain ⟨start, last, isPartial⟩ := requested
    have heads : headStreamVideo file.size range =
        responseHead (last - start + 1) file.size (start, last, isPartial) := by
      simp only [headStreamVideo, planned]
    rw [heads]
    constructor
    · intro agree start' last' isPartial' found
      rw [planned] at found
      cases found
      have accepted : ∀ status, file.fallback ≠ some (.error status) := by
        intro status failed
        simp only [streamVideo, planned, failed] at agree
        cases congrArg ResponseHead.contentLength agree
      rw [streamVideo_same same planned accepted] at agree
      have served := serve_contentLength same (congrArg ResponseHead.contentLength agree).symm
      exact ⟨served.1, accepted, served.2.1, served.2.2⟩
    · intro delivers
      obtain ⟨positive, reaches⟩ := delivers start last isPartial planned
      rw [streamVideo_same same planned reaches.fallback]
      exact (serve_same same (requestedRange_inside planned positive) reaches.opened
        reaches.seeks).symm

def sameFile (size : Nat) : StreamFile := ⟨size, none, some size, true⟩

theorem sameFile_same (size : Nat) : (sameFile size).Same :=
  ⟨by simp [sameFile], by simp [sameFile]⟩

theorem headStreamVideo_eq_iff_ten :
    headStreamVideo 10 none = streamVideo (sameFile 10) none ↔ (sameFile 10).Delivers none :=
  headStreamVideo_eq_iff (sameFile 10) none (sameFile_same 10)

-- Asked about an empty file, one handler promises a byte and the other refuses.
theorem headStreamVideo_empty :
    headStreamVideo 0 none = ⟨200, some 1, none⟩ ∧
      streamVideo (sameFile 0) none = ⟨416, none, none⟩ ∧
      headStreamVideo (sameFile 0).size none ≠ streamVideo (sameFile 0) none := by
  decide

end StreamServer.Routes.Stream
