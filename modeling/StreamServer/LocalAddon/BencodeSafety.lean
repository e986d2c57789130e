import StreamServer.LocalAddon.BencodeGrammar
import StreamServer.LocalAddon.InfoHash

set_option autoImplicit false

namespace StreamServer.LocalAddon

open ByteText Checked Decimals Results

section CheckedParser

def orPanic {A : Type} : Checked A → Except Failure A
  | .ok value => .ok value
  | .error _ => .error .panicked

@[simp]
theorem orPanic_ok {A : Type} (value : A) : orPanic (.ok value) = .ok value := rfl

/-- The parser once more, with every sum, every index and every slice of the source checked. -/
def checkedInt (bytes : Bytes) : Except Failure (BValue × Nat) := do
  let stop ← orError (bytes.findIdx? (· = 101))
  let body ← orPanic (Checked.slice bytes 1 stop)
  let text ← orError (fromUtf8 body)
  let value ← orError (parseI64 text)
  let consumed ← orPanic (add usizeLimit stop 1)
  .ok (.int value, consumed)

def checkedStr (bytes : Bytes) : Except Failure (BValue × Nat) := do
  let colon ← orError (bytes.findIdx? (· = 58))
  let header ← orPanic (Checked.slice bytes 0 colon)
  let text ← orError (fromUtf8 header)
  let length ← orError (parseU64 text)
  let start ← orPanic (add usizeLimit colon 1)
  let stop ← orPanic (add usizeLimit start length)
  if bytes.length < stop then .error .error
  else do
    let content ← orPanic (Checked.slice bytes start stop)
    .ok (.str content, stop)

mutual

def checkedValue : Nat → Bytes → Except Failure (BValue × Nat)
  | 0, _ => .error .outOfFuel
  | _ + 1, [] => .error .error
  | fuel + 1, first :: rest =>
      if first = 105 then checkedInt (first :: rest)
      else if first = 108 then do
        let (values, length) ← checkedItems fuel (first :: rest) [] 1
        .ok (.list values, length)
      else if first = 100 then do
        let (entries, length) ← checkedEntries fuel (first :: rest) [] 1
        .ok (.dict entries, length)
      else if isAsciiDigit first then checkedStr (first :: rest)
      else .error .error

def checkedItems : Nat → Bytes → List BValue → Nat → Except Failure (List BValue × Nat)
  | 0, _, _, _ => .error .outOfFuel
  | fuel + 1, bytes, list, offset =>
      if bytes.length ≤ offset then .error .error
      else do
        let byte ← orPanic (Checked.get bytes offset)
        if byte = 101 then do
          let stop ← orPanic (add usizeLimit offset 1)
          .ok (list, stop)
        else do
          let remaining ← orPanic (sliceFrom bytes offset)
          let (value, length) ← checkedValue fuel remaining
          let next ← orPanic (add usizeLimit offset length)
          checkedItems fuel bytes (list ++ [value]) next

def checkedEntries :
    Nat → Bytes → List (Bytes × BValue) → Nat → Except Failure (List (Bytes × BValue) × Nat)
  | 0, _, _, _ => .error .outOfFuel
  | fuel + 1, bytes, map, offset =>
      if bytes.length ≤ offset then .error .error
      else do
        let byte ← orPanic (Checked.get bytes offset)
        if byte = 101 then do
          let stop ← orPanic (add usizeLimit offset 1)
          .ok (map, stop)
        else do
          let remaining ← orPanic (sliceFrom bytes offset)
          let (keyValue, keyLength) ← checkedValue fuel remaining
          let afterKey ← orPanic (add usizeLimit offset keyLength)
          let key ← orError keyValue.asBytes
          let remaining ← orPanic (sliceFrom bytes afterKey)
          let (value, valueLength) ← checkedValue fuel remaining
          let next ← orPanic (add usizeLimit afterKey valueLength)
          checkedEntries fuel bytes (insertKey key value map) next

end

def checkedBencode (bytes : Bytes) : Except Failure (BValue × Nat) :=
  checkedValue (2 * bytes.length + 1) bytes

def checkedInfoBytes (bytes : Bytes) : Except Failure Bytes := do
  let position ← orError ((windows infoPattern.length bytes).findIdx? (· = infoPattern))
  let start ← orPanic (add usizeLimit position infoPattern.length)
  let remaining ← orPanic (sliceFrom bytes start)
  let (_, length) ← checkedBencode remaining
  let stop ← orPanic (add usizeLimit start length)
  orPanic (Checked.slice bytes start stop)

/-- The digest counts the bits of its input in a 64-bit word. -/
def checkedHash (data : Bytes) : Except Failure Bytes := do
  let _ ← orPanic (mul u64Limit data.length 8)
  .ok (sha1Str data)

def checkedTorrent (bytes : Bytes) : Except TorrentFailure Torrent := do
  let (root, _) ← orMessage "Invalid bencode" (checkedBencode bytes)
  let dict ← orMessage "Root not a dict" (orError root.getDict)
  let info ← orMessage "Missing info dict" (orError (lookupKey infoKey dict))
  let infoBytes ← orMessage "Could not extract info bytes" (checkedInfoBytes bytes)
  let infoHash ← orMessage "" (checkedHash infoBytes)
  let infoDict ← orMessage "Info not a dict" (orError info.getDict)
  let name := (lookupKey (utf8 "name") infoDict).bind BValue.asStr
  .ok ⟨infoHash, torrentFiles infoDict name, name⟩

end CheckedParser

section Refinement

theorem checkedInt_eq {rest : Bytes} (fits : (105 :: rest : Bytes).length < sliceLimit) :
    checkedInt (105 :: rest) = parseInt (105 :: rest) := by
  unfold checkedInt parseInt
  refine bind_congr rfl ?_
  intro stop found
  obtain ⟨inside, isEnd, _⟩ := List.findIdx?_eq_some_iff_getElem.mp (orError_ok found)
  have positive : 1 ≤ stop := by
    cases stop with
    | zero => simp at isEnd
    | succ stop => omega
  have room := sliceLimit_room
  rw [slice_ok positive (Nat.le_of_lt inside), add_ok (by omega), ← List.drop_take]
  rfl

theorem checkedStr_eq {bytes : Bytes} (fits : bytes.length < sliceLimit) :
    checkedStr bytes = parseStr bytes := by
  unfold checkedStr parseStr
  refine bind_congr rfl ?_
  intro colon found
  have inside := (List.findIdx?_eq_some_iff_getElem.mp (orError_ok found)).1
  have room := sliceLimit_room
  rw [slice_ok (Nat.zero_le _) (Nat.le_of_lt inside), ← List.drop_take, add_ok (by omega)]
  simp only [orPanic_ok, ok_bind]
  refine bind_congr rfl ?_
  intro text _
  refine bind_congr rfl ?_
  intro length _
  have sameLimit : usizeLimit = u64Limit := rfl
  unfold Checked.add
  rw [sameLimit]
  by_cases small : colon + 1 + length < u64Limit
  · rw [if_pos small, if_neg (Nat.not_le.mpr small)]
    simp only [orPanic_ok, ok_bind]
    split
    next => rfl
    next covered =>
      rw [slice_ok (by omega) (by omega), ← List.drop_take]
      rfl
  · rw [if_neg small, if_pos (Nat.not_lt.mp small)]
    rfl

theorem get_of_present {bytes : Bytes} {offset : Nat} {byte : UInt8}
    (present : bytes[offset]? = some byte) : Checked.get bytes offset = .ok byte := by
  rw [Checked.get, present]

theorem parseItems_more {fuel : Nat} {bytes : Bytes} {list : List BValue} {offset : Nat}
    {byte : UInt8} (present : bytes[offset]? = some byte) (more : byte ≠ 101) :
    parseItems (fuel + 1) bytes list offset = (do
      let (value, length) ← parseValue fuel (bytes.drop offset)
      parseItems fuel bytes (list ++ [value]) (offset + length)) := by
  rw [parseItems, present]
  split
  next absent => cases absent
  next ended => exact absurd (Option.some.inj ended) more
  next => rfl

theorem parseEntries_more {fuel : Nat} {bytes : Bytes} {map : List (Bytes × BValue)} {offset : Nat}
    {byte : UInt8} (present : bytes[offset]? = some byte) (more : byte ≠ 101) :
    parseEntries (fuel + 1) bytes map offset = (do
      let (keyValue, keyLength) ← parseValue fuel (bytes.drop offset)
      let key ← orError keyValue.asBytes
      let (value, valueLength) ← parseValue fuel (bytes.drop (offset + keyLength))
      parseEntries fuel bytes (insertKey key value map) (offset + keyLength + valueLength)) := by
  rw [parseEntries, present]
  split
  next absent => cases absent
  next ended => exact absurd (Option.some.inj ended) more
  next => rfl

/-- On an input that fits in memory only the length of a byte string can end the parser early. -/
def CheckedAgrees (fuel : Nat) : Prop :=
  (∀ bytes, bytes.length < sliceLimit → checkedValue fuel bytes = parseValue fuel bytes) ∧
  (∀ bytes list offset, bytes.length < sliceLimit →
    checkedItems fuel bytes list offset = parseItems fuel bytes list offset) ∧
  (∀ bytes map offset, bytes.length < sliceLimit →
    checkedEntries fuel bytes map offset = parseEntries fuel bytes map offset)

theorem checkedAgrees (fuel : Nat) : CheckedAgrees fuel := by
  have room := sliceLimit_room
  induction fuel with
  | zero => exact ⟨fun _ _ => rfl, fun _ _ _ _ => rfl, fun _ _ _ _ => rfl⟩
  | succ fuel ih =>
    obtain ⟨ofValue, ofItems, ofEntries⟩ := ih
    refine ⟨?_, ?_, ?_⟩
    · intro bytes fits
      cases bytes with
      | nil => rfl
      | cons first rest =>
        rw [checkedValue, parseValue, ofItems _ _ _ fits, ofEntries _ _ _ fits, checkedStr_eq fits]
        split
        next isInt =>
          subst isInt
          exact checkedInt_eq fits
        next => rfl
    · intro bytes list offset fits
      rw [checkedItems]
      cases present : bytes[offset]? with
      | none => rw [if_pos (List.getElem?_eq_none_iff.mp present), parseItems, present]
      | some byte =>
        have inside := (List.getElem?_eq_some_iff.mp present).1
        rw [if_neg (by omega), get_of_present present]
        simp only [orPanic_ok, ok_bind]
        by_cases isEnd : byte = 101
        · subst isEnd
          rw [if_pos rfl, add_ok (by omega), parseItems, present]
          rfl
        · rw [if_neg isEnd, sliceFrom_ok (by omega), parseItems_more present isEnd]
          simp only [orPanic_ok, ok_bind]
          refine bind_congr (ofValue _ (length_drop_lt fits _)) ?_
          rintro ⟨value, length⟩ parsed
          have consumed := (consumesInput _).1 _ _ _ parsed
          rw [List.length_drop] at consumed
          simp only
          rw [add_ok (by omega)]
          exact ofItems _ _ _ fits
    · intro bytes map offset fits
      rw [checkedEntries]
      cases present : bytes[offset]? with
      | none => rw [if_pos (List.getElem?_eq_none_iff.mp present), parseEntries, present]
      | some byte =>
        have inside := (List.getElem?_eq_some_iff.mp present).1
        rw [if_neg (by omega), get_of_present present]
        simp only [orPanic_ok, ok_bind]
        by_cases isEnd : byte = 101
        · subst isEnd
          rw [if_pos rfl, add_ok (by omega), parseEntries, present]
          rfl
        · rw [if_neg isEnd, sliceFrom_ok (by omega), parseEntries_more present isEnd]
          simp only [orPanic_ok, ok_bind]
          refine bind_congr (ofValue _ (length_drop_lt fits _)) ?_
          rintro ⟨keyValue, keyLength⟩ keyParsed
          have keyConsumed := (consumesInput _).1 _ _ _ keyParsed
          rw [List.length_drop] at keyConsumed
          simp only
          rw [add_ok (by omega)]
          simp only [orPanic_ok, ok_bind]
          refine bind_congr rfl ?_
          intro key _
          rw [sliceFrom_ok (by omega)]
          simp only [orPanic_ok, ok_bind]
          refine bind_congr (ofValue _ (length_drop_lt fits _)) ?_
          rintro ⟨value, valueLength⟩ valueParsed
          have valueConsumed := (consumesInput _).1 _ _ _ valueParsed
          rw [List.length_drop] at valueConsumed
          simp only
          rw [add_ok (by omega)]
          exact ofEntries _ _ _ fits

theorem checkedBencode_eq {bytes : Bytes} (fits : bytes.length < sliceLimit) :
    checkedBencode bytes = parseBencode bytes :=
  (checkedAgrees _).1 bytes fits

theorem checkedValue_enough {bytes : Bytes} {fuel : Nat} (fits : bytes.length < sliceLimit)
    (enough : 2 * bytes.length + 1 ≤ fuel) : checkedValue fuel bytes = checkedBencode bytes := by
  rw [(checkedAgrees fuel).1 bytes fits, parseValue_enough enough, checkedBencode_eq fits]

theorem checkedInfoBytes_eq {bytes : Bytes} (fits : bytes.length < sliceLimit) :
    checkedInfoBytes bytes = extractInfoBytes bytes := by
  have room := sliceLimit_room
  unfold checkedInfoBytes extractInfoBytes extractInfoSpan
  cases found : (windows infoPattern.length bytes).findIdx? (· = infoPattern) with
  | none => rfl
  | some position =>
    have occurs := ((windows_findIdx?_eq_some_iff (by decide)).mp found).1
    have inside := occurs.inside (by decide)
    simp only [orError, ok_bind]
    rw [add_ok (by omega)]
    simp only [orPanic_ok, ok_bind]
    rw [sliceFrom_ok inside]
    simp only [orPanic_ok, ok_bind]
    rw [checkedBencode_eq (length_drop_lt fits _)]
    cases parsed : parseBencode (bytes.drop (position + infoPattern.length)) with
    | error failure => rfl
    | ok result =>
      obtain ⟨value, length⟩ := result
      have consumed := (parseBencode_consumed parsed).2
      rw [List.length_drop] at consumed
      simp only [ok_bind]
      rw [add_ok (by omega)]
      simp only [orPanic_ok, ok_bind]
      rw [slice_ok (by omega) (by omega), ← List.drop_take]
      rfl

end Refinement

section Overflow

mutual

inductive Overflows : Bytes → Prop where
  | header {text rest : Bytes} {size : Nat}
      (starts : ∃ digit ∈ text.head?, isAsciiDigit digit = true) (sized : parseU64 text = some size)
      (large : u64Limit ≤ text.length + 1 + size) : Overflows (text ++ 58 :: rest)
  | list {items : Bytes} (inside : OverflowsItems items) : Overflows (108 :: items)
  | dict {items : Bytes} (inside : OverflowsEntries items) : Overflows (100 :: items)

inductive OverflowsItems : Bytes → Prop where
  | here {bytes : Bytes} (first : Overflows bytes) : OverflowsItems bytes
  | later {bytes : Bytes} {value : BValue} {length : Nat} (first : Reads bytes value length)
      (rest : OverflowsItems (bytes.drop length)) : OverflowsItems bytes

inductive OverflowsEntries : Bytes → Prop where
  | key {bytes : Bytes} (first : Overflows bytes) : OverflowsEntries bytes
  | value {bytes key : Bytes} {keyLength : Nat} (keyed : Reads bytes (.str key) keyLength)
      (second : Overflows (bytes.drop keyLength)) : OverflowsEntries bytes
  | later {bytes key : Bytes} {value : BValue} {keyLength valueLength : Nat}
      (keyed : Reads bytes (.str key) keyLength)
      (valued : Reads (bytes.drop keyLength) value valueLength)
      (rest : OverflowsEntries (bytes.drop (keyLength + valueLength))) : OverflowsEntries bytes

end

theorem overflows_of_parseStr {first : UInt8} {rest : Bytes} (digit : isAsciiDigit first = true)
    (panicked : parseStr (first :: rest) = .error .panicked) : Overflows (first :: rest) := by
  rcases bind_error panicked with stopped | ⟨colon, found, panicked⟩
  · cases orError_failed stopped
  rcases bind_error panicked with stopped | ⟨text, decoded, panicked⟩
  · cases orError_failed stopped
  rcases bind_error panicked with stopped | ⟨size, sized, panicked⟩
  · cases orError_failed stopped
  obtain ⟨inside, isColon, _⟩ := List.findIdx?_eq_some_iff_getElem.mp (orError_ok found)
  have textBytes : text = (first :: rest).take colon := by
    have kept := orError_ok decoded
    unfold fromUtf8 at kept
    split at kept
    next => exact (Option.some.inj kept).symm
    next => cases kept
  have textLength : text.length = colon := by
    rw [textBytes, List.length_take]
    omega
  have large : u64Limit ≤ text.length + 1 + size := by
    simp only at panicked
    split at panicked
    next large => rwa [textLength]
    next =>
      split at panicked
      next => cases panicked
      next => cases panicked
  have colonByte : (first :: rest)[colon] = 58 := by simpa using isColon
  have split : first :: rest = text ++ 58 :: (first :: rest).drop (colon + 1) := by
    rw [textBytes, ← colonByte, ← List.drop_eq_getElem_cons inside, List.take_append_drop]
  rw [split]
  refine .header ?_ (orError_ok sized) large
  cases text with
  | nil =>
    cases (List.cons.inj split).1
    cases digit
  | cons byte later =>
    cases (List.cons.inj split).1
    exact ⟨first, rfl, digit⟩

def PanicsBacked (fuel : Nat) : Prop :=
  (∀ bytes, parseValue fuel bytes = .error .panicked → Overflows bytes) ∧
  (∀ bytes list offset, parseItems fuel bytes list offset = .error .panicked →
    OverflowsItems (bytes.drop offset)) ∧
  (∀ bytes map offset, parseEntries fuel bytes map offset = .error .panicked →
    OverflowsEntries (bytes.drop offset))

theorem panicsBacked (fuel : Nat) : PanicsBacked fuel := by
  induction fuel with
  | zero =>
    refine ⟨?_, ?_, ?_⟩
    · intro bytes panicked
      cases panicked
    · intro bytes list offset panicked
      cases panicked
    · intro bytes map offset panicked
      cases panicked
  | succ fuel ih =>
    obtain ⟨ofValue, ofItems, ofEntries⟩ := ih
    refine ⟨?_, ?_, ?_⟩
    · intro bytes panicked
      cases bytes with
      | nil => cases panicked
      | cons first rest =>
        simp only [parseValue] at panicked
        split at panicked
        next => cases parseInt_failed panicked
        split at panicked
        next isList =>
          subst isList
          rcases bind_error panicked with looped | ⟨result, _, panicked⟩
          · exact .list (ofItems _ _ _ looped)
          · cases panicked
        split at panicked
        next isDict =>
          subst isDict
          rcases bind_error panicked with looped | ⟨result, _, panicked⟩
          · exact .dict (ofEntries _ _ _ looped)
          · cases panicked
        split at panicked
        next digit => exact overflows_of_parseStr digit panicked
        next => cases panicked
    · intro bytes list offset panicked
      simp only [parseItems] at panicked
      split at panicked
      next => cases panicked
      next => cases panicked
      next =>
        rcases bind_error panicked with stopped | ⟨⟨value, length⟩, parsed, panicked⟩
        · exact .here (ofValue _ stopped)
        · have later := ofItems _ _ _ panicked
          rw [← List.drop_drop] at later
          exact .later ((readsOk fuel).1 _ _ _ parsed) later
    · intro bytes map offset panicked
      simp only [parseEntries] at panicked
      split at panicked
      next => cases panicked
      next => cases panicked
      next =>
        rcases bind_error panicked with stopped | ⟨⟨keyValue, keyLength⟩, keyParsed, panicked⟩
        · exact .key (ofValue _ stopped)
        rcases bind_error panicked with stopped | ⟨key, isKey, panicked⟩
        · cases orError_failed stopped
        have keyed := (readsOk fuel).1 _ _ _ keyParsed
        have isKey := orError_ok isKey
        cases keyValue with
        | int | list | dict => cases isKey
        | str content =>
          cases isKey
          rcases bind_error panicked with stopped | ⟨⟨value, valueLength⟩, parsed, panicked⟩
          · have second := ofValue _ stopped
            rw [← List.drop_drop] at second
            exact .value keyed second
          · have valued := (readsOk fuel).1 _ _ _ parsed
            have later := ofEntries _ _ _ panicked
            rw [← List.drop_drop] at valued
            rw [Nat.add_assoc, ← List.drop_drop] at later
            exact .later keyed valued later

theorem Overflows.first_ne {bytes : Bytes} (overflows : Overflows bytes) :
    ∃ first, bytes.head? = some first ∧ first ≠ 101 := by
  cases overflows with
  | list | dict => exact ⟨_, rfl, by decide⟩
  | header starts =>
    obtain ⟨digit, first, isDigit⟩ := starts
    refine ⟨digit, ?_, ?_⟩
    · rw [List.head?_append, Option.mem_def.mp first]
      rfl
    · rintro rfl
      cases isDigit

theorem OverflowsItems.started {bytes : Bytes} (overflows : OverflowsItems bytes) :
    ∃ first, bytes.head? = some first ∧ first ≠ 101 := by
  cases overflows with
  | here first => exact first.first_ne
  | later first _ => exact first.first_ne

theorem OverflowsEntries.started {bytes : Bytes} (overflows : OverflowsEntries bytes) :
    ∃ first, bytes.head? = some first ∧ first ≠ 101 := by
  cases overflows with
  | key first => exact first.first_ne
  | value keyed _ => exact keyed.first_ne
  | later keyed _ _ => exact keyed.first_ne

theorem length_pos_of_started {bytes : Bytes}
    (started : ∃ first, bytes.head? = some first ∧ first ≠ 101) : 0 < bytes.length := by
  obtain ⟨first, present, _⟩ := started
  obtain ⟨rest, rfl⟩ := List.head?_eq_some_iff.mp present
  exact Nat.succ_pos _

def LoopsPanic (bound : Nat) : Prop :=
  (∀ bytes list offset, OverflowsItems (bytes.drop offset) → (bytes.drop offset).length ≤ bound →
    bytes.length < u64Limit → listLoop bytes list offset = .error .panicked) ∧
  (∀ bytes map offset, OverflowsEntries (bytes.drop offset) → (bytes.drop offset).length ≤ bound →
    bytes.length < u64Limit → dictLoop bytes map offset = .error .panicked)

theorem LoopsPanic.value {bound : Nat} (loops : LoopsPanic bound) {bytes : Bytes}
    (overflows : Overflows bytes) (short : bytes.length ≤ bound + 1) (fits : bytes.length < u64Limit) :
    parseBencode bytes = .error .panicked := by
  cases overflows with
  | header starts sized large =>
    rw [parseBencode_of_digit starts, parseStr_of_header sized, if_pos large]
  | @list items inside =>
    rw [parseBencode_cons, if_neg (by decide), if_pos rfl,
      loops.1 (108 :: items) [] 1 inside (by simpa using short) fits]
    rfl
  | @dict items inside =>
    rw [parseBencode_cons, if_neg (by decide), if_neg (by decide), if_pos rfl,
      loops.2 (100 :: items) [] 1 inside (by simpa using short) fits]
    rfl

theorem loopsPanic (bound : Nat) : LoopsPanic bound := by
  induction bound with
  | zero =>
    refine ⟨?_, ?_⟩
    · intro bytes list offset overflows short
      have := length_pos_of_started overflows.started
      omega
    · intro bytes map offset overflows short
      have := length_pos_of_started overflows.started
      omega
  | succ bound ih =>
    refine ⟨?_, ?_⟩
    · intro bytes list offset overflows short fits
      rw [listLoop_more overflows.started]
      generalize starting : bytes.drop offset = items at overflows
      cases overflows with
      | here first =>
        subst starting
        rw [ih.value first short (length_drop_lt fits _)]
        rfl
      | @later _ value length first rest =>
        subst starting
        have consumed := first.positive
        rw [List.drop_drop] at rest
        rw [List.length_drop] at short
        rw [(parseBencode_ok_iff (length_drop_lt fits _) _ _).mpr first]
        refine ih.1 bytes _ _ rest ?_ fits
        rw [List.length_drop]
        omega
    · intro bytes map offset overflows short fits
      rw [dictLoop_more overflows.started]
      generalize starting : bytes.drop offset = items at overflows
      cases overflows with
      | key first =>
        subst starting
        rw [ih.value first short (length_drop_lt fits _)]
        rfl
      | @value _ key keyLength keyed second =>
        subst starting
        have consumed := keyed.positive
        rw [List.drop_drop] at second
        rw [List.length_drop] at short
        have panicked := ih.value second (by rw [List.length_drop]; omega) (length_drop_lt fits _)
        rw [(parseBencode_ok_iff (length_drop_lt fits _) _ _).mpr keyed]
        simp only [ok_bind, BValue.asBytes, orError]
        rw [panicked]
        rfl
      | @later _ key value keyLength valueLength keyed valued rest =>
        subst starting
        have consumed := keyed.positive
        rw [List.drop_drop] at valued rest
        rw [List.length_drop] at short
        rw [(parseBencode_ok_iff (length_drop_lt fits _) _ _).mpr keyed]
        simp only [ok_bind, BValue.asBytes, orError]
        rw [(parseBencode_ok_iff (length_drop_lt fits _) _ _).mpr valued]
        simp only [ok_bind]
        rw [Nat.add_assoc]
        refine ih.2 bytes _ _ rest ?_ fits
        rw [List.length_drop]
        omega

theorem parseBencode_panicked_iff {bytes : Bytes} (fits : bytes.length < u64Limit) :
    parseBencode bytes = .error .panicked ↔ Overflows bytes :=
  ⟨(panicsBacked _).1 bytes, fun overflows =>
    (loopsPanic bytes.length).value overflows (Nat.le_succ _) fits⟩

end Overflow

section Safety

/-- The value after the first place where the text of an `info` key stands. -/
def InfoStart (bytes : Bytes) (start : Nat) : Prop :=
  ∃ position, start = position + infoPattern.length ∧ OccursAt infoPattern bytes position ∧
    ∀ earlier < position, ¬ OccursAt infoPattern bytes earlier

def HoldsInfo (bytes : Bytes) : Prop :=
  ∃ entries length info, Reads bytes (.dict entries) length ∧ lookupKey infoKey entries = some info

structure ParsesSafely (bytes : Bytes) : Prop where
  bencodeEnds : checkedBencode bytes ≠ .error .outOfFuel
  torrentEnds : checkedTorrent bytes ≠ .error .outOfFuel
  bencode : checkedBencode bytes ≠ .error .panicked
  torrent : checkedTorrent bytes ≠ .error .panicked
  settled : ∀ fuel, 2 * bytes.length + 1 ≤ fuel → checkedValue fuel bytes = checkedBencode bytes
  consumed : ∀ value length, checkedBencode bytes = .ok (value, length) → length ≤ bytes.length

/-- The second part is about the bytes that are hashed, which are counted in bits. -/
def LengthsFit (bytes : Bytes) : Prop :=
  ¬ Overflows bytes ∧ (HoldsInfo bytes → ∀ start, InfoStart bytes start →
    ¬ Overflows (bytes.drop start) ∧
      ∀ value length, Reads (bytes.drop start) value length → length * 8 < u64Limit)

theorem orMessage_panicked_iff {A : Type} {message : String} {result : Except Failure A} :
    orMessage message result = .error .panicked ↔ result = .error .panicked := by
  cases result with
  | ok value => exact ⟨fun same => (nomatch same), fun same => (nomatch same)⟩
  | error failure =>
    cases failure with
    | error | outOfFuel => exact ⟨fun same => (nomatch same), fun same => (nomatch same)⟩
    | panicked => exact ⟨fun _ => rfl, fun _ => rfl⟩

theorem orMessage_outOfFuel {A : Type} {message : String} {result : Except Failure A}
    (failed : orMessage message result = .error .outOfFuel) : result = .error .outOfFuel := by
  cases result with
  | ok value => cases failed
  | error failure =>
    cases failure with
    | error | panicked => cases failed
    | outOfFuel => rfl

theorem infoStart_iff {bytes : Bytes} {start : Nat} :
    InfoStart bytes start ↔ ∃ position, start = position + infoPattern.length ∧
      (windows infoPattern.length bytes).findIdx? (· = infoPattern) = some position := by
  unfold InfoStart
  simp only [windows_findIdx?_eq_some_iff (show 0 < infoPattern.length by decide)]

theorem extractInfoBytes_panicked_iff {bytes : Bytes} (fits : bytes.length < u64Limit) :
    extractInfoBytes bytes = .error .panicked ↔
      ∃ start, InfoStart bytes start ∧ Overflows (bytes.drop start) := by
  simp only [infoStart_iff]
  unfold extractInfoBytes extractInfoSpan
  cases found : (windows infoPattern.length bytes).findIdx? (· = infoPattern) with
  | none =>
    refine ⟨fun same => (nomatch same), ?_⟩
    rintro ⟨_, ⟨_, _, same⟩, _⟩
    cases same
  | some position =>
    have panics := parseBencode_panicked_iff
      (length_drop_lt fits (position + infoPattern.length))
    simp only [orError, ok_bind]
    constructor
    · intro panicked
      rcases bind_error panicked with stopped | ⟨span, _, panicked⟩
      · rcases bind_error stopped with stopped | ⟨result, _, panicked⟩
        · exact ⟨_, ⟨position, rfl, rfl⟩, panics.mp stopped⟩
        · cases panicked
      · cases panicked
    · rintro ⟨_, ⟨place, rfl, same⟩, overflows⟩
      cases same
      rw [panics.mpr overflows]
      rfl

theorem extractInfoBytes_length_iff {bytes : Bytes} (fits : bytes.length < u64Limit) {length : Nat} :
    (∃ info, extractInfoBytes bytes = .ok info ∧ info.length = length) ↔
      ∃ start value, InfoStart bytes start ∧ Reads (bytes.drop start) value length := by
  simp only [infoStart_iff]
  unfold extractInfoBytes extractInfoSpan
  cases found : (windows infoPattern.length bytes).findIdx? (· = infoPattern) with
  | none =>
    constructor
    · rintro ⟨info, same, _⟩
      cases same
    · rintro ⟨_, _, ⟨_, _, same⟩, _⟩
      cases same
  | some position =>
    have parses := parseBencode_ok_iff (length_drop_lt fits (position + infoPattern.length))
    have sliced : ∀ value size, parseBencode (bytes.drop (position + infoPattern.length)) =
        .ok (value, size) → (ByteText.slice bytes (position + infoPattern.length)
          (position + infoPattern.length + size)).length = size := by
      intro value size parsed
      have consumed := (parseBencode_consumed parsed).2
      rw [List.length_drop] at consumed
      simp only [ByteText.slice, List.length_drop, List.length_take]
      have positive := (parseBencode_consumed parsed).1
      omega
    simp only [orError, ok_bind]
    constructor
    · rintro ⟨info, extracted, rfl⟩
      obtain ⟨⟨start, size⟩, spanned, sliced'⟩ := bind_ok extracted
      obtain ⟨⟨value, size'⟩, parsed, spanned⟩ := bind_ok spanned
      cases spanned
      cases sliced'
      refine ⟨_, value, ⟨position, rfl, rfl⟩, ?_⟩
      rw [sliced _ _ parsed]
      exact (parses _ _).mp parsed
    · rintro ⟨_, value, ⟨place, rfl, same⟩, reads⟩
      cases same
      have parsed := (parses _ _).mpr reads
      rw [parsed]
      exact ⟨_, rfl, sliced _ _ parsed⟩

theorem checkedHash_panicked_iff {data : Bytes} :
    checkedHash data = .error .panicked ↔ u64Limit ≤ data.length * 8 := by
  unfold checkedHash Checked.mul
  split
  next small => exact ⟨fun same => (nomatch same), fun large => by omega⟩
  next large => exact ⟨fun _ => Nat.not_lt.mp large, fun _ => rfl⟩

theorem checkedTorrent_panicked_iff {bytes : Bytes} (fits : bytes.length < sliceLimit) :
    checkedTorrent bytes = .error .panicked ↔
      Overflows bytes ∨ (HoldsInfo bytes ∧
        (extractInfoBytes bytes = .error .panicked ∨
          ∃ info, extractInfoBytes bytes = .ok info ∧ u64Limit ≤ info.length * 8)) := by
  have room := sliceLimit_room
  have sameLimit : usizeLimit = u64Limit := rfl
  have small : bytes.length < u64Limit := by omega
  unfold checkedTorrent
  rw [checkedBencode_eq fits, checkedInfoBytes_eq fits]
  constructor
  · intro panicked
    rcases bind_error panicked with stopped | ⟨⟨root, total⟩, parsed, panicked⟩
    · exact .inl ((parseBencode_panicked_iff small).mp (orMessage_panicked_iff.mp stopped))
    rcases bind_error panicked with stopped | ⟨dict, isDict, panicked⟩
    · cases orError_failed (orMessage_panicked_iff.mp stopped)
    rcases bind_error panicked with stopped | ⟨info, looked, panicked⟩
    · cases orError_failed (orMessage_panicked_iff.mp stopped)
    have parsed := parseBencode_reads (orMessage_ok parsed)
    have isDict := orError_ok (orMessage_ok isDict)
    have holds : HoldsInfo bytes := by
      cases root with
      | int | str | list => cases isDict
      | dict entries =>
        cases isDict
        exact ⟨dict, total, info, parsed, orError_ok (orMessage_ok looked)⟩
    refine .inr ⟨holds, ?_⟩
    rcases bind_error panicked with stopped | ⟨infoBytes, extracted, panicked⟩
    · exact .inl (orMessage_panicked_iff.mp stopped)
    rcases bind_error panicked with stopped | ⟨infoHash, _, panicked⟩
    · exact .inr ⟨infoBytes, orMessage_ok extracted,
        checkedHash_panicked_iff.mp (orMessage_panicked_iff.mp stopped)⟩
    rcases bind_error panicked with stopped | ⟨infoDict, _, panicked⟩
    · cases orError_failed (orMessage_panicked_iff.mp stopped)
    · cases panicked
  · rintro (overflows | ⟨⟨entries, total, info, reads, looked⟩, reached⟩)
    · rw [(parseBencode_panicked_iff small).mpr overflows]
      rfl
    · rw [(parseBencode_ok_iff small _ _).mpr reads]
      simp only [orMessage, ok_bind, BValue.getDict, orError, looked]
      rcases reached with panicked | ⟨infoBytes, extracted, large⟩
      · rw [panicked]
        rfl
      · rw [extracted]
        simp only [ok_bind]
        rw [checkedHash_panicked_iff.mpr large]
        rfl

theorem extractInfoBytes_ends (bytes : Bytes) : extractInfoBytes bytes ≠ .error .outOfFuel := by
  intro failed
  rcases bind_error failed with failed | ⟨span, _, failed⟩
  · rcases bind_error failed with stopped | ⟨position, _, failed⟩
    · cases orError_failed stopped
    rcases bind_error failed with stopped | ⟨result, _, failed⟩
    · exact parseBencode_ends _ stopped
    · cases failed
  · cases failed

theorem checkedHash_ends (data : Bytes) : checkedHash data ≠ .error .outOfFuel := by
  unfold checkedHash Checked.mul
  split
  next => exact fun same => nomatch same
  next => exact fun same => nomatch same

theorem checkedTorrent_ends {bytes : Bytes} (fits : bytes.length < sliceLimit) :
    checkedTorrent bytes ≠ .error .outOfFuel := by
  intro failed
  unfold checkedTorrent at failed
  rw [checkedBencode_eq fits, checkedInfoBytes_eq fits] at failed
  rcases bind_error failed with stopped | ⟨⟨root, total⟩, _, failed⟩
  · exact parseBencode_ends bytes (orMessage_outOfFuel stopped)
  rcases bind_error failed with stopped | ⟨dict, _, failed⟩
  · cases orError_failed (orMessage_outOfFuel stopped)
  rcases bind_error failed with stopped | ⟨info, _, failed⟩
  · cases orError_failed (orMessage_outOfFuel stopped)
  rcases bind_error failed with stopped | ⟨infoBytes, _, failed⟩
  · exact extractInfoBytes_ends bytes (orMessage_outOfFuel stopped)
  rcases bind_error failed with stopped | ⟨infoHash, _, failed⟩
  · exact checkedHash_ends infoBytes (orMessage_outOfFuel stopped)
  rcases bind_error failed with stopped | ⟨infoDict, _, failed⟩
  · cases orError_failed (orMessage_outOfFuel stopped)
  · cases failed

theorem parsesSafely_iff {bytes : Bytes} (fits : bytes.length < sliceLimit) :
    ParsesSafely bytes ↔ LengthsFit bytes := by
  have room := sliceLimit_room
  have sameLimit : usizeLimit = u64Limit := rfl
  have small : bytes.length < u64Limit := by omega
  have lengths := @extractInfoBytes_length_iff bytes small
  constructor
  · rintro ⟨_, _, bencode, torrent, _, _⟩
    rw [checkedBencode_eq fits, Ne, parseBencode_panicked_iff small] at bencode
    rw [Ne, checkedTorrent_panicked_iff fits] at torrent
    simp only [not_or, not_and] at torrent
    refine ⟨bencode, fun holds start starts => ⟨fun overflows => ?_, fun value length reads => ?_⟩⟩
    · exact (torrent.2 holds).1 ((extractInfoBytes_panicked_iff small).mpr ⟨start, starts, overflows⟩)
    · obtain ⟨info, extracted, rfl⟩ := lengths.mpr ⟨start, value, starts, reads⟩
      by_contra large
      exact (torrent.2 holds).2 ⟨info, extracted, Nat.not_lt.mp large⟩
  · rintro ⟨bencode, info⟩
    refine ⟨?_, checkedTorrent_ends fits, ?_, ?_, fun fuel enough => checkedValue_enough fits enough,
      ?_⟩
    · rw [checkedBencode_eq fits]
      exact parseBencode_ends bytes
    · rw [checkedBencode_eq fits, Ne, parseBencode_panicked_iff small]
      exact bencode
    · rw [Ne, checkedTorrent_panicked_iff fits]
      rintro (overflows | ⟨holds, panicked | ⟨infoBytes, extracted, large⟩⟩)
      · exact bencode overflows
      · obtain ⟨start, starts, overflows⟩ := (extractInfoBytes_panicked_iff small).mp panicked
        exact (info holds start starts).1 overflows
      · obtain ⟨start, value, starts, reads⟩ := lengths.mp ⟨infoBytes, extracted, rfl⟩
        exact Nat.not_lt.mpr large ((info holds start starts).2 value _ reads)
    · intro value length parsed
      rw [checkedBencode_eq fits] at parsed
      exact (parseBencode_consumed parsed).2

def hugeLength : Bytes := utf8 "18446744073709551615:"

theorem hugeLength_overflows : Overflows hugeLength :=
  @Overflows.header (utf8 "18446744073709551615") [] (2 ^ 64 - 1) ⟨49, rfl, rfl⟩ (by decide +kernel)
    (by decide +kernel)

theorem hugeLength_panics : ¬ ParsesSafely hugeLength := by
  rintro ⟨_, _, bencode, _, _, _⟩
  rw [checkedBencode_eq (by decide)] at bencode
  exact bencode ((parseBencode_panicked_iff (by decide)).mpr hugeLength_overflows)

def nestedTorrent : Bytes := utf8 "d4:infod6:lengthi7e4:name1:aee"

theorem nestedTorrent_parses : ParsesSafely nestedTorrent := by
  have parsed : (parseBencode nestedTorrent).isOk = true := by decide +kernel
  have extracted : extractInfoBytes nestedTorrent = .ok (utf8 "d6:lengthi7e4:name1:ae") := by
    decide +kernel
  refine (parsesSafely_iff (by decide +kernel)).mpr ⟨?_, fun _ start starts => ⟨?_, ?_⟩⟩
  · rw [← parseBencode_panicked_iff (by decide +kernel)]
    intro panicked
    rw [panicked] at parsed
    cases parsed
  · intro overflows
    have panicked := (extractInfoBytes_panicked_iff (by decide +kernel)).mpr ⟨start, starts, overflows⟩
    rw [extracted] at panicked
    cases panicked
  · intro value length reads
    obtain ⟨info, same, rfl⟩ :=
      (extractInfoBytes_length_iff (by decide +kernel)).mpr ⟨start, value, starts, reads⟩
    rw [extracted] at same
    cases same
    decide +kernel

end Safety

end StreamServer.LocalAddon
