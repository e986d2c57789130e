import StreamServer.LocalAddon.Bencode
import StreamServer.Shared.Checked
import StreamServer.Shared.Numerals

set_option autoImplicit false

namespace StreamServer.LocalAddon

open ByteText Decimals Results

section Numbers

def IsNumeral (text : Bytes) : Prop :=
  ∀ byte ∈ text, isAsciiDigit byte = true ∨ byte = 43 ∨ byte = 45

theorem IsNumeral.of_parseDigits {text : Bytes} {value : Nat}
    (parsed : parseDigits text = some value) : IsNumeral text :=
  fun byte member => .inl ((parseDigits_ok parsed).2.1 byte member)

theorem IsNumeral.of_parseU64 {text : Bytes} {value : Nat}
    (parsed : parseU64 text = some value) : IsNumeral text := by
  unfold parseU64 at parsed
  have accepted := IsNumeral.of_parseDigits (Option.filter_eq_some_iff.mp parsed).1
  split at accepted
  next signed =>
    cases text with
    | nil => cases signed
    | cons sign rest =>
      cases signed
      intro byte member
      rcases List.mem_cons.mp member with rfl | later
      · exact .inr (.inl rfl)
      · exact accepted byte later
  next => exact accepted

theorem IsNumeral.of_parseI64 {text : Bytes} {value : Int}
    (parsed : parseI64 text = some value) : IsNumeral text := by
  unfold parseI64 at parsed
  split at parsed
  next digits =>
    obtain ⟨number, accepted, _⟩ := Option.bind_eq_some_iff.mp parsed
    intro byte member
    rcases List.mem_cons.mp member with rfl | later
    · exact .inr (.inl rfl)
    · exact IsNumeral.of_parseDigits accepted byte later
  next digits =>
    obtain ⟨number, accepted, _⟩ := Option.bind_eq_some_iff.mp parsed
    intro byte member
    rcases List.mem_cons.mp member with rfl | later
    · exact .inr (.inr rfl)
    · exact IsNumeral.of_parseDigits accepted byte later
  next =>
    obtain ⟨number, accepted, _⟩ := Option.bind_eq_some_iff.mp parsed
    exact IsNumeral.of_parseDigits accepted

theorem IsNumeral.absent {text : Bytes} (numeral : IsNumeral text) {byte : UInt8}
    (other : isAsciiDigit byte = false ∧ byte ≠ 43 ∧ byte ≠ 45) : byte ∉ text := by
  intro member
  rcases numeral byte member with digit | plus | minus
  · rw [other.1] at digit
    cases digit
  · exact other.2.1 plus
  · exact other.2.2 minus

theorem IsNumeral.isUtf8 {text : Bytes} (numeral : IsNumeral text) : IsUtf8 text := by
  apply isUtf8_of_ascii
  intro byte member
  have below : ∀ byte : UInt8, isAsciiDigit byte = true ∨ byte = 43 ∨ byte = 45 → byte < 128 := by
    apply forall_byte
    decide +kernel
  exact below byte (numeral byte member)

end Numbers

section Grammar

def insertEntries (map entries : List (Bytes × BValue)) : List (Bytes × BValue) :=
  entries.foldl (fun map entry => insertKey entry.1 entry.2 map) map

-- The bytes begin with the given number of bytes that are read as a value.
mutual

inductive Reads : Bytes → BValue → Nat → Prop where
  | int {text rest : Bytes} {number : Int} (parsed : parseI64 text = some number) :
      Reads (105 :: (text ++ 101 :: rest)) (.int number) (text.length + 2)
  | str {text content rest : Bytes} (starts : ∃ digit ∈ text.head?, isAsciiDigit digit = true)
      (sized : parseU64 text = some content.length) :
      Reads (text ++ 58 :: (content ++ rest)) (.str content) (text.length + 1 + content.length)
  | list {items : Bytes} {values : List BValue} {length : Nat}
      (inside : ReadsItems items values length) : Reads (108 :: items) (.list values) (length + 1)
  | dict {items : Bytes} {entries : List (Bytes × BValue)} {length : Nat}
      (inside : ReadsEntries items entries length) :
      Reads (100 :: items) (.dict (insertEntries [] entries)) (length + 1)

inductive ReadsItems : Bytes → List BValue → Nat → Prop where
  | stop {rest : Bytes} : ReadsItems (101 :: rest) [] 1
  | item {bytes : Bytes} {value : BValue} {values : List BValue} {length total : Nat}
      (first : Reads bytes value length) (later : ReadsItems (bytes.drop length) values total) :
      ReadsItems bytes (value :: values) (length + total)

inductive ReadsEntries : Bytes → List (Bytes × BValue) → Nat → Prop where
  | stop {rest : Bytes} : ReadsEntries (101 :: rest) [] 1
  | entry {bytes key : Bytes} {value : BValue} {entries : List (Bytes × BValue)}
      {keyLength valueLength total : Nat} (keyed : Reads bytes (.str key) keyLength)
      (valued : Reads (bytes.drop keyLength) value valueLength)
      (later : ReadsEntries (bytes.drop (keyLength + valueLength)) entries total) :
      ReadsEntries bytes ((key, value) :: entries) (keyLength + valueLength + total)

end

end Grammar

section Leaves

theorem reads_of_parseInt {rest : Bytes} {value : BValue} {length : Nat}
    (parsed : parseInt (105 :: rest) = .ok (value, length)) : Reads (105 :: rest) value length := by
  obtain ⟨stop, found, parsed⟩ := bind_ok parsed
  obtain ⟨text, decoded, parsed⟩ := bind_ok parsed
  obtain ⟨number, read, parsed⟩ := bind_ok parsed
  cases parsed
  obtain ⟨inside, isEnd, _⟩ := List.findIdx?_eq_some_iff_getElem.mp (orError_ok found)
  cases stop with
  | zero => simp at isEnd
  | succ stop =>
    have textBytes : text = rest.take stop := by
      have kept := orError_ok decoded
      unfold fromUtf8 at kept
      split at kept
      next => exact (Option.some.inj kept).symm
      next => cases kept
    simp only [List.length_cons, Nat.add_lt_add_iff_right] at inside
    have endByte : rest[stop] = 101 := by simpa using isEnd
    have split : rest = rest.take stop ++ 101 :: rest.drop (stop + 1) := by
      rw [← endByte, ← List.drop_eq_getElem_cons inside, List.take_append_drop]
    have textLength : text.length = stop := by
      rw [textBytes, List.length_take]
      omega
    rw [← textBytes] at split
    rw [split, ← textLength]
    exact .int (orError_ok read)

theorem parseInt_of_number {text : Bytes} {number : Int} (parsed : parseI64 text = some number)
    (rest : Bytes) :
    parseInt (105 :: (text ++ 101 :: rest)) = .ok (.int number, text.length + 2) := by
  have numeral := IsNumeral.of_parseI64 parsed
  have absent : (101 : UInt8) ∉ 105 :: text := by
    simp only [List.mem_cons, not_or]
    exact ⟨by decide, numeral.absent (by decide)⟩
  have found := findIdx?_separator absent rest
  have text_eq : slice (105 :: text ++ 101 :: rest) 1 (105 :: text).length = text := by
    unfold slice
    rw [List.take_left]
    rfl
  have decoded : fromUtf8 text = some text := if_pos numeral.isUtf8
  unfold parseInt
  rw [← List.cons_append, found]
  simp only [orError, Checked.ok_bind, text_eq, decoded, parsed]
  rfl

theorem parseStr_ok {bytes : Bytes} {value : BValue} {length : Nat}
    (parsed : parseStr bytes = .ok (value, length)) :
    ∃ text content rest, bytes = text ++ 58 :: (content ++ rest) ∧
      parseU64 text = some content.length ∧ value = .str content ∧
      length = text.length + 1 + content.length := by
  obtain ⟨colon, found, parsed⟩ := bind_ok parsed
  obtain ⟨text, decoded, parsed⟩ := bind_ok parsed
  obtain ⟨size, sized, parsed⟩ := bind_ok parsed
  obtain ⟨inside, isColon, _⟩ := List.findIdx?_eq_some_iff_getElem.mp (orError_ok found)
  have textBytes : text = bytes.take colon := by
    have kept := orError_ok decoded
    unfold fromUtf8 at kept
    split at kept
    next => exact (Option.some.inj kept).symm
    next => cases kept
  simp only at parsed
  split at parsed
  next => cases parsed
  split at parsed
  next => cases parsed
  next fits =>
    cases parsed
    have contentLength : (slice bytes (colon + 1) (colon + 1 + size)).length = size := by
      simp only [slice, List.length_drop, List.length_take]
      omega
    have textLength : text.length = colon := by
      rw [textBytes, List.length_take]
      omega
    refine ⟨text, slice bytes (colon + 1) (colon + 1 + size), bytes.drop (colon + 1 + size), ?_, ?_,
      rfl, ?_⟩
    · have joined : slice bytes (colon + 1) (colon + 1 + size) ++ bytes.drop (colon + 1 + size) =
          bytes.drop (colon + 1) := by
        unfold slice
        rw [List.drop_take, show colon + 1 + size - (colon + 1) = size by omega,
          ← List.drop_drop (i := size), List.take_append_drop]
      have colonByte : bytes[colon] = 58 := by simpa using isColon
      rw [joined, textBytes, ← colonByte, ← List.drop_eq_getElem_cons inside, List.take_append_drop]
    · rw [contentLength]
      exact orError_ok sized
    · rw [contentLength, textLength]

theorem reads_of_parseStr {first : UInt8} {rest : Bytes} {value : BValue} {length : Nat}
    (digit : isAsciiDigit first = true) (parsed : parseStr (first :: rest) = .ok (value, length)) :
    Reads (first :: rest) value length := by
  obtain ⟨text, content, tail, split, sized, rfl, rfl⟩ := parseStr_ok parsed
  rw [split]
  refine .str ?_ sized
  cases text with
  | nil =>
    cases (List.cons.inj split).1
    cases digit
  | cons byte later =>
    cases (List.cons.inj split).1
    exact ⟨first, rfl, digit⟩

theorem parseStr_of_header {text : Bytes} {size : Nat} (sized : parseU64 text = some size)
    (rest : Bytes) :
    parseStr (text ++ 58 :: rest) =
      if u64Limit ≤ text.length + 1 + size then .error .panicked
      else if rest.length < size then .error .error
      else .ok (.str (rest.take size), text.length + 1 + size) := by
  have numeral := IsNumeral.of_parseU64 sized
  have separated : 58 ∉ text := numeral.absent (by decide)
  have found := findIdx?_separator separated rest
  have text_eq : slice (text ++ 58 :: rest) 0 text.length = text := by
    unfold slice
    rw [List.take_left]
    rfl
  have decoded : fromUtf8 text = some text := if_pos numeral.isUtf8
  have content_eq : slice (text ++ 58 :: rest) (text.length + 1) (text.length + 1 + size) =
      rest.take size := by
    unfold slice
    rw [List.drop_take, Nat.add_sub_cancel_left, ← List.drop_drop, List.drop_left]
    rfl
  have remaining : (text ++ 58 :: rest).length < text.length + 1 + size ↔ rest.length < size := by
    simp only [List.length_append, List.length_cons]
    omega
  unfold parseStr
  rw [found]
  simp only [orError, Checked.ok_bind, text_eq, decoded, sized, content_eq, remaining]

end Leaves

section Parser

theorem drop_of_getElem? {bytes : Bytes} {offset : Nat} {byte : UInt8}
    (present : bytes[offset]? = some byte) :
    bytes.drop offset = byte :: bytes.drop (offset + 1) := by
  obtain ⟨inside, rfl⟩ := List.getElem?_eq_some_iff.mp present
  exact List.drop_eq_getElem_cons inside

def ReadsOk (fuel : Nat) : Prop :=
  (∀ bytes value length, parseValue fuel bytes = .ok (value, length) → Reads bytes value length) ∧
  (∀ bytes list offset values length, parseItems fuel bytes list offset = .ok (values, length) →
    ∃ later total, ReadsItems (bytes.drop offset) later total ∧ values = list ++ later ∧
      length = offset + total) ∧
  (∀ bytes map offset entries length, parseEntries fuel bytes map offset = .ok (entries, length) →
    ∃ later total, ReadsEntries (bytes.drop offset) later total ∧
      entries = insertEntries map later ∧ length = offset + total)

theorem readsOk (fuel : Nat) : ReadsOk fuel := by
  induction fuel with
  | zero =>
    refine ⟨?_, ?_, ?_⟩
    · intro bytes value length parsed
      cases parsed
    · intro bytes list offset values length parsed
      cases parsed
    · intro bytes map offset entries length parsed
      cases parsed
  | succ fuel ih =>
    obtain ⟨ofValue, ofItems, ofEntries⟩ := ih
    refine ⟨?_, ?_, ?_⟩
    · intro bytes value length parsed
      cases bytes with
      | nil => cases parsed
      | cons first rest =>
        simp only [parseValue] at parsed
        split at parsed
        next isInt =>
          subst isInt
          exact reads_of_parseInt parsed
        split at parsed
        next isList =>
          subst isList
          obtain ⟨⟨values, stop⟩, looped, parsed⟩ := bind_ok parsed
          cases parsed
          obtain ⟨later, total, inside, rfl, rfl⟩ := ofItems _ _ _ _ _ looped
          rw [Nat.add_comm]
          exact .list inside
        split at parsed
        next isDict =>
          subst isDict
          obtain ⟨⟨entries, stop⟩, looped, parsed⟩ := bind_ok parsed
          cases parsed
          obtain ⟨later, total, inside, rfl, rfl⟩ := ofEntries _ _ _ _ _ looped
          rw [Nat.add_comm]
          exact .dict inside
        split at parsed
        next digit => exact reads_of_parseStr digit parsed
        next => cases parsed
    · intro bytes list offset values length parsed
      simp only [parseItems] at parsed
      split at parsed
      next => cases parsed
      next ended =>
        cases parsed
        rw [drop_of_getElem? ended]
        exact ⟨[], 1, .stop, (List.append_nil _).symm, rfl⟩
      next =>
        obtain ⟨⟨value, size⟩, first, parsed⟩ := bind_ok parsed
        obtain ⟨later, total, inside, rfl, rfl⟩ := ofItems _ _ _ _ _ parsed
        rw [← List.drop_drop] at inside
        exact ⟨value :: later, size + total, .item (ofValue _ _ _ first) inside,
          List.append_assoc .., Nat.add_assoc ..⟩
    · intro bytes map offset entries length parsed
      simp only [parseEntries] at parsed
      split at parsed
      next => cases parsed
      next ended =>
        cases parsed
        rw [drop_of_getElem? ended]
        exact ⟨[], 1, .stop, rfl, rfl⟩
      next =>
        obtain ⟨⟨keyValue, keyLength⟩, keyParsed, parsed⟩ := bind_ok parsed
        obtain ⟨key, isKey, parsed⟩ := bind_ok parsed
        obtain ⟨⟨value, valueLength⟩, valueParsed, parsed⟩ := bind_ok parsed
        obtain ⟨later, total, inside, rfl, rfl⟩ := ofEntries _ _ _ _ _ parsed
        have keyed := ofValue _ _ _ keyParsed
        have isKey := orError_ok isKey
        cases keyValue with
        | int | list | dict => cases isKey
        | str content =>
          cases isKey
          rw [Nat.add_assoc, ← List.drop_drop] at inside
          have valued := ofValue _ _ _ valueParsed
          rw [← List.drop_drop] at valued
          refine ⟨(key, value) :: later, keyLength + valueLength + total,
            .entry keyed valued inside, rfl, ?_⟩
          omega

theorem parseBencode_reads {bytes : Bytes} {value : BValue} {length : Nat}
    (parsed : parseBencode bytes = .ok (value, length)) : Reads bytes value length :=
  (readsOk _).1 bytes value length parsed

theorem Reads.first_ne {bytes : Bytes} {value : BValue} {length : Nat}
    (reads : Reads bytes value length) : ∃ first, bytes.head? = some first ∧ first ≠ 101 := by
  cases reads with
  | int | list | dict => exact ⟨_, rfl, by decide⟩
  | str starts =>
    obtain ⟨digit, first, isDigit⟩ := starts
    refine ⟨digit, ?_, ?_⟩
    · simp only [Option.mem_def] at first
      rw [List.head?_append, first]
      rfl
    · rintro rfl
      cases isDigit

theorem parseBencode_of_digit {text rest : Bytes}
    (starts : ∃ digit ∈ text.head?, isAsciiDigit digit = true) :
    parseBencode (text ++ rest) = parseStr (text ++ rest) := by
  obtain ⟨digit, first, isDigit⟩ := starts
  cases text with
  | nil => cases first
  | cons byte later =>
    cases first
    have notInt : digit ≠ 105 := by
      rintro rfl
      cases isDigit
    have notList : digit ≠ 108 := by
      rintro rfl
      cases isDigit
    have notDict : digit ≠ 100 := by
      rintro rfl
      cases isDigit
    rw [List.cons_append, parseBencode_cons, if_neg notInt, if_neg notList, if_neg notDict,
      if_pos isDigit]

theorem getElem?_of_drop {bytes later : Bytes} {offset : Nat} {byte : UInt8}
    (from_offset : bytes.drop offset = byte :: later) : bytes[offset]? = some byte := by
  rw [← List.head?_drop, from_offset]
  rfl

theorem length_drop_lt {bytes : Bytes} {limit : Nat} (fits : bytes.length < limit) (offset : Nat) :
    (bytes.drop offset).length < limit := by
  rw [List.length_drop]
  omega

theorem Reads.positive {bytes : Bytes} {value : BValue} {length : Nat}
    (reads : Reads bytes value length) : 0 < length := by
  cases reads <;> omega

theorem ReadsItems.positive {items : Bytes} {later : List BValue} {total : Nat}
    (reads : ReadsItems items later total) : 0 < total := by
  cases reads with
  | stop => omega
  | item first _ =>
    have := first.positive
    omega

theorem ReadsEntries.positive {items : Bytes} {later : List (Bytes × BValue)} {total : Nat}
    (reads : ReadsEntries items later total) : 0 < total := by
  cases reads with
  | stop => omega
  | entry keyed _ _ =>
    have := keyed.positive
    omega

theorem listLoop_more {bytes : Bytes} {list : List BValue} {offset : Nat}
    (started : ∃ first, (bytes.drop offset).head? = some first ∧ first ≠ 101) :
    listLoop bytes list offset = (do
      let (value, length) ← parseBencode (bytes.drop offset)
      listLoop bytes (list ++ [value]) (offset + length)) := by
  obtain ⟨byte, present, more⟩ := started
  rw [List.head?_drop] at present
  rw [listLoop_eq, present]
  split
  next absent => cases absent
  next ended => exact absurd (Option.some.inj ended) more
  next => rfl

theorem dictLoop_more {bytes : Bytes} {map : List (Bytes × BValue)} {offset : Nat}
    (started : ∃ first, (bytes.drop offset).head? = some first ∧ first ≠ 101) :
    dictLoop bytes map offset = (do
      let (keyValue, keyLength) ← parseBencode (bytes.drop offset)
      let key ← orError keyValue.asBytes
      let (value, valueLength) ← parseBencode (bytes.drop (offset + keyLength))
      dictLoop bytes (insertKey key value map) (offset + keyLength + valueLength)) := by
  obtain ⟨byte, present, more⟩ := started
  rw [List.head?_drop] at present
  rw [dictLoop_eq, present]
  split
  next absent => cases absent
  next ended => exact absurd (Option.some.inj ended) more
  next => rfl

def ParsesReads (bound : Nat) : Prop :=
  (∀ bytes value length, Reads bytes value length → length ≤ bound → bytes.length < u64Limit →
    parseBencode bytes = .ok (value, length)) ∧
  (∀ bytes later total list offset, ReadsItems (bytes.drop offset) later total → total ≤ bound →
    bytes.length < u64Limit → listLoop bytes list offset = .ok (list ++ later, offset + total)) ∧
  (∀ bytes later total map offset, ReadsEntries (bytes.drop offset) later total → total ≤ bound →
    bytes.length < u64Limit →
      dictLoop bytes map offset = .ok (insertEntries map later, offset + total))

theorem parsesReads (bound : Nat) : ParsesReads bound := by
  induction bound with
  | zero =>
    refine ⟨?_, ?_, ?_⟩
    · intro bytes value length reads short
      have := reads.positive
      omega
    · intro bytes later total list offset reads short
      have := reads.positive
      omega
    · intro bytes later total map offset reads short
      have := reads.positive
      omega
  | succ bound ih =>
    obtain ⟨ofValue, ofItems, ofEntries⟩ := ih
    refine ⟨?_, ?_, ?_⟩
    · intro bytes value length reads short fits
      cases reads with
      | int parsed =>
        rw [parseBencode_cons, if_pos rfl]
        exact parseInt_of_number parsed _
      | str starts sized =>
        rw [parseBencode_of_digit starts, parseStr_of_header sized]
        simp only [List.length_append, List.length_cons] at fits ⊢
        rw [if_neg (by omega), if_neg (by omega), List.take_left]
      | @list items values total inside =>
        rw [parseBencode_cons, if_neg (by decide), if_pos rfl,
          ofItems (108 :: items) _ _ [] 1 inside (by omega) fits, Nat.add_comm total]
        rfl
      | @dict items entries total inside =>
        rw [parseBencode_cons, if_neg (by decide), if_neg (by decide), if_pos rfl,
          ofEntries (100 :: items) _ _ [] 1 inside (by omega) fits, Nat.add_comm total]
        rfl
    · intro bytes later total list offset reads short fits
      generalize starting : bytes.drop offset = items at reads
      cases reads with
      | stop =>
        rw [listLoop_eq, getElem?_of_drop starting, List.append_nil]
        rfl
      | @item _ value values length total first inside =>
        subst starting
        have consumed := first.positive
        have remaining := inside.positive
        rw [List.drop_drop] at inside
        have parsed := ofValue _ _ _ first (by omega) (length_drop_lt fits _)
        have looped := ofItems _ _ _ (list ++ [value]) _ inside (by omega) fits
        rw [listLoop_more first.first_ne, parsed]
        simp only [Checked.ok_bind]
        rw [looped, List.append_assoc, Nat.add_assoc]
        rfl
    · intro bytes later total map offset reads short fits
      generalize starting : bytes.drop offset = items at reads
      cases reads with
      | stop =>
        rw [dictLoop_eq, getElem?_of_drop starting]
        rfl
      | @entry _ key value entries keyLength valueLength total keyed valued inside =>
        subst starting
        have keyConsumed := keyed.positive
        have valueConsumed := valued.positive
        have remaining := inside.positive
        rw [List.drop_drop] at valued inside
        have keyParsed := ofValue _ _ _ keyed (by omega) (length_drop_lt fits _)
        have valueParsed := ofValue _ _ _ valued (by omega) (length_drop_lt fits _)
        have looped := ofEntries _ _ _ (insertKey key value map) _ inside (by omega) fits
        rw [dictLoop_more keyed.first_ne, keyParsed]
        simp only [Checked.ok_bind, BValue.asBytes, orError]
        rw [valueParsed]
        simp only [Checked.ok_bind]
        rw [Nat.add_assoc, looped, Nat.add_assoc offset]
        rfl

theorem parseBencode_ok_iff {bytes : Bytes} (fits : bytes.length < u64Limit) (value : BValue)
    (length : Nat) :
    parseBencode bytes = .ok (value, length) ↔ Reads bytes value length :=
  ⟨parseBencode_reads, fun reads => (parsesReads length).1 _ _ _ reads le_rfl fits⟩

end Parser

end StreamServer.LocalAddon

namespace StreamServer.LocalAddon

open ByteText Decimals

/-- What the value type of the source can hold: 64-bit integers, and the entries of a `BTreeMap`. -/
inductive BValue.Valid : BValue → Prop where
  | int {number : Int} (low : -2 ^ 63 ≤ number) (high : number < 2 ^ 63) : Valid (.int number)
  | str (bytes : Bytes) : Valid (.str bytes)
  | list {values : List BValue} (each : ∀ value ∈ values, Valid value) : Valid (.list values)
  | dict {entries : List (Bytes × BValue)} (each : ∀ entry ∈ entries, Valid entry.2)
      (ordered : entries.Pairwise fun first second => first.1 < second.1) : Valid (.dict entries)

section Encoding

def encodeInt (number : Int) : Bytes := 105 :: (decimalInt number ++ [101])

def encodeStr (content : Bytes) : Bytes := decimal content.length ++ 58 :: content

mutual

def encode : BValue → Bytes
  | .int number => encodeInt number
  | .str content => encodeStr content
  | .list values => 108 :: (encodeItems values ++ [101])
  | .dict entries => 100 :: (encodeEntries entries ++ [101])

def encodeItems : List BValue → Bytes
  | [] => []
  | value :: rest => encode value ++ encodeItems rest

def encodeEntries : List (Bytes × BValue) → Bytes
  | [] => []
  | entry :: rest => encodeEntry entry ++ encodeEntries rest

def encodeEntry : Bytes × BValue → Bytes
  | (key, value) => encodeStr key ++ encode value

end

example : encode (.dict [(utf8 "a", .list [.int (-7), .str (utf8 "bc")])]) = utf8 "d1:ali-7e2:bcee" := by
  decide +kernel

end Encoding

section Numbers

theorem parseI64_decimal {number : Nat} (fits : number < 2 ^ 63) :
    parseI64 (decimal number) = some (number : Int) := by
  unfold parseI64
  split
  next same => exact absurd same (decimal_head_ne (by decide))
  next same => exact absurd same (decimal_head_ne (by decide))
  next => rw [parseDigits_decimal, Option.bind_some, if_pos fits]

theorem parseI64_decimalInt {number : Int} (low : -2 ^ 63 ≤ number) (high : number < 2 ^ 63) :
    parseI64 (decimalInt number) = some number := by
  unfold decimalInt
  split
  next negative =>
    have size : number.natAbs ≤ 2 ^ 63 := by omega
    have value : -(number.natAbs : Int) = number := by omega
    rw [parseI64, parseDigits_decimal, Option.bind_some, if_pos size, value]
  next nonnegative =>
    have value : (number.natAbs : Int) = number := by omega
    rw [parseI64_decimal (by omega), value]

end Numbers

section Dictionaries

theorem insertKey_last {key : Bytes} {value : BValue} {map : List (Bytes × BValue)}
    (later : ∀ entry ∈ map, entry.1 < key) : insertKey key value map = map ++ [(key, value)] := by
  induction map with
  | nil => rfl
  | cons entry rest ih =>
    obtain ⟨other, old⟩ := entry
    have before : other < key := later (other, old) (by simp)
    have different : key ≠ other := by
      rintro rfl
      exact List.lt_irrefl _ before
    rw [insertKey, if_neg different, if_neg (List.lt_asymm before),
      ih fun entry member => later entry (by simp [member]), List.cons_append]

theorem insertEntries_ordered {map entries : List (Bytes × BValue)}
    (ordered : (map ++ entries).Pairwise fun first second => first.1 < second.1) :
    insertEntries map entries = map ++ entries := by
  induction entries generalizing map with
  | nil => simp [insertEntries]
  | cons entry rest ih =>
    have later : ∀ earlier ∈ map, earlier.1 < entry.1 := fun earlier member =>
      (List.pairwise_append.mp ordered).2.2 earlier member entry (by simp)
    have appended : (map ++ [entry] ++ rest).Pairwise fun first second => first.1 < second.1 := by
      simpa using ordered
    show insertEntries (insertKey entry.1 entry.2 map) rest = _
    rw [insertKey_last later, ih appended]
    simp

end Dictionaries

section RoundTrip

theorem decimal_starts (number : Nat) :
    ∃ digit ∈ (decimal number).head?, isAsciiDigit digit = true := by
  have written : decimal number ≠ [] := decimal_ne_nil
  obtain ⟨digit, later, shape⟩ := List.exists_cons_of_ne_nil written
  have member : digit ∈ decimal number := by
    rw [shape]
    exact List.mem_cons_self
  exact ⟨digit, by rw [shape]; rfl, isAsciiDigit_of_mem_decimal member⟩

theorem reads_encodeInt {number : Int} (low : -2 ^ 63 ≤ number) (high : number < 2 ^ 63)
    (rest : Bytes) :
    Reads (encodeInt number ++ rest) (.int number) (encodeInt number).length := by
  have shape : encodeInt number ++ rest = 105 :: (decimalInt number ++ 101 :: rest) := by
    simp [encodeInt]
  have length : (encodeInt number).length = (decimalInt number).length + 2 := by
    simp [encodeInt]
  rw [shape, length]
  exact .int (parseI64_decimalInt low high)

theorem reads_encodeStr {content : Bytes} (fits : content.length < u64Limit) (rest : Bytes) :
    Reads (encodeStr content ++ rest) (.str content) (encodeStr content).length := by
  have shape : encodeStr content ++ rest =
      decimal content.length ++ 58 :: (content ++ rest) := by
    simp [encodeStr]
  have length : (encodeStr content).length =
      (decimal content.length).length + 1 + content.length := by
    simp only [encodeStr, List.length_append, List.length_cons]
    omega
  rw [shape, length]
  exact .str (decimal_starts _) (parseU64_decimal fits)

def ReadsBack (value : BValue) : Prop :=
  ∀ rest, (encode value).length < u64Limit →
    Reads (encode value ++ rest) value (encode value).length

theorem reads_encodeItems {values : List BValue} (each : ∀ value ∈ values, ReadsBack value)
    (fits : (encodeItems values).length < u64Limit) (rest : Bytes) :
    ReadsItems (encodeItems values ++ 101 :: rest) values ((encodeItems values).length + 1) := by
  induction values with
  | nil =>
    rw [encodeItems]
    exact .stop
  | cons value later ih =>
    rw [encodeItems, List.length_append] at fits
    have first := each value (by simp) (encodeItems later ++ 101 :: rest) (by omega)
    have others := ih (fun other member => each other (by simp [member])) (by omega)
    rw [encodeItems, List.append_assoc, List.length_append, Nat.add_assoc]
    refine .item first ?_
    rw [List.drop_left]
    exact others

theorem reads_encodeEntries {entries : List (Bytes × BValue)}
    (each : ∀ entry ∈ entries, ReadsBack entry.2)
    (fits : (encodeEntries entries).length < u64Limit) (rest : Bytes) :
    ReadsEntries (encodeEntries entries ++ 101 :: rest) entries
      ((encodeEntries entries).length + 1) := by
  induction entries with
  | nil =>
    rw [encodeEntries]
    exact .stop
  | cons entry later ih =>
    obtain ⟨key, value⟩ := entry
    have keyFits : key.length ≤ (encodeStr key).length := by
      simp [encodeStr]
      omega
    rw [encodeEntries, encodeEntry, List.length_append, List.length_append] at fits
    have short : key.length < u64Limit := by omega
    have keyed := reads_encodeStr short (encode value ++ (encodeEntries later ++ 101 :: rest))
    have valued := each (key, value) (by simp) (encodeEntries later ++ 101 :: rest)
      (by simp only; omega)
    have others := ih (fun other member => each other (by simp [member])) (by omega)
    rw [encodeEntries, encodeEntry, List.length_append, List.length_append, Nat.add_assoc,
      List.append_assoc, List.append_assoc]
    refine .entry keyed ?_ ?_
    · rw [List.drop_left]
      exact valued
    · rw [← List.drop_drop, List.drop_left, List.drop_left]
      exact others

theorem reads_encode {value : BValue} (valid : value.Valid) : ReadsBack value := by
  induction valid with
  | int low high =>
    intro rest _
    exact reads_encodeInt low high rest
  | str content =>
    intro rest fits
    have contentFits : content.length ≤ (encode (.str content)).length := by
      simp [encode, encodeStr]
      omega
    exact reads_encodeStr (Nat.lt_of_le_of_lt contentFits fits) rest
  | @list values _ ih =>
    intro rest fits
    have length : (encode (.list values)).length = (encodeItems values).length + 1 + 1 := by
      simp [encode]
    have items := reads_encodeItems ih (by omega) rest
    rw [length, encode, List.cons_append, List.append_assoc]
    exact .list items
  | @dict entries _ ordered ih =>
    intro rest fits
    have length : (encode (.dict entries)).length = (encodeEntries entries).length + 1 + 1 := by
      simp [encode]
    have items := reads_encodeEntries ih (by omega) rest
    have kept : insertEntries [] entries = entries := insertEntries_ordered ordered
    rw [length, encode, List.cons_append, List.append_assoc]
    have reads := Reads.dict items
    rw [kept] at reads
    exact reads

theorem parseBencode_encode {value : BValue} (valid : value.Valid) {rest : Bytes}
    (fits : (encode value ++ rest).length < Checked.sliceLimit) :
    parseBencode (encode value ++ rest) = .ok (value, (encode value).length) := by
  have below : Checked.sliceLimit ≤ u64Limit := by decide
  have encodingFits : (encode value).length < u64Limit := by
    rw [List.length_append] at fits
    omega
  exact (parseBencode_ok_iff (by omega) _ _).mpr (reads_encode valid rest encodingFits)

theorem nested_encoding_parses :
    parseBencode (encode (.dict [(utf8 "a", .list [.int (-7), .str (utf8 "e1:")])]) ++ utf8 "e") =
      .ok (.dict [(utf8 "a", .list [.int (-7), .str (utf8 "e1:")])],
        (encode (.dict [(utf8 "a", .list [.int (-7), .str (utf8 "e1:")])])).length) := by
  have valid : (BValue.dict [(utf8 "a", .list [.int (-7), .str (utf8 "e1:")])]).Valid := by
    refine .dict ?_ (List.pairwise_singleton ..)
    simp only [List.mem_singleton, forall_eq]
    refine .list ?_
    simp only [List.mem_cons, List.not_mem_nil, or_false, forall_eq_or_imp, forall_eq]
    exact ⟨.int (by decide) (by decide), .str _⟩
  exact parseBencode_encode valid (by decide +kernel)

end RoundTrip

end StreamServer.LocalAddon
