import StreamServer.Shared.ByteText
import StreamServer.Shared.Checked
import StreamServer.Shared.Fallible
import StreamServer.Shared.Numerals

set_option autoImplicit false

namespace StreamServer.LocalAddon

open ByteText Decimals Results

/-- A dictionary is the sorted list of the entries of its `BTreeMap`. -/
inductive BValue where
  | int (value : Int)
  | str (bytes : Bytes)
  | list (values : List BValue)
  | dict (entries : List (Bytes × BValue))

namespace BValue

def asStr : BValue → Option Bytes
  | .str bytes => if IsUtf8 bytes then some bytes else none
  | _ => none

def asBytes : BValue → Option Bytes
  | .str bytes => some bytes
  | _ => none

def getDict : BValue → Option (List (Bytes × BValue))
  | .dict entries => some entries
  | _ => none

def getList : BValue → Option (List BValue)
  | .list values => some values
  | _ => none

def getInt : BValue → Option Int
  | .int value => some value
  | _ => none

end BValue

def lookupKey (key : Bytes) : List (Bytes × BValue) → Option BValue
  | [] => none
  | (other, value) :: rest => if other = key then some value else lookupKey key rest

def insertKey (key : Bytes) (value : BValue) : List (Bytes × BValue) → List (Bytes × BValue)
  | [] => [(key, value)]
  | (other, old) :: rest =>
      if key = other then (other, value) :: rest
      else if key < other then (key, value) :: (other, old) :: rest
      else (other, old) :: insertKey key value rest

theorem lookupKey_insertKey (key other : Bytes) (value : BValue)
    (entries : List (Bytes × BValue)) :
    lookupKey key (insertKey other value entries) =
      if other = key then some value else lookupKey key entries := by
  induction entries with
  | nil => rfl
  | cons entry rest ih =>
    obtain ⟨first, old⟩ := entry
    simp only [insertKey]
    split
    next replaced =>
      subst replaced
      simp only [lookupKey]
      split <;> rfl
    next =>
      split
      next => rfl
      next kept _ =>
        simp only [lookupKey, ih]
        split
        next found =>
          subst found
          rw [if_neg kept]
        next => rfl

-- `s.parse::<i64>()` shares the digits with the unsigned `parse`, and differs in sign and range.
def parseI64 (text : Bytes) : Option Int :=
  match text with
  | 43 :: digits => (parseDigits digits).bind fun value =>
      if value < 2 ^ 63 then some (value : Int) else none
  | 45 :: digits => (parseDigits digits).bind fun value =>
      if value ≤ 2 ^ 63 then some (-(value : Int)) else none
  | digits => (parseDigits digits).bind fun value =>
      if value < 2 ^ 63 then some (value : Int) else none

-- The parser returns `Err(())`, or it panics at a length that overflows the word. Running out of
-- fuel stands for a parser that does not end.
inductive Failure where
  | error
  | panicked
  | outOfFuel
deriving DecidableEq, Repr

def orError {α : Type} : Option α → Except Failure α
  | some value => .ok value
  | none => .error .error

def fromUtf8 (bytes : Bytes) : Option Bytes := if IsUtf8 bytes then some bytes else none

def parseInt (bytes : Bytes) : Except Failure (BValue × Nat) := do
  let stop ← orError (bytes.findIdx? (· = 101))
  let text ← orError (fromUtf8 (slice bytes 1 stop))
  let value ← orError (parseI64 text)
  .ok (.int value, stop + 1)

def parseStr (bytes : Bytes) : Except Failure (BValue × Nat) := do
  let colon ← orError (bytes.findIdx? (· = 58))
  let text ← orError (fromUtf8 (slice bytes 0 colon))
  let length ← orError (parseU64 text)
  let start := colon + 1
  -- With overflow checks the sum panics; without them it wraps below `start`, passes the
  -- comparison, and the slice panics.
  if u64Limit ≤ start + length then .error .panicked
  else if bytes.length < start + length then .error .error
  else .ok (.str (slice bytes start (start + length)), start + length)

-- The fuel counts nested values and loop rounds together.
mutual

def parseValue : Nat → Bytes → Except Failure (BValue × Nat)
  | 0, _ => .error .outOfFuel
  | _ + 1, [] => .error .error
  | fuel + 1, first :: rest =>
      if first = 105 then parseInt (first :: rest)
      else if first = 108 then do
        let (values, length) ← parseItems fuel (first :: rest) [] 1
        .ok (.list values, length)
      else if first = 100 then do
        let (entries, length) ← parseEntries fuel (first :: rest) [] 1
        .ok (.dict entries, length)
      else if isAsciiDigit first then parseStr (first :: rest)
      else .error .error

def parseItems : Nat → Bytes → List BValue → Nat → Except Failure (List BValue × Nat)
  | 0, _, _, _ => .error .outOfFuel
  | fuel + 1, bytes, list, offset =>
      match bytes[offset]? with
      | none => .error .error
      | some 101 => .ok (list, offset + 1)
      | some _ => do
          let (value, length) ← parseValue fuel (bytes.drop offset)
          parseItems fuel bytes (list ++ [value]) (offset + length)

def parseEntries :
    Nat → Bytes → List (Bytes × BValue) → Nat → Except Failure (List (Bytes × BValue) × Nat)
  | 0, _, _, _ => .error .outOfFuel
  | fuel + 1, bytes, map, offset =>
      match bytes[offset]? with
      | none => .error .error
      | some 101 => .ok (map, offset + 1)
      | some _ => do
          let (keyValue, keyLength) ← parseValue fuel (bytes.drop offset)
          let key ← orError keyValue.asBytes
          let (value, valueLength) ← parseValue fuel (bytes.drop (offset + keyLength))
          parseEntries fuel bytes (insertKey key value map) (offset + keyLength + valueLength)

end

def parseBencode (bytes : Bytes) : Except Failure (BValue × Nat) :=
  parseValue (2 * bytes.length + 1) bytes

section Consumed

theorem orError_ok {α : Type} {option : Option α} {value : α} (ok : orError option = .ok value) :
    option = some value := by
  cases option with
  | none => cases ok
  | some found =>
    cases ok
    rfl

theorem orError_failed {α : Type} {option : Option α} {failure : Failure}
    (failed : orError option = .error failure) : failure = .error := by
  cases option with
  | none =>
    cases failed
    rfl
  | some found => cases failed

theorem parseInt_failed {bytes : Bytes} {failure : Failure}
    (failed : parseInt bytes = .error failure) : failure = .error := by
  rcases bind_error failed with stopped | ⟨stop, _, failed⟩
  · exact orError_failed stopped
  rcases bind_error failed with stopped | ⟨text, _, failed⟩
  · exact orError_failed stopped
  rcases bind_error failed with stopped | ⟨number, _, failed⟩
  · exact orError_failed stopped
  · cases failed

theorem parseStr_ends (bytes : Bytes) : parseStr bytes ≠ .error .outOfFuel := by
  intro failed
  rcases bind_error failed with stopped | ⟨colon, _, failed⟩
  · cases orError_failed stopped
  rcases bind_error failed with stopped | ⟨text, _, failed⟩
  · cases orError_failed stopped
  rcases bind_error failed with stopped | ⟨size, _, failed⟩
  · cases orError_failed stopped
  simp only at failed
  split at failed
  next => cases failed
  split at failed
  next => cases failed
  next => cases failed

theorem parseInt_consumed {bytes : Bytes} {value : BValue} {length : Nat}
    (parsed : parseInt bytes = .ok (value, length)) : 0 < length ∧ length ≤ bytes.length := by
  obtain ⟨stop, found, parsed⟩ := bind_ok parsed
  obtain ⟨text, _, parsed⟩ := bind_ok parsed
  obtain ⟨number, _, parsed⟩ := bind_ok parsed
  have inside := (List.findIdx?_eq_some_iff_getElem.mp (orError_ok found)).1
  cases parsed
  omega

theorem parseStr_consumed {bytes : Bytes} {value : BValue} {length : Nat}
    (parsed : parseStr bytes = .ok (value, length)) : 0 < length ∧ length ≤ bytes.length := by
  obtain ⟨colon, _, parsed⟩ := bind_ok parsed
  obtain ⟨text, _, parsed⟩ := bind_ok parsed
  obtain ⟨size, _, parsed⟩ := bind_ok parsed
  simp only at parsed
  split at parsed
  next => cases parsed
  next =>
    split at parsed
    next => cases parsed
    next fits =>
      cases parsed
      omega

def ConsumesInput (fuel : Nat) : Prop :=
  (∀ bytes value length, parseValue fuel bytes = .ok (value, length) →
    0 < length ∧ length ≤ bytes.length) ∧
  (∀ bytes list offset values length, parseItems fuel bytes list offset = .ok (values, length) →
    offset < length ∧ length ≤ bytes.length) ∧
  (∀ bytes map offset entries length, parseEntries fuel bytes map offset = .ok (entries, length) →
    offset < length ∧ length ≤ bytes.length)

theorem consumesInput (fuel : Nat) : ConsumesInput fuel := by
  induction fuel with
  | zero =>
    refine ⟨?_, ?_, ?_⟩
    · intro bytes value length parsed
      cases parsed
    · intro bytes list offset values length parsed
      cases parsed
    · intro bytes map offset entries length parsed
      cases parsed
  | succ fuel ih =>
    obtain ⟨ofValue, ofItems, ofEntries⟩ := ih
    refine ⟨?_, ?_, ?_⟩
    · intro bytes value length parsed
      cases bytes with
      | nil => cases parsed
      | cons first rest =>
        simp only [parseValue] at parsed
        split at parsed
        next => exact parseInt_consumed parsed
        split at parsed
        next =>
          obtain ⟨⟨values, stop⟩, looped, parsed⟩ := bind_ok parsed
          cases parsed
          have inside := ofItems _ _ _ _ _ looped
          omega
        split at parsed
        next =>
          obtain ⟨⟨entries, stop⟩, looped, parsed⟩ := bind_ok parsed
          cases parsed
          have inside := ofEntries _ _ _ _ _ looped
          omega
        split at parsed
        next => exact parseStr_consumed parsed
        next => cases parsed
    · intro bytes list offset values length parsed
      simp only [parseItems] at parsed
      split at parsed
      next => cases parsed
      next ended =>
        cases parsed
        have inside := (List.getElem?_eq_some_iff.mp ended).1
        omega
      next =>
        obtain ⟨⟨value, size⟩, _, parsed⟩ := bind_ok parsed
        have later := ofItems _ _ _ _ _ parsed
        omega
    · intro bytes map offset entries length parsed
      simp only [parseEntries] at parsed
      split at parsed
      next => cases parsed
      next ended =>
        cases parsed
        have inside := (List.getElem?_eq_some_iff.mp ended).1
        omega
      next =>
        obtain ⟨⟨keyValue, keyLength⟩, _, parsed⟩ := bind_ok parsed
        obtain ⟨key, _, parsed⟩ := bind_ok parsed
        obtain ⟨⟨value, valueLength⟩, _, parsed⟩ := bind_ok parsed
        have later := ofEntries _ _ _ _ _ parsed
        omega

theorem parseBencode_consumed {bytes : Bytes} {value : BValue} {length : Nat}
    (parsed : parseBencode bytes = .ok (value, length)) : 0 < length ∧ length ≤ bytes.length :=
  (consumesInput _).1 bytes value length parsed

end Consumed

section Fuel

theorem bind_congr {α β : Type} {first second : Except Failure α} {next other : α → Except Failure β}
    (same : first = second) (later : ∀ value, second = .ok value → next value = other value) :
    first >>= next = second >>= other := by
  subst same
  cases first with
  | error failure => rfl
  | ok value => exact later value rfl

def FuelSettled (fuel : Nat) : Prop :=
  (∀ bytes, 2 * bytes.length + 1 ≤ fuel → parseValue (fuel + 1) bytes = parseValue fuel bytes) ∧
  (∀ bytes list offset, 2 * (bytes.length - offset) + 2 ≤ fuel →
    parseItems (fuel + 1) bytes list offset = parseItems fuel bytes list offset) ∧
  (∀ bytes map offset, 2 * (bytes.length - offset) + 2 ≤ fuel →
    parseEntries (fuel + 1) bytes map offset = parseEntries fuel bytes map offset)

theorem fuelSettled (fuel : Nat) : FuelSettled fuel := by
  induction fuel with
  | zero =>
    refine ⟨?_, ?_, ?_⟩
    · intro bytes enough
      omega
    · intro bytes list offset enough
      omega
    · intro bytes map offset enough
      omega
  | succ fuel ih =>
    obtain ⟨ofValue, ofItems, ofEntries⟩ := ih
    refine ⟨?_, ?_, ?_⟩
    · intro bytes enough
      cases bytes with
      | nil => rfl
      | cons first rest =>
        have remaining : 2 * ((first :: rest).length - 1) + 2 ≤ fuel := by
          simp only [List.length_cons] at enough ⊢
          omega
        rw [parseValue, parseValue, ofItems _ _ _ remaining, ofEntries _ _ _ remaining]
    · intro bytes list offset enough
      rw [parseItems, parseItems]
      split
      next => rfl
      next => rfl
      next present =>
        have inside := (List.getElem?_eq_some_iff.mp present).1
        have suffix : (bytes.drop offset).length = bytes.length - offset := List.length_drop
        refine bind_congr (ofValue _ (by omega)) ?_
        rintro ⟨value, length⟩ parsed
        have consumed := (consumesInput _).1 _ _ _ parsed
        exact ofItems _ _ _ (by omega)
    · intro bytes map offset enough
      rw [parseEntries, parseEntries]
      split
      next => rfl
      next => rfl
      next present =>
        have inside := (List.getElem?_eq_some_iff.mp present).1
        have suffix : (bytes.drop offset).length = bytes.length - offset := List.length_drop
        refine bind_congr (ofValue _ (by omega)) ?_
        rintro ⟨keyValue, keyLength⟩ parsed
        have consumed := (consumesInput _).1 _ _ _ parsed
        have laterSuffix : (bytes.drop (offset + keyLength)).length =
            bytes.length - (offset + keyLength) := List.length_drop
        refine bind_congr rfl ?_
        intro key _
        refine bind_congr (ofValue _ (by omega)) ?_
        rintro ⟨value, valueLength⟩ valueParsed
        have valueConsumed := (consumesInput _).1 _ _ _ valueParsed
        exact ofEntries _ _ _ (by omega)

-- Two units of fuel for each byte to come are enough, as each value and each round of a loop moves
-- on by a byte.
def FuelSuffices (fuel : Nat) : Prop :=
  (∀ bytes, 2 * bytes.length + 1 ≤ fuel → parseValue fuel bytes ≠ .error .outOfFuel) ∧
  (∀ bytes list offset, 2 * (bytes.length - offset) + 2 ≤ fuel →
    parseItems fuel bytes list offset ≠ .error .outOfFuel) ∧
  (∀ bytes map offset, 2 * (bytes.length - offset) + 2 ≤ fuel →
    parseEntries fuel bytes map offset ≠ .error .outOfFuel)

theorem fuelSuffices (fuel : Nat) : FuelSuffices fuel := by
  induction fuel with
  | zero =>
    refine ⟨?_, ?_, ?_⟩
    · intro bytes enough
      omega
    · intro bytes list offset enough
      omega
    · intro bytes map offset enough
      omega
  | succ fuel ih =>
    obtain ⟨ofValue, ofItems, ofEntries⟩ := ih
    refine ⟨?_, ?_, ?_⟩
    · intro bytes enough failed
      cases bytes with
      | nil => cases failed
      | cons first rest =>
        have remaining : 2 * ((first :: rest).length - 1) + 2 ≤ fuel := by
          simp only [List.length_cons] at enough ⊢
          omega
        simp only [parseValue] at failed
        split at failed
        next => cases parseInt_failed failed
        split at failed
        next =>
          rcases bind_error failed with looped | ⟨result, _, failed⟩
          · exact ofItems _ _ _ remaining looped
          · cases failed
        split at failed
        next =>
          rcases bind_error failed with looped | ⟨result, _, failed⟩
          · exact ofEntries _ _ _ remaining looped
          · cases failed
        split at failed
        next => exact parseStr_ends _ failed
        next => cases failed
    · intro bytes list offset enough failed
      simp only [parseItems] at failed
      split at failed
      next => cases failed
      next => cases failed
      next present =>
        have inside := (List.getElem?_eq_some_iff.mp present).1
        have suffix : (bytes.drop offset).length = bytes.length - offset := List.length_drop
        rcases bind_error failed with stopped | ⟨⟨value, length⟩, parsed, failed⟩
        · exact ofValue _ (by omega) stopped
        · have consumed := (consumesInput _).1 _ _ _ parsed
          exact ofItems _ _ _ (by omega) failed
    · intro bytes map offset enough failed
      simp only [parseEntries] at failed
      split at failed
      next => cases failed
      next => cases failed
      next present =>
        have inside := (List.getElem?_eq_some_iff.mp present).1
        have suffix : (bytes.drop offset).length = bytes.length - offset := List.length_drop
        rcases bind_error failed with stopped | ⟨⟨keyValue, keyLength⟩, keyParsed, failed⟩
        · exact ofValue _ (by omega) stopped
        have keyConsumed := (consumesInput _).1 _ _ _ keyParsed
        rcases bind_error failed with stopped | ⟨key, _, failed⟩
        · cases orError_failed stopped
        have laterSuffix : (bytes.drop (offset + keyLength)).length =
            bytes.length - (offset + keyLength) := List.length_drop
        have enoughLater : 2 * (bytes.drop (offset + keyLength)).length + 1 ≤ fuel := by omega
        rcases bind_error failed with stopped | ⟨⟨value, valueLength⟩, parsed, failed⟩
        · exact ofValue _ enoughLater stopped
        · have consumed := (consumesInput _).1 _ _ _ parsed
          exact ofEntries _ _ _ (by omega) failed

theorem parseBencode_ends (bytes : Bytes) : parseBencode bytes ≠ .error .outOfFuel :=
  (fuelSuffices _).1 bytes le_rfl

theorem parseValue_enough {bytes : Bytes} {fuel : Nat} (enough : 2 * bytes.length + 1 ≤ fuel) :
    parseValue fuel bytes = parseBencode bytes := by
  induction fuel, enough using Nat.le_induction with
  | base => rfl
  | succ fuel enough ih => exact ((fuelSettled fuel).1 bytes enough).trans ih

def listLoop (bytes : Bytes) (list : List BValue) (offset : Nat) :
    Except Failure (List BValue × Nat) :=
  parseItems (2 * (bytes.length - offset) + 2) bytes list offset

def dictLoop (bytes : Bytes) (map : List (Bytes × BValue)) (offset : Nat) :
    Except Failure (List (Bytes × BValue) × Nat) :=
  parseEntries (2 * (bytes.length - offset) + 2) bytes map offset

theorem parseItems_enough {bytes : Bytes} {list : List BValue} {offset fuel : Nat}
    (enough : 2 * (bytes.length - offset) + 2 ≤ fuel) :
    parseItems fuel bytes list offset = listLoop bytes list offset := by
  induction fuel, enough using Nat.le_induction with
  | base => rfl
  | succ fuel enough ih => exact ((fuelSettled fuel).2.1 bytes list offset enough).trans ih

theorem parseEntries_enough {bytes : Bytes} {map : List (Bytes × BValue)} {offset fuel : Nat}
    (enough : 2 * (bytes.length - offset) + 2 ≤ fuel) :
    parseEntries fuel bytes map offset = dictLoop bytes map offset := by
  induction fuel, enough using Nat.le_induction with
  | base => rfl
  | succ fuel enough ih => exact ((fuelSettled fuel).2.2 bytes map offset enough).trans ih

-- The parser and its loops as the source has them, with no fuel left in the equations.
theorem parseBencode_cons (first : UInt8) (rest : Bytes) :
    parseBencode (first :: rest) =
      if first = 105 then parseInt (first :: rest)
      else if first = 108 then do
        let (values, length) ← listLoop (first :: rest) [] 1
        .ok (.list values, length)
      else if first = 100 then do
        let (entries, length) ← dictLoop (first :: rest) [] 1
        .ok (.dict entries, length)
      else if isAsciiDigit first then parseStr (first :: rest)
      else .error .error := by
  have enough : 2 * ((first :: rest).length - 1) + 2 ≤ 2 * (first :: rest).length := by
    simp only [List.length_cons]
    omega
  rw [parseBencode, parseValue, parseItems_enough enough, parseEntries_enough enough]

theorem listLoop_eq (bytes : Bytes) (list : List BValue) (offset : Nat) :
    listLoop bytes list offset =
      match bytes[offset]? with
      | none => .error .error
      | some 101 => .ok (list, offset + 1)
      | some _ => (do
          let (value, length) ← parseBencode (bytes.drop offset)
          listLoop bytes (list ++ [value]) (offset + length)) := by
  rw [listLoop, parseItems]
  split
  next => rfl
  next => rfl
  next present =>
    have inside := (List.getElem?_eq_some_iff.mp present).1
    refine bind_congr (parseValue_enough (by simp only [List.length_drop]; omega)) ?_
    rintro ⟨value, length⟩ parsed
    have consumed := parseBencode_consumed parsed
    exact parseItems_enough (by omega)

theorem dictLoop_eq (bytes : Bytes) (map : List (Bytes × BValue)) (offset : Nat) :
    dictLoop bytes map offset =
      match bytes[offset]? with
      | none => .error .error
      | some 101 => .ok (map, offset + 1)
      | some _ => (do
          let (keyValue, keyLength) ← parseBencode (bytes.drop offset)
          let key ← orError keyValue.asBytes
          let (value, valueLength) ← parseBencode (bytes.drop (offset + keyLength))
          dictLoop bytes (insertKey key value map) (offset + keyLength + valueLength)) := by
  rw [dictLoop, parseEntries]
  split
  next => rfl
  next => rfl
  next present =>
    have inside := (List.getElem?_eq_some_iff.mp present).1
    refine bind_congr (parseValue_enough (by simp only [List.length_drop]; omega)) ?_
    rintro ⟨keyValue, keyLength⟩ parsed
    have consumed := parseBencode_consumed parsed
    refine bind_congr rfl ?_
    intro key _
    refine bind_congr (parseValue_enough (by simp only [List.length_drop]; omega)) ?_
    rintro ⟨value, valueLength⟩ valueParsed
    have valueConsumed := parseBencode_consumed valueParsed
    exact parseEntries_enough (by omega)

end Fuel

end StreamServer.LocalAddon
