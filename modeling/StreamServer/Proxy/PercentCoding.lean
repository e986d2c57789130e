import Mathlib.Data.List.GetD
import StreamServer.Proxy.HlsReference
import StreamServer.Shared.Fallible
import StreamServer.Shared.Loops

set_option autoImplicit false

namespace StreamServer.Proxy.PercentCoding

open ByteText Checked Loops

section Decoders

variable (value : Bytes) (plusAsSpace : Bool)

def validateTurn (index : Nat) : Except ProxyError (Turn Nat Unit) :=
  if inside : index < value.length then
    if value[index] = percent then
      if value[index + 1]?.all (fun byte => !isAsciiHexdigit byte) ||
          value[index + 2]?.all (fun byte => !isAsciiHexdigit byte) then
        .error .invalidRequest
      else .ok (.again (index + 3))
    else .ok (.again (index + 1))
  else .ok (.done ())

theorem validateTurn_moves {index next : Nat} (taken : validateTurn value index = .ok (.again next)) :
    index < next ∧ index < value.length := by
  unfold validateTurn at taken
  split at taken
  next inside =>
    split at taken
    next =>
      split at taken
      next => cases taken
      next => cases taken; omega
    next => cases taken; omega
  next => cases taken

def validateLoop : Loop ProxyError Nat Unit where
  turn := validateTurn value
  size index := value.length - index
  lowers _ _ taken :=
    have moved := validateTurn_moves value taken
    Nat.sub_lt_sub_left moved.2 moved.1

def validatePercentEncoding : Except ProxyError Unit := (validateLoop value).run 0

structure Decoding where
  index : Nat
  decoded : Bytes
deriving DecidableEq, Repr

def hexAt (index : Nat) : Except ProxyError UInt8 :=
  (value[index]?.bind hexValue).elim (.error .invalidRequest) .ok

def decodeTurn (state : Decoding) : Except ProxyError (Turn Decoding Bytes) :=
  if inside : state.index < value.length then
    let byte := value[state.index]
    if byte = percent then do
      let high ← hexAt value (state.index + 1)
      let low ← hexAt value (state.index + 2)
      return .again ⟨state.index + 3, state.decoded ++ [high <<< 4 ||| low]⟩
    else if byte = 43 ∧ plusAsSpace then .ok (.again ⟨state.index + 1, state.decoded ++ [32]⟩)
    else .ok (.again ⟨state.index + 1, state.decoded ++ [byte]⟩)
  else .ok (.done state.decoded)

theorem decodeTurn_moves {state next : Decoding}
    (taken : decodeTurn value plusAsSpace state = .ok (.again next)) :
    state.index < next.index ∧ state.index < value.length := by
  unfold decodeTurn at taken
  split at taken
  next inside =>
    refine ⟨?_, inside⟩
    simp only at taken
    split at taken
    next =>
      obtain ⟨high, -, taken⟩ := Results.bind_ok taken
      obtain ⟨low, -, taken⟩ := Results.bind_ok taken
      cases taken
      exact Nat.lt_add_of_pos_right (by decide)
    next =>
      split at taken
      next => cases taken; exact Nat.lt_succ_self _
      next => cases taken; exact Nat.lt_succ_self _
  next => cases taken

def decodeLoop : Loop ProxyError Decoding Bytes where
  turn := decodeTurn value plusAsSpace
  size state := value.length - state.index
  lowers _ _ taken :=
    have moved := decodeTurn_moves value plusAsSpace taken
    Nat.sub_lt_sub_left moved.2 moved.1

def strictPercentDecode : Except ProxyError Bytes := do
  let decoded ← (decodeLoop value plusAsSpace).run ⟨0, []⟩
  if IsUtf8 decoded then return decoded else throw .invalidRequest

end Decoders

section Encoders

def lengthStep (length : Nat) (byte : UInt8) : Except ProxyError Nat :=
  match add usizeLimit length (if percentEncodingSafe byte then 1 else 3) with
  | .ok length => .ok length
  | .error _ => .error .upstream

def percentEncodedLength (value : Bytes) : Except ProxyError Nat := value.foldlM lengthStep 0

/-- A `String` is a slice as well, and no longer than one. -/
def pushStr (output written : Bytes) : Checked Bytes :=
  if output.length + written.length < sliceLimit then .ok (output ++ written) else .error .overflow

def appendByte (output : Bytes) (byte : UInt8) : Checked Bytes :=
  if percentEncodingSafe byte then pushStr output [byte]
  else do
    let high ← get hexDigits (byte >>> 4).toNat
    let low ← get hexDigits (byte &&& 0x0f).toNat
    pushStr output [percent, high, low]

def appendPercentEncoded (output value : Bytes) : Checked Bytes := value.foldlM appendByte output

end Encoders

section Readings

/-- What the escapes of a text stand for; whatever is no escape stands for itself. -/
def percentDecoded (plusAsSpace : Bool) : Bytes → Bytes
  | [] => []
  | byte :: rest =>
      if byte = percent then
        match rest with
        | high :: low :: tail =>
            match hexValue high, hexValue low with
            | some high, some low => (high <<< 4 ||| low) :: percentDecoded plusAsSpace tail
            | _, _ => byte :: percentDecoded plusAsSpace (high :: low :: tail)
        | rest => byte :: percentDecoded plusAsSpace rest
      else (if byte = 43 ∧ plusAsSpace then 32 else byte) :: percentDecoded plusAsSpace rest

theorem isAsciiHexdigit_eq (byte : UInt8) : isAsciiHexdigit byte = (hexValue byte).isSome := by
  unfold isAsciiHexdigit hexValue
  cases isAsciiDigit byte with
  | true => rfl
  | false =>
    rw [Bool.false_or, if_neg Bool.false_ne_true]
    split
    next lower => simp [lower]
    next lower =>
      split
      next upper => simp [lower, upper]
      next upper => simp [lower, upper]

theorem percentEncodingValid_plain {byte : UInt8} (plain : byte ≠ percent) (rest : Bytes) :
    percentEncodingValid (byte :: rest) = percentEncodingValid rest := by
  rw [percentEncodingValid.eq_def]
  exact if_neg plain

theorem percentEncodingValid_escape (rest : Bytes) :
    percentEncodingValid (percent :: rest) =
      (rest[0]?.any isAsciiHexdigit && rest[1]?.any isAsciiHexdigit &&
        percentEncodingValid (rest.drop 2)) := by
  match rest with
  | [] => rfl
  | [high] => simp [percentEncodingValid]
  | high :: low :: rest => rfl

theorem percentDecoded_plain (plusAsSpace : Bool) {byte : UInt8} (plain : byte ≠ percent)
    (rest : Bytes) :
    percentDecoded plusAsSpace (byte :: rest) =
      (if byte = 43 ∧ plusAsSpace then 32 else byte) :: percentDecoded plusAsSpace rest := by
  rw [percentDecoded.eq_def]
  exact if_neg plain

theorem percentDecodeBytes_plain (plusAsSpace : Bool) {byte : UInt8} (plain : byte ≠ percent) (rest : Bytes) :
    percentDecodeBytes plusAsSpace (byte :: rest) =
      (percentDecodeBytes plusAsSpace rest).map
        ((if byte = 43 ∧ plusAsSpace then 32 else byte) :: ·) := by
  rw [percentDecodeBytes.eq_def]
  simp only [if_neg plain]
  split
  next => rfl
  next => rfl

theorem percentDecodeBytes_escape (plusAsSpace : Bool) (rest : Bytes) :
    percentDecodeBytes plusAsSpace (percent :: rest) =
      (rest[0]?.bind hexValue).bind fun high =>
        (rest[1]?.bind hexValue).bind fun low =>
          (percentDecodeBytes plusAsSpace (rest.drop 2)).map ((high <<< 4 ||| low) :: ·) := by
  match rest with
  | [] => rfl
  | [high] => cases found : hexValue high <;> simp [percentDecodeBytes, found]
  | high :: low :: rest =>
    simp only [percentDecodeBytes, if_true, List.getElem?_cons_zero, List.getElem?_cons_succ,
      Option.bind_some, List.drop_succ_cons, List.drop_zero]
    cases hexValue high with
    | none => rfl
    | some high =>
      cases hexValue low with
      | none => rfl
      | some low => cases percentDecodeBytes plusAsSpace rest <;> rfl

theorem percentDecodeBytes_eq (plusAsSpace : Bool) (value : Bytes) :
    percentDecodeBytes plusAsSpace value =
      if percentEncodingValid value then some (percentDecoded plusAsSpace value) else none := by
  fun_induction percentEncodingValid value with
  | case1 => rfl
  | case2 high low rest ih =>
    rw [isAsciiHexdigit_eq, isAsciiHexdigit_eq]
    simp only [percentDecodeBytes, percentDecoded, if_true, ih]
    cases hexValue high with
    | none => rfl
    | some high =>
      cases hexValue low with
      | none => rfl
      | some low =>
        cases percentEncodingValid rest with
        | false => rfl
        | true => rfl
  | case3 rest short =>
    rw [percentDecodeBytes.eq_def]
    cases rest with
    | nil => rfl
    | cons high rest =>
      cases rest with
      | nil => rfl
      | cons low rest => exact (short high low rest rfl).elim
  | case4 byte rest plain ih =>
    rw [percentDecodeBytes_plain plusAsSpace plain, percentDecoded_plain plusAsSpace plain, ih]
    cases percentEncodingValid rest with
    | false => rfl
    | true => rfl

end Readings

section Agreement

variable (value : Bytes) (plusAsSpace : Bool)

theorem noHexdigit_eq (byte : Option UInt8) :
    byte.all (fun byte => !isAsciiHexdigit byte) = !byte.any isAsciiHexdigit := by
  cases byte <;> rfl

def validateFrom (index : Nat) : Except ProxyError Unit :=
  Proxy.validatePercentEncoding (value.drop index)

theorem validateTurn_step (index : Nat) :
    validateFrom value index = (validateTurn value index).bind (Turn.resume (validateFrom value)) := by
  unfold validateTurn validateFrom
  split
  next inside =>
    rw [List.drop_eq_getElem_cons inside]
    split
    next escape =>
      have valid := percentEncodingValid_escape (value.drop (index + 1))
      rw [List.getElem?_drop, List.getElem?_drop, List.drop_drop] at valid
      unfold Proxy.validatePercentEncoding
      rw [escape, valid, noHexdigit_eq, noHexdigit_eq]
      cases value[index + 1]?.any isAsciiHexdigit with
      | false => rfl
      | true =>
        cases value[index + 2]?.any isAsciiHexdigit with
        | false => rfl
        | true => rfl
    next plain =>
      unfold Proxy.validatePercentEncoding
      rw [percentEncodingValid_plain plain]
      rfl
  next outside =>
    rw [List.drop_eq_nil_of_le (Nat.le_of_not_lt outside)]
    rfl

theorem validatePercentEncoding_eq :
    validatePercentEncoding value = Proxy.validatePercentEncoding value :=
  Loop.run_unique (validateLoop value) (validateFrom value) (validateTurn_step value) 0

def decodeFrom (state : Decoding) : Except ProxyError Bytes :=
  (percentDecodeBytes plusAsSpace (value.drop state.index)).elim (.error .invalidRequest)
    fun rest => .ok (state.decoded ++ rest)

theorem decoded_push (decoded : Bytes) (byte : UInt8) (rest : Option Bytes) :
    ((rest.map (byte :: ·)).elim (.error .invalidRequest) fun rest => .ok (decoded ++ rest) :
        Except ProxyError Bytes) =
      rest.elim (.error .invalidRequest) fun rest => .ok (decoded ++ [byte] ++ rest) := by
  cases rest with
  | none => rfl
  | some rest =>
    rw [Option.map_some, Option.elim_some, Option.elim_some, List.append_assoc]
    rfl

theorem decodeTurn_step (state : Decoding) :
    decodeFrom value plusAsSpace state =
      (decodeTurn value plusAsSpace state).bind (Turn.resume (decodeFrom value plusAsSpace)) := by
  unfold decodeTurn decodeFrom
  split
  next inside =>
    rw [List.drop_eq_getElem_cons inside]
    simp only
    split
    next escape =>
      have decoded := percentDecodeBytes_escape plusAsSpace (value.drop (state.index + 1))
      rw [List.getElem?_drop, List.getElem?_drop, List.drop_drop] at decoded
      unfold hexAt
      rw [escape, decoded]
      cases value[state.index + 1]?.bind hexValue with
      | none => rfl
      | some high =>
        cases value[state.index + 2]?.bind hexValue with
        | none => rfl
        | some low => exact decoded_push state.decoded (high <<< 4 ||| low) _
    next plain =>
      rw [percentDecodeBytes_plain plusAsSpace plain, decoded_push]
      split
      next => rfl
      next => rfl
  next outside =>
    rw [List.drop_eq_nil_of_le (Nat.le_of_not_lt outside)]
    simp [percentDecodeBytes, Except.bind, Turn.resume]

theorem decodeLoop_run :
    (decodeLoop value plusAsSpace).run ⟨0, []⟩ =
      (percentDecodeBytes plusAsSpace value).elim (.error .invalidRequest) .ok :=
  Loop.run_unique (decodeLoop value plusAsSpace) (decodeFrom value plusAsSpace)
    (decodeTurn_step value plusAsSpace) ⟨0, []⟩

theorem strictPercentDecode_eq :
    strictPercentDecode value plusAsSpace = Proxy.strictPercentDecode value plusAsSpace := by
  unfold strictPercentDecode Proxy.strictPercentDecode
  rw [decodeLoop_run]
  cases percentDecodeBytes plusAsSpace value with
  | none => rfl
  | some decoded => rfl

theorem validatePercentEncoding_ok_iff :
    validatePercentEncoding value = .ok () ↔
      (decodeLoop value plusAsSpace).run ⟨0, []⟩ = .ok (percentDecoded plusAsSpace value) := by
  rw [validatePercentEncoding_eq, decodeLoop_run, percentDecodeBytes_eq]
  unfold Proxy.validatePercentEncoding
  cases percentEncodingValid value with
  | false => simp
  | true => simp

theorem lengthStep_eq (length : Nat) (byte : UInt8) :
    lengthStep length byte =
      if length + (percentEncodeByte byte).length < usizeLimit then
        .ok (length + (percentEncodeByte byte).length)
      else .error .upstream := by
  have written : (if percentEncodingSafe byte then 1 else 3) = (percentEncodeByte byte).length := by
    unfold percentEncodeByte
    split
    next => rfl
    next => rfl
  unfold lengthStep add
  rw [written]
  by_cases fits : length + (percentEncodeByte byte).length < usizeLimit
  · simp only [if_pos fits]
  · simp only [if_neg fits]

theorem lengthFrom_eq {length : Nat} (fits : length < usizeLimit) :
    value.foldlM lengthStep length =
      if length + (percentEncoded value).length < usizeLimit then
        .ok (length + (percentEncoded value).length)
      else .error .upstream := by
  unfold percentEncoded
  induction value generalizing length with
  | nil => simp [fits]
  | cons byte rest ih =>
    rw [List.foldlM_cons, lengthStep_eq, List.flatMap_cons, List.length_append, ← Nat.add_assoc]
    by_cases more : length + (percentEncodeByte byte).length < usizeLimit
    · rw [if_pos more, ok_bind, ih more]
    · rw [if_neg more, error_bind, if_neg (by omega)]

theorem appendByte_eq (output : Bytes) (byte : UInt8) :
    appendByte output byte = pushStr output (percentEncodeByte byte) := by
  have digits : ∀ byte : UInt8, (byte >>> 4).toNat < hexDigits.length ∧
      (byte &&& 0x0f).toNat < hexDigits.length := by
    apply forall_byte
    decide +kernel
  obtain ⟨high, low⟩ := digits byte
  unfold appendByte percentEncodeByte
  split
  next => rfl
  next =>
    rw [get_ok high, get_ok low, List.getD_eq_getElem _ _ high, List.getD_eq_getElem _ _ low]
    rfl

theorem pushStr_ok_iff {output written next : Bytes} :
    pushStr output written = .ok next ↔
      output.length + written.length < sliceLimit ∧ output ++ written = next := by
  unfold pushStr
  split
  next fits => simp [fits]
  next fits => simp [fits]

theorem appendPercentEncoded_written {output next : Bytes}
    (appended : appendPercentEncoded output value = .ok next) :
    next = output ++ percentEncoded value ∧ (value = [] ∨ next.length < sliceLimit) := by
  unfold appendPercentEncoded percentEncoded at *
  induction value generalizing output with
  | nil =>
    cases appended
    simp
  | cons byte rest ih =>
    rw [List.foldlM_cons, appendByte_eq] at appended
    obtain ⟨longer, pushed, appended⟩ := Results.bind_ok appended
    obtain ⟨room, rfl⟩ := pushStr_ok_iff.mp pushed
    obtain ⟨rfl, short⟩ := ih appended
    refine ⟨by rw [List.flatMap_cons, List.append_assoc], .inr ?_⟩
    rcases short with rfl | short
    · simpa using room
    · exact short

theorem appendPercentEncoded_ok {output : Bytes}
    (room : output.length + (percentEncoded value).length < sliceLimit) :
    appendPercentEncoded output value = .ok (output ++ percentEncoded value) := by
  unfold appendPercentEncoded percentEncoded at *
  induction value generalizing output with
  | nil => simp
  | cons byte rest ih =>
    rw [List.flatMap_cons, List.length_append] at room
    rw [List.foldlM_cons, appendByte_eq, pushStr, if_pos (by omega), ok_bind, ih, List.flatMap_cons,
      List.append_assoc]
    rw [List.length_append]
    omega

theorem percentEncodedLength_eq :
    percentEncodedLength value =
      if (percentEncoded value).length < usizeLimit then .ok (percentEncoded value).length
      else .error .upstream := by
  have computed := lengthFrom_eq value (show 0 < usizeLimit by decide)
  rwa [Nat.zero_add] at computed

theorem percentEncodedLength_of_written {output next : Bytes}
    (appended : appendPercentEncoded output value = .ok next) :
    percentEncodedLength value = .ok (percentEncoded value).length := by
  obtain ⟨rfl, short⟩ := appendPercentEncoded_written value appended
  have fits : (percentEncoded value).length < usizeLimit := by
    rcases short with rfl | short
    · show 0 < usizeLimit
      decide
    · have room := sliceLimit_room
      rw [List.length_append] at short
      omega
  rw [percentEncodedLength_eq, if_pos fits]

theorem percentEncodedLength_ok {length : Nat} (computed : percentEncodedLength value = .ok length) :
    length = (percentEncoded value).length := by
  rw [percentEncodedLength_eq] at computed
  split at computed
  next => cases computed; rfl
  next => cases computed

theorem strictPercentDecode_ok_iff :
    (∃ decoded, strictPercentDecode value plusAsSpace = .ok decoded) ↔
      validatePercentEncoding value = .ok () ∧ IsUtf8 (percentDecoded plusAsSpace value) := by
  rw [strictPercentDecode_eq, validatePercentEncoding_eq]
  unfold Proxy.strictPercentDecode Proxy.validatePercentEncoding
  rw [percentDecodeBytes_eq]
  cases percentEncodingValid value with
  | false => simp
  | true =>
    simp only [if_true, true_and]
    split
    next valid => simp [valid]
    next invalid => simp [invalid]

end Agreement

theorem percentCoding_agrees :
    (∀ (text : String) (output next : Bytes), appendPercentEncoded output (utf8 text) = .ok next →
      ∃ written, next = output ++ written ∧
        (∀ plusAsSpace, strictPercentDecode written plusAsSpace = .ok (utf8 text)) ∧
        percentEncodedLength (utf8 text) = .ok written.length) ∧
    (∀ (text : String) (output : Bytes) (length : Nat),
      percentEncodedLength (utf8 text) = .ok length → output.length + length < sliceLimit →
      ∃ next, appendPercentEncoded output (utf8 text) = .ok next) ∧
    ∀ (value : Bytes) (plusAsSpace : Bool),
      ((∃ decoded, strictPercentDecode value plusAsSpace = .ok decoded) ↔
        validatePercentEncoding value = .ok () ∧ IsUtf8 (percentDecoded plusAsSpace value)) ∧
      (validatePercentEncoding value = .ok () ↔
        (decodeLoop value plusAsSpace).run ⟨0, []⟩ = .ok (percentDecoded plusAsSpace value)) := by
  refine ⟨?_, ?_, ?_⟩
  · intro text output next appended
    have computed := percentEncodedLength_of_written (utf8 text) appended
    obtain ⟨rfl, -⟩ := appendPercentEncoded_written (utf8 text) appended
    refine ⟨percentEncoded (utf8 text), rfl, fun plusAsSpace => ?_, computed⟩
    rw [strictPercentDecode_eq]
    exact strictPercentDecode_encoded plusAsSpace (isUtf8_utf8 text)
  · intro text output length computed room
    rw [percentEncodedLength_ok (utf8 text) computed] at room
    exact ⟨_, appendPercentEncoded_ok (utf8 text) room⟩
  · intro value plusAsSpace
    exact ⟨strictPercentDecode_ok_iff value plusAsSpace,
      validatePercentEncoding_ok_iff value plusAsSpace⟩

theorem percentCoding_of_blank :
    strictPercentDecode (utf8 "a%20b") true = .ok (utf8 "a b") ∧
      percentEncodedLength (utf8 "a b") = .ok 5 ∧
      validatePercentEncoding (utf8 "%f0%9") ≠ .ok () := by
  have appended : appendPercentEncoded [] (utf8 "a b") = .ok (utf8 "a%20b") := by decide +kernel
  obtain ⟨encodes, -, decodes⟩ := percentCoding_agrees
  obtain ⟨written, rfl, decoded, computed⟩ := encodes "a b" [] _ appended
  have cut : (decodeLoop (utf8 "%f0%9") true).run ⟨0, []⟩ = .error .invalidRequest := by
    decide +kernel
  refine ⟨decoded true, computed, fun valid => ?_⟩
  cases cut.symm.trans ((decodes _ true).2.mp valid)

end StreamServer.Proxy.PercentCoding
