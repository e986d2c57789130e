import StreamServer.Shared.ByteText
import StreamServer.Shared.Checked

set_option autoImplicit false

-- The `hex` crate: two lower-case digits for each byte.
namespace Hex

open ByteText

def digit (nibble : UInt8) : UInt8 := if nibble < 10 then 48 + nibble else 87 + nibble

def encode (data : Bytes) : Bytes :=
  data.flatMap fun byte => [digit (byte >>> (4 : UInt8)), digit (byte &&& (15 : UInt8))]

def value (letter : UInt8) : Option UInt8 :=
  if isAsciiDigit letter then some (letter - 48)
  else if 97 ≤ letter && letter ≤ 102 then some (letter - 87)
  else if 65 ≤ letter && letter ≤ 70 then some (letter - 55)
  else none

def decode : Bytes → Option Bytes
  | [] => some []
  | [_] => none
  | high :: low :: rest => do
      let high ← value high
      let low ← value low
      let decoded ← decode rest
      return (high <<< (4 : UInt8) ||| low) :: decoded

def isLowerDigit (letter : UInt8) : Bool := isAsciiDigit letter || (97 ≤ letter && letter ≤ 102)

theorem byte_digits (byte : UInt8) :
    value (digit (byte >>> (4 : UInt8))) = some (byte >>> (4 : UInt8)) ∧
      value (digit (byte &&& (15 : UInt8))) = some (byte &&& (15 : UInt8)) ∧
      (byte >>> (4 : UInt8)) <<< (4 : UInt8) ||| (byte &&& (15 : UInt8)) = byte ∧
      isLowerDigit (digit (byte >>> (4 : UInt8))) = true ∧
      isLowerDigit (digit (byte &&& (15 : UInt8))) = true := by
  revert byte
  exact forall_byte (by decide +kernel)

theorem decode_encode (data : Bytes) : decode (encode data) = some data := by
  induction data with
  | nil => rfl
  | cons byte rest ih =>
    obtain ⟨high, low, joined, _⟩ := byte_digits byte
    show decode (_ :: _ :: encode rest) = _
    rw [decode, high, low, ih]
    simp [joined]

theorem length_encode (data : Bytes) : (encode data).length = 2 * data.length := by
  induction data with
  | nil => rfl
  | cons byte rest ih =>
    show (encode rest).length + 1 + 1 = _
    rw [ih, List.length_cons]
    omega

theorem encode_isLowerDigit (data : Bytes) : (encode data).all isLowerDigit = true := by
  rw [List.all_eq_true]
  intro letter written
  obtain ⟨byte, _, digits⟩ := List.mem_flatMap.mp written
  obtain ⟨_, _, _, high, low⟩ := byte_digits byte
  rcases List.mem_cons.mp digits with rfl | last
  · exact high
  · rcases List.mem_singleton.mp last with rfl
    exact low

end Hex

namespace Decimals

open ByteText

def digitByte (digit : Char) : UInt8 := .ofNat digit.toNat

def decimal (number : Nat) : Bytes := (Nat.toDigits 10 number).map digitByte

def decimalInt (number : Int) : Bytes :=
  if number < 0 then 45 :: decimal number.natAbs else decimal number.natAbs

variable {number : Nat}

theorem decimal_ne_nil : decimal number ≠ [] := by
  simp [decimal, Nat.toDigits_ne_nil]

theorem toNat_digitByte {digit : Char} (isDigit : digit.isDigit = true) :
    (digitByte digit).toNat = digit.toNat := by
  simp only [Char.isDigit, Bool.and_eq_true, decide_eq_true_eq, ge_iff_le, UInt32.le_iff_toNat_le]
    at isDigit
  have below : digit.toNat < 256 := Nat.lt_of_le_of_lt isDigit.2 (by decide)
  simp [digitByte, Nat.mod_eq_of_lt below]

theorem isAsciiDigit_of_mem_decimal {byte : UInt8} (member : byte ∈ decimal number) :
    isAsciiDigit byte = true := by
  obtain ⟨digit, written, rfl⟩ := List.mem_map.mp member
  have isDigit : digit.isDigit = true := Nat.isDigit_of_mem_toDigits (by decide) (by decide) written
  have same := toNat_digitByte isDigit
  simp only [Char.isDigit, Bool.and_eq_true, decide_eq_true_eq, ge_iff_le, UInt32.le_iff_toNat_le]
    at isDigit
  simp only [isAsciiDigit, Bool.and_eq_true, decide_eq_true_eq, UInt8.le_iff_toNat_le, same]
  exact isDigit

theorem decimal_value :
    (decimal number).foldl (fun value digit => value * 10 + (digit.toNat - 48)) 0 = number := by
  have step : ∀ digits : List Char, (∀ digit ∈ digits, digit.isDigit = true) → ∀ value,
      (digits.map digitByte).foldl (fun value digit => value * 10 + (digit.toNat - 48)) value =
        Nat.ofDigitChars 10 digits value := by
    intro digits
    induction digits with
    | nil => intro _ value; rfl
    | cons digit rest ih =>
      intro each value
      rw [List.map_cons, List.foldl_cons, ih (fun other member => each other (by simp [member])),
        toNat_digitByte (each digit (by simp)), Nat.ofDigitChars_cons, Nat.mul_comm]
      rfl
  rw [decimal, step _ fun digit member =>
    Nat.isDigit_of_mem_toDigits (by decide) (by decide) member, Nat.ofDigitChars_ten_toDigits]

def digitsValue (digits : Bytes) : Nat :=
  digits.foldl (fun value digit => value * 10 + (digit.toNat - 48)) 0

def parseDigits (text : Bytes) : Option Nat :=
  if text ≠ [] ∧ text.all isAsciiDigit then some (digitsValue text) else none

-- `str::parse` of a word of 64 bits, be it a `u64` or a `usize`.
def parseU64 (text : Bytes) : Option Nat :=
  let digits := if text.head? = some 43 then text.tail else text
  (parseDigits digits).filter (· < u64Limit)

theorem parseDigits_ok {text : Bytes} {value : Nat} (parsed : parseDigits text = some value) :
    text ≠ [] ∧ (∀ digit ∈ text, isAsciiDigit digit = true) ∧ digitsValue text = value := by
  unfold parseDigits at parsed
  split at parsed
  next accepted =>
    exact ⟨accepted.1, List.all_eq_true.mp accepted.2, Option.some.inj parsed⟩
  next => cases parsed

theorem parseDigits_decimal (number : Nat) : parseDigits (decimal number) = some number := by
  have digits : (decimal number).all isAsciiDigit = true :=
    List.all_eq_true.mpr fun _ member => isAsciiDigit_of_mem_decimal member
  rw [parseDigits, if_pos ⟨decimal_ne_nil, digits⟩, digitsValue, decimal_value]

theorem decimal_head_ne {number : Nat} {sign : UInt8} (notDigit : isAsciiDigit sign = false)
    {rest : Bytes} : decimal number ≠ sign :: rest := by
  intro same
  have first : sign ∈ decimal number := by simp [same]
  have digit := isAsciiDigit_of_mem_decimal first
  rw [notDigit] at digit
  cases digit

theorem parseU64_decimal {number : Nat} (fits : number < u64Limit) :
    parseU64 (decimal number) = some number := by
  have unsigned : (decimal number).head? ≠ some 43 := by
    intro signed
    obtain ⟨rest, same⟩ := List.head?_eq_some_iff.mp signed
    exact decimal_head_ne (by decide) same
  rw [parseU64, if_neg unsigned, parseDigits_decimal, Option.filter_some, if_pos (by simpa using fits)]

end Decimals
