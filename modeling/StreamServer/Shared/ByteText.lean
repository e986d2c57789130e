import Mathlib.Algebra.Ring.Nat
import Mathlib.Data.List.Basic
import StreamServer.Shared.Trimming

set_option autoImplicit false

/-- Texts are the sequences of their UTF-8 bytes. -/
abbrev Bytes := List UInt8

def utf8 (text : String) : Bytes := text.toByteArray.data.toList

namespace ByteText

theorem forall_byte {property : UInt8 → Prop} (each : ∀ number : Fin 256, property (.ofNat number)) :
    ∀ byte, property byte := by
  intro byte
  have checked := each ⟨byte.toNat, byte.toNat_lt⟩
  simpa using checked

def IsUtf8 (bytes : Bytes) : Prop := bytes.toByteArray.IsValidUTF8

instance (bytes : Bytes) : Decidable (IsUtf8 bytes) :=
  inferInstanceAs (Decidable bytes.toByteArray.IsValidUTF8)

theorem isUtf8_utf8 (text : String) : IsUtf8 (utf8 text) := by
  have same : (utf8 text).toByteArray = text.toByteArray := by
    apply ByteArray.ext
    rw [List.data_toByteArray]
    rfl
  unfold IsUtf8
  rw [same]
  exact text.isValidUTF8

theorem isUtf8_append {left right : Bytes} (leftValid : IsUtf8 left) (rightValid : IsUtf8 right) :
    IsUtf8 (left ++ right) := by
  unfold IsUtf8
  rw [List.toByteArray_append]
  exact leftValid.append rightValid

theorem isUtf8_singleton {byte : UInt8} (ascii : byte < 128) : IsUtf8 [byte] := by
  have small : byte.toNat < 128 := UInt8.lt_iff_toNat_lt.mp ascii
  have valid : byte.toNat.isValidChar := Or.inl (by omega)
  have number : (Char.ofNat byte.toNat).val.toNat = byte.toNat := by
    rw [Char.ofNat, dif_pos valid]
    rfl
  have encoded : String.utf8EncodeChar (Char.ofNat byte.toNat) = [byte] := by
    simp only [String.utf8EncodeChar, number, if_pos (by omega : byte.toNat ≤ 127),
      UInt8.ofNat_toNat]
  exact ⟨[Char.ofNat byte.toNat], by rw [List.utf8Encode_singleton, encoded]⟩

theorem isUtf8_of_ascii {bytes : Bytes} (ascii : ∀ byte ∈ bytes, byte < 128) : IsUtf8 bytes := by
  induction bytes with
  | nil => exact ByteArray.isValidUTF8_empty
  | cons byte rest ih =>
    exact isUtf8_append (isUtf8_singleton (ascii byte (by simp)))
      (ih fun other member => ascii other (by simp [member]))

def isAsciiDigit (byte : UInt8) : Bool := 48 ≤ byte && byte ≤ 57

def isAsciiLower (byte : UInt8) : Bool := 97 ≤ byte && byte ≤ 122

def isAsciiUpper (byte : UInt8) : Bool := 65 ≤ byte && byte ≤ 90

def isAsciiAlphabetic (byte : UInt8) : Bool := isAsciiLower byte || isAsciiUpper byte

def isAsciiAlphanumeric (byte : UInt8) : Bool := isAsciiAlphabetic byte || isAsciiDigit byte

def toAsciiLowercase (byte : UInt8) : UInt8 := if isAsciiUpper byte then byte + 32 else byte

def splitOnce (separator : UInt8) : Bytes → Option (Bytes × Bytes)
  | [] => none
  | byte :: rest =>
      if byte = separator then some ([], rest)
      else (splitOnce separator rest).map fun (left, right) => (byte :: left, right)

theorem splitOnce_append {separator : UInt8} {left : Bytes} (absent : separator ∉ left)
    (right : Bytes) : splitOnce separator (left ++ separator :: right) = some (left, right) := by
  induction left with
  | nil => simp [splitOnce]
  | cons byte rest ih =>
    simp only [List.mem_cons, not_or] at absent
    simp [splitOnce, Ne.symm absent.1, ih absent.2]

theorem splitOnce_some {separator : UInt8} {text left right : Bytes}
    (found : splitOnce separator text = some (left, right)) :
    text = left ++ separator :: right ∧ separator ∉ left := by
  induction text generalizing left with
  | nil => cases found
  | cons byte rest ih =>
    unfold splitOnce at found
    split at found
    next here =>
      cases found
      exact ⟨by rw [here, List.nil_append], List.not_mem_nil⟩
    next elsewhere =>
      obtain ⟨⟨before, after⟩, earlier, paired⟩ := Option.map_eq_some_iff.mp found
      cases paired
      obtain ⟨joined, absent⟩ := ih earlier
      refine ⟨congrArg (byte :: ·) joined, ?_⟩
      rw [List.mem_cons, not_or]
      exact ⟨Ne.symm elsewhere, absent⟩

def trimMatches (matching : UInt8 → Bool) (text : Bytes) : Bytes :=
  ((text.dropWhile matching).reverse.dropWhile matching).reverse

theorem trimMatches_trimMatches (matching : UInt8 → Bool) (text : Bytes) :
    trimMatches matching (trimMatches matching text) = trimMatches matching text :=
  Trimming.trim_of_tight (Trimming.trim_tight matching text)

theorem trimMatches_of_forall {matching : UInt8 → Bool} {text : Bytes}
    (kept : ∀ byte ∈ text, matching byte = false) : trimMatches matching text = text := by
  refine Trimming.trim_of_tight ⟨fun byte first => ?_, fun byte last => ?_⟩
  · exact kept byte (List.mem_of_mem_head? first)
  · exact kept byte (List.mem_of_mem_getLast? last)

def startsWith (start text : Bytes) : Bool := start.isPrefixOf text

def eqIgnoreAsciiCase (left right : Bytes) : Bool :=
  left.map toAsciiLowercase == right.map toAsciiLowercase

def windows (size : Nat) : Bytes → List Bytes
  | [] => []
  | byte :: rest =>
      if size ≤ rest.length + 1 then (byte :: rest).take size :: windows size rest else []

theorem windows_getElem? {size : Nat} (positive : 0 < size) (bytes : Bytes) (index : Nat) :
    (windows size bytes)[index]? =
      if index + size ≤ bytes.length then some ((bytes.drop index).take size) else none := by
  induction bytes generalizing index with
  | nil =>
    rw [if_neg (by simp only [List.length_nil]; omega)]
    rfl
  | cons byte rest ih =>
    simp only [windows, List.length_cons]
    split
    next fits =>
      cases index with
      | zero => simp [fits]
      | succ index =>
        rw [List.getElem?_cons_succ, ih]
        simp only [List.drop_succ_cons]
        congr 1
        simp only [eq_iff_iff]
        omega
    next short =>
      rw [if_neg (by omega)]
      rfl

def OccursAt (pattern bytes : Bytes) (offset : Nat) : Prop :=
  (bytes.drop offset).take pattern.length = pattern

instance (pattern bytes : Bytes) (offset : Nat) : Decidable (OccursAt pattern bytes offset) :=
  inferInstanceAs (Decidable (_ = _))

theorem OccursAt.inside {pattern bytes : Bytes} {offset : Nat} (positive : 0 < pattern.length)
    (occurs : OccursAt pattern bytes offset) : offset + pattern.length ≤ bytes.length := by
  have sameLength := congrArg List.length occurs
  simp only [List.length_take, List.length_drop] at sameLength
  omega

theorem windows_findIdx?_eq_some_iff {pattern bytes : Bytes} {position : Nat}
    (positive : 0 < pattern.length) :
    (windows pattern.length bytes).findIdx? (· = pattern) = some position ↔
      OccursAt pattern bytes position ∧ ∀ earlier < position, ¬ OccursAt pattern bytes earlier := by
  have window : ∀ index, (windows pattern.length bytes)[index]? = some pattern ↔
      OccursAt pattern bytes index := by
    intro index
    rw [windows_getElem? positive]
    constructor
    · intro found
      split at found
      next => exact Option.some.inj found
      next => cases found
    · intro occurs
      rw [if_pos (occurs.inside positive), show List.take _ _ = pattern from occurs]
  rw [List.findIdx?_eq_some_iff_getElem]
  constructor
  · rintro ⟨inside, found, earlierMissed⟩
    refine ⟨(window position).mp ?_, ?_⟩
    · rw [List.getElem?_eq_getElem inside]
      simpa using found
    · intro earlier before occurs
      have found := (window earlier).mpr occurs
      obtain ⟨_, same⟩ := List.getElem?_eq_some_iff.mp found
      exact earlierMissed earlier before (by simpa using same)
  · rintro ⟨occurs, first⟩
    obtain ⟨inside, same⟩ := List.getElem?_eq_some_iff.mp ((window position).mpr occurs)
    refine ⟨inside, by simpa using same, ?_⟩
    intro earlier before found
    refine first earlier before ((window earlier).mp ?_)
    rw [List.getElem?_eq_getElem (Nat.lt_trans before inside)]
    simpa using found

theorem findIdx?_absent {separator : UInt8} {text : Bytes} (absent : separator ∉ text) :
    text.findIdx? (· = separator) = none := by
  rw [List.findIdx?_eq_none_iff]
  intro byte member
  simp only [decide_eq_false_iff_not]
  rintro rfl
  exact absent member

theorem findIdx?_separator {separator : UInt8} {left : Bytes} (absent : separator ∉ left)
    (right : Bytes) : (left ++ separator :: right).findIdx? (· = separator) = some left.length := by
  rw [List.findIdx?_append, findIdx?_absent absent]
  simp [List.findIdx?_cons]

def slice (text : Bytes) (start stop : Nat) : Bytes := (text.take stop).drop start

end ByteText
