import StreamServer.Shared.ByteText
import StreamServer.Shared.Checked
import Mathlib.Data.List.Chain

set_option autoImplicit false

namespace StrSlices

open ByteText

def opensCharacter (byte : UInt8) : Bool := byte < 128 || 192 ≤ byte

def isCharBoundary (text : Bytes) (index : Nat) : Bool :=
  if index = 0 then true
  else
    match text[index]? with
    | some byte => opensCharacter byte
    | none => index == text.length

def sliceTo (text : Bytes) (stop : Nat) : Checked Bytes :=
  if isCharBoundary text stop then .ok (text.take stop) else .error .outOfBounds

def sliceFrom (text : Bytes) (start : Nat) : Checked Bytes :=
  if isCharBoundary text start then .ok (text.drop start) else .error .outOfBounds

/-- After an ASCII byte another character begins. -/
def Aligned (text : Bytes) : Prop :=
  text.IsChain fun byte next => byte < 128 → opensCharacter next = true

theorem opensCharacter_of_first {byte : UInt8} (first : byte.IsUTF8FirstByte) :
    opensCharacter byte = true := by
  revert byte
  apply forall_byte
  decide +kernel

theorem first_of_ascii {byte : UInt8} (ascii : byte < 128) : byte.IsUTF8FirstByte := by
  revert byte
  apply forall_byte
  decide +kernel

theorem length_utf8EncodeChar_of_ascii {character : Char} {byte : UInt8}
    (first : (String.utf8EncodeChar character)[0]? = some byte) (ascii : byte < 128) :
    (String.utf8EncodeChar character).length = 1 := by
  have small : byte.toNat < 128 := UInt8.lt_iff_toNat_lt.mp ascii
  unfold String.utf8EncodeChar at first ⊢
  simp only at first ⊢
  split at first
  next single => rw [if_pos single, List.length_singleton]
  next =>
    -- The other lead bytes carry a mark above the ASCII range.
    split at first
    next =>
      cases first
      simp only [UInt8.toNat_ofNat'] at small
      omega
    next =>
      split at first <;>
      · cases first
        simp only [UInt8.toNat_ofNat'] at small
        omega

theorem opensCharacter_utf8EncodeChar (character : Char) :
    ∀ byte ∈ (String.utf8EncodeChar character).head?, opensCharacter byte = true := by
  intro byte first
  rw [List.head?_eq_getElem?] at first
  obtain ⟨inside, rfl⟩ := List.getElem?_eq_some_iff.mp first
  exact opensCharacter_of_first (UInt8.isUTF8FirstByte_getElem_utf8EncodeChar.mpr rfl)

theorem aligned_utf8EncodeChar (character : Char) : Aligned (String.utf8EncodeChar character) := by
  refine List.isChain_iff_getElem.mpr fun index inside ascii => ?_
  have first : index = 0 :=
    UInt8.isUTF8FirstByte_getElem_utf8EncodeChar.mp (first_of_ascii ascii)
  subst first
  have single := length_utf8EncodeChar_of_ascii
    (List.getElem?_eq_getElem (Nat.lt_of_succ_lt inside)) ascii
  omega

theorem aligned_characters (characters : List Char) :
    Aligned (characters.flatMap String.utf8EncodeChar) := by
  induction characters with
  | nil => exact .nil
  | cons character rest ih =>
    refine List.IsChain.append (aligned_utf8EncodeChar character) ih fun last _ next first _ => ?_
    cases rest with
    | nil => cases first
    | cons follower others =>
      apply opensCharacter_utf8EncodeChar follower
      have nonempty : String.utf8EncodeChar follower ≠ [] := by
        apply List.ne_nil_of_length_pos
        simp [Char.utf8Size_pos]
      rw [List.map_cons, List.flatten_cons, List.head?_append, List.head?_eq_some_head nonempty] at first
      rw [List.head?_eq_some_head nonempty]
      exact first

theorem aligned_of_isUtf8 {text : Bytes} (valid : IsUtf8 text) : Aligned text := by
  obtain ⟨characters, encoded⟩ := valid
  have same : text = characters.flatMap String.utf8EncodeChar := by
    have bytes := congrArg (fun array : ByteArray => array.data.toList) encoded
    simpa [List.utf8Encode] using bytes
  rw [same]
  exact aligned_characters characters

theorem isCharBoundary_after {text : Bytes} (aligned : Aligned text) {index : Nat} {byte : UInt8}
    (here : text[index]? = some byte) (ascii : byte < 128) : isCharBoundary text (index + 1) = true := by
  unfold isCharBoundary
  rw [if_neg (Nat.succ_ne_zero _)]
  obtain ⟨inside, rfl⟩ := List.getElem?_eq_some_iff.mp here
  cases after : text[index + 1]? with
  | some next =>
    obtain ⟨fits, rfl⟩ := List.getElem?_eq_some_iff.mp after
    exact List.isChain_iff_getElem.mp aligned index fits ascii
  | none =>
    have outside := List.getElem?_eq_none_iff.mp after
    have last : index + 1 = text.length := by omega
    simp [last]

section Search

def find (pattern text : Bytes) : Option Nat :=
  (windows pattern.length text).findIdx? (· = pattern)

def getBytes (text : Bytes) (start count : Nat) : Option Bytes :=
  if start + count ≤ text.length then some ((text.drop start).take count) else none

theorem find_some {pattern text : Bytes} {index : Nat} (positive : 0 < pattern.length)
    (found : find pattern text = some index) : ∃ before rest, text = before ++ pattern ++ rest ∧
      before.length = index ∧ ∀ earlier < index, ¬ OccursAt pattern text earlier := by
  obtain ⟨occurs, first⟩ := (windows_findIdx?_eq_some_iff positive).mp found
  have inside := occurs.inside positive
  refine ⟨text.take index, text.drop (index + pattern.length), ?_, ?_, first⟩
  · have here : (text.drop index).take pattern.length = pattern := occurs
    calc text = text.take index ++ text.drop index := (List.take_append_drop ..).symm
      _ = text.take index ++ ((text.drop index).take pattern.length ++
            (text.drop index).drop pattern.length) :=
          congrArg (text.take index ++ ·) (List.take_append_drop ..).symm
      _ = _ := by rw [here, List.drop_drop, List.append_assoc]
  · rw [List.length_take]
    omega

theorem find_none {pattern text : Bytes} (positive : 0 < pattern.length)
    (missing : find pattern text = none) (before rest : Bytes) :
    text ≠ before ++ pattern ++ rest := by
  rintro rfl
  have window : (windows pattern.length (before ++ pattern ++ rest))[before.length]? = some pattern := by
    rw [windows_getElem? positive, if_pos (by simp), List.append_assoc, List.drop_left, List.take_left]
  have other := List.findIdx?_eq_none_iff.mp missing pattern (List.mem_of_getElem? window)
  simp at other

theorem getBytes_eq_some_iff {text read : Bytes} {start count : Nat} (inside : start ≤ text.length) :
    getBytes text start count = some read ↔
      ∃ rest, text.drop start = read ++ rest ∧ read.length = count := by
  unfold getBytes
  rw [Option.ite_none_right_eq_some, Option.some.injEq]
  constructor
  · rintro ⟨fits, rfl⟩
    refine ⟨(text.drop start).drop count, (List.take_append_drop ..).symm, ?_⟩
    rw [List.length_take, List.length_drop]
    omega
  · rintro ⟨rest, joined, rfl⟩
    have lengths := congrArg List.length joined
    rw [List.length_drop, List.length_append] at lengths
    exact ⟨by omega, by rw [joined, List.take_left]⟩

end Search

end StrSlices
