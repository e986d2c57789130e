import StreamServer.Shared.ByteText
import Mathlib.Data.Option.Basic

set_option autoImplicit false

-- One byte range of a `Range` header and the bytes it stands for, over any way to write numbers.
inductive RangeSpec where
  | closed (first last : Nat)
  | opened (first : Nat)
  | suffix (length : Nat)
deriving DecidableEq, Repr

namespace RangeSpec

def assigned (spec : RangeSpec) (size : Nat) : Option (Nat × Nat) :=
  match spec with
  | closed first last =>
      if first ≤ last ∧ first < size then some (first, min last (size - 1)) else none
  | opened first => if first < size then some (first, size - 1) else none
  | suffix length => if 0 < length ∧ 0 < size then some (size - length, size - 1) else none

theorem assigned_inside {spec : RangeSpec} {size start last : Nat}
    (satisfied : spec.assigned size = some (start, last)) : start ≤ last ∧ last < size := by
  cases spec <;> simp only [assigned] at satisfied <;> split at satisfied <;> cases satisfied <;> omega

theorem assigned_empty (spec : RangeSpec) : spec.assigned 0 = none := by
  cases spec <;> simp [assigned]

section Spelling

variable (number : Bytes → Nat → Prop)

inductive Spells : Bytes → RangeSpec → Prop where
  | closed {firstText lastText : Bytes} {first last : Nat} (leading : number firstText first)
      (trailing : number lastText last) : Spells (firstText ++ 45 :: lastText) (.closed first last)
  | opened {firstText : Bytes} {first : Nat} (leading : number firstText first) :
      Spells (firstText ++ [45]) (.opened first)
  | suffix {lengthText : Bytes} {length : Nat} (trailing : number lengthText length) :
      Spells (45 :: lengthText) (.suffix length)

variable {number} in
theorem Spells.byte {text : Bytes} {spec : RangeSpec} (spelled : Spells number text spec)
    (kind : UInt8 → Prop)
    (written : ∀ text value, number text value → ∀ byte ∈ text, kind byte) :
    ∀ byte ∈ text, byte = 45 ∨ kind byte := by
  intro byte member
  cases spelled with
  | closed leading trailing =>
    rcases List.mem_append.mp member with first | later
    · exact .inr (written _ _ leading byte first)
    · exact (List.mem_cons.mp later).imp_right (written _ _ trailing byte)
  | opened leading =>
    rcases List.mem_append.mp member with first | later
    · exact .inr (written _ _ leading byte first)
    · exact .inl (List.mem_singleton.mp later)
  | suffix trailing => exact (List.mem_cons.mp member).imp_right (written _ _ trailing byte)

def Denotes (header : Bytes) (spec : RangeSpec) : Prop :=
  ∃ text, header = utf8 "bytes=" ++ text ∧ Spells number text spec

end Spelling

section Readers

variable {number : Bytes → Nat → Prop} {read : Bytes → Option Nat}

/-- What a reader of numbers has to say about a header, once the hyphen has been found. -/
def readSpec (read : Bytes → Option Nat) (left right : Bytes) : Option RangeSpec :=
  if left = [] then (read right).map .suffix
  else if right = [] then (read left).map .opened
  else (read left).bind fun first => (read right).map (.closed first)

theorem spells_of_readSpec {left right : Bytes} {spec : RangeSpec}
    (exact : ∀ text value, read text = some value ↔ number text value)
    (written : readSpec read left right = some spec) : Spells number (left ++ 45 :: right) spec := by
  unfold readSpec at written
  split at written
  next blank =>
    obtain ⟨length, value, rfl⟩ := Option.map_eq_some_iff.mp written
    rw [blank]
    exact .suffix ((exact _ _).mp value)
  split at written
  next blank =>
    obtain ⟨first, value, rfl⟩ := Option.map_eq_some_iff.mp written
    rw [blank]
    exact .opened ((exact _ _).mp value)
  next =>
    obtain ⟨first, leading, written⟩ := Option.bind_eq_some_iff.mp written
    obtain ⟨last, trailing, rfl⟩ := Option.map_eq_some_iff.mp written
    exact .closed ((exact _ _).mp leading) ((exact _ _).mp trailing)

theorem Spells.parts {text : Bytes} {spec : RangeSpec} (spelled : Spells number text spec)
    (exact : ∀ text value, read text = some value ↔ number text value)
    (nonempty : ∀ value, ¬ number [] value)
    (unhyphened : ∀ text value, number text value → (45 : UInt8) ∉ text) :
    ∃ left right, text = left ++ 45 :: right ∧ 45 ∉ left ∧ 45 ∉ right ∧
      readSpec read left right = some spec := by
  cases spelled with
  | @closed firstText lastText first last leading trailing =>
    have firstBlank : firstText ≠ [] := fun blank => nonempty first (blank ▸ leading)
    have lastBlank : lastText ≠ [] := fun blank => nonempty last (blank ▸ trailing)
    refine ⟨firstText, lastText, rfl, unhyphened _ _ leading, unhyphened _ _ trailing, ?_⟩
    rw [readSpec, if_neg firstBlank, if_neg lastBlank, (exact _ _).mpr leading,
      (exact _ _).mpr trailing]
    rfl
  | @opened firstText first leading =>
    have firstBlank : firstText ≠ [] := fun blank => nonempty first (blank ▸ leading)
    refine ⟨firstText, [], rfl, unhyphened _ _ leading, by simp, ?_⟩
    rw [readSpec, if_neg firstBlank, if_pos rfl, (exact _ _).mpr leading]
    rfl
  | @suffix lengthText length trailing =>
    refine ⟨[], lengthText, rfl, by simp, unhyphened _ _ trailing, ?_⟩
    rw [readSpec, if_pos rfl, (exact _ _).mpr trailing]
    rfl

end Readers

end RangeSpec
