import Mathlib.Data.List.Basic
import Mathlib.Tactic.NormNum

set_option autoImplicit false

-- Codes whose words show where they end, so that what is written one after the other can be told
-- apart.
namespace Framing

variable {A B : Type}

section BigEndian

def bigEndian : Nat → Nat → List UInt8
  | 0, _ => []
  | width + 1, value => bigEndian width (value / 256) ++ [.ofNat value]

theorem bigEndian_length (width value : Nat) : (bigEndian width value).length = width := by
  induction width generalizing value with
  | zero => rfl
  | succ width ih => simp [bigEndian, ih]

theorem bigEndian_mod (width value : Nat) :
    bigEndian width (value % 256 ^ width) = bigEndian width value := by
  induction width generalizing value with
  | zero => rfl
  | succ width ih =>
      have above : value % 256 ^ (width + 1) / 256 = value / 256 % 256 ^ width := by
        rw [Nat.pow_succ', Nat.mod_mul_right_div_self]
      have last : UInt8.ofNat (value % 256 ^ (width + 1)) = .ofNat value := by
        apply UInt8.toNat_inj.mp
        simp only [UInt8.toNat_ofNat', Nat.reducePow]
        exact Nat.mod_mod_of_dvd value ⟨256 ^ width, Nat.pow_succ'⟩
      rw [bigEndian, above, ih, last, bigEndian]

theorem bigEndian_add (high low value : Nat) :
    bigEndian (high + low) value = bigEndian high (value / 256 ^ low) ++ bigEndian low value := by
  induction low generalizing value with
  | zero => simp [bigEndian]
  | succ low ih =>
      rw [← Nat.add_assoc, bigEndian, ih, bigEndian, Nat.div_div_eq_div_mul, ← Nat.pow_succ',
        List.append_assoc]

theorem bigEndian_injective {width first second : Nat} (small : first < 256 ^ width)
    (smallOther : second < 256 ^ width) (same : bigEndian width first = bigEndian width second) :
    first = second := by
  induction width generalizing first second with
  | zero => omega
  | succ width ih =>
      obtain ⟨high, low⟩ := List.append_inj' same rfl
      have highs := ih (Nat.div_lt_of_lt_mul (Nat.pow_succ' ▸ small))
        (Nat.div_lt_of_lt_mul (Nat.pow_succ' ▸ smallOther)) high
      have lows := congrArg UInt8.toNat (List.singleton_inj.mp low)
      simp only [UInt8.toNat_ofNat', Nat.reducePow] at lows
      omega

end BigEndian

section Codes

def SelfDelimiting (valid : A → Prop) (code : A → List B) : Prop :=
  ∀ ⦃first second : A⦄ ⦃rest later : List B⦄, valid first → valid second →
    code first ++ rest = code second ++ later → first = second ∧ rest = later

def frame (lengthCode : Nat → List B) (value : List B) : List B := lengthCode value.length ++ value

variable {valid : A → Prop} {code : A → List B}

theorem frame_selfDelimiting {lengthCode : Nat → List B} {bound : Nat → Prop}
    (delimited : SelfDelimiting bound lengthCode) :
    SelfDelimiting (fun value : List B => bound value.length) (frame lengthCode) := by
  intro first second rest later boundFirst boundSecond same
  simp only [frame, List.append_assoc] at same
  obtain ⟨lengths, values⟩ := delimited boundFirst boundSecond same
  exact List.append_inj values lengths

theorem fixedWidth_selfDelimiting {width : Nat} (sized : ∀ value, (code value).length = width)
    (injective : ∀ ⦃first second⦄, valid first → valid second → code first = code second →
      first = second) :
    SelfDelimiting valid code := by
  intro first second rest later validFirst validSecond same
  obtain ⟨codes, rests⟩ := List.append_inj same ((sized first).trans (sized second).symm)
  exact ⟨injective validFirst validSecond codes, rests⟩

theorem flatMap_injective (delimited : SelfDelimiting valid code)
    (nonempty : ∀ value, code value ≠ []) {first second : List A}
    (validFirst : ∀ value ∈ first, valid value) (validSecond : ∀ value ∈ second, valid value)
    (same : first.flatMap code = second.flatMap code) : first = second := by
  induction first generalizing second with
  | nil =>
      cases second with
      | nil => rfl
      | cons other others => simp [nonempty] at same
  | cons value values ih =>
      cases second with
      | nil => simp [nonempty] at same
      | cons other others =>
          simp only [List.flatMap_cons] at same
          obtain ⟨heads, tails⟩ := delimited (validFirst value List.mem_cons_self)
            (validSecond other List.mem_cons_self) same
          rw [heads, ih (fun entry member => validFirst entry (List.mem_cons_of_mem _ member))
            (fun entry member => validSecond entry (List.mem_cons_of_mem _ member)) tails]

end Codes

end Framing
