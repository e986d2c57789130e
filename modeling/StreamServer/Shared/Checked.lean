import Mathlib.Algebra.Ring.Nat
import Mathlib.Data.Int.Basic
import Mathlib.Data.List.Basic
import Mathlib.Tactic.NormNum

set_option autoImplicit false

/-- Unsigned 64-bit values are naturals below `u64Limit`; signed ones are integers. -/
def u64Limit : Nat := 2 ^ 64

namespace MachineInt

def satAdd (left right : Nat) : Nat := min (left + right) (u64Limit - 1)

def satMul (left right : Nat) : Nat := min (left * right) (u64Limit - 1)

def asI32 (value : Nat) : Int := (value : Int).bmod (2 ^ 32)

def asI64 (value : Nat) : Int := (value : Int).bmod (2 ^ 64)

/-- The cast of a signed value to `u64`, which extends the sign. -/
def asU64 (value : Int) : Nat := (value % (2 ^ 64)).toNat

def satAddI64 (left right : Int) : Int := max (-2 ^ 63) (min (left + right) (2 ^ 63 - 1))

def satSubI64 (left right : Int) : Int := max (-2 ^ 63) (min (left - right) (2 ^ 63 - 1))

theorem satAdd_eq {left right : Nat} (fits : left + right < u64Limit) :
    satAdd left right = left + right := by
  unfold satAdd
  omega

theorem satMul_eq {left right : Nat} (fits : left * right < u64Limit) :
    satMul left right = left * right := by
  unfold satMul
  omega

theorem asI32_eq {value : Nat} (fits : value < 2 ^ 31) : asI32 value = value := by
  unfold asI32
  rw [Int.bmod_def]
  omega

theorem asU64_natCast {value : Nat} (fits : value < u64Limit) : asU64 (value : Int) = value := by
  unfold asU64 u64Limit at *
  omega

end MachineInt

-- What ends a computation on machine integers and slices early: a panic with checks, and a wrapped
-- number or a stray read without them.
inductive Fault where
  | outOfBounds
  | overflow
deriving DecidableEq, Repr

abbrev Checked (A : Type) := Except Fault A

namespace Checked

variable {A B : Type}

def u32Limit : Nat := 2 ^ 32

/-- A pointer has 64 bits. -/
def usizeLimit : Nat := 2 ^ 64

/-- No slice spans more than `isize::MAX` bytes. -/
def sliceLimit : Nat := 2 ^ 63

-- How far a place in a slice can be moved on before it leaves the word.
theorem sliceLimit_room : sliceLimit + 2 ^ 57 < usizeLimit := by decide

def add (limit left right : Nat) : Checked Nat :=
  if left + right < limit then .ok (left + right) else .error .overflow

def mul (limit left right : Nat) : Checked Nat :=
  if left * right < limit then .ok (left * right) else .error .overflow

def sub (left right : Nat) : Checked Nat :=
  if right ≤ left then .ok (left - right) else .error .overflow

def get (data : List A) (index : Nat) : Checked A :=
  match data[index]? with
  | some value => .ok value
  | none => .error .outOfBounds

def sliceFrom (data : List A) (start : Nat) : Checked (List A) :=
  if start ≤ data.length then .ok (data.drop start) else .error .outOfBounds

def slice (data : List A) (start stop : Nat) : Checked (List A) :=
  if start ≤ stop ∧ stop ≤ data.length then .ok ((data.drop start).take (stop - start))
  else .error .outOfBounds

section Succeeds

variable {limit left right start stop : Nat} {data : List A}

theorem add_ok (fits : left + right < limit) : add limit left right = .ok (left + right) :=
  if_pos fits

theorem mul_ok (fits : left * right < limit) : mul limit left right = .ok (left * right) :=
  if_pos fits

theorem sub_ok (covered : right ≤ left) : sub left right = .ok (left - right) :=
  if_pos covered

theorem get_ok (inside : start < data.length) : get data start = .ok data[start] := by
  simp [get, inside]

theorem sliceFrom_ok (inside : start ≤ data.length) :
    sliceFrom data start = .ok (data.drop start) :=
  if_pos inside

theorem slice_ok (ordered : start ≤ stop) (inside : stop ≤ data.length) :
    slice data start stop = .ok ((data.drop start).take (stop - start)) :=
  if_pos ⟨ordered, inside⟩

theorem add_ok_iff {sum : Nat} :
    add limit left right = .ok sum ↔ left + right < limit ∧ left + right = sum := by
  unfold add
  split
  next fits => simp [fits]
  next fits => simp [fits]

theorem mul_ok_iff {product : Nat} :
    mul limit left right = .ok product ↔ left * right < limit ∧ left * right = product := by
  unfold mul
  split
  next fits => simp [fits]
  next fits => simp [fits]

theorem sub_ok_iff {difference : Nat} :
    sub left right = .ok difference ↔ right ≤ left ∧ left - right = difference := by
  unfold sub
  split
  next covered => simp [covered]
  next covered => simp [covered]

end Succeeds

@[simp]
theorem ok_bind {E : Type} (value : A) (next : A → Except E B) : (Except.ok value >>= next) = next value :=
  rfl

@[simp]
theorem error_bind {E : Type} (error : E) (next : A → Except E B) :
    ((Except.error error : Except E A) >>= next) = .error error :=
  rfl

@[simp]
theorem pure_ok {E : Type} (value : A) : (pure value : Except E A) = .ok value := rfl

theorem add_bind_ok {limit left right : Nat} {next : Nat → Checked A} {result : A}
    (taken : (add limit left right >>= next) = .ok result) :
    left + right < limit ∧ next (left + right) = .ok result := by
  unfold add at taken
  split at taken
  next fits => exact ⟨fits, taken⟩
  next => cases taken

end Checked
