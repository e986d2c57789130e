import Mathlib.Logic.Function.Basic

set_option autoImplicit false

namespace Results

variable {E A B : Type}

theorem bind_ok {first : Except E A} {next : A → Except E B} {result : B}
    (succeeded : (first >>= next) = .ok result) :
    ∃ value, first = .ok value ∧ next value = .ok result := by
  cases first with
  | error error => cases succeeded
  | ok value => exact ⟨value, rfl, succeeded⟩

theorem bind_error {first : Except E A} {next : A → Except E B} {error : E}
    (failed : (first >>= next) = .error error) :
    first = .error error ∨ ∃ value, first = .ok value ∧ next value = .error error := by
  cases first with
  | error other =>
    cases failed
    exact .inl rfl
  | ok value => exact .inr ⟨value, rfl, failed⟩

end Results

/-- A program over the state `W` that may fail; a failure keeps the state reached so far. -/
def Fallible (W A : Type) : Type := W → Option A × W

namespace Fallible

variable {W A B : Type}

instance : Monad (Fallible W) where
  pure value := fun state => (some value, state)
  bind first next := fun state =>
    match first state with
    | (some value, reached) => next value reached
    | (none, reached) => (none, reached)

def fail : Fallible W A := fun state => (none, state)

def inspect (look : W → A) : Fallible W A := fun state => (some (look state), state)

def require (condition : Bool) : Fallible W Unit := if condition then pure () else fail

@[simp]
theorem pure_apply (value : A) (state : W) : (pure value : Fallible W A) state = (some value, state) :=
  rfl

@[simp]
theorem fail_apply (state : W) : (fail : Fallible W A) state = (none, state) := rfl

@[simp]
theorem inspect_apply (look : W → A) (state : W) : inspect look state = (some (look state), state) :=
  rfl

@[simp]
theorem pure_bind (value : A) (next : A → Fallible W B) (state : W) :
    ((pure value : Fallible W A) >>= next) state = next value state := rfl

theorem bind_some {first : Fallible W A} {next : A → Fallible W B} {state reached : W} {value : A}
    (succeeded : first state = (some value, reached)) : (first >>= next) state = next value reached := by
  show (match first state with
    | (some value, reached) => next value reached
    | (none, reached) => (none, reached)) = _
  rw [succeeded]

theorem bind_none {first : Fallible W A} {next : A → Fallible W B} {state reached : W}
    (failed : first state = (none, reached)) : (first >>= next) state = (none, reached) := by
  show (match first state with
    | (some value, reached) => next value reached
    | (none, reached) => (none, reached)) = _
  rw [failed]

@[simp]
theorem inspect_bind (look : W → A) (next : A → Fallible W B) (state : W) :
    (inspect look >>= next) state = next (look state) state := rfl

/-- What holds of the state before and is kept by each part holds of the state after, also where a
part fails. -/
theorem bind_keeps {property : W → Prop} {first : Fallible W A} {next : A → Fallible W B}
    (begins : ∀ state, property state → property (first state).2)
    (continues : ∀ value state, property state → property (next value state).2) (state : W)
    (holds : property state) : property ((first >>= next) state).2 := by
  have reached := begins state holds
  cases outcome : first state with
  | mk result middle =>
    rw [outcome] at reached
    cases result with
    | none =>
      rw [bind_none outcome]
      exact reached
    | some value =>
      rw [bind_some outcome]
      exact continues value middle reached

end Fallible
