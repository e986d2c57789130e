import Mathlib.Data.List.Basic

set_option autoImplicit false

namespace CancellationTokens

abbrev Token := Nat

/-- A token is the index of its own flag, so a token not yet created reads as not cancelled. -/
structure Tokens where
  flags : List Bool
deriving DecidableEq, Repr

namespace Tokens

def empty : Tokens := ⟨[]⟩

def create (tokens : Tokens) : Token × Tokens :=
  (tokens.flags.length, ⟨tokens.flags ++ [false]⟩)

def cancel (tokens : Tokens) (token : Token) : Tokens :=
  ⟨tokens.flags.set token true⟩

def isCancelled (tokens : Tokens) (token : Token) : Bool :=
  tokens.flags.getD token false

def Issued (tokens : Tokens) (token : Token) : Prop :=
  token < tokens.flags.length

@[simp] theorem isCancelled_create (tokens : Tokens) (token : Token) :
    tokens.create.2.isCancelled token = tokens.isCancelled token := by
  simp only [create, isCancelled, List.getD_eq_getElem?_getD, List.getElem?_append]
  split
  next => rfl
  next beyond =>
    rw [List.getElem?_eq_none (Nat.le_of_not_lt beyond)]
    rcases token - tokens.flags.length with _ | index <;> rfl

theorem isCancelled_cancel (tokens : Tokens) (cancelled token : Token) :
    (tokens.cancel cancelled).isCancelled token = true ↔
      token = cancelled ∧ tokens.Issued cancelled ∨ tokens.isCancelled token = true := by
  simp only [cancel, isCancelled, Issued, List.getD_eq_getElem?_getD, List.getElem?_set]
  by_cases same : cancelled = token
  · subst same
    by_cases issued : cancelled < tokens.flags.length <;> simp [issued]
  · simp [same, Ne.symm same]

theorem isCancelled_cancel_self (tokens : Tokens) (token : Token) (issued : tokens.Issued token) :
    (tokens.cancel token).isCancelled token = true :=
  (isCancelled_cancel tokens token token).mpr (.inl ⟨rfl, issued⟩)

theorem isCancelled_cancel_of_ne (tokens : Tokens) {cancelled token : Token}
    (different : token ≠ cancelled) :
    (tokens.cancel cancelled).isCancelled token = tokens.isCancelled token := by
  apply Bool.eq_iff_iff.mpr
  simp [isCancelled_cancel, different]

@[simp] theorem issued_cancel (tokens : Tokens) (cancelled token : Token) :
    (tokens.cancel cancelled).Issued token ↔ tokens.Issued token := by
  simp [Issued, cancel]

theorem issued_create (tokens : Tokens) {token : Token} (issued : tokens.Issued token) :
    tokens.create.2.Issued token := by
  simp only [Issued, create, List.length_append, List.length_singleton]
  exact Nat.lt_succ_of_lt issued

theorem issued_fresh (tokens : Tokens) : tokens.create.2.Issued tokens.flags.length := by
  simp [Issued, create]

end Tokens

end CancellationTokens
