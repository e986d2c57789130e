import Mathlib.Data.Multiset.Count
import Mathlib.Data.Set.Insert

set_option autoImplicit false

namespace PermitLedger

/-- What a permit says about itself: the key it was requested for, the owner that issued it, the slot
of the owner's counter it is counted in, and whether the counter at hand counts it at all. -/
structure Scheme (K P : Type) where
  key : P → K
  issuer : P → Nat
  slot : P → Nat
  counts : P → Bool

/-- Owners are numbered in the order of their creation. A key is mapped to at most one owner at a
time; permits outlive the mapping, and a release finds its owner again through the key. -/
structure Ledger (K P : Type) where
  mapped : K → Option Nat
  size : Nat
  counter : Nat → Nat → Nat
  outstanding : Multiset P
  -- The requests that have looked up their owner and have not been issued a permit yet.
  starting : Set (K × Nat)
  -- The release that has looked up its owner and has not been applied yet.
  releasing : Option (P × Nat)
  unused : ∀ owner slot, size ≤ owner → counter owner slot = 0

variable {K P : Type} (scheme : Scheme K P)

def held (outstanding : Multiset P) (owner slot : Nat) : Nat :=
  outstanding.countP fun permit =>
    scheme.counts permit ∧ scheme.issuer permit = owner ∧ scheme.slot permit = slot

def Exact (ledger : Ledger K P) : Prop :=
  ∀ key owner, ledger.mapped key = some owner →
    ∀ slot, ledger.counter owner slot = held scheme ledger.outstanding owner slot

def Owns (ledger : Ledger K P) (key : K) (owner : Nat) : Prop :=
  owner < ledger.size ∧ ∀ other, ledger.mapped other = some owner → other = key

/-- A release that looked `owner` up: as long as the issuer is mapped, it is the owner looked up. -/
structure Returns (ledger : Ledger K P) (permit : P) (owner : Nat) : Prop where
  found : Owns ledger (scheme.key permit) owner
  issued : Owns ledger (scheme.key permit) (scheme.issuer permit)
  same : ∀ key, ledger.mapped key = some (scheme.issuer permit) → owner = scheme.issuer permit

structure Coherent (ledger : Ledger K P) : Prop where
  mapped : ∀ key owner, ledger.mapped key = some owner → Owns ledger key owner
  outstanding : ∀ permit ∈ ledger.outstanding,
    Owns ledger (scheme.key permit) (scheme.issuer permit)
  starting : ∀ target ∈ ledger.starting, Owns ledger target.1 target.2
  releasing : ∀ target ∈ ledger.releasing, Returns scheme ledger target.1 target.2

inductive Looked (before after : Ledger K P) (key : K) (owner : Nat) : Prop where
  | found (present : before.mapped key = some owner) (mapped : after.mapped = before.mapped)
      (size : after.size = before.size)
  | created (absent : before.mapped key = none) (fresh : owner = before.size)
      (own : after.mapped key = some owner)
      (others : ∀ other, other ≠ key → after.mapped other = before.mapped other)
      (size : after.size = before.size + 1)

inductive LedgerStep (before after : Ledger K P) : Prop where
  | keep (mapped : after.mapped = before.mapped) (size : after.size = before.size)
      (counter : after.counter = before.counter) (outstanding : after.outstanding = before.outstanding)
      (starting : after.starting ⊆ before.starting)
      (releasing : ∀ target ∈ after.releasing, before.releasing = some target)
  | look (key : K) (owner : Nat) (looked : Looked before after key owner)
      (counter : after.counter = before.counter) (outstanding : after.outstanding = before.outstanding)
      (starting : ∀ target ∈ after.starting, target = (key, owner) ∨ target ∈ before.starting)
      (releasing : ∀ target ∈ after.releasing, before.releasing = some target ∨
        target.1 ∈ before.outstanding ∧ scheme.key target.1 = key ∧ target.2 = owner)
  | remove (key : K) (own : after.mapped key = none)
      (others : ∀ other, other ≠ key → after.mapped other = before.mapped other)
      (size : after.size = before.size) (counter : after.counter = before.counter)
      (outstanding : after.outstanding = before.outstanding)
      (starting : after.starting ⊆ before.starting)
      (releasing : ∀ target ∈ after.releasing, before.releasing = some target)
  | issue (permit : P) (mapped : after.mapped = before.mapped) (size : after.size = before.size)
      (requested : (scheme.key permit, scheme.issuer permit) ∈ before.starting)
      (counter : ∀ owner slot, after.counter owner slot = before.counter owner slot +
        if scheme.counts permit ∧ owner = scheme.issuer permit ∧ slot = scheme.slot permit then 1
        else 0)
      (outstanding : after.outstanding = permit ::ₘ before.outstanding)
      (starting : after.starting ⊆ before.starting)
      (releasing : ∀ target ∈ after.releasing, before.releasing = some target)

structure Released (before after : Ledger K P) (permit : P) (target : Nat) : Prop where
  applied : before.releasing = some (permit, target)
  mapped : after.mapped = before.mapped
  size : after.size = before.size
  counter : ∀ owner slot, after.counter owner slot = before.counter owner slot -
    if scheme.counts permit ∧ owner = target ∧ slot = scheme.slot permit then 1 else 0
  outstanding : before.outstanding = permit ::ₘ after.outstanding
  starting : after.starting ⊆ before.starting
  releasing : after.releasing = none

/-- A release that its key leads to another owner than the issuer finds that owner's counter empty. -/
def ReleasesOwn (ledger : Ledger K P) : Prop :=
  ∀ permit target, ledger.releasing = some (permit, target) →
    ledger.mapped (scheme.key permit) = some target → target ≠ scheme.issuer permit →
      scheme.counts permit → ledger.counter target (scheme.slot permit) = 0

variable {scheme} {before after : Ledger K P}

theorem held_cons (permit : P) (outstanding : Multiset P) (owner slot : Nat) :
    held scheme (permit ::ₘ outstanding) owner slot = held scheme outstanding owner slot +
      if scheme.counts permit ∧ owner = scheme.issuer permit ∧ slot = scheme.slot permit then 1
      else 0 := by
  unfold held
  rw [Multiset.countP_cons]
  congr 2
  rw [eq_comm (a := owner), eq_comm (a := slot)]

theorem held_eq_zero {outstanding : Multiset P} {owner : Nat}
    (foreign : ∀ permit ∈ outstanding, scheme.issuer permit ≠ owner) (slot : Nat) :
    held scheme outstanding owner slot = 0 :=
  Multiset.countP_eq_zero.mpr fun permit member matching => foreign permit member matching.2.1

theorem Owns.mono {key : K} {owner : Nat} (owns : Owns before key owner)
    (size : before.size ≤ after.size)
    (mapped : ∀ other, after.mapped other = some owner → before.mapped other = some owner) :
    Owns after key owner :=
  ⟨Nat.lt_of_lt_of_le owns.1 size, fun other has => owns.2 other (mapped other has)⟩

theorem Returns.mono {permit : P} {owner : Nat} (returns : Returns scheme before permit owner)
    (size : before.size ≤ after.size)
    (mapped : ∀ key old, old < before.size → after.mapped key = some old →
      before.mapped key = some old) : Returns scheme after permit owner where
  found := returns.found.mono size fun key => mapped key _ returns.found.1
  issued := returns.issued.mono size fun key => mapped key _ returns.issued.1
  same key has := returns.same key (mapped key _ returns.issued.1 has)

theorem Coherent.mono (coherent : Coherent scheme before) (size : before.size ≤ after.size)
    (mapped : ∀ key owner, after.mapped key = some owner → before.mapped key = some owner)
    (outstanding : ∀ permit ∈ after.outstanding, permit ∈ before.outstanding)
    (starting : after.starting ⊆ before.starting)
    (releasing : ∀ target ∈ after.releasing, before.releasing = some target) :
    Coherent scheme after where
  mapped key owner has :=
    (coherent.mapped key owner (mapped key owner has)).mono size (mapped · owner)
  outstanding permit member :=
    (coherent.outstanding permit (outstanding permit member)).mono size (mapped · _)
  starting target member :=
    (coherent.starting target (starting member)).mono size (mapped · _)
  releasing target member :=
    (coherent.releasing target (releasing target member)).mono size fun key old _ => mapped key old

theorem Looked.size_le {key : K} {owner : Nat} (looked : Looked before after key owner) :
    before.size ≤ after.size := by
  cases looked with
  | found _ _ size => exact size.ge
  | created _ _ _ _ size => omega

theorem Looked.mapped_of_lt {key other : K} {owner old : Nat}
    (looked : Looked before after key owner) (existing : old < before.size)
    (has : after.mapped other = some old) : before.mapped other = some old := by
  cases looked with
  | found _ mapped _ => exact mapped ▸ has
  | created _ fresh own others _ =>
    by_cases same : other = key
    · subst same
      rw [own] at has
      cases has
      omega
    · exact others other same ▸ has

theorem Looked.owns {key : K} {owner : Nat} (looked : Looked before after key owner)
    (coherent : Coherent scheme before) : Owns after key owner := by
  cases looked with
  | found present mapped size =>
    exact (coherent.mapped key owner present).mono size.ge fun other has => mapped ▸ has
  | created absent fresh own others size =>
    refine ⟨by omega, fun other has => ?_⟩
    by_contra different
    rw [others other different] at has
    have := (coherent.mapped other owner has).1
    omega

theorem LedgerStep.coherent (step : LedgerStep scheme before after)
    (coherent : Coherent scheme before) : Coherent scheme after := by
  cases step with
  | keep mapped size counter outstanding starting releasing =>
    exact coherent.mono size.ge (fun key owner has => mapped ▸ has)
      (fun permit member => outstanding ▸ member) starting releasing
  | remove key own others size counter outstanding starting releasing =>
    refine coherent.mono size.ge (fun other owner has => ?_)
      (fun permit member => outstanding ▸ member) starting releasing
    by_cases same : other = key
    · subst same
      rw [own] at has
      cases has
    · exact others other same ▸ has
  | issue permit mapped size requested counter outstanding starting releasing =>
    have unmapped key owner (has : after.mapped key = some owner) :
        before.mapped key = some owner := mapped ▸ has
    constructor
    · exact fun key owner has => (coherent.mapped key owner (unmapped key owner has)).mono size.ge
        (unmapped · owner)
    · intro other member
      rw [outstanding, Multiset.mem_cons] at member
      rcases member with rfl | member
      · exact (coherent.starting _ requested).mono size.ge (unmapped · _)
      · exact (coherent.outstanding other member).mono size.ge (unmapped · _)
    · exact fun target member => (coherent.starting target (starting member)).mono size.ge
        (unmapped · _)
    · exact fun target member => (coherent.releasing target (releasing target member)).mono size.ge
        fun key old _ => unmapped key old
  | look key owner looked counter outstanding starting releasing =>
    have keeps {other : K} {old : Nat} (owns : Owns before other old) : Owns after other old :=
      owns.mono looked.size_le fun _ has => looked.mapped_of_lt owns.1 has
    constructor
    · intro other old has
      by_cases existing : old < before.size
      · exact keeps (coherent.mapped other old (looked.mapped_of_lt existing has))
      · cases looked with
        | found present mapped size =>
          exact absurd (coherent.mapped other old (mapped ▸ has)).1 existing
        | created absent fresh own others size =>
          by_cases same : other = key
          · subst same
            rw [own] at has
            cases has
            exact (Looked.created absent fresh own others size).owns coherent
          · rw [others other same] at has
            exact absurd (coherent.mapped other old has).1 existing
    · exact fun permit member => keeps (coherent.outstanding permit (outstanding ▸ member))
    · intro target member
      rcases starting target member with rfl | member
      · exact looked.owns coherent
      · exact keeps (coherent.starting target member)
    · intro target member
      rcases releasing target member with pending | ⟨permit, rfl, rfl⟩
      · exact (coherent.releasing target pending).mono looked.size_le fun _ _ existing has =>
          looked.mapped_of_lt existing has
      · have issued := coherent.outstanding target.1 permit
        refine ⟨looked.owns coherent, keeps issued, fun other has => ?_⟩
        have present := looked.mapped_of_lt issued.1 has
        cases issued.2 other present
        cases looked with
        | found here _ _ => exact Option.some.inj (here.symm.trans present)
        | created absent _ _ _ _ => simp [absent] at present

theorem Released.coherent {permit : P} {target : Nat}
    (released : Released scheme before after permit target) (coherent : Coherent scheme before) :
    Coherent scheme after := by
  refine coherent.mono released.size.ge (fun key owner has => released.mapped ▸ has)
    (fun other member => ?_) released.starting (by simp [released.releasing])
  rw [released.outstanding]
  exact Multiset.mem_cons_of_mem member

theorem LedgerStep.exact (step : LedgerStep scheme before after) (coherent : Coherent scheme before)
    (exact : Exact scheme before) : Exact scheme after := by
  intro key owner has slot
  cases step with
  | keep mapped size counter outstanding starting releasing =>
    rw [counter, outstanding]
    exact exact key owner (mapped ▸ has) slot
  | remove removed gone others size counter outstanding starting releasing =>
    rw [counter, outstanding]
    refine exact key owner ?_ slot
    by_cases same : key = removed
    · subst same
      rw [gone] at has
      cases has
    · exact others key same ▸ has
  | issue permit mapped size requested counter outstanding starting releasing =>
    rw [counter, outstanding, held_cons, exact key owner (mapped ▸ has) slot]
  | look looked found looking counter outstanding starting releasing =>
    rw [counter, outstanding]
    by_cases existing : owner < before.size
    · exact exact key owner (looking.mapped_of_lt existing has) slot
    · rw [before.unused owner slot (Nat.le_of_not_lt existing)]
      refine (held_eq_zero (fun permit member same => existing ?_) slot).symm
      exact same ▸ (coherent.outstanding permit member).1

section Release

variable {permit : P} {target : Nat} (released : Released scheme before after permit target)
include released

theorem Released.exact (coherent : Coherent scheme before) (exact : Exact scheme before)
    (own : ReleasesOwn scheme before) : Exact scheme after := by
  intro key owner has slot
  have present : before.mapped key = some owner := released.mapped ▸ has
  have returns := coherent.releasing _ released.applied
  have total := exact key owner present slot
  rw [released.outstanding, held_cons] at total
  rw [released.counter]
  by_cases issuer : owner = scheme.issuer permit
  · -- The issuer is mapped, so the release has found it.
    have found : target = scheme.issuer permit := returns.same key (issuer ▸ present)
    rw [found]
    omega
  · have unissued : held scheme after.outstanding owner slot = before.counter owner slot := by
      simpa [issuer] using total.symm
    rw [unissued]
    by_cases counted : scheme.counts permit ∧ owner = target ∧ slot = scheme.slot permit
    · obtain ⟨counts, rfl, rfl⟩ := counted
      have rightKey := returns.found.2 key present
      simp [own permit owner released.applied (rightKey ▸ present) issuer counts]
    · simp [counted]

theorem Released.releasesOwn (exactBefore : Exact scheme before) (exactAfter : Exact scheme after) :
    ReleasesOwn scheme before := by
  intro other owner same present different counts
  rw [released.applied] at same
  cases same
  have total := exactBefore _ _ present (scheme.slot permit)
  have left := exactAfter _ _ (released.mapped ▸ present) (scheme.slot permit)
  rw [released.counter] at left
  rw [released.outstanding, held_cons] at total
  simp only [counts, different, false_and, and_false, and_self, if_true, if_false] at left total
  omega

end Release

end PermitLedger
