import Mathlib.Data.List.AList
import StreamServer.Shared.Lists

set_option autoImplicit false

-- Single flights for each key, one permit for each group of keys, and a number of permits for all.
namespace FlightLedger

inductive Stage where
  | waiting
  -- With the permit of its group.
  | waitingGlobal
  | granted
  | running
  | closing
  | leaving
  | gone
  -- Its owner went away; it stays listed.
  | abandoned (counted : Bool)
deriving DecidableEq, Repr

namespace Stage

def queued : Stage → Bool
  | .waiting | .waitingGlobal | .granted => true
  | .abandoned counted => counted
  | _ => false

def holdsGroup : Stage → Bool
  | .waitingGlobal | .granted | .running => true
  | _ => false

def holdsGlobal : Stage → Bool
  | .granted | .running => true
  | _ => false

def listed : Stage → Bool
  | .leaving | .gone => false
  | _ => true

def attached : Stage → Bool
  | .gone | .abandoned _ => false
  | _ => true

theorem listed_of_holdsGroup {stage : Stage} (holds : stage.holdsGroup = true) :
    stage.listed = true ∧ stage.attached = true := by
  cases stage <;> first | exact ⟨rfl, rfl⟩ | cases holds

end Stage

structure Entry (K : Type) where
  key : K
  semaphore : Nat
  stage : Stage

structure Ledger (K D : Type) where
  listed : AList fun _ : K => Nat
  queued : Nat
  groups : AList fun _ : D => Nat
  semaphores : List Nat
  globalPermits : Nat
  entries : List (Entry K)

variable {K D : Type}

def Entry.holdsPermitOf (semaphore : Nat) (entry : Entry K) : Bool :=
  entry.semaphore = semaphore && entry.stage.holdsGroup

variable [DecidableEq K] [DecidableEq D] {group : K → D} {limit globalLimit : Nat}

structure Exact (group : K → D) (limit globalLimit : Nat) (ledger : Ledger K D) : Prop where
  listed : ∀ key place, ledger.listed.lookup key = some place →
    ∃ entry, ledger.entries[place]? = some entry ∧ entry.key = key ∧ entry.stage.listed = true
  kept : ∀ (place : Nat) (entry : Entry K), ledger.entries[place]? = some entry → entry.stage.listed = true →
    ledger.listed.lookup entry.key = some place
  bounded : ledger.listed.entries.length ≤ limit
  queued : ledger.queued = ledger.entries.countP fun entry => entry.stage.queued
  grouped : ∀ (place : Nat) (entry : Entry K), ledger.entries[place]? = some entry → entry.stage.listed = true →
    entry.stage.attached = true → ledger.groups.lookup (group entry.key) = some entry.semaphore
  known : ∀ (place : Nat) (entry : Entry K), ledger.entries[place]? = some entry →
    entry.semaphore < ledger.semaphores.length
  present : ∀ owner semaphore, ledger.groups.lookup owner = some semaphore →
    semaphore < ledger.semaphores.length
  permits : ∀ (semaphore free : Nat), ledger.semaphores[semaphore]? = some free →
    free + ledger.entries.countP (Entry.holdsPermitOf semaphore) = 1
  global : ledger.globalPermits + ledger.entries.countP (fun entry => entry.stage.holdsGlobal) =
    globalLimit

theorem exact_initial (group : K → D) (limit globalLimit : Nat) :
    Exact group limit globalLimit ⟨∅, 0, ∅, [], globalLimit, []⟩ where
  listed := by simp
  kept := by simp
  bounded := Nat.zero_le _
  queued := rfl
  grouped := by simp
  known := by simp
  present := by simp
  permits := by simp
  global := rfl

structure Moves (before after : Ledger K D) (place : Nat) (entry : Entry K) (stage : Stage) :
    Prop where
  found : before.entries[place]? = some entry
  entries : after.entries = before.entries.set place { entry with stage := stage }
  listed : after.listed = before.listed
  groups : after.groups = before.groups
  sameListed : stage.listed = entry.stage.listed
  detaches : stage.attached = true → entry.stage.attached = true
  queued : after.queued + entry.stage.queued.toNat = before.queued + stage.queued.toNat
  length : after.semaphores.length = before.semaphores.length
  own : ∀ free, after.semaphores[entry.semaphore]? = some free →
    ∃ earlier, before.semaphores[entry.semaphore]? = some earlier ∧
      free + stage.holdsGroup.toNat = earlier + entry.stage.holdsGroup.toNat
  others : ∀ semaphore, semaphore ≠ entry.semaphore →
    after.semaphores[semaphore]? = before.semaphores[semaphore]?
  global : after.globalPermits + stage.holdsGlobal.toNat =
    before.globalPermits + entry.stage.holdsGlobal.toNat

theorem Exact.moved {before after : Ledger K D} {place : Nat} {entry : Entry K} {stage : Stage}
    (exact : Exact group limit globalLimit before) (moves : Moves before after place entry stage) :
    Exact group limit globalLimit after where
  listed key other looked := by
    rw [moves.listed] at looked
    obtain ⟨listedEntry, found, sameKey, stillListed⟩ := exact.listed key other looked
    rw [moves.entries]
    by_cases same : other = place
    · subst same
      cases moves.found.symm.trans found
      refine ⟨_, List.getElem?_set_self (List.getElem?_eq_some_iff.mp found).1, sameKey, ?_⟩
      exact moves.sameListed.trans stillListed
    · exact ⟨listedEntry, by rw [List.getElem?_set_ne (Ne.symm same), found], sameKey, stillListed⟩
  kept other found atPlace stillListed := by
    rw [moves.entries] at atPlace
    rw [moves.listed]
    obtain ⟨_, before⟩ | ⟨rfl, rfl⟩ := Lists.getElem?_set_cases atPlace
    · exact exact.kept other found before stillListed
    · exact exact.kept other entry moves.found (moves.sameListed.symm.trans stillListed)
  bounded := by
    rw [moves.listed]
    exact exact.bounded
  queued := by
    have counted := Lists.countP_set_add (fun item : Entry K => item.stage.queued) moves.found { entry with stage := stage }
    have balance := moves.queued
    have before := exact.queued
    rw [moves.entries]
    simp only at counted
    omega
  grouped other found atPlace stillListed attached := by
    rw [moves.entries] at atPlace
    rw [moves.groups]
    obtain ⟨_, before⟩ | ⟨rfl, rfl⟩ := Lists.getElem?_set_cases atPlace
    · exact exact.grouped other found before stillListed attached
    · exact exact.grouped other entry moves.found (moves.sameListed.symm.trans stillListed)
        (moves.detaches attached)
  known other found atPlace := by
    rw [moves.entries] at atPlace
    rw [moves.length]
    obtain ⟨_, before⟩ | ⟨rfl, rfl⟩ := Lists.getElem?_set_cases atPlace
    · exact exact.known other found before
    · exact exact.known other entry moves.found
  present owner semaphore looked := by
    rw [moves.groups] at looked
    rw [moves.length]
    exact exact.present owner semaphore looked
  permits semaphore free available := by
    have counted := Lists.countP_set_add (Entry.holdsPermitOf semaphore) moves.found { entry with stage := stage }
    rw [moves.entries]
    by_cases same : semaphore = entry.semaphore
    · subst same
      obtain ⟨earlier, before, balance⟩ := moves.own free available
      have held := exact.permits _ earlier before
      simp only [Entry.holdsPermitOf, decide_true, Bool.true_and] at counted held ⊢
      omega
    · rw [moves.others semaphore same] at available
      have held := exact.permits semaphore free available
      simp only [Entry.holdsPermitOf, Ne.symm same, decide_false, Bool.false_and] at counted held ⊢
      omega
  global := by
    have counted := Lists.countP_set_add (fun item : Entry K => item.stage.holdsGlobal) moves.found { entry with stage := stage }
    have balance := moves.global
    have before := exact.global
    rw [moves.entries]
    simp only at counted
    omega

structure Opens (group : K → D) (limit : Nat) (before after : Ledger K D) (key : K)
    (semaphore : Nat) : Prop where
  fresh : before.listed.lookup key = none
  room : before.listed.entries.length < limit
  chosen : before.groups.lookup (group key) = some semaphore ∧ after.groups = before.groups ∧
      after.semaphores = before.semaphores ∨
    before.groups.lookup (group key) = none ∧ semaphore = before.semaphores.length ∧
      after.groups = before.groups.insert (group key) semaphore ∧
      after.semaphores = before.semaphores ++ [1]
  listed : after.listed = before.listed.insert key before.entries.length
  queued : after.queued = before.queued + 1
  global : after.globalPermits = before.globalPermits
  entries : after.entries = before.entries ++ [⟨key, semaphore, .waiting⟩]

theorem Opens.length_le {before after : Ledger K D} {key : K} {semaphore : Nat}
    (opens : Opens group limit before after key semaphore) :
    before.semaphores.length ≤ after.semaphores.length := by
  obtain ⟨_, _, same⟩ | ⟨_, _, _, longer⟩ := opens.chosen
  · rw [same]
  · rw [longer, List.length_append]
    exact Nat.le_add_right _ _

theorem Opens.groups_lookup {before after : Ledger K D} {key : K} {semaphore : Nat}
    (opens : Opens group limit before after key semaphore) {owner : D} {found : Nat}
    (looked : before.groups.lookup owner = some found) : after.groups.lookup owner = some found := by
  obtain ⟨_, same, _⟩ | ⟨absent, _, inserted, _⟩ := opens.chosen
  · rw [same, looked]
  · have different : owner ≠ group key := by
      rintro rfl
      rw [absent] at looked
      cases looked
    rw [inserted, AList.lookup_insert_ne different, looked]

theorem Exact.opened {before after : Ledger K D} {key : K} {semaphore : Nat}
    (exact : Exact group limit globalLimit before)
    (opens : Opens group limit before after key semaphore) : Exact group limit globalLimit after := by
  have own : after.groups.lookup (group key) = some semaphore ∧
      semaphore < after.semaphores.length := by
    obtain ⟨looked, same, sameSemaphores⟩ | ⟨_, length, inserted, longer⟩ := opens.chosen
    · rw [same, sameSemaphores]
      exact ⟨looked, exact.present _ _ looked⟩
    · rw [inserted, longer, length, List.length_append]
      exact ⟨AList.lookup_insert _, Nat.lt_succ_self _⟩
  refine ⟨?_, ?_, ?_, ?_, ?_, ?_, ?_, ?_, ?_⟩
  · intro other place looked
    rw [opens.listed] at looked
    rw [opens.entries]
    by_cases same : other = key
    · subst same
      rw [AList.lookup_insert] at looked
      cases looked
      exact ⟨_, List.getElem?_concat_length, rfl, rfl⟩
    · rw [AList.lookup_insert_ne same] at looked
      obtain ⟨entry, found, sameKey, stillListed⟩ := exact.listed other place looked
      refine ⟨entry, ?_, sameKey, stillListed⟩
      rw [List.getElem?_append_left (List.getElem?_eq_some_iff.mp found).1, found]
  · intro place entry atPlace stillListed
    rw [opens.entries] at atPlace
    rw [opens.listed]
    obtain earlier | ⟨rfl, rfl⟩ := Lists.getElem?_append_cases atPlace
    · have looked := exact.kept place entry earlier stillListed
      have different : entry.key ≠ key := by
        rintro rfl
        rw [opens.fresh] at looked
        cases looked
      rw [AList.lookup_insert_ne different, looked]
    · exact AList.lookup_insert _
  · have fresh : key ∉ before.listed := AList.lookup_eq_none.mp opens.fresh
    rw [opens.listed, AList.entries_insert_of_notMem fresh, List.length_cons]
    exact opens.room
  · rw [opens.queued, opens.entries, Lists.countP_append_singleton, exact.queued]
    rfl
  · intro place entry atPlace stillListed attached
    rw [opens.entries] at atPlace
    obtain earlier | ⟨rfl, rfl⟩ := Lists.getElem?_append_cases atPlace
    · exact opens.groups_lookup (exact.grouped place entry earlier stillListed attached)
    · exact own.1
  · intro place entry atPlace
    rw [opens.entries] at atPlace
    obtain earlier | ⟨rfl, rfl⟩ := Lists.getElem?_append_cases atPlace
    · exact Nat.lt_of_lt_of_le (exact.known place entry earlier) opens.length_le
    · exact own.2
  · intro owner found looked
    obtain ⟨_, same, _⟩ | ⟨_, _, inserted, _⟩ := opens.chosen
    · rw [same] at looked
      exact Nat.lt_of_lt_of_le (exact.present owner found looked) opens.length_le
    · rw [inserted] at looked
      by_cases sameOwner : owner = group key
      · subst sameOwner
        rw [AList.lookup_insert] at looked
        cases looked
        exact own.2
      · rw [AList.lookup_insert_ne sameOwner] at looked
        exact Nat.lt_of_lt_of_le (exact.present owner found looked) opens.length_le
  · intro other free available
    have unheld : Entry.holdsPermitOf other ⟨key, semaphore, .waiting⟩ = false := by
      simp [Entry.holdsPermitOf, Stage.holdsGroup]
    rw [opens.entries, Lists.countP_append_singleton, unheld, Bool.toNat_false, Nat.add_zero]
    obtain ⟨_, _, same⟩ | ⟨_, _, _, longer⟩ := opens.chosen
    · rw [same] at available
      exact exact.permits other free available
    · rw [longer] at available
      obtain earlier | ⟨rfl, rfl⟩ := Lists.getElem?_append_cases available
      · exact exact.permits other free earlier
      · -- No entry knows the new semaphore.
        have nobody : before.entries.countP (Entry.holdsPermitOf before.semaphores.length) = 0 := by
          rw [List.countP_eq_zero]
          intro entry member
          obtain ⟨place, found⟩ := List.mem_iff_getElem?.mp member
          have bound := exact.known place entry found
          simp only [Entry.holdsPermitOf, Bool.and_eq_true, decide_eq_true_eq, not_and]
          omega
        rw [nobody]
  · rw [opens.global, opens.entries, Lists.countP_append_singleton]
    exact exact.global

structure Closes (group : K → D) (before after : Ledger K D) (place : Nat) (entry : Entry K) :
    Prop where
  found : before.entries[place]? = some entry
  stage : entry.stage = .closing
  entries : after.entries = before.entries.set place { entry with stage := .leaving }
  listed : after.listed = before.listed.erase entry.key
  queued : after.queued = before.queued
  semaphores : after.semaphores = before.semaphores
  global : after.globalPermits = before.globalPermits
  groups : after.groups = before.groups ∨
    after.groups = before.groups.erase (group entry.key) ∧
      ∀ (other : Nat) (holder : Entry K), other ≠ place → before.entries[other]? = some holder →
        holder.stage.attached = true → holder.semaphore ≠ entry.semaphore

theorem Exact.closed {before after : Ledger K D} {place : Nat} {entry : Entry K}
    (exact : Exact group limit globalLimit before) (closes : Closes group before after place entry) :
    Exact group limit globalLimit after := by
  have listed : entry.stage.listed = true := by rw [closes.stage]; rfl
  have attached : entry.stage.attached = true := by rw [closes.stage]; rfl
  have owned := exact.grouped place entry closes.found listed attached
  refine ⟨?_, ?_, ?_, ?_, ?_, ?_, ?_, ?_, ?_⟩
  · intro key other looked
    rw [closes.listed] at looked
    have different : key ≠ entry.key := by
      rintro rfl
      rw [AList.lookup_erase] at looked
      cases looked
    rw [AList.lookup_erase_ne different] at looked
    obtain ⟨holder, found, sameKey, stillListed⟩ := exact.listed key other looked
    have elsewhere : other ≠ place := by
      rintro rfl
      cases closes.found.symm.trans found
      exact different sameKey.symm
    refine ⟨holder, ?_, sameKey, stillListed⟩
    rw [closes.entries, List.getElem?_set_ne (Ne.symm elsewhere), found]
  · intro other holder atPlace stillListed
    rw [closes.entries] at atPlace
    rw [closes.listed]
    obtain ⟨elsewhere, before⟩ | ⟨rfl, rfl⟩ := Lists.getElem?_set_cases atPlace
    · have looked := exact.kept other holder before stillListed
      have different : holder.key ≠ entry.key := by
        intro same
        have own := exact.kept place entry closes.found listed
        rw [same, own] at looked
        exact elsewhere (Option.some.inj looked).symm
      rw [AList.lookup_erase_ne different, looked]
    · cases stillListed
  · rw [closes.listed]
    exact Nat.le_trans (List.kerase_sublist _ _).length_le exact.bounded
  · have counted := Lists.countP_set_add (fun item : Entry K => item.stage.queued) closes.found
      { entry with stage := .leaving }
    have before := exact.queued
    have unqueued : entry.stage.queued = false := by rw [closes.stage]; rfl
    have left : Stage.queued .leaving = false := rfl
    simp only [unqueued, left] at counted
    rw [closes.queued, closes.entries]
    omega
  · intro other holder atPlace stillListed holds
    rw [closes.entries] at atPlace
    obtain ⟨elsewhere, found⟩ | ⟨rfl, rfl⟩ := Lists.getElem?_set_cases atPlace
    · have looked := exact.grouped other holder found stillListed holds
      obtain same | ⟨erased, alone⟩ := closes.groups
      · rw [same, looked]
      · have different : group holder.key ≠ group entry.key := by
          intro same
          rw [same, owned] at looked
          exact alone other holder elsewhere found holds (Option.some.inj looked).symm
        rw [erased, AList.lookup_erase_ne different, looked]
    · cases stillListed
  · intro other holder atPlace
    rw [closes.entries] at atPlace
    rw [closes.semaphores]
    obtain ⟨_, found⟩ | ⟨rfl, rfl⟩ := Lists.getElem?_set_cases atPlace
    · exact exact.known other holder found
    · exact exact.known other entry closes.found
  · intro owner semaphore looked
    rw [closes.semaphores]
    obtain same | ⟨erased, _⟩ := closes.groups
    · rw [same] at looked
      exact exact.present owner semaphore looked
    · rw [erased] at looked
      by_cases sameOwner : owner = group entry.key
      · subst sameOwner
        rw [AList.lookup_erase] at looked
        cases looked
      · rw [AList.lookup_erase_ne sameOwner] at looked
        exact exact.present owner semaphore looked
  · intro semaphore free available
    have counted := Lists.countP_set_add (Entry.holdsPermitOf semaphore) closes.found
      { entry with stage := .leaving }
    rw [closes.semaphores] at available
    have before := exact.permits semaphore free available
    have unheld : entry.holdsPermitOf semaphore = false := by
      simp [Entry.holdsPermitOf, closes.stage, Stage.holdsGroup]
    have left : Entry.holdsPermitOf semaphore { entry with stage := .leaving } = false := by
      simp [Entry.holdsPermitOf, Stage.holdsGroup]
    rw [unheld, left] at counted
    rw [closes.entries]
    omega
  · have counted := Lists.countP_set_add (fun item : Entry K => item.stage.holdsGlobal)
      closes.found { entry with stage := .leaving }
    have before := exact.global
    have unheld : entry.stage.holdsGlobal = false := by rw [closes.stage]; rfl
    have left : Stage.holdsGlobal .leaving = false := rfl
    simp only [unheld, left] at counted
    rw [closes.global, closes.entries]
    omega

section Consequences

variable {ledger : Ledger K D} (exact : Exact group limit globalLimit ledger)

include exact

theorem Exact.queued_pos {place : Nat} {entry : Entry K}
    (found : ledger.entries[place]? = some entry) (waits : entry.stage.queued = true) :
    0 < ledger.queued := by
  rw [exact.queued]
  exact List.countP_pos_iff.mpr ⟨entry, List.mem_of_getElem? found, waits⟩

theorem Exact.global_le : ledger.entries.countP (fun entry => entry.stage.holdsGlobal) ≤ globalLimit := by
  have counted := exact.global
  omega

theorem Exact.listed_le : ledger.entries.countP (fun entry => entry.stage.listed) ≤ limit := by
  refine Nat.le_trans (Lists.countP_le_places _ _ (ledger.listed.entries.map Sigma.snd) ?_) ?_
  · intro place entry found stillListed
    have looked := exact.kept place entry found stillListed
    exact List.mem_map.mpr ⟨⟨entry.key, place⟩, AList.mem_lookup_iff.mp looked, rfl⟩
  · rw [List.length_map]
    exact exact.bounded

theorem Exact.place_unique {place other : Nat} {entry twin : Entry K}
    (found : ledger.entries[place]? = some entry) (beside : ledger.entries[other]? = some twin)
    (first : entry.stage.listed = true) (second : twin.stage.listed = true)
    (same : entry.key = twin.key) : place = other := by
  have looked := exact.kept place entry found first
  rw [same, exact.kept other twin beside second] at looked
  exact (Option.some.inj looked).symm

theorem Exact.group_le (owner : D) : ledger.entries.countP (fun entry =>
    group entry.key = owner && entry.stage.holdsGroup) ≤ 1 := by
  cases looked : ledger.groups.lookup owner with
  | none =>
    refine Nat.le_trans (Nat.le_of_eq (List.countP_eq_zero.mpr ?_)) (Nat.zero_le 1)
    intro entry member
    obtain ⟨place, found⟩ := List.mem_iff_getElem?.mp member
    simp only [Bool.and_eq_true, decide_eq_true_eq, not_and]
    rintro rfl holds
    obtain ⟨listed, attached⟩ := Stage.listed_of_holdsGroup holds
    have owned := exact.grouped place entry found listed attached
    rw [looked] at owned
    cases owned
  | some semaphore =>
    have bound := exact.present owner semaphore looked
    have permits := exact.permits semaphore _ (List.getElem?_eq_getElem bound)
    have fewer : ledger.entries.countP (fun entry =>
        group entry.key = owner && entry.stage.holdsGroup) ≤
          ledger.entries.countP (Entry.holdsPermitOf semaphore) := by
      refine List.countP_mono_left fun entry member holds => ?_
      simp only [Bool.and_eq_true, decide_eq_true_eq] at holds
      obtain ⟨rfl, holds⟩ := holds
      obtain ⟨place, found⟩ := List.mem_iff_getElem?.mp member
      obtain ⟨listed, attached⟩ := Stage.listed_of_holdsGroup holds
      have owned := exact.grouped place entry found listed attached
      rw [looked] at owned
      simp [Entry.holdsPermitOf, Option.some.inj owned, holds]
    omega

end Consequences

end FlightLedger
