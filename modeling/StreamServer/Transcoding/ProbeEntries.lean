import Mathlib.Data.List.AList
import StreamServer.Shared.LastUse
import StreamServer.Shared.Lists
import StreamServer.Transcoding.ProbeWatchdog

set_option autoImplicit false

namespace StreamServer.Transcoding

variable {K D : Type}

section State

abbrev ProbeResult (D : Type) := Except ProbeErrorCode D

/-- The limits are far from the ends of `usize`. -/
structure CacheLimits where
  ttl : Nat
  maxEntries : Nat
  maxWeight : Nat
  maxInFlight : Nat
  fits : 2 * maxWeight < 2 ^ 64

def CacheLimits.default : CacheLimits where
  ttl := seconds (5 * 60)
  maxEntries := 128
  maxWeight := 16 * 1024 * 1024
  maxInFlight := 16
  fits := by decide

structure CacheEntry (D : Type) where
  value : D
  expiresAt : Nat
  weight : Nat
deriving DecidableEq, Repr

/-- Flights are shared by their place in the list of all flights there have been. -/
structure ProbeCacheState (K D : Type) where
  entries : AList fun _ : K => CacheEntry D
  lru : List K
  inFlight : AList fun _ : K => Nat
  weight : Nat

def ProbeCacheState.empty : ProbeCacheState K D := ⟨∅, [], ∅, 0⟩

end State

section Sections

variable [DecidableEq K]

def removeCacheEntry (state : ProbeCacheState K D) (key : K) : ProbeCacheState K D :=
  let removed :=
    match state.entries.lookup key with
    | some entry =>
        { state with
          entries := state.entries.erase key
          weight := state.weight - entry.weight }
    | none => state
  { removed with lru := removed.lru.filter fun candidate => candidate ≠ key }

inductive Entered (D : Type) where
  | hit (value : D)
  | joined (flight : Nat)
  | refused
  | leads

/-- The first critical section; `fresh` is the flight that it creates if it does. -/
def enter (limits : CacheLimits) (now fresh : Nat) (key : K) (state : ProbeCacheState K D) :
    ProbeCacheState K D × Entered D :=
  match (state.entries.lookup key).filter fun entry => now < entry.expiresAt with
  | some entry =>
      ({ state with lru := (state.lru.filter fun candidate => candidate ≠ key) ++ [key] },
        .hit entry.value)
  | none =>
      let state := removeCacheEntry state key
      match state.inFlight.lookup key with
      | some flight => (state, .joined flight)
      | none =>
          if limits.maxInFlight ≤ state.inFlight.entries.length then (state, .refused)
          else ({ state with inFlight := state.inFlight.insert key fresh }, .leads)

/-- The loop takes a key from the queue each time, and ends with the queue at the latest. -/
def evictWithin (limits : CacheLimits) : Nat → ProbeCacheState K D → ProbeCacheState K D
  | 0, state => state
  | turns + 1, state =>
      if limits.maxEntries < state.entries.entries.length ∨ limits.maxWeight < state.weight then
        match state.lru with
        | [] => state
        | oldest :: rest => evictWithin limits turns (removeCacheEntry { state with lru := rest } oldest)
      else state

def evict (limits : CacheLimits) (state : ProbeCacheState K D) : ProbeCacheState K D :=
  evictWithin limits state.lru.length state

def saturatingAdd (left right : Nat) : Nat := min (left + right) (2 ^ 64 - 1)

def store (limits : CacheLimits) (estimatedWeight : D → Nat) (now : Nat) (key : K)
    (result : ProbeResult D) (state : ProbeCacheState K D) : ProbeCacheState K D :=
  let state := { state with inFlight := state.inFlight.erase key }
  match result with
  | .error _ => state
  | .ok value =>
      let weight := min (estimatedWeight value) limits.maxWeight
      evict limits
        { state with
          weight := saturatingAdd state.weight weight
          lru := state.lru ++ [key]
          entries := state.entries.insert key ⟨value, now + limits.ttl, weight⟩ }

def release (key : K) (flight : Nat) (state : ProbeCacheState K D) : ProbeCacheState K D :=
  if state.inFlight.lookup key = some flight then
    { state with inFlight := state.inFlight.erase key }
  else state

end Sections

section Calls

inductive Stage (D : Type) where
  | entering
  -- A waiter, before it asks for a notification; then with it, which may have come.
  | joining (flight : Nat)
  | checking (flight : Nat) (notified : Bool)
  | parked (flight : Nat) (notified : Bool)
  -- The leader of the flight.
  | probing (flight : Nat)
  | probed (flight : Nat) (result : ProbeResult D)
  | published (flight : Nat) (result : ProbeResult D)
  | stored (flight : Nat) (result : ProbeResult D)
  -- Its guard, when the call is dropped.
  | cancelling (flight : Nat)
  | releasing (flight : Nat)
  | notifying (flight : Nat)
  -- With the flight it joined or led, if any.
  | answered (flight : Option Nat) (result : ProbeResult D)
  | gone

structure ProbeCall (K D : Type) where
  key : K
  stage : Stage D

/-- A flight knows its key and its leader for the proofs only. -/
structure ProbeFlight (K D : Type) where
  key : K
  leader : Nat
  result : Option (ProbeResult D)

/-- The cache with all calls there have been, and the keys of the entries they have used. -/
structure ProbeCache (K D : Type) where
  state : ProbeCacheState K D
  flights : List (ProbeFlight K D)
  calls : List (ProbeCall K D)
  uses : List K

namespace ProbeCache

def empty : ProbeCache K D := ⟨.empty, [], [], []⟩

def move (cache : ProbeCache K D) (place : Nat) (key : K) (stage : Stage D) : ProbeCache K D :=
  { cache with calls := cache.calls.set place ⟨key, stage⟩ }

end ProbeCache

def ProbeCall.notify (flight : Nat) (call : ProbeCall K D) : ProbeCall K D :=
  match call.stage with
  | .checking other _ => if other = flight then { call with stage := .checking flight true } else call
  | .parked other _ => if other = flight then { call with stage := .parked flight true } else call
  | _ => call

namespace ProbeCache

def notifyWaiters (cache : ProbeCache K D) (flight : Nat) : ProbeCache K D :=
  { cache with calls := cache.calls.map (ProbeCall.notify flight) }

def setSlot (cache : ProbeCache K D) (flight : Nat) (result : ProbeResult D) : ProbeCache K D :=
  { cache with
    flights := cache.flights.modify flight fun record => { record with result := some result } }

def setSlotIfNone (cache : ProbeCache K D) (flight : Nat) (result : ProbeResult D) : ProbeCache K D :=
  { cache with
    flights := cache.flights.modify flight fun record =>
      { record with result := record.result.or (some result) } }

variable [DecidableEq K]

def entered (limits : CacheLimits) (cache : ProbeCache K D) (place : Nat) (key : K) (now : Nat) :
    ProbeCache K D :=
  let fresh := cache.flights.length
  match enter limits now fresh key cache.state with
  | (state, .hit value) =>
      { cache with state := state, uses := cache.uses ++ [key] }.move place key
        (.answered none (.ok value))
  | (state, .joined flight) => { cache with state := state }.move place key (.joining flight)
  | (state, .refused) =>
      { cache with state := state }.move place key (.answered none (.error .capacityExceeded))
  | (state, .leads) =>
      { cache with
        state := state
        flights := cache.flights ++ [ProbeFlight.mk key place none] }.move place key (.probing fresh)

def recordUse (cache : ProbeCache K D) (key : K) : ProbeResult D → ProbeCache K D
  | .ok _ => { cache with uses := cache.uses ++ [key] }
  | .error _ => cache

def advance (limits : CacheLimits) (estimatedWeight : D → Nat) (cache : ProbeCache K D) (place now : Nat)
    (key : K) : Stage D → Option (ProbeCache K D)
  | .entering => some (cache.entered limits place key now)
  | .joining flight => some (cache.move place key (.checking flight false))
  | .checking flight notified =>
      (cache.flights[flight]?).map fun record =>
        match record.result with
        | some result => cache.move place key (.answered (some flight) result)
        | none => cache.move place key (.parked flight notified)
  | .parked flight true => some (cache.move place key (.joining flight))
  | .probed flight result => some ((cache.setSlot flight result).move place key (.published flight result))
  | .published flight result =>
      let cache := cache.recordUse key result
      let state := store limits estimatedWeight now key result cache.state
      some ({ cache with state := state }.move place key (.stored flight result))
  | .stored flight result =>
      some ((cache.notifyWaiters flight).move place key (.answered (some flight) result))
  | .cancelling flight =>
      some ((cache.setSlotIfNone flight (.error .cancelled)).move place key (.releasing flight))
  | .releasing flight =>
      some ({ cache with state := release key flight cache.state }.move place key (.notifying flight))
  | .notifying flight => some ((cache.notifyWaiters flight).move place key .gone)
  | .parked _ false | .probing _ | .answered .. | .gone => none

end ProbeCache

inductive ProbeAction (K D : Type) where
  | call (key : K)
  | advance (place now : Nat)
  -- The leader's probe comes to its end.
  | finish (place : Nat) (result : ProbeResult D)
  | drop (place : Nat)

variable [DecidableEq K]

def ProbeCache.step (limits : CacheLimits) (estimatedWeight : D → Nat) (cache : ProbeCache K D) :
    ProbeAction K D → Option (ProbeCache K D)
  | .call key => some { cache with calls := cache.calls ++ [⟨key, .entering⟩] }
  | .advance place now =>
      (cache.calls[place]?).bind fun call =>
        cache.advance limits estimatedWeight place now call.key call.stage
  | .finish place result =>
      match cache.calls[place]? with
      | some ⟨key, .probing flight⟩ => some (cache.move place key (.probed flight result))
      | _ => none
  | .drop place =>
      match cache.calls[place]? with
      | some ⟨key, .entering⟩ => some (cache.move place key .gone)
      | some ⟨key, .parked _ _⟩ => some (cache.move place key .gone)
      | some ⟨key, .probing flight⟩ => some (cache.move place key (.cancelling flight))
      | _ => none

end Calls

variable {K D : Type} [DecidableEq K]

namespace ProbeCacheState

structure Exact (uses : List K) (state : ProbeCacheState K D) : Prop where
  lists : LastUse.Lists uses state.entries state.lru
  weight : state.weight = LastUse.total CacheEntry.weight state.entries

structure Within (limits : CacheLimits) (state : ProbeCacheState K D) : Prop where
  entries : state.entries.entries.length ≤ limits.maxEntries
  weight : state.weight ≤ limits.maxWeight

end ProbeCacheState

open ProbeCacheState

variable {limits : CacheLimits} {uses : List K} {state : ProbeCacheState K D} {key other : K}
  {entry : CacheEntry D}

theorem ProbeCacheState.Exact.withFlights (exact : state.Exact uses) (inFlight : AList fun _ : K => Nat) :
    Exact uses { state with inFlight := inFlight } := ⟨exact.lists, exact.weight⟩

omit [DecidableEq K] in
theorem ProbeCacheState.Within.withFlights (within : state.Within limits)
    (inFlight : AList fun _ : K => Nat) : Within limits { state with inFlight := inFlight } :=
  ⟨within.entries, within.weight⟩

section Removal

theorem removeCacheEntry_eq (state : ProbeCacheState K D) (key : K) :
    removeCacheEntry state key =
      { state with
        entries := state.entries.erase key
        lru := state.lru.filter fun candidate => candidate ≠ key
        weight := state.weight - ((state.entries.lookup key).map CacheEntry.weight).getD 0 } := by
  unfold removeCacheEntry
  cases found : state.entries.lookup key with
  | some entry => rfl
  | none =>
    simp only [Option.map_none, Option.getD_none, Nat.sub_zero]
    rw [LastUse.erase_absent found]

theorem removeCacheEntry_inFlight (state : ProbeCacheState K D) (key : K) :
    (removeCacheEntry state key).inFlight = state.inFlight := by
  rw [removeCacheEntry_eq]

theorem removeCacheEntry_absent (state : ProbeCacheState K D) (key : K) :
    (removeCacheEntry state key).entries.lookup key = none := by
  rw [removeCacheEntry_eq]
  exact AList.lookup_erase ..

theorem removeCacheEntry_kept
    (found : (removeCacheEntry state key).entries.lookup other = some entry) :
    state.entries.lookup other = some entry := by
  rw [removeCacheEntry_eq] at found
  by_cases same : other = key
  · subst same
    rw [AList.lookup_erase] at found
    cases found
  · rwa [AList.lookup_erase_ne same] at found

theorem removeCacheEntry_exact (exact : state.Exact uses) (key : K) :
    (removeCacheEntry state key).Exact uses := by
  rw [removeCacheEntry_eq]
  refine ⟨exact.lists.erased key, ?_⟩
  cases found : state.entries.lookup key with
  | none =>
    simp only [Option.map_none, Option.getD_none, Nat.sub_zero]
    rw [LastUse.erase_absent found]
    exact exact.weight
  | some entry =>
    have rest := LastUse.total_erase CacheEntry.weight found
    have before := exact.weight
    simp only [Option.map_some, Option.getD_some]
    omega

theorem removeCacheEntry_within (within : state.Within limits) (key : K) :
    (removeCacheEntry state key).Within limits := by
  rw [removeCacheEntry_eq]
  exact ⟨(LastUse.size_erase_le state.entries key).trans within.entries,
    (Nat.sub_le ..).trans within.weight⟩

end Removal

section Eviction

theorem removeCacheEntry_oldest {rest : List K} (queue : state.lru = key :: rest) :
    removeCacheEntry { state with lru := rest } key = removeCacheEntry state key := by
  rw [removeCacheEntry_eq, removeCacheEntry_eq]
  simp [queue]

theorem evictWithin_keeps {kept : ProbeCacheState K D → Prop}
    (removed : ∀ before key, kept before → kept (removeCacheEntry before key)) (turns : Nat)
    (initial : kept state) : kept (evictWithin limits turns state) := by
  induction turns generalizing state with
  | zero => exact initial
  | succ turns ih =>
    unfold evictWithin
    split
    next =>
      cases queue : state.lru with
      | nil => exact initial
      | cons oldest rest =>
        simp only [removeCacheEntry_oldest queue]
        exact ih (removed state oldest initial)
    next => exact initial

theorem evict_keeps (limits : CacheLimits) (kept : ProbeCacheState K D → Prop)
    (removed : ∀ before key, kept before → kept (removeCacheEntry before key)) (initial : kept state) :
    kept (evict limits state) :=
  evictWithin_keeps removed _ initial

theorem within_of_idle (exact : state.Exact uses) (idle : state.lru = []) : state.Within limits := by
  have none : state.entries.entries = [] := by
    rw [List.eq_nil_iff_forall_not_mem]
    intro entry present
    have listed : entry.1 ∈ state.lru := exact.lists.mem_iff.mpr (List.mem_map_of_mem present)
    rw [idle] at listed
    cases listed
  refine ⟨by simp [none], ?_⟩
  rw [exact.weight, LastUse.total, none]
  exact Nat.zero_le _

theorem evictWithin_within (exact : state.Exact uses) (turns : Nat)
    (enough : state.lru.length ≤ turns) : (evictWithin limits turns state).Within limits := by
  induction turns generalizing state with
  | zero => exact within_of_idle exact (List.eq_nil_of_length_eq_zero (Nat.le_zero.mp enough))
  | succ turns ih =>
    unfold evictWithin
    split
    next =>
      cases queue : state.lru with
      | nil => exact within_of_idle exact queue
      | cons oldest rest =>
        simp only [removeCacheEntry_oldest queue]
        refine ih (removeCacheEntry_exact exact oldest) ?_
        rw [← removeCacheEntry_oldest queue, removeCacheEntry_eq]
        rw [queue, List.length_cons] at enough
        exact (List.length_filter_le ..).trans (Nat.le_of_succ_le_succ enough)
    next light =>
      obtain ⟨few, light⟩ := not_or.mp light
      exact ⟨Nat.le_of_not_lt few, Nat.le_of_not_lt light⟩

theorem evict_within (exact : state.Exact uses) : (evict limits state).Within limits :=
  evictWithin_within exact _ (Nat.le_refl _)

end Eviction

section Store

-- Between the insertion and the eviction the weight may be over its limit, but not saturated.
theorem insert_exact (exact : state.Exact uses) (within : state.Within limits)
    (absent : state.entries.lookup key = none) (entry : CacheEntry D)
    (light : entry.weight ≤ limits.maxWeight) :
    Exact (uses ++ [key])
      { state with
        weight := saturatingAdd state.weight entry.weight
        lru := state.lru ++ [key]
        entries := state.entries.insert key entry } where
  lists := exact.lists.added (AList.lookup_eq_none.mp absent) entry
  weight := by
    have fits := limits.fits
    have before := within.weight
    have room : state.weight + entry.weight ≤ 2 ^ 64 - 1 := by omega
    rw [LastUse.total_insert CacheEntry.weight (AList.lookup_eq_none.mp absent), ← exact.weight,
      Nat.add_comm entry.weight]
    exact Nat.min_eq_left room

theorem store_inFlight (limits : CacheLimits) (estimatedWeight : D → Nat) (now : Nat) (key : K)
    (result : ProbeResult D) (state : ProbeCacheState K D) :
    (store limits estimatedWeight now key result state).inFlight = state.inFlight.erase key := by
  cases result with
  | error => rfl
  | ok value =>
    exact evict_keeps limits (fun after => after.inFlight = state.inFlight.erase key)
      (fun before key same => (removeCacheEntry_inFlight before key).trans same) rfl

theorem store_cached {estimatedWeight : D → Nat} {now : Nat} {result : ProbeResult D}
    (found : (store limits estimatedWeight now key result state).entries.lookup other = some entry) :
    state.entries.lookup other = some entry ∨ other = key ∧ result = .ok entry.value := by
  cases result with
  | error => exact .inl found
  | ok value =>
    have present := evict_keeps limits
      (fun after => ∀ entry, after.entries.lookup other = some entry →
        (state.entries.insert key
          ⟨value, now + limits.ttl, min (estimatedWeight value) limits.maxWeight⟩).lookup other =
          some entry)
      (fun before key kept entry found => kept entry (removeCacheEntry_kept found))
      (fun entry found => found) entry found
    by_cases same : other = key
    · subst same
      rw [AList.lookup_insert] at present
      exact .inr ⟨rfl, by cases present; rfl⟩
    · rw [AList.lookup_insert_ne same] at present
      exact .inl present

structure ProbeCacheState.Sound (limits : CacheLimits) (uses : List K) (state : ProbeCacheState K D) :
    Prop where
  exact : state.Exact uses
  within : state.Within limits
  inFlight : state.inFlight.entries.length ≤ limits.maxInFlight

theorem sound_empty (limits : CacheLimits) :
    Sound limits [] (ProbeCacheState.empty : ProbeCacheState K D) where
  exact := ⟨LastUse.lists_empty, rfl⟩
  within := ⟨Nat.zero_le _, Nat.zero_le _⟩
  inFlight := Nat.zero_le _

theorem store_error_sound (sound : state.Sound limits uses) (estimatedWeight : D → Nat) (now : Nat)
    (key : K) (error : ProbeErrorCode) :
    (store limits estimatedWeight now key (.error error) state).Sound limits uses where
  exact := sound.exact.withFlights _
  within := sound.within.withFlights _
  inFlight := (LastUse.size_erase_le state.inFlight key).trans sound.inFlight

theorem store_ok_sound (sound : state.Sound limits uses) (absent : state.entries.lookup key = none)
    (estimatedWeight : D → Nat) (now : Nat) (value : D) :
    (store limits estimatedWeight now key (.ok value) state).Sound limits (uses ++ [key]) := by
  have inserted := insert_exact (sound.exact.withFlights (state.inFlight.erase key))
    (sound.within.withFlights _) absent
    ⟨value, now + limits.ttl, min (estimatedWeight value) limits.maxWeight⟩ (Nat.min_le_right ..)
  refine ⟨?_, evict_within inserted, ?_⟩
  · exact evict_keeps limits (Exact (uses ++ [key]))
      (fun before key exact => removeCacheEntry_exact exact key) inserted
  · rw [store_inFlight]
    exact (LastUse.size_erase_le state.inFlight key).trans sound.inFlight

end Store

section Entrance

theorem enter_cases (limits : CacheLimits) (now fresh : Nat) (key : K) (state : ProbeCacheState K D) :
    (∃ entry, state.entries.lookup key = some entry ∧ now < entry.expiresAt ∧
      enter limits now fresh key state =
        ({ state with lru := (state.lru.filter fun candidate => candidate ≠ key) ++ [key] },
          .hit entry.value)) ∨
    (∃ flight, state.inFlight.lookup key = some flight ∧
      enter limits now fresh key state = (removeCacheEntry state key, .joined flight)) ∨
    (state.inFlight.lookup key = none ∧
      enter limits now fresh key state = (removeCacheEntry state key, .refused)) ∨
    (state.inFlight.lookup key = none ∧ state.inFlight.entries.length < limits.maxInFlight ∧
      enter limits now fresh key state =
        ({ removeCacheEntry state key with inFlight := state.inFlight.insert key fresh }, .leads)) := by
  unfold enter
  cases live : (state.entries.lookup key).filter fun entry => now < entry.expiresAt with
  | some entry =>
    obtain ⟨found, early⟩ := Option.filter_eq_some_iff.mp live
    exact .inl ⟨entry, found, of_decide_eq_true early, rfl⟩
  | none =>
    simp only [removeCacheEntry_inFlight]
    cases flying : state.inFlight.lookup key with
    | some flight => exact .inr (.inl ⟨flight, rfl, rfl⟩)
    | none =>
      by_cases full : limits.maxInFlight ≤ state.inFlight.entries.length
      · exact .inr (.inr (.inl ⟨rfl, if_pos full⟩))
      · exact .inr (.inr (.inr ⟨rfl, Nat.lt_of_not_le full, if_neg full⟩))

theorem removeCacheEntry_sound (sound : state.Sound limits uses) (key : K) :
    (removeCacheEntry state key).Sound limits uses where
  exact := removeCacheEntry_exact sound.exact key
  within := removeCacheEntry_within sound.within key
  inFlight := by
    rw [removeCacheEntry_inFlight]
    exact sound.inFlight

theorem touch_sound (sound : state.Sound limits uses) (found : state.entries.lookup key = some entry) :
    Sound limits (uses ++ [key])
      { state with lru := (state.lru.filter fun candidate => candidate ≠ key) ++ [key] } where
  exact := ⟨sound.exact.lists.touched (by rw [found]; rfl), sound.exact.weight⟩
  within := ⟨sound.within.entries, sound.within.weight⟩
  inFlight := sound.inFlight

theorem lead_sound (sound : state.Sound limits uses) (absent : state.inFlight.lookup key = none)
    (room : state.inFlight.entries.length < limits.maxInFlight) (fresh : Nat) :
    Sound limits uses
      { removeCacheEntry state key with inFlight := state.inFlight.insert key fresh } where
  exact := (removeCacheEntry_exact sound.exact key).withFlights _
  within := (removeCacheEntry_within sound.within key).withFlights _
  inFlight := by
    rw [LastUse.size_insert (AList.lookup_eq_none.mp absent)]
    exact room

theorem release_sound (sound : state.Sound limits uses) (key : K) (flight : Nat) :
    (release key flight state).Sound limits uses := by
  unfold release
  split
  next =>
    exact ⟨sound.exact.withFlights _, sound.within.withFlights _,
      (LastUse.size_erase_le state.inFlight key).trans sound.inFlight⟩
  next => exact sound

end Entrance

end StreamServer.Transcoding
