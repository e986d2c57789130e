import StreamServer.Shared.Lists
import StreamServer.Transcoding.UnixOwnership

set_option autoImplicit false

namespace StreamServer.Transcoding

namespace RunPhase

def listed : RunPhase → Option (Nat × RegisteredEntry)
  | .registered processGroup id => some (id, registeredUnix processGroup)
  | .bound processGroup id => some (id, { registeredUnix processGroup with permit := true })
  | .owned state => state.owner.registration.map fun id => (id, state.entry)
  | _ => none

def registration (phase : RunPhase) : Option Nat := phase.listed.map Prod.fst

def owns : RunPhase → Bool
  | .requested | .waiting | .ended => false
  | .cancelling permit => permit
  | .owned state => state.owner.registration.isSome
  | _ => true

def holdsGate : RunPhase → Bool
  | .gated | .cleared | .spawned _ | .registered .. => true
  | _ => false

def isCleared : RunPhase → Bool
  | .cleared => true
  | _ => false

/-- The call has spawned nothing yet, or never will. -/
def Early (phase : RunPhase) : Prop := phase.listed = none ∧ phase.leader = none

theorem listed_owned (state : UnixOwner) : (RunPhase.owned state).registration =
    state.owner.registration := by
  simp only [registration, listed, Option.map_map]
  cases state.owner.registration <;> rfl

end RunPhase

namespace ProcessSupervisor

variable {before next : ProcessSupervisor} {place limit : Nat} {call changed : Call}

structure Sound (limit : Nat) (supervisor : ProcessSupervisor) : Prop where
  permits : supervisor.available + supervisor.calls.countP (·.phase.owns) = limit
  gate : ∀ (place : Nat) (call : Call), supervisor.calls[place]? = some call →
    call.phase.holdsGate = true → supervisor.gate = some (.call place) ∧
      (call.phase.isCleared = true → supervisor.accepting = true)
  closed : ∀ caller, supervisor.gate = some (.cancel caller) → supervisor.accepting = false
  owners : ∀ (place : Nat) (call : Call) (state : UnixOwner),
    supervisor.calls[place]? = some call → call.phase = .owned state → state.Sound
  listed : ∀ (place : Nat) (call : Call) (id : Nat) (entry : RegisteredEntry),
    supervisor.calls[place]? = some call → call.phase.listed = some (id, entry) →
      id < supervisor.nextId ∧ supervisor.entries id = some entry
  unique : ∀ (place other : Nat) (call twin : Call) (id : Nat),
    supervisor.calls[place]? = some call → supervisor.calls[other]? = some twin →
      call.phase.registration = some id → twin.phase.registration = some id → place = other
  entries : ∀ (id : Nat) (entry : RegisteredEntry), supervisor.entries id = some entry →
    ∃ (place : Nat) (call : Call), supervisor.calls[place]? = some call ∧
      call.phase.listed = some (id, entry)
  groups : ∀ (place other : Nat) (call twin : Call) (processGroup : Nat),
    supervisor.calls[place]? = some call → supervisor.calls[other]? = some twin →
      call.phase.leader = some (processGroup, false) →
        twin.phase.leader = some (processGroup, false) → place = other

theorem sound_initial (maximum : Nat) : (withMaxConcurrency maximum).Sound (max maximum 1) := by
  constructor <;> simp [withMaxConcurrency]

structure GateMoves (before next : ProcessSupervisor) (place : Nat) (changed : Call) : Prop where
  held : changed.phase.holdsGate = true → next.gate = some (.call place) ∧
    (changed.phase.isCleared = true → next.accepting = true)
  kept : ∀ other, other ≠ place → before.gate = some (.call other) →
    next.gate = some (.call other) ∧ next.accepting = before.accepting
  closed : ∀ caller, next.gate = some (.cancel caller) → next.accepting = false

structure Moves (before next : ProcessSupervisor) (place : Nat) (call changed : Call) : Prop where
  calls : next.calls = before.calls.set place changed
  permits : next.available + changed.phase.owns.toNat = before.available + call.phase.owns.toNat
  gate : GateMoves before next place changed
  ids : before.nextId ≤ next.nextId
  listed : ∀ id entry, changed.phase.listed = some (id, entry) →
    id < next.nextId ∧ next.entries id = some entry
  own : ∀ id, changed.phase.registration = some id →
    call.phase.registration = some id ∨ before.nextId ≤ id
  others : ∀ id, call.phase.registration ≠ some id → changed.phase.registration ≠ some id →
    next.entries id = before.entries id
  released : ∀ id, call.phase.registration = some id → changed.phase.registration ≠ some id →
    next.entries id = none
  owner : ∀ state, changed.phase = .owned state → state.Sound
  group : ∀ processGroup, changed.phase.leader = some (processGroup, false) →
    call.phase.leader = some (processGroup, false) ∨
      ∀ other ∈ before.calls, other.phase.leader ≠ some (processGroup, false)

theorem registration_of_listed {phase : RunPhase} {id : Nat} {entry : RegisteredEntry}
    (listed : phase.listed = some (id, entry)) : phase.registration = some id := by
  rw [RunPhase.registration, listed]
  rfl

theorem listed_of_registration {phase : RunPhase} {id : Nat} (held : phase.registration = some id) :
    ∃ entry, phase.listed = some (id, entry) := by
  obtain ⟨⟨other, entry⟩, listed, same⟩ := Option.map_eq_some_iff.mp held
  cases same
  exact ⟨entry, listed⟩

theorem Sound.registered_lt (sound : before.Sound limit) (present : before.calls[place]? = some call)
    {id : Nat} (held : call.phase.registration = some id) : id < before.nextId := by
  obtain ⟨entry, listed⟩ := listed_of_registration held
  exact (sound.listed place call id entry present listed).1

theorem Sound.moved (sound : before.Sound limit) (present : before.calls[place]? = some call)
    (moves : Moves before next place call changed) : next.Sound limit := by
  have found : ∀ {other : Nat} {twin : Call}, next.calls[other]? = some twin →
      other ≠ place ∧ before.calls[other]? = some twin ∨ other = place ∧ twin = changed := by
    intro other twin held
    rw [moves.calls] at held
    exact Lists.getElem?_set_cases held
  -- The id of another call is not touched.
  have foreign : ∀ {other : Nat} {twin : Call} {id : Nat}, other ≠ place →
      before.calls[other]? = some twin → twin.phase.registration = some id →
        call.phase.registration ≠ some id ∧ changed.phase.registration ≠ some id := by
    intro other twin id apart held named
    have distinct : call.phase.registration ≠ some id := fun same =>
      apart (sound.unique other place twin call id held present named same)
    refine ⟨distinct, fun same => ?_⟩
    rcases moves.own id same with old | late
    · exact distinct old
    · exact absurd (sound.registered_lt held named) (Nat.not_lt.mpr late)
  constructor
  case permits =>
    have counted := Lists.countP_set_add (fun call : Call => call.phase.owns) present changed
    have balance := moves.permits
    have total := sound.permits
    rw [moves.calls]
    omega
  case gate =>
    intro other twin held holds
    rcases found held with ⟨apart, old⟩ | ⟨rfl, rfl⟩
    · obtain ⟨mine, accepting⟩ := sound.gate other twin old holds
      obtain ⟨still, same⟩ := moves.gate.kept other apart mine
      exact ⟨still, fun cleared => same.trans (accepting cleared)⟩
    · exact moves.gate.held holds
  case closed => exact moves.gate.closed
  case owners =>
    intro other twin state held named
    rcases found held with ⟨_, old⟩ | ⟨rfl, rfl⟩
    · exact sound.owners other twin state old named
    · exact moves.owner state named
  case listed =>
    intro other twin id entry held named
    rcases found held with ⟨apart, old⟩ | ⟨rfl, rfl⟩
    · obtain ⟨before_lt, stored⟩ := sound.listed other twin id entry old named
      obtain ⟨distinct, fresh⟩ := foreign apart old (registration_of_listed named)
      exact ⟨Nat.lt_of_lt_of_le before_lt moves.ids, (moves.others id distinct fresh).trans stored⟩
    · exact moves.listed id entry named
  case unique =>
    intro first second twin other id atFirst atSecond named same
    rcases found atFirst with ⟨apart, old⟩ | ⟨rfl, rfl⟩ <;>
      rcases found atSecond with ⟨away, older⟩ | ⟨rfl, rfl⟩
    · exact sound.unique first second twin other id old older named same
    · exact absurd same (foreign apart old named).2
    · exact absurd named (foreign away older same).2
    · rfl
  case entries =>
    intro id entry stored
    by_cases mine : changed.phase.registration = some id
    · obtain ⟨listed, named⟩ := listed_of_registration mine
      have same := (moves.listed id listed named).2
      rw [stored] at same
      cases same
      refine ⟨place, changed, ?_, named⟩
      rw [moves.calls, List.getElem?_set_self (List.getElem?_eq_some_iff.mp present).1]
    · by_cases was : call.phase.registration = some id
      · have gone := moves.released id was mine
        rw [stored] at gone
        cases gone
      · rw [moves.others id was mine] at stored
        obtain ⟨other, twin, held, named⟩ := sound.entries id entry stored
        have apart : other ≠ place := by
          rintro rfl
          rw [present] at held
          cases held
          exact was (registration_of_listed named)
        refine ⟨other, twin, ?_, named⟩
        rw [moves.calls, List.getElem?_set_ne (Ne.symm apart)]
        exact held
  case groups =>
    -- The kernel has given the group of a new process to no other child.
    have alone : ∀ {other : Nat} {twin : Call} {processGroup : Nat}, other ≠ place →
        before.calls[other]? = some twin → twin.phase.leader = some (processGroup, false) →
          changed.phase.leader ≠ some (processGroup, false) := by
      intro other twin processGroup apart held named same
      rcases moves.group processGroup same with old | fresh
      · exact apart (sound.groups other place twin call processGroup held present named old)
      · exact fresh twin (List.mem_of_getElem? held) named
    intro first second twin other processGroup atFirst atSecond named same
    rcases found atFirst with ⟨apart, old⟩ | ⟨rfl, rfl⟩ <;>
      rcases found atSecond with ⟨away, older⟩ | ⟨rfl, rfl⟩
    · exact sound.groups first second twin other processGroup old older named same
    · exact absurd same (alone apart old named)
    · exact absurd named (alone away older same)
    · rfl

theorem Sound.gateSame (sound : before.Sound limit) (present : before.calls[place]? = some call)
    (holds : changed.phase.holdsGate = true → call.phase.holdsGate = true ∧
      (changed.phase.isCleared = true → before.accepting = true))
    (gate : next.gate = before.gate) (accepting : next.accepting = before.accepting) :
    GateMoves before next place changed where
  held := fun still => by
    obtain ⟨held, cleared⟩ := holds still
    exact ⟨gate.trans (sound.gate place call present held).1,
      fun passed => accepting.trans (cleared passed)⟩
  kept := fun _ _ held => ⟨gate.trans held, accepting⟩
  closed := fun caller held => accepting.trans (sound.closed caller (gate.symm.trans held))

theorem gateLocked (free : before.gate = none) (gate : next.gate = some (.call place))
    (uncleared : changed.phase.isCleared = false) : GateMoves before next place changed where
  held := fun _ => ⟨gate, fun cleared => by simp [uncleared] at cleared⟩
  kept := fun other _ held => by
    rw [free] at held
    cases held
  closed := fun caller held => by
    rw [gate] at held
    cases held

theorem Sound.gateLeft (sound : before.Sound limit) (present : before.calls[place]? = some call)
    (holds : call.phase.holdsGate = true) (left : changed.phase.holdsGate = false)
    (gate : next.gate = none) : GateMoves before next place changed where
  held := fun still => by
    rw [left] at still
    cases still
  kept := fun other apart held => by
    rw [(sound.gate place call present holds).1] at held
    cases held
    exact absurd rfl apart
  closed := fun caller held => by
    rw [gate] at held
    cases held

theorem Sound.quiet (sound : before.Sound limit) (present : before.calls[place]? = some call)
    (calls : next.calls = before.calls.set place changed)
    (permits : next.available + changed.phase.owns.toNat =
      before.available + call.phase.owns.toNat)
    (gate : GateMoves before next place changed) (entries : next.entries = before.entries)
    (ids : next.nextId = before.nextId) (listed : changed.phase.listed = call.phase.listed)
    (owner : ∀ state, changed.phase = .owned state → state.Sound)
    (group : ∀ processGroup, changed.phase.leader = some (processGroup, false) →
      call.phase.leader = some (processGroup, false) ∨
        ∀ other ∈ before.calls, other.phase.leader ≠ some (processGroup, false)) :
    next.Sound limit := by
  have registration : changed.phase.registration = call.phase.registration := by
    rw [RunPhase.registration, listed]
    rfl
  apply sound.moved present
  refine ⟨calls, permits, gate, Nat.le_of_eq ids.symm, ?_, ?_, ?_, ?_, owner, group⟩
  · intro id entry named
    rw [listed] at named
    rw [ids, entries]
    exact sound.listed place call id entry present named
  · intro id named
    exact .inl (registration.symm.trans named)
  · intro id _ _
    rw [entries]
  · intro id was gone
    exact absurd (registration.trans was) gone

theorem Sound.early (sound : before.Sound limit) (present : before.calls[place]? = some call)
    (early : call.phase.Early) (still : changed.phase.Early)
    (calls : next.calls = before.calls.set place changed)
    (permits : next.available + changed.phase.owns.toNat =
      before.available + call.phase.owns.toNat)
    (gate : GateMoves before next place changed) (entries : next.entries = before.entries)
    (ids : next.nextId = before.nextId) : next.Sound limit := by
  refine sound.quiet present calls permits gate entries ids (still.1.trans early.1.symm) ?_ ?_
  · intro state owned
    have none := still.2
    rw [owned] at none
    cases none
  · intro processGroup leads
    rw [still.2] at leads
    cases leads

theorem Sound.check (sound : before.Sound limit) (present : before.calls[place]? = some call)
    {permit : Bool} {passed : RunPhase} (early : call.phase.Early) (still : passed.Early)
    (owned : call.phase.owns = permit) (owns : passed.owns = permit)
    (outside : passed.holdsGate = false) :
    (before.check place call permit passed).Sound limit := by
  unfold ProcessSupervisor.check
  split
  · refine sound.early present early ⟨rfl, rfl⟩ rfl ?_ ?_ rfl rfl
    · rw [owned]
      rfl
    · exact sound.gateSame present (fun holds => by cases holds) rfl rfl
  · split
    · refine sound.early present early ⟨rfl, rfl⟩ rfl ?_ ?_ rfl rfl
      · rw [owned]
        rfl
      · exact sound.gateSame present (fun holds => by cases holds) rfl rfl
    · refine sound.early present early still rfl ?_ ?_ rfl rfl
      · rw [owned]
        exact congrArg (before.available + ·) (congrArg Bool.toNat owns)
      · exact sound.gateSame present (fun holds => by simp [outside] at holds) rfl rfl

theorem Sound.register (sound : before.Sound limit) (present : before.calls[place]? = some call)
    {processGroup : Nat} (here : call.phase = .spawned processGroup) :
    (before.register place call processGroup).Sound limit := by
  have unlisted : call.phase.registration = none := by rw [here]; rfl
  let changed : Call := { call with phase := .registered processGroup before.nextId }
  apply @Sound.moved before _ place limit call changed sound present
  refine ⟨rfl, ?_, ?_, Nat.le_succ _, ?_, ?_, ?_, ?_, ?_, ?_⟩
  · rw [here]
    rfl
  · refine sound.gateSame present (fun _ => ⟨by rw [here]; rfl, fun passed => ?_⟩) rfl rfl
    cases passed
  · rintro id entry ⟨⟩
    exact ⟨Nat.lt_succ_self _, Function.update_self ..⟩
  · rintro id ⟨⟩
    exact .inr (Nat.le_refl _)
  · intro id _ apart
    apply Function.update_of_ne
    rintro rfl
    exact apart rfl
  · intro id was
    rw [unlisted] at was
    cases was
  · intro state owned
    cases owned
  · rintro other ⟨⟩
    left
    rw [here]
    rfl

end ProcessSupervisor

end StreamServer.Transcoding
