import StreamServer.Shared.Lists
import StreamServer.Transcoding.SourceBroker

set_option autoImplicit false

namespace StreamServer.Transcoding

namespace Phase

def bodyState : Phase → Option EngineBodyState
  | .body _ _ state | .ended _ _ state _ => some state
  | _ => none

end Phase

inductive Moves (digest : Bytes → Bytes) (broker : SourceBroker) (request : Request) :
    RequestStep → Phase → Prop where
  | answered (step : RequestStep) (status : Nat) (early : request.phase.bodyState = none) :
      Moves digest broker request step (.answered status)
  | dropped (early : request.phase.bodyState = none) : Moves digest broker request .drop .dropped
  | found (id : Nat) (entry : CapabilityEntry) (phase : request.phase = .called)
      (decoded : Hex.decode request.capability = some entry.credential)
      (listed : broker.registry.entries.lookup (digest entry.credential) = some id)
      (held : broker.capabilities[id]? = some entry) :
      Moves digest broker request .lookUp (.found id)
  | unrevoked (id : Nat) (entry : CapabilityEntry) (phase : request.phase = .found id)
      (held : broker.capabilities[id]? = some entry) (live : entry.revoked = false) :
      Moves digest broker request .readRevoked (.unrevoked id)
  | lookedUp (id : Nat) (entry : CapabilityEntry) (phase : request.phase = .unrevoked id)
      (held : broker.capabilities[id]? = some entry) (live : broker.clock < entry.expiresAt) :
      Moves digest broker request .readClock (.lookedUp id)
  | remote (id : Nat) (phase : request.phase = .admitted id) :
      Moves digest broker request .dispatch (.remote id)
  | opening (id : Nat) (entry : CapabilityEntry) (source : EngineCapability) (range : ByteRange)
      (phase : request.phase = .admitted id) (held : broker.capabilities[id]? = some entry)
      (payload : entry.payload = .engine source)
      (parsed : parseSingleRange request.rangeHeader source.length = .ok range) :
      Moves digest broker request .dispatch (.opening id range)
  | opened (id : Nat) (range : ByteRange) (phase : request.phase = .opening id range) :
      Moves digest broker request (.openSource none) (.opened id range)
  | body (id : Nat) (range : ByteRange) (phase : request.phase = .opened id range) :
      Moves digest broker request (.refresh true) (.body id range (SourceBroker.startBody range))
  | pointed (step : RequestStep) (id : Nat) (range : ByteRange) (state : EngineBodyState)
      (point : BodyPoint) (phase : request.phase = .body id range state) :
      Moves digest broker request step (.body id range { state with point := point })
  | polled (id : Nat) (range : ByteRange) (state : EngineBodyState) (entry : CapabilityEntry)
      (poll : Poll) (phase : request.phase = .body id range state)
      (held : broker.capabilities[id]? = some entry) (live : entry.cancelled = false) :
      Moves digest broker request (.select false poll)
        (.body id range { state with reads := state.reads + 1 })
  | read (id : Nat) (range : ByteRange) (state : EngineBodyState) (entry : CapabilityEntry)
      (source : EngineCapability) (count : Nat) (phase : request.phase = .body id range state)
      (held : broker.capabilities[id]? = some entry) (live : entry.cancelled = false)
      (payload : entry.payload = .engine source) (fits : count ≤ SourceBroker.bufferLen state)
      (present : state.position + count ≤ source.content.length) :
      Moves digest broker request (.select false (.read count)) (.body id range { state with
        reads := state.reads + 1
        position := state.position + count
        remaining := state.remaining - count
        offset := MachineInt.satAdd state.offset count
        delivered := state.delivered ++ (source.content.drop state.position).take count
        point := .idle })
  | complete (id : Nat) (range : ByteRange) (state : EngineBodyState)
      (phase : request.phase = .body id range state) (whole : state.remaining = 0) :
      Moves digest broker request .pollBody (.ended id range state .complete)
  | ended (step : RequestStep) (id : Nat) (range : ByteRange) (state : EngineBodyState)
      (reason : BodyEnd) (phase : request.phase = .body id range state)
      (early : reason ≠ .complete) : Moves digest broker request step (.ended id range state reason)
  | endedPolled (id : Nat) (range : ByteRange) (state : EngineBodyState) (entry : CapabilityEntry)
      (poll : Poll) (phase : request.phase = .body id range state)
      (held : broker.capabilities[id]? = some entry) (live : entry.cancelled = false) :
      Moves digest broker request (.select false poll)
        (.ended id range { state with reads := state.reads + 1 } .failed)

namespace SourceBroker

variable {digest : Bytes → Bytes} {broker next : SourceBroker} {place : Nat} {request : Request}
variable {step : RequestStep}

theorem lookUp_cases (digest : Bytes → Bytes) (broker : SourceBroker) (place : Nat)
    (phase : request.phase = .called) :
    ∃ after, broker.lookUp digest place request = broker.enter place request after ∧
      Moves digest broker request .lookUp after := by
  have early : request.phase.bodyState = none := by
    rw [phase]
    rfl
  have refused : ∀ status, ∃ after,
      broker.enter place request (.answered status) = broker.enter place request after ∧
        Moves digest broker request .lookUp after := fun status =>
    ⟨_, rfl, .answered _ _ early⟩
  unfold lookUp
  split
  · exact refused _
  split
  · exact refused _
  split
  · exact refused _
  split
  · exact refused _
  next candidate decoded =>
    split
    · exact refused _
    next id listed =>
      split
      · exact refused _
      next entry held =>
        split
        next same =>
          subst same
          exact ⟨_, rfl, .found id entry phase decoded listed held⟩
        next => exact refused _

theorem dispatch_cases (digest : Bytes → Bytes) (place : Nat) {id : Nat} {entry : CapabilityEntry}
    (phase : request.phase = .admitted id)
    (held : broker.capabilities[id]? = some entry) :
    ∃ after, broker.dispatch place request id entry = broker.enter place request after ∧
      Moves digest broker request .dispatch after := by
  have early : request.phase.bodyState = none := by
    rw [phase]
    rfl
  unfold dispatch
  split
  next => exact ⟨_, rfl, .remote id phase⟩
  next source payload =>
    split
    next error _ => exact ⟨_, rfl, .answered _ _ early⟩
    next range parsed =>
      split
      next => exact ⟨_, rfl, .answered _ _ early⟩
      next => exact ⟨_, rfl, .opening id entry source range phase held payload parsed⟩

theorem select_cases {id : Nat} {range : ByteRange} {state : EngineBodyState}
    {entry : CapabilityEntry} {source : EngineCapability} {timer : Bool} {poll : Poll}
    (phase : request.phase = .body id range state) (held : broker.capabilities[id]? = some entry)
    (payload : entry.payload = .engine source)
    (taken : broker.select place request id range state entry source timer poll = some next) :
    ∃ after, next = broker.enter place request after ∧
      Moves digest broker request (.select timer poll) after := by
  unfold select at taken
  split at taken
  · cases taken
    exact ⟨_, rfl, .ended _ id range state .failed phase (by decide)⟩
  next live =>
    have live : entry.cancelled = false := by simpa using live
    split at taken
    · split at taken
      · cases taken
        exact ⟨_, rfl, .ended _ id range state .failed phase (by decide)⟩
      · cases taken
    next unexpired =>
      have unexpired : timer = false := by simpa using unexpired
      subst unexpired
      split at taken
      · cases taken
        exact ⟨_, rfl, .polled id range state entry .pending phase held live⟩
      · cases taken
        exact ⟨_, rfl, .endedPolled id range state entry .failed phase held live⟩
      next count =>
        split at taken
        · cases taken
        next inside =>
          rw [not_or, Nat.not_lt, Nat.not_lt] at inside
          split at taken
          · cases taken
            exact ⟨_, rfl, .endedPolled id range state entry (.read count) phase held live⟩
          · cases taken
            exact ⟨_, rfl, .read id range state entry source count phase held live payload
              inside.1 inside.2⟩

theorem advanceBody_cases {id : Nat} {range : ByteRange} {state : EngineBodyState}
    {entry : CapabilityEntry} (phase : request.phase = .body id range state)
    (held : broker.capabilities[id]? = some entry)
    (taken : broker.advanceBody place request id range state entry step = some next) :
    ∃ after, next = broker.enter place request after ∧ Moves digest broker request step after := by
  unfold advanceBody at taken
  split at taken
  · split at taken
    next whole =>
      cases taken
      exact ⟨_, rfl, .complete id range state phase whole⟩
    next =>
      cases taken
      exact ⟨_, rfl, .pointed _ id range state .availability phase⟩
  · cases taken
    exact ⟨_, rfl, .pointed _ id range state .refreshing phase⟩
  · split at taken
    · cases taken
      exact ⟨_, rfl, .pointed _ id range state .selecting phase⟩
    · cases taken
      exact ⟨_, rfl, .ended _ id range state .failed phase (by decide)⟩
  next source payload _ => exact select_cases phase held payload taken
  · cases taken
    exact ⟨_, rfl, .ended _ id range state .dropped phase (by decide)⟩
  · cases taken

def acquire (broker : SourceBroker) (place : Nat) (request : Request) (id : Nat) : SourceBroker :=
  { broker with
    capabilities := broker.changeEntry id fun entry => { entry with requests := entry.requests - 1 }
    requests := broker.requests.set place { request with phase := .admitted id } }

theorem advance_cases (taken : broker.advance digest place request step = some next) :
    (∃ id entry, request.phase = .lookedUp id ∧ step = .tryAcquire ∧
      broker.capabilities[id]? = some entry ∧ 0 < entry.requests ∧
        next = broker.acquire place request id) ∨
    ∃ after, next = broker.enter place request after ∧ Moves digest broker request step after := by
  unfold advance at taken
  split at taken
  next phase =>
    split at taken
    · cases taken
    · cases taken
      obtain ⟨after, same, moves⟩ := lookUp_cases digest broker place phase
      exact Or.inr ⟨after, same, moves⟩
  next id phase =>
    obtain ⟨entry, held, taken⟩ := Option.bind_eq_some_iff.mp taken
    split at taken
    next =>
      cases taken
      exact Or.inr ⟨_, rfl, .answered _ _ (by rw [phase]; rfl)⟩
    next live =>
      cases taken
      exact Or.inr ⟨_, rfl, .unrevoked id entry phase held (by simpa using live)⟩
  next id phase =>
    obtain ⟨entry, held, taken⟩ := Option.bind_eq_some_iff.mp taken
    split at taken
    next =>
      cases taken
      exact Or.inr ⟨_, rfl, .answered _ _ (by rw [phase]; rfl)⟩
    next live =>
      cases taken
      exact Or.inr ⟨_, rfl, .lookedUp id entry phase held (by simpa using live)⟩
  next id phase =>
    obtain ⟨entry, held, taken⟩ := Option.bind_eq_some_iff.mp taken
    split at taken
    next =>
      cases taken
      exact Or.inr ⟨_, rfl, .answered _ _ (by rw [phase]; rfl)⟩
    next free =>
      cases taken
      exact Or.inl ⟨id, entry, phase, rfl, held, Nat.pos_of_ne_zero free, rfl⟩
  next id phase =>
    obtain ⟨entry, held, taken⟩ := Option.bind_eq_some_iff.mp taken
    cases taken
    obtain ⟨after, same, moves⟩ := dispatch_cases digest place phase held
    exact Or.inr ⟨after, same, moves⟩
  next id range phase =>
    cases taken
    exact Or.inr ⟨_, rfl, .opened id range phase⟩
  next error phase =>
    cases taken
    exact Or.inr ⟨_, rfl, .answered _ _ (by rw [phase]; rfl)⟩
  next id range succeeds phase =>
    split at taken
    next succeeded =>
      subst succeeded
      cases taken
      exact Or.inr ⟨_, rfl, .body id range phase⟩
    next =>
      cases taken
      exact Or.inr ⟨_, rfl, .answered _ _ (by rw [phase]; rfl)⟩
  next id range state _ phase =>
    obtain ⟨entry, held, taken⟩ := Option.bind_eq_some_iff.mp taken
    exact Or.inr (advanceBody_cases phase held taken)
  · cases taken
  · cases taken
  · cases taken
  next notBody notEnded _ _ =>
    cases taken
    refine Or.inr ⟨_, rfl, .dropped ?_⟩
    cases phase : request.phase <;> first | rfl | skip
    · exact absurd phase (notBody _ _ _)
    · exact absurd phase (notEnded _ _ _ _)
  · cases taken

end SourceBroker

end StreamServer.Transcoding
