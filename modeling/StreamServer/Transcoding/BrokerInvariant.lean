import StreamServer.Transcoding.BrokerMoves

set_option autoImplicit false

namespace StreamServer.Transcoding

structure EntryKept (before after : CapabilityEntry) : Prop where
  credential : after.credential = before.credential
  expiresAt : after.expiresAt = before.expiresAt
  payload : after.payload = before.payload
  revoked : before.revoked = true → after.revoked = true
  cancelled : before.cancelled = true → after.cancelled = true

def Kept (before after : List CapabilityEntry) : Prop :=
  ∀ (id : Nat) (entry : CapabilityEntry), before[id]? = some entry → ∃ later, after[id]? = some later ∧ EntryKept entry later

theorem EntryKept.refl (entry : CapabilityEntry) : EntryKept entry entry :=
  ⟨rfl, rfl, rfl, id, id⟩

theorem Kept.refl (capabilities : List CapabilityEntry) : Kept capabilities capabilities :=
  fun _ entry held => ⟨entry, held, .refl entry⟩

namespace SourceBroker

variable {digest : Bytes → Bytes} {broker next : SourceBroker} {place : Nat} {request : Request}
variable {step : RequestStep} {action : BrokerAction}

theorem getElem?_changeEntry (broker : SourceBroker) (id other : Nat)
    (change : CapabilityEntry → CapabilityEntry) :
    (broker.changeEntry id change)[other]? =
      if id = other then broker.capabilities[other]?.map change
      else broker.capabilities[other]? := by
  unfold changeEntry
  rw [List.getElem?_modify]
  split <;> simp

theorem length_changeEntry (broker : SourceBroker) (id : Nat)
    (change : CapabilityEntry → CapabilityEntry) :
    (broker.changeEntry id change).length = broker.capabilities.length := by
  unfold changeEntry
  exact List.length_modify ..

theorem kept_changeEntry (broker : SourceBroker) (id : Nat)
    {change : CapabilityEntry → CapabilityEntry} (keeps : ∀ entry, EntryKept entry (change entry)) :
    Kept broker.capabilities (broker.changeEntry id change) := by
  intro other entry held
  rw [getElem?_changeEntry]
  split
  · exact ⟨change entry, by rw [held]; rfl, keeps entry⟩
  · exact ⟨entry, held, .refl entry⟩

theorem returnPermit_get (broker : SourceBroker) (before after : Option Nat) (other : Nat) :
    (broker.returnPermit before after)[other]? =
      if before = some other ∧ after ≠ some other then
        broker.capabilities[other]?.map fun entry => { entry with requests := entry.requests + 1 }
      else broker.capabilities[other]? := by
  unfold returnPermit
  cases before with
  | none => simp
  | some id =>
    by_cases kept : after = some id
    · by_cases same : id = other
      · subst same
        simp [kept]
      · simp [kept, same]
    · by_cases same : id = other
      · subst same
        simp [kept, getElem?_changeEntry]
      · simp [kept, getElem?_changeEntry, same]

theorem kept_returnPermit (broker : SourceBroker) (before after : Option Nat) :
    Kept broker.capabilities (broker.returnPermit before after) := by
  intro other entry held
  rw [returnPermit_get]
  split
  · refine ⟨{ entry with requests := entry.requests + 1 }, by rw [held]; rfl, ?_⟩
    exact ⟨rfl, rfl, rfl, id, id⟩
  · exact ⟨entry, held, .refl entry⟩

theorem length_returnPermit (broker : SourceBroker) (before after : Option Nat) :
    (broker.returnPermit before after).length = broker.capabilities.length := by
  unfold returnPermit
  split
  · rfl
  · split
    · rfl
    · exact length_changeEntry ..

structure Serves (capabilities : List CapabilityEntry) (request : Request) (id : Nat)
    (range : ByteRange) (source : EngineCapability) : Prop where
  held : ∃ entry, capabilities[id]? = some entry ∧ entry.payload = .engine source
  parsed : parseSingleRange request.rangeHeader source.length = .ok range

structure Delivers (source : EngineCapability) (range : ByteRange) (state : EngineBodyState) :
    Prop where
  position : state.position = range.start + state.delivered.length
  offset : state.offset = state.position
  remaining : state.remaining + state.delivered.length = range.len
  bytes : state.delivered = (source.content.drop range.start).take state.delivered.length

def Serving (capabilities : List CapabilityEntry) (request : Request) : Prop :=
  match request.phase with
  | .opening id range | .opened id range => ∃ source, Serves capabilities request id range source
  | .body id range state =>
      ∃ source, Serves capabilities request id range source ∧ Delivers source range state
  | .ended id range state reason =>
      ∃ source, Serves capabilities request id range source ∧ Delivers source range state ∧
        (reason = .complete → state.remaining = 0)
  | _ => True

theorem Serves.mono {before after : List CapabilityEntry} {id : Nat} {range : ByteRange}
    {source : EngineCapability} (kept : Kept before after)
    (serves : Serves before request id range source) : Serves after request id range source := by
  obtain ⟨entry, held, payload⟩ := serves.held
  obtain ⟨later, found, same⟩ := kept id entry held
  exact ⟨⟨later, found, same.payload.trans payload⟩, serves.parsed⟩

theorem Serving.mono {before after : List CapabilityEntry} (kept : Kept before after)
    (serving : Serving before request) : Serving after request := by
  unfold Serving at *
  split <;> simp_all only
  · obtain ⟨source, serves⟩ := serving
    exact ⟨source, serves.mono kept⟩
  · obtain ⟨source, serves⟩ := serving
    exact ⟨source, serves.mono kept⟩
  · obtain ⟨source, serves, delivers⟩ := serving
    exact ⟨source, serves.mono kept, delivers⟩
  · obtain ⟨source, serves, delivers⟩ := serving
    exact ⟨source, serves.mono kept, delivers⟩

theorem serving_enter {capabilities : List CapabilityEntry} {after : Phase}
    (kept : Kept broker.capabilities capabilities) (serving : Serving broker.capabilities request)
    (moves : Moves digest broker request step after) :
    Serving capabilities { request with phase := after } := by
  suffices now : Serving broker.capabilities { request with phase := after } from now.mono kept
  unfold Serving at serving ⊢
  cases moves with
  | answered | dropped | found | unrevoked | lookedUp | remote => trivial
  | opening id entry source range phase held payload parsed =>
    exact ⟨source, ⟨entry, held, payload⟩, parsed⟩
  | opened id range phase =>
    rw [phase] at serving
    obtain ⟨source, serves⟩ := serving
    exact ⟨source, serves.held, serves.parsed⟩
  | body id range phase =>
    rw [phase] at serving
    obtain ⟨source, serves⟩ := serving
    refine ⟨source, ⟨serves.held, serves.parsed⟩, ?_⟩
    exact ⟨rfl, rfl, rfl, rfl⟩
  | pointed step id range state point phase =>
    rw [phase] at serving
    obtain ⟨source, serves, delivers⟩ := serving
    exact ⟨source, ⟨serves.held, serves.parsed⟩, delivers.position, delivers.offset,
      delivers.remaining, delivers.bytes⟩
  | polled id range state entry poll phase held live =>
    rw [phase] at serving
    obtain ⟨source, serves, delivers⟩ := serving
    exact ⟨source, ⟨serves.held, serves.parsed⟩, delivers.position, delivers.offset,
      delivers.remaining, delivers.bytes⟩
  | read id range state entry source count phase held live payload fits present =>
    rw [phase] at serving
    obtain ⟨other, serves, delivers⟩ := serving
    obtain ⟨again, heldAgain, otherPayload⟩ := serves.held
    cases held.symm.trans heldAgain
    cases payload.symm.trans otherPayload
    have bounded : count ≤ state.remaining := le_trans fits (Nat.min_le_left ..)
    have inside := parseSingleRange_inside serves.parsed
    have position := delivers.position
    have remaining := delivers.remaining
    have taken : ((source.content.drop state.position).take count).length = count := by
      rw [List.length_take, List.length_drop]
      omega
    have bytes : state.delivered ++ (source.content.drop state.position).take count =
        (source.content.drop range.start).take (state.delivered.length + count) := by
      rw [List.take_add, ← delivers.bytes, List.drop_drop, ← position]
    refine ⟨source, ⟨serves.held, serves.parsed⟩, ?_, ?_, ?_, ?_⟩
    · simp only [List.length_append, taken]
      omega
    · show MachineInt.satAdd state.offset count = state.position + count
      have offset := delivers.offset
      have ends := inside.ends
      have limit := source.fits
      rw [MachineInt.satAdd_eq (by omega), offset]
    · simp only [List.length_append, taken]
      omega
    · simp only [List.length_append, taken]
      exact bytes
  | complete id range state phase whole =>
    rw [phase] at serving
    obtain ⟨source, serves, delivers⟩ := serving
    exact ⟨source, ⟨serves.held, serves.parsed⟩, delivers, fun _ => whole⟩
  | ended step id range state reason phase early =>
    rw [phase] at serving
    obtain ⟨source, serves, delivers⟩ := serving
    exact ⟨source, ⟨serves.held, serves.parsed⟩, delivers, fun ends => absurd ends early⟩
  | endedPolled id range state entry poll phase held live =>
    rw [phase] at serving
    obtain ⟨source, serves, delivers⟩ := serving
    refine ⟨source, ⟨serves.held, serves.parsed⟩, ?_, fun ends => by cases ends⟩
    exact ⟨delivers.position, delivers.offset, delivers.remaining, delivers.bytes⟩

def holds (id : Nat) (request : Request) : Bool := request.phase.permit = some id

structure Sound (broker : SourceBroker) : Prop where
  entries : ∀ pair ∈ broker.registry.entries, pair.2 ∈ broker.issued
  live : broker.registry.entries.length ≤ maxLiveCapabilities
  issued : ∀ id ∈ broker.issued, id < broker.capabilities.length
  waiting : ∀ id ∈ broker.waiting, id < broker.capabilities.length
  retaining : ∀ id unseen, broker.registry.retaining = some (id, unseen) →
    id < broker.capabilities.length
  placed : ∀ request ∈ broker.requests, ∀ id, request.phase.permit = some id →
    id < broker.capabilities.length
  permits : ∀ id entry, broker.capabilities[id]? = some entry →
    entry.requests + broker.requests.countP (holds id) = maxConcurrentRequestsPerCapability
  serving : ∀ request ∈ broker.requests, Serving broker.capabilities request

theorem sound_initial : initial.Sound := by
  constructor <;> simp [initial]

theorem moves_permit {after : Phase} (moves : Moves digest broker request step after) :
    after.permit = none ∨ after.permit = request.phase.permit := by
  cases moves with
  | answered | dropped | found | unrevoked | lookedUp | complete | ended | endedPolled =>
    exact Or.inl rfl
  | remote id phase | opening id _ _ _ phase | opened id _ phase | body id _ phase
  | pointed _ id _ _ _ phase | polled id _ _ _ _ phase | read id _ _ _ _ _ phase =>
    rw [phase]
    exact Or.inr rfl

theorem enter_sound {after : Phase} (sound : broker.Sound)
    (present : broker.requests[place]? = some request)
    (moves : Moves digest broker request step after) : (broker.enter place request after).Sound := by
  have member := List.mem_of_getElem? present
  have length := length_returnPermit broker request.phase.permit after.permit
  have kept := kept_returnPermit broker request.phase.permit after.permit
  constructor
  case entries => exact sound.entries
  case live => exact sound.live
  case issued =>
    intro id issued
    show id < (broker.returnPermit _ _).length
    rw [length]
    exact sound.issued id issued
  case waiting =>
    intro id waiting
    show id < (broker.returnPermit _ _).length
    rw [length]
    exact sound.waiting id waiting
  case retaining =>
    intro id unseen retaining
    show id < (broker.returnPermit _ _).length
    rw [length]
    exact sound.retaining id unseen retaining
  case placed =>
    intro other otherMember id owned
    show id < (broker.returnPermit _ _).length
    rw [length]
    rcases List.mem_or_eq_of_mem_set otherMember with old | rfl
    · exact sound.placed other old id owned
    · rcases moves_permit moves with none | same
      · cases none.symm.trans owned
      · exact sound.placed request member id (same ▸ owned)
  case permits =>
    intro id entry held
    have counted := Lists.countP_set_add (holds id) present { request with phase := after }
    have found : (broker.returnPermit request.phase.permit after.permit)[id]? = some entry := held
    rw [returnPermit_get] at found
    show entry.requests + (broker.requests.set place { request with phase := after }).countP
      (holds id) = _
    by_cases returned : request.phase.permit = some id ∧ after.permit ≠ some id
    · rw [if_pos returned] at found
      obtain ⟨old, heldOld, rfl⟩ := Option.map_eq_some_iff.mp found
      have total := sound.permits id old heldOld
      have owned : holds id request = true := decide_eq_true returned.1
      have gone : holds id { request with phase := after } = false := decide_eq_false returned.2
      rw [owned, gone] at counted
      simp only [Bool.toNat_true, Bool.toNat_false] at counted
      simp only
      omega
    · rw [if_neg returned] at found
      have total := sound.permits id entry found
      have same : holds id { request with phase := after } = holds id request := by
        unfold holds
        rcases moves_permit moves with none | unmoved
        · have unowned : request.phase.permit ≠ some id := fun owned =>
            returned ⟨owned, by simp [none]⟩
          simp [none, unowned]
        · simp [unmoved]
      rw [same] at counted
      omega
  case serving =>
    intro other otherMember
    rcases List.mem_or_eq_of_mem_set otherMember with old | rfl
    · exact (sound.serving other old).mono kept
    · exact serving_enter kept (sound.serving request member) moves

theorem acquire_sound {id : Nat} {entry : CapabilityEntry} (sound : broker.Sound)
    (present : broker.requests[place]? = some request) (phase : request.phase = .lookedUp id)
    (held : broker.capabilities[id]? = some entry) (free : 0 < entry.requests) :
    (broker.acquire place request id).Sound := by
  let take := fun entry : CapabilityEntry => { entry with requests := entry.requests - 1 }
  have length : (broker.changeEntry id take).length = broker.capabilities.length :=
    length_changeEntry ..
  have kept : Kept broker.capabilities (broker.changeEntry id take) :=
    kept_changeEntry broker id fun entry => ⟨rfl, rfl, rfl, fun stored => stored, fun stored => stored⟩
  constructor
  case entries => exact sound.entries
  case live => exact sound.live
  case issued => exact fun other issued => (sound.issued other issued).trans_eq length.symm
  case waiting => exact fun other waiting => (sound.waiting other waiting).trans_eq length.symm
  case retaining =>
    exact fun other unseen retaining =>
      (sound.retaining other unseen retaining).trans_eq length.symm
  case placed =>
    intro other otherMember owner owned
    rw [show (broker.acquire place request id).capabilities.length = _ from length]
    rcases List.mem_or_eq_of_mem_set otherMember with old | rfl
    · exact sound.placed other old owner owned
    · cases owned
      exact (List.getElem?_eq_some_iff.mp held).1
  case permits =>
    intro other changed found
    have counted := Lists.countP_set_add (holds other) present { request with phase := .admitted id }
    have unowned : holds other request = false := by
      unfold holds
      rw [phase]
      rfl
    rw [unowned] at counted
    show changed.requests + (broker.requests.set place { request with phase := .admitted id }).countP
      (holds other) = _
    have present : (broker.changeEntry id take)[other]? = some changed := found
    rw [getElem?_changeEntry] at present
    by_cases same : id = other
    · subst same
      rw [if_pos rfl, held] at present
      cases present
      have total := sound.permits id entry held
      have owned : holds id { request with phase := .admitted id } = true := decide_eq_true rfl
      rw [owned] at counted
      simp only [Bool.toNat_true, Bool.toNat_false] at counted
      simp only [take]
      omega
    · rw [if_neg same] at present
      have total := sound.permits other changed present
      have foreign : holds other { request with phase := .admitted id } = false :=
        decide_eq_false fun owned => same (Option.some.inj owned)
      rw [foreign] at counted
      omega
  case serving =>
    intro other otherMember
    rcases List.mem_or_eq_of_mem_set otherMember with old | rfl
    · exact (sound.serving other old).mono kept
    · trivial

theorem changeEntry_sound (sound : broker.Sound) (id : Nat)
    {change : CapabilityEntry → CapabilityEntry} (keeps : ∀ entry, EntryKept entry (change entry))
    (permits : ∀ entry, (change entry).requests = entry.requests) :
    Sound { broker with capabilities := broker.changeEntry id change } := by
  have length := length_changeEntry broker id change
  have kept := kept_changeEntry broker id keeps
  constructor
  case entries => exact sound.entries
  case live => exact sound.live
  case issued => exact fun other issued => (sound.issued other issued).trans_eq length.symm
  case waiting => exact fun other waiting => (sound.waiting other waiting).trans_eq length.symm
  case retaining =>
    exact fun other unseen retaining =>
      (sound.retaining other unseen retaining).trans_eq length.symm
  case placed =>
    exact fun request member owner owned =>
      (sound.placed request member owner owned).trans_eq length.symm
  case permits =>
    intro other changed found
    have present : (broker.changeEntry id change)[other]? = some changed := found
    rw [getElem?_changeEntry] at present
    split at present
    · obtain ⟨old, held, rfl⟩ := Option.map_eq_some_iff.mp present
      rw [permits]
      exact sound.permits other old held
    · exact sound.permits other changed present
  case serving => exact fun request member => (sound.serving request member).mono kept

theorem create_sound {credential : Bytes} {lifetime : Nat} {payload : CapabilityPayload}
    (sound : broker.Sound) (taken : broker.create credential lifetime payload = some next) :
    next.Sound := by
  unfold create at taken
  split at taken
  · cases taken
  cases taken
  have kept : ∀ entry, Kept broker.capabilities (broker.capabilities ++ [entry]) := by
    intro entry id old held
    obtain ⟨inside, _⟩ := List.getElem?_eq_some_iff.mp held
    exact ⟨old, by rw [List.getElem?_append_left inside, held], .refl old⟩
  have grows : ∀ (id : Nat) (entry : CapabilityEntry), id < broker.capabilities.length →
      id < (broker.capabilities ++ [entry]).length := by
    intro id entry inside
    rw [List.length_append]
    omega
  constructor
  case entries => exact sound.entries
  case live => exact sound.live
  case issued => exact fun id issued => grows id _ (sound.issued id issued)
  case waiting =>
    intro id waiting
    rcases List.mem_cons.mp waiting with rfl | earlier
    · simp
    · exact grows id _ (sound.waiting id earlier)
  case retaining => exact fun id unseen retaining => grows id _ (sound.retaining id unseen retaining)
  case placed =>
    exact fun request member id owned => grows id _ (sound.placed request member id owned)
  case permits =>
    intro id entry held
    rcases Lists.getElem?_append_cases held with old | ⟨rfl, rfl⟩
    · exact sound.permits id entry old
    · have unused : broker.requests.countP (holds broker.capabilities.length) = 0 := by
        apply List.countP_eq_zero.mpr
        intro request member owned
        have inside := sound.placed request member _ (of_decide_eq_true owned)
        omega
      simp [unused]
  case serving => exact fun request member => (sound.serving request member).mono (kept _)

theorem registry_sound (sound : broker.Sound) {registry : CapabilityRegistry}
    {waiting issued : List Nat}
    (entries : ∀ pair ∈ registry.entries, pair.2 ∈ issued)
    (live : registry.entries.length ≤ maxLiveCapabilities)
    (placed : ∀ id ∈ issued, id < broker.capabilities.length)
    (unissued : ∀ id ∈ waiting, id ∈ broker.waiting)
    (retaining : ∀ id unseen, registry.retaining = some (id, unseen) →
      id < broker.capabilities.length) :
    Sound { broker with registry := registry, waiting := waiting, issued := issued } where
  entries := entries
  live := live
  issued := placed
  waiting id member := sound.waiting id (unissued id member)
  retaining := retaining
  placed := sound.placed
  permits := sound.permits
  serving := sound.serving

theorem lockEntries_sound {id : Nat} (sound : broker.Sound)
    (taken : broker.lockEntries id = some next) : next.Sound := by
  unfold lockEntries at taken
  split at taken
  · cases taken
  next free =>
    cases taken
    simp only [not_or, not_not] at free
    refine registry_sound sound sound.entries sound.live sound.issued
      (fun other member => List.mem_of_mem_erase member) ?_
    intro other unseen retaining
    cases retaining
    exact sound.waiting id free.1

theorem retainNext_sound (sound : broker.Sound) (taken : broker.retainNext = some next) :
    next.Sound := by
  unfold retainNext at taken
  split at taken
  next id seen unseen retaining =>
    cases taken
    refine registry_sound sound ?_ ?_ sound.issued (fun _ member => member) ?_
    · intro pair member
      simp only at member
      split at member
      · exact sound.entries pair member
      · exact sound.entries pair (List.mem_of_mem_erase member)
    · simp only
      split
      · exact sound.live
      · exact le_trans List.length_erase_le sound.live
    · intro other others same
      cases same
      exact sound.retaining id _ retaining
  next => cases taken

theorem insert_sound (sound : broker.Sound) (taken : broker.insert digest = some next) :
    next.Sound := by
  unfold insert at taken
  split at taken
  next id retaining =>
    obtain ⟨entry, held, taken⟩ := Option.bind_eq_some_iff.mp taken
    have released : Sound { broker with registry := { broker.registry with retaining := none } } :=
      registry_sound sound sound.entries sound.live sound.issued (fun _ member => member)
        (fun _ _ impossible => by cases impossible)
    simp only at taken
    split at taken
    · cases taken
      exact released
    next room =>
      split at taken
      · cases taken
        exact released
      · cases taken
        refine registry_sound sound ?_ ?_ ?_ (fun _ member => member)
          (fun _ _ impossible => by cases impossible)
        · intro pair member
          rcases List.mem_cons.mp member with rfl | old
          · exact List.mem_cons_self
          · exact List.mem_cons_of_mem _ (sound.entries pair old)
        · rw [List.length_cons]
          omega
        · intro other member
          rcases List.mem_cons.mp member with rfl | old
          · exact (List.getElem?_eq_some_iff.mp held).1
          · exact sound.issued other old
  next => cases taken

theorem call_sound (sound : broker.Sound) {fresh : Request} (called : fresh.phase = .called) :
    Sound { broker with requests := broker.requests ++ [fresh] } := by
  constructor
  case entries => exact sound.entries
  case live => exact sound.live
  case issued => exact sound.issued
  case waiting => exact sound.waiting
  case retaining => exact sound.retaining
  case placed =>
    intro request member id owned
    rcases List.mem_append.mp member with old | new
    · exact sound.placed request old id owned
    · rw [List.mem_singleton.mp new, called] at owned
      cases owned
  case permits =>
    intro id entry held
    have unowned : holds id fresh = false := by
      unfold holds
      rw [called]
      rfl
    show entry.requests + (broker.requests ++ [fresh]).countP (holds id) = _
    rw [Lists.countP_append_singleton, unowned]
    exact sound.permits id entry held
  case serving =>
    intro request member
    rcases List.mem_append.mp member with old | new
    · exact sound.serving request old
    · rw [List.mem_singleton.mp new]
      unfold Serving
      rw [called]
      trivial

theorem step_sound (sound : broker.Sound) (taken : broker.step digest action = some next) :
    next.Sound := by
  cases action with
  | tick nanoseconds =>
    cases taken
    exact ⟨sound.entries, sound.live, sound.issued, sound.waiting, sound.retaining, sound.placed,
      sound.permits, sound.serving⟩
  | create credential lifetime payload => exact create_sound sound taken
  | lockEntries id => exact lockEntries_sound sound taken
  | retainNext => exact retainNext_sound sound taken
  | insert => exact insert_sound sound taken
  | storeRevoked id =>
    simp only [SourceBroker.step] at taken
    split at taken
    · cases taken
    · cases taken
      exact changeEntry_sound sound id
        (fun entry => ⟨rfl, rfl, rfl, fun _ => rfl, fun stored => stored⟩) fun _ => rfl
  | cancelRevocation id =>
    obtain ⟨entry, held, taken⟩ := Option.bind_eq_some_iff.mp taken
    split at taken
    · cases taken
    · cases taken
      exact changeEntry_sound sound id
        (fun entry => ⟨rfl, rfl, rfl, fun stored => stored, fun _ => rfl⟩) fun _ => rfl
  | call capability method rangeHeader loopback =>
    cases taken
    exact call_sound sound rfl
  | advance place step =>
    obtain ⟨request, present, taken⟩ := Option.bind_eq_some_iff.mp taken
    rcases advance_cases taken with ⟨id, entry, phase, _, held, free, rfl⟩ | ⟨after, rfl, moves⟩
    · exact acquire_sound sound present phase held free
    · exact enter_sound sound present moves

end SourceBroker

end StreamServer.Transcoding
