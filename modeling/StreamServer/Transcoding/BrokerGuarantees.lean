import StreamServer.Shared.Runs
import StreamServer.Transcoding.BrokerInvariant

set_option autoImplicit false

namespace StreamServer.Transcoding

namespace Phase

def lookedUpId : Phase → Option Nat
  | .lookedUp id | .admitted id | .remote id | .opening id _ | .opened id _ | .body id _ _
  | .ended id _ _ _ => some id
  | _ => none

def reads (phase : Phase) (id : Nat) : Nat :=
  match phase with
  | .body served _ state | .ended served _ state _ => if served = id then state.reads else 0
  | _ => 0

end Phase

namespace SourceBroker

open Runs

variable {digest : Bytes → Bytes} {broker next : SourceBroker} {action : BrokerAction}

def reads (broker : SourceBroker) (id place : Nat) : Nat :=
  (broker.requests[place]?).elim 0 fun request => request.phase.reads id

def Cancelled (broker : SourceBroker) (id : Nat) : Prop :=
  ∃ entry, broker.capabilities[id]? = some entry ∧ entry.cancelled = true

inductive Advances (digest : Bytes → Bytes) (broker : SourceBroker) (action : BrokerAction)
    (after : List Request) : Prop where
  | same (unchanged : after = broker.requests)
  | called (fresh : Request) (phase : fresh.phase = .called)
      (appended : after = broker.requests ++ [fresh])
  | acquired (place : Nat) (request : Request) (id : Nat)
      (present : broker.requests[place]? = some request) (phase : request.phase = .lookedUp id)
      (set : after = broker.requests.set place { request with phase := .admitted id })
  | moved (place : Nat) (request : Request) (step : RequestStep) (phase : Phase)
      (taken : action = .advance place step) (present : broker.requests[place]? = some request)
      (moves : Moves digest broker request step phase)
      (set : after = broker.requests.set place { request with phase := phase })

theorem step_advances (taken : broker.step digest action = some next) :
    Advances digest broker action next.requests := by
  cases action with
  | tick nanoseconds =>
    cases taken
    exact .same rfl
  | create credential lifetime payload =>
    simp only [step, create] at taken
    split at taken
    · cases taken
    · cases taken
      exact .same rfl
  | lockEntries id =>
    simp only [step, lockEntries] at taken
    split at taken
    · cases taken
    · cases taken
      exact .same rfl
  | retainNext =>
    simp only [step, retainNext] at taken
    split at taken
    · cases taken
      exact .same rfl
    · cases taken
  | insert =>
    simp only [step, insert] at taken
    split at taken
    next =>
      obtain ⟨entry, held, taken⟩ := Option.bind_eq_some_iff.mp taken
      split at taken
      · cases taken
        exact .same rfl
      · split at taken <;> cases taken <;> exact .same rfl
    next => cases taken
  | storeRevoked id =>
    simp only [step] at taken
    split at taken
    · cases taken
    · cases taken
      exact .same rfl
  | cancelRevocation id =>
    obtain ⟨entry, held, taken⟩ := Option.bind_eq_some_iff.mp taken
    split at taken
    · cases taken
    · cases taken
      exact .same rfl
  | call capability method rangeHeader loopback =>
    cases taken
    exact .called _ rfl rfl
  | advance place step =>
    obtain ⟨request, present, taken⟩ := Option.bind_eq_some_iff.mp taken
    rcases advance_cases taken with ⟨id, entry, phase, _, _, _, rfl⟩ | ⟨phase, rfl, moves⟩
    · exact .acquired place request id present phase rfl
    · exact .moved place request step phase rfl present moves rfl

theorem step_kept (taken : broker.step digest action = some next) :
    Kept broker.capabilities next.capabilities ∧ broker.clock ≤ next.clock ∧
      broker.issued ⊆ next.issued := by
  have unchanged : Kept broker.capabilities broker.capabilities ∧ broker.clock ≤ broker.clock ∧
      broker.issued ⊆ broker.issued :=
    ⟨.refl _, le_rfl, fun _ member => member⟩
  cases action with
  | tick nanoseconds =>
    cases taken
    exact ⟨.refl _, Nat.le_add_right .., fun _ member => member⟩
  | create credential lifetime payload =>
    simp only [step, create] at taken
    split at taken
    · cases taken
    · cases taken
      refine ⟨?_, le_rfl, fun _ member => member⟩
      intro id old held
      obtain ⟨inside, _⟩ := List.getElem?_eq_some_iff.mp held
      exact ⟨old, by rw [List.getElem?_append_left inside, held], .refl old⟩
  | lockEntries id =>
    simp only [step, lockEntries] at taken
    split at taken
    · cases taken
    · cases taken
      exact unchanged
  | retainNext =>
    simp only [step, retainNext] at taken
    split at taken
    · cases taken
      exact unchanged
    · cases taken
  | insert =>
    simp only [step, insert] at taken
    split at taken
    next =>
      obtain ⟨entry, held, taken⟩ := Option.bind_eq_some_iff.mp taken
      split at taken
      · cases taken
        exact unchanged
      · split at taken
        · cases taken
          exact unchanged
        · cases taken
          exact ⟨.refl _, le_rfl, fun _ member => List.mem_cons_of_mem _ member⟩
    next => cases taken
  | storeRevoked id =>
    simp only [step] at taken
    split at taken
    · cases taken
    · cases taken
      exact ⟨kept_changeEntry broker id
        fun entry => ⟨rfl, rfl, rfl, fun _ => rfl, fun stored => stored⟩, le_rfl,
        fun _ member => member⟩
  | cancelRevocation id =>
    obtain ⟨entry, held, taken⟩ := Option.bind_eq_some_iff.mp taken
    split at taken
    · cases taken
    · cases taken
      exact ⟨kept_changeEntry broker id
        fun entry => ⟨rfl, rfl, rfl, fun stored => stored, fun _ => rfl⟩, le_rfl,
        fun _ member => member⟩
  | call capability method rangeHeader loopback =>
    cases taken
    exact unchanged
  | advance place step =>
    obtain ⟨request, present, taken⟩ := Option.bind_eq_some_iff.mp taken
    rcases advance_cases taken with ⟨id, entry, _, _, _, _, rfl⟩ | ⟨after, rfl, _⟩
    · exact ⟨kept_changeEntry broker id
        fun entry => ⟨rfl, rfl, rfl, fun stored => stored, fun stored => stored⟩, le_rfl,
        fun _ member => member⟩
    · exact ⟨kept_returnPermit broker _ _, le_rfl, fun _ member => member⟩

section Reading

theorem moves_reads {request : Request} {step : RequestStep} {after : Phase} {id : Nat}
    (moves : Moves digest broker request step after) (cancelled : broker.Cancelled id) :
    after.reads id = request.phase.reads id := by
  have foreign : ∀ other entry, broker.capabilities[other]? = some entry →
      entry.cancelled = false → other ≠ id := by
    rintro other entry held live rfl
    obtain ⟨again, heldAgain, stored⟩ := cancelled
    cases held.symm.trans heldAgain
    rw [live] at stored
    cases stored
  cases moves with
  | answered _ _ early | dropped early =>
    unfold Phase.reads
    cases phase : request.phase <;> simp_all [Phase.bodyState]
  | found _ _ phase | unrevoked _ _ phase | lookedUp _ _ phase | remote _ phase
  | opening _ _ _ _ phase | opened _ _ phase =>
    rw [phase]
    rfl
  | body other range phase =>
    rw [phase]
    unfold Phase.reads startBody
    simp
  | pointed _ other range state point phase | complete other range state phase
  | ended _ other range state reason phase =>
    rw [phase]
    rfl
  | polled other _ _ entry _ phase held live | read other _ _ entry _ _ phase held live
  | endedPolled other _ _ entry _ phase held live =>
    rw [phase]
    simp [Phase.reads, foreign other entry held live]

theorem step_reads {id : Nat} (cancelled : broker.Cancelled id)
    (taken : broker.step digest action = some next) (place : Nat) :
    next.reads id place = broker.reads id place := by
  unfold reads
  cases step_advances taken with
  | same unchanged => rw [unchanged]
  | called fresh phase appended =>
    rw [appended]
    cases present : (broker.requests ++ [fresh])[place]? with
    | none =>
      have outside := List.getElem?_eq_none_iff.mp present
      rw [List.length_append] at outside
      rw [List.getElem?_eq_none (by omega)]
    | some request =>
      rcases Lists.getElem?_append_cases present with old | ⟨rfl, rfl⟩
      · rw [old]
      · rw [List.getElem?_eq_none le_rfl]
        simp [phase, Phase.reads]
  | acquired at_ request served present phase set =>
    rw [set]
    by_cases same : place = at_
    · subst same
      rw [List.getElem?_set_self (List.getElem?_eq_some_iff.mp present).1, present]
      simp [phase, Phase.reads]
    · rw [List.getElem?_set_ne (Ne.symm same)]
  | moved at_ request step phase _ present moves set =>
    rw [set]
    by_cases same : place = at_
    · subst same
      rw [List.getElem?_set_self (List.getElem?_eq_some_iff.mp present).1, present]
      exact moves_reads moves cancelled
    · rw [List.getElem?_set_ne (Ne.symm same)]

theorem Cancelled.step {id : Nat} (cancelled : broker.Cancelled id)
    (taken : broker.step digest action = some next) : next.Cancelled id := by
  obtain ⟨entry, held, stored⟩ := cancelled
  obtain ⟨later, found, kept⟩ := (step_kept taken).1 id entry held
  exact ⟨later, found, kept.cancelled stored⟩

theorem reads_of_cancelled {id : Nat} {actions : List BrokerAction} {final : SourceBroker}
    (cancelled : broker.Cancelled id) (ran : run (step digest) broker actions = some final)
    (place : Nat) : final.reads id place = broker.reads id place := by
  have preserved : ∀ (state : SourceBroker) (action : BrokerAction) (after : SourceBroker),
      state.Cancelled id ∧ state.reads id place = broker.reads id place →
        step digest state action = some after →
          after.Cancelled id ∧ after.reads id place = broker.reads id place := by
    rintro state action after ⟨held, same⟩ taken
    exact ⟨held.step taken, (step_reads held taken place).trans same⟩
  exact (invariant_of_run preserved ⟨cancelled, rfl⟩ ran).2

def Ended (broker : SourceBroker) (place : Nat) (request : Request) : Prop :=
  broker.requests[place]? = some request ∧
    ∃ id range state reason, request.phase = .ended id range state reason

theorem Ended.step {place : Nat} {request : Request} (ended : broker.Ended place request)
    (taken : broker.step digest action = some next) : next.Ended place request := by
  obtain ⟨present, id, range, state, reason, phase⟩ := ended
  refine ⟨?_, id, range, state, reason, phase⟩
  cases step_advances taken with
  | same unchanged => rw [unchanged, present]
  | called fresh _ appended =>
    rw [appended, List.getElem?_append_left (List.getElem?_eq_some_iff.mp present).1, present]
  | acquired at_ other served held other_phase set =>
    rw [set, List.getElem?_set_ne, present]
    rintro rfl
    cases held.symm.trans present
    rw [phase] at other_phase
    cases other_phase
  | moved at_ other step after _ held moves set =>
    rw [set, List.getElem?_set_ne, present]
    rintro rfl
    cases held.symm.trans present
    have stays : ¬Moves digest broker request step after := by
      intro moves
      cases moves <;> simp_all [Phase.bodyState]
    exact stays moves

theorem Ended.run {place : Nat} {request : Request} {actions : List BrokerAction}
    {final : SourceBroker} (ended : broker.Ended place request)
    (ran : Runs.run (SourceBroker.step digest) broker actions = some final) : final.Ended place request := by
  have preserved : ∀ (state : SourceBroker) (action : BrokerAction) (after : SourceBroker),
      state.Ended place request → SourceBroker.step digest state action = some after →
        after.Ended place request :=
    fun state action after holds taken => holds.step taken
  exact invariant_of_run preserved ended ran

theorem select_ends {place : Nat} {timer : Bool} {poll : Poll} {id : Nat} {range : ByteRange}
    {state : EngineBodyState} {request : Request} {entry : CapabilityEntry}
    (present : broker.requests[place]? = some request)
    (phase : request.phase = .body id range state) (held : broker.capabilities[id]? = some entry)
    (visible : entry.cancelled = true ∨ timer = true)
    (taken : broker.step digest (.advance place (.select timer poll)) = some next) :
    next.Ended place { request with phase := .ended id range state .failed } := by
  obtain ⟨again, presentAgain, taken⟩ := Option.bind_eq_some_iff.mp taken
  cases present.symm.trans presentAgain
  have inside := (List.getElem?_eq_some_iff.mp present).1
  simp only [advance, phase] at taken
  obtain ⟨entryAgain, heldAgain, taken⟩ := Option.bind_eq_some_iff.mp taken
  cases held.symm.trans heldAgain
  unfold advanceBody at taken
  split at taken <;> rename_i same <;> try cases same
  · unfold select at taken
    split at taken
    · cases taken
      exact ⟨List.getElem?_set_self inside, id, range, state, .failed, rfl⟩
    next live =>
      rw [if_pos (visible.resolve_left live)] at taken
      split at taken
      · cases taken
        exact ⟨List.getElem?_set_self inside, id, range, state, .failed, rfl⟩
      · cases taken
  · cases taken

end Reading

section LookingUp

/-- The lookup finds a capability that was issued and is neither revoked nor expired. -/
def LooksUp (place : Nat) (capability : Bytes) (id : Nat) (broker : SourceBroker)
    (action : BrokerAction) (_ : SourceBroker) : Prop :=
  action = .advance place .readRevoked ∧ id ∈ broker.issued ∧
    ∃ entry, broker.capabilities[id]? = some entry ∧
      Hex.decode capability = some entry.credential ∧ entry.revoked = false ∧
      broker.clock < entry.expiresAt

/-- The expiry is checked later than the revocation; until then only the clock is known. -/
def ReadsRevoked (place : Nat) (capability : Bytes) (id clock expiresAt : Nat)
    (broker : SourceBroker) (action : BrokerAction) (_ : SourceBroker) : Prop :=
  action = .advance place .readRevoked ∧ id ∈ broker.issued ∧ broker.clock = clock ∧
    ∃ entry, broker.capabilities[id]? = some entry ∧
      Hex.decode capability = some entry.credential ∧ entry.revoked = false ∧
      entry.expiresAt = expiresAt

def Expires (broker : SourceBroker) (id expiresAt : Nat) : Prop :=
  ∃ entry, broker.capabilities[id]? = some entry ∧ entry.expiresAt = expiresAt

def Credited (broker : SourceBroker) (capability : Bytes) (id : Nat) : Prop :=
  id ∈ broker.issued ∧ ∃ entry, broker.capabilities[id]? = some entry ∧
    Hex.decode capability = some entry.credential

structure Traced (digest : Bytes → Bytes) (actions : List BrokerAction) (broker : SourceBroker)
    (place : Nat) (request : Request) : Prop where
  found : ∀ id, request.phase = .found id → broker.Credited request.capability id
  unrevoked : ∀ id, request.phase = .unrevoked id → ∃ clock expiresAt, clock ≤ broker.clock ∧
    broker.Expires id expiresAt ∧
      Moment (ReadsRevoked place request.capability id clock expiresAt) (step digest) initial actions
  lookedUp : ∀ id, request.phase.lookedUpId = some id →
    Moment (LooksUp place request.capability id) (step digest) initial actions

theorem Traced.extend {actions : List BrokerAction} {place : Nat} {request : Request}
    (traced : Traced digest actions broker place request)
    (taken : broker.step digest action = some next) :
    Traced digest (actions ++ [action]) next place request := by
  obtain ⟨kept, later, issued⟩ := step_kept taken
  constructor
  case found =>
    intro id phase
    obtain ⟨listed, entry, held, decoded⟩ := traced.found id phase
    obtain ⟨after, found, same⟩ := kept id entry held
    exact ⟨issued listed, after, found, by rw [decoded, same.credential]⟩
  case unrevoked =>
    intro id phase
    obtain ⟨clock, expiresAt, before, ⟨entry, held, expires⟩, moment⟩ := traced.unrevoked id phase
    obtain ⟨after, found, same⟩ := kept id entry held
    exact ⟨clock, expiresAt, le_trans before later, ⟨after, found, same.expiresAt.trans expires⟩,
      moment.append _⟩
  case lookedUp =>
    intro id phase
    exact (traced.lookedUp id phase).append _

theorem mem_of_lookup {entries : List (Bytes × Nat)} {key : Bytes} {id : Nat}
    (listed : entries.lookup key = some id) : (key, id) ∈ entries := by
  obtain ⟨before, after, rfl, _⟩ := List.lookup_eq_some_iff.mp listed
  exact List.mem_append_right _ List.mem_cons_self

theorem Traced.moves {actions : List BrokerAction} {place : Nat} {request : Request}
    {requestStep : RequestStep} {phase : Phase} (sound : broker.Sound)
    (traced : Traced digest actions broker place request)
    (ran : run (step digest) initial actions = some broker)
    (moves : Moves digest broker request requestStep phase)
    (taken : broker.step digest (.advance place requestStep) = some next) :
    Traced digest (actions ++ [.advance place requestStep]) next place
      { request with phase := phase } := by
  obtain ⟨kept, later, issued⟩ := step_kept taken
  have kept_lookup : ∀ id, request.phase.lookedUpId = some id →
      Moment (LooksUp place request.capability id) (step digest) initial
        (actions ++ [.advance place requestStep]) :=
    fun id looked => (traced.lookedUp id looked).append _
  cases moves with
  | answered | dropped =>
    exact ⟨fun _ impossible => (by cases impossible), fun _ impossible => (by cases impossible),
      fun _ impossible => (by cases impossible)⟩
  | found id entry phase decoded listed held =>
    refine ⟨?_, fun _ impossible => (by cases impossible), fun _ impossible => (by cases impossible)⟩
    rintro _ ⟨⟩
    obtain ⟨after, found, same⟩ := kept id entry held
    exact ⟨issued (sound.entries _ (mem_of_lookup listed)), after, found,
      by rw [decoded, same.credential]⟩
  | unrevoked id entry phase held live =>
    refine ⟨fun _ impossible => (by cases impossible), ?_, fun _ impossible => (by cases impossible)⟩
    rintro _ ⟨⟩
    obtain ⟨listed, again, heldAgain, decoded⟩ := traced.found id phase
    cases held.symm.trans heldAgain
    obtain ⟨after, found, same⟩ := kept id entry held
    refine ⟨broker.clock, entry.expiresAt, later, ⟨after, found, same.expiresAt⟩, ?_⟩
    exact moment_last ran taken ⟨rfl, listed, rfl, entry, held, decoded, live, rfl⟩
  | lookedUp id entry phase held live =>
    refine ⟨fun _ impossible => (by cases impossible), fun _ impossible => (by cases impossible), ?_⟩
    rintro _ ⟨⟩
    -- The capability has not expired yet, so it had not when its revocation was read.
    obtain ⟨clock, expiresAt, before, ⟨again, heldAgain, expires⟩, moment⟩ :=
      traced.unrevoked id phase
    cases held.symm.trans heldAgain
    refine (moment.mono ?_).append _
    rintro state action after ⟨same, listed, rfl, old, oldHeld, decoded, unrevoked, rfl⟩
    exact ⟨same, listed, old, oldHeld, decoded, unrevoked, by omega⟩
  | remote id phase | opening id _ _ _ phase | opened id _ phase | body id _ phase
  | pointed _ id _ _ _ phase | polled id _ _ _ _ phase | read id _ _ _ _ _ phase
  | complete id _ _ phase | ended _ id _ _ _ phase | endedPolled id _ _ _ _ phase =>
    refine ⟨fun _ impossible => (by cases impossible), fun _ impossible => (by cases impossible), ?_⟩
    rintro _ ⟨⟩
    exact kept_lookup id (by rw [phase]; rfl)

def History (digest : Bytes → Bytes) (actions : List BrokerAction) (broker : SourceBroker) : Prop :=
  broker.Sound ∧ ∀ (place : Nat) (request : Request), broker.requests[place]? = some request →
    Traced digest actions broker place request

theorem history (actions : List BrokerAction) (final : SourceBroker)
    (ran : run (step digest) initial actions = some final) : History digest actions final := by
  have start : History digest [] initial := by
    refine ⟨sound_initial, ?_⟩
    intro place request present
    simp [initial] at present
  have extend : ∀ (done : List BrokerAction) (state : SourceBroker) (action : BrokerAction)
      (after : SourceBroker), run (step digest) initial done = some state →
        History digest done state → step digest state action = some after →
          History digest (done ++ [action]) after := by
    rintro done state action after reached ⟨sound, traced⟩ taken
    refine ⟨step_sound sound taken, ?_⟩
    intro place request present
    cases step_advances taken with
    | same unchanged =>
      rw [unchanged] at present
      exact (traced place request present).extend taken
    | called fresh phase appended =>
      rw [appended] at present
      rcases Lists.getElem?_append_cases present with old | ⟨rfl, rfl⟩
      · exact (traced place request old).extend taken
      · constructor <;> intro id impossible <;> rw [phase] at impossible <;> cases impossible
    | acquired at_ before id held phase set =>
      rw [set] at present
      rcases Lists.getElem?_set_cases present with ⟨_, old⟩ | ⟨rfl, rfl⟩
      · exact (traced place request old).extend taken
      · have before := (traced place before held).extend taken
        refine ⟨fun _ impossible => (by cases impossible),
          fun _ impossible => (by cases impossible), ?_⟩
        rintro _ ⟨⟩
        exact before.lookedUp id (by rw [phase]; rfl)
    | moved at_ before step phase same held moves set =>
      subst same
      rw [set] at present
      rcases Lists.getElem?_set_cases present with ⟨_, old⟩ | ⟨rfl, rfl⟩
      · exact (traced place request old).extend taken
      · exact (traced place before held).moves sound reached moves taken
  exact history_of_run start extend ran

end LookingUp

def isBody (id : Nat) (request : Request) : Bool :=
  match request.phase with
  | .body served _ _ => decide (served = id)
  | _ => false

def Yields (broker : SourceBroker) (request : Request) : Prop :=
  ∀ id range state, (request.phase = .body id range state ∨
      ∃ reason, request.phase = .ended id range state reason) →
    ∃ entry source, broker.capabilities[id]? = some entry ∧ entry.payload = .engine source ∧
      parseSingleRange request.rangeHeader source.length = .ok range ∧
      state.delivered <+: (source.content.drop range.start).take range.len ∧
      (request.phase = .ended id range state .complete →
        state.delivered = (source.content.drop range.start).take range.len ∧
          state.delivered.length = range.len)

structure Guarantees (digest : Bytes → Bytes) (actions : List BrokerAction)
    (final : SourceBroker) : Prop where
  lookedUp : ∀ (place : Nat) (request : Request), final.requests[place]? = some request →
    ∀ id range state, (request.phase = .body id range state ∨
        ∃ reason, request.phase = .ended id range state reason) →
      Moment (LooksUp place request.capability id) (step digest) initial actions
  yields : ∀ request ∈ final.requests, final.Yields request
  -- No body of a capability polls its reader once the revocation is cancelled.
  revoked : ∀ (earlier later : List BrokerAction) (middle : SourceBroker) (id place : Nat),
    actions = earlier ++ later → run (step digest) initial earlier = some middle →
      middle.Cancelled id → final.reads id place = middle.reads id place
  -- A selection that sees the revocation or the expiry polls the reader no more.
  selected : ∀ (earlier later : List BrokerAction) (middle : SourceBroker) (place : Nat)
    (timer : Bool) (poll : Poll) (request : Request) (id : Nat) (range : ByteRange)
    (state : EngineBodyState) (entry : CapabilityEntry),
    actions = earlier ++ .advance place (.select timer poll) :: later →
      run (step digest) initial earlier = some middle →
        middle.requests[place]? = some request → request.phase = .body id range state →
          middle.capabilities[id]? = some entry → (entry.cancelled = true ∨ timer = true) →
            final.requests[place]? =
              some { request with phase := .ended id range state .failed }
  limited : ∀ id, final.requests.countP (isBody id) ≤ maxConcurrentRequestsPerCapability
  live : final.registry.entries.length ≤ maxLiveCapabilities

theorem Sound.yields {request : Request} (sound : broker.Sound)
    (member : request ∈ broker.requests) : broker.Yields request := by
  have delivered : ∀ id range state source, Serves broker.capabilities request id range source →
      Delivers source range state →
        ∃ entry, broker.capabilities[id]? = some entry ∧ entry.payload = .engine source ∧
          parseSingleRange request.rangeHeader source.length = .ok range ∧
          state.delivered <+: (source.content.drop range.start).take range.len := by
    intro id range state source serves delivers
    obtain ⟨entry, held, payload⟩ := serves.held
    refine ⟨entry, held, payload, serves.parsed, ?_⟩
    rw [delivers.bytes]
    exact List.take_prefix_take_left (by have := delivers.remaining; omega)
  have serving := sound.serving request member
  unfold Serving at serving
  rintro id range state (phase | ⟨reason, phase⟩)
  · rw [phase] at serving
    obtain ⟨source, serves, delivers⟩ := serving
    obtain ⟨entry, held, payload, parsed, leading⟩ := delivered id range state source serves delivers
    exact ⟨entry, source, held, payload, parsed, leading, by rw [phase]; rintro ⟨⟩⟩
  · rw [phase] at serving
    obtain ⟨source, serves, delivers, whole⟩ := serving
    obtain ⟨entry, held, payload, parsed, leading⟩ := delivered id range state source serves delivers
    refine ⟨entry, source, held, payload, parsed, leading, ?_⟩
    intro complete
    rw [phase] at complete
    cases complete
    have remaining := delivers.remaining
    rw [whole rfl, Nat.zero_add] at remaining
    exact ⟨by rw [← remaining]; exact delivers.bytes, remaining⟩

theorem Sound.limited (sound : broker.Sound) (id : Nat) :
    broker.requests.countP (isBody id) ≤ maxConcurrentRequestsPerCapability := by
  have owned : broker.requests.countP (isBody id) ≤ broker.requests.countP (holds id) := by
    apply List.countP_mono_left
    intro request _ isBody
    unfold SourceBroker.isBody at isBody
    split at isBody
    next served _ _ phase =>
      have same := of_decide_eq_true isBody
      subst same
      unfold holds
      rw [phase]
      exact decide_eq_true rfl
    next => cases isBody
  cases held : broker.capabilities[id]? with
  | some entry =>
    have total := sound.permits id entry held
    omega
  | none =>
    have outside := List.getElem?_eq_none_iff.mp held
    have unused : broker.requests.countP (holds id) = 0 := by
      apply List.countP_eq_zero.mpr
      intro request member owned
      have inside := sound.placed request member id (of_decide_eq_true owned)
      omega
    omega

theorem broker_guarantees (digest : Bytes → Bytes) {actions : List BrokerAction}
    {final : SourceBroker} (ran : run (step digest) initial actions = some final) :
    Guarantees digest actions final := by
  obtain ⟨sound, traced⟩ := history actions final ran
  constructor
  case lookedUp =>
    rintro place request present id range state (phase | ⟨reason, phase⟩) <;>
      exact (traced place request present).lookedUp id (by rw [phase]; rfl)
  case yields => exact fun request member => sound.yields member
  case revoked =>
    intro earlier later middle id place split reached cancelled
    rw [split, run_append, reached] at ran
    exact reads_of_cancelled cancelled ran place
  case selected =>
    intro earlier later middle place timer poll request id range state entry split reached present
      phase held visible
    rw [split, run_append, reached] at ran
    simp only [Option.bind_some, run] at ran
    obtain ⟨next, taken, continued⟩ := Option.bind_eq_some_iff.mp ran
    have ended := select_ends present phase held visible taken
    exact (ended.run continued).1
  case limited => exact sound.limited
  case live => exact sound.live

section FirstRequest

def zeroCredential : Bytes := List.replicate capabilityBytes 0

def zeroDigest (bytes : Bytes) : Bytes :=
  if bytes = zeroCredential then
    [0x66, 0x68, 0x7a, 0xad, 0xf8, 0x62, 0xbd, 0x77, 0x6c, 0x8f, 0xc1, 0x8b, 0x8e, 0x9f, 0x8e, 0x20,
      0x08, 0x97, 0x14, 0x85, 0x6e, 0xe2, 0x33, 0xb3, 0x90, 0x2a, 0x59, 0x1d, 0x0d, 0x5f, 0x29, 0x25]
  else []

def shortSource : EngineCapability where
  length := 3
  content := [1, 2, 3, 4]
  fits := by decide

def firstRequest : List BrokerAction :=
  [.create zeroCredential (seconds 60) (.engine shortSource), .lockEntries 0, .insert,
    .call (Hex.encode zeroCredential) .get (some (utf8 "bytes=1-")) true] ++
    [.lookUp, .readRevoked, .readClock, .tryAcquire, .dispatch, .openSource none, .refresh true,
      .pollBody, .pieceAvailability, .refreshBody true, .select false .pending,
      .select false (.read 2), .pollBody].map (.advance 0)

theorem first_request_completes :
    ∃ final, run (step zeroDigest) initial firstRequest = some final ∧
      Guarantees zeroDigest firstRequest final ∧
      ∃ request state, final.requests[0]? = some request ∧
        request.phase = .ended 0 (.part 1 2 3) state .complete ∧ state.delivered = [2, 3] := by
  have ran : (run (step zeroDigest) initial firstRequest).any (fun final =>
      decide ((final.requests[0]?).map Request.phase = some (.ended 0 (.part 1 2 3)
        ⟨3, 2, 0, 3, [2, 3], .idle⟩ .complete))) = true := by
    decide +kernel
  obtain ⟨final, reached, holds⟩ := (Option.any_eq_true _ _).mp ran
  obtain ⟨request, present, phase⟩ := Option.map_eq_some_iff.mp (of_decide_eq_true holds)
  exact ⟨final, reached, broker_guarantees zeroDigest reached, request, _, present, phase, rfl⟩

end FirstRequest

end SourceBroker

end StreamServer.Transcoding
