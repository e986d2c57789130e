import StreamServer.Shared.Checked
import StreamServer.Shared.Numerals
import StreamServer.Shared.Runs
import StreamServer.Transcoding.ByteRange
import StreamServer.Transcoding.ProbeWatchdog

set_option autoImplicit false

namespace StreamServer.Transcoding

open MachineInt

def capabilityBytes : Nat := 32

def capabilityHexBytes : Nat := capabilityBytes * 2

def maxLiveCapabilities : Nat := 256

def maxConcurrentRequestsPerCapability : Nat := 8

def maxCapabilityLifetime : Nat := seconds (30 * 60)

-- `content` is what the reader of the provider can return, from the first byte of the source on.
structure EngineCapability where
  length : Nat
  content : Bytes
  fits : length < u64Limit

inductive CapabilityPayload where
  | engine (source : EngineCapability)
  | remote

-- `cancelled` is the token of the revocation, `requests` the permits that are left.
structure CapabilityEntry where
  credential : Bytes
  expiresAt : Nat
  revoked : Bool
  cancelled : Bool
  requests : Nat
  payload : CapabilityPayload

inductive Method where
  | get
  | head
  | other
deriving DecidableEq, Repr

inductive BodyPoint where
  | idle
  | availability
  | refreshing
  | selecting
deriving DecidableEq, Repr

-- The reader stands at `position` and was polled `reads` times; `delivered` are the bytes yielded.
structure EngineBodyState where
  position : Nat
  reads : Nat
  remaining : Nat
  offset : Nat
  delivered : Bytes
  point : BodyPoint
deriving DecidableEq, Repr

inductive BodyEnd where
  | complete
  | failed
  | dropped
deriving DecidableEq, Repr

/-- Capabilities are numbered in the order of their creation. -/
inductive Phase where
  | called
  | found (id : Nat)
  | unrevoked (id : Nat)
  | lookedUp (id : Nat)
  | admitted (id : Nat)
  | remote (id : Nat)
  | opening (id : Nat) (range : ByteRange)
  | opened (id : Nat) (range : ByteRange)
  | body (id : Nat) (range : ByteRange) (state : EngineBodyState)
  | ended (id : Nat) (range : ByteRange) (state : EngineBodyState) (reason : BodyEnd)
  | answered (status : Nat)
  | dropped
deriving DecidableEq, Repr

structure Request where
  capability : Bytes
  method : Method
  rangeHeader : Option Bytes
  loopback : Bool
  phase : Phase

def Phase.permit : Phase → Option Nat
  | .admitted id | .remote id | .opening id _ | .opened id _ | .body id _ _ => some id
  | _ => none

/-- A call of `issue_with_payload` holds the lock while it goes through the entries. -/
structure CapabilityRegistry where
  entries : List (Bytes × Nat)
  retaining : Option (Nat × List (Bytes × Nat))

structure SourceBroker where
  clock : Nat
  capabilities : List CapabilityEntry
  waiting : List Nat
  issued : List Nat
  registry : CapabilityRegistry
  requests : List Request

inductive Poll where
  | pending
  | read (count : Nat)
  | failed
deriving DecidableEq, Repr

-- `timer` says whether the expiry is ready when the selection polls it.
inductive RequestStep where
  | lookUp
  | readRevoked
  | readClock
  | tryAcquire
  | dispatch
  | openSource (error : Option SourceError)
  | refresh (succeeds : Bool)
  | pollBody
  | pieceAvailability
  | refreshBody (succeeds : Bool)
  | select (timer : Bool) (poll : Poll)
  | drop
deriving DecidableEq, Repr

inductive BrokerAction where
  | tick (nanoseconds : Nat)
  | create (credential : Bytes) (lifetime : Nat) (payload : CapabilityPayload)
  | lockEntries (id : Nat)
  | retainNext
  | insert
  | storeRevoked (id : Nat)
  | cancelRevocation (id : Nat)
  | call (capability : Bytes) (method : Method) (rangeHeader : Option Bytes) (loopback : Bool)
  | advance (place : Nat) (step : RequestStep)

namespace SourceBroker

def initial : SourceBroker := ⟨0, [], [], [], ⟨[], none⟩, []⟩

variable (broker : SourceBroker)

def isLive (entry : CapabilityEntry) : Bool := !entry.revoked && broker.clock < entry.expiresAt

def changeEntry (id : Nat) (change : CapabilityEntry → CapabilityEntry) : List CapabilityEntry :=
  broker.capabilities.modify id change

/-- A permit goes back when the request leaves the phases that own it. -/
def returnPermit (before after : Option Nat) : List CapabilityEntry :=
  match before with
  | none => broker.capabilities
  | some id =>
      if after = some id then broker.capabilities
      else broker.changeEntry id fun entry => { entry with requests := entry.requests + 1 }

def enter (place : Nat) (request : Request) (phase : Phase) : SourceBroker :=
  { broker with
    capabilities := broker.returnPermit request.phase.permit phase.permit
    requests := broker.requests.set place { request with phase := phase } }

def refuse (place : Nat) (request : Request) (error : SourceError) : SourceBroker :=
  broker.enter place request (.answered (sourceErrorStatus error))

variable (digest : Bytes → Bytes)

def lookUp (place : Nat) (request : Request) : SourceBroker :=
  if request.loopback = false then broker.enter place request (.answered 403)
  else if request.method = .other then broker.enter place request (.answered 405)
  else if request.capability.length ≠ capabilityHexBytes then
    broker.refuse place request .invalidCapability
  else
    match Hex.decode request.capability with
    | none => broker.refuse place request .invalidCapability
    | some candidate =>
        match broker.registry.entries.lookup (digest candidate) with
        | none => broker.refuse place request .invalidCapability
        | some id =>
            match broker.capabilities[id]? with
            | none => broker.refuse place request .invalidCapability
            | some entry =>
                if candidate = entry.credential then broker.enter place request (.found id)
                else broker.refuse place request .invalidCapability

def dispatch (place : Nat) (request : Request) (id : Nat) (entry : CapabilityEntry) : SourceBroker :=
  match entry.payload with
  | .remote => broker.enter place request (.remote id)
  | .engine source =>
      match parseSingleRange request.rangeHeader source.length with
      | .error error => broker.refuse place request error
      | .ok range =>
          if request.method = .head then
            broker.enter place request (.answered (if range.isPartial then 206 else 200))
          else broker.enter place request (.opening id range)

def startBody (range : ByteRange) : EngineBodyState where
  position := range.start
  reads := 0
  remaining := range.len
  offset := range.start
  delivered := []
  point := .idle

def bufferLen (state : EngineBodyState) : Nat := min state.remaining (64 * 1024)

/-- The reader stops being polled as soon as the revocation or the expiry is ready. -/
def select (place : Nat) (request : Request) (id : Nat) (range : ByteRange)
    (state : EngineBodyState) (entry : CapabilityEntry) (source : EngineCapability) (timer : Bool)
    (poll : Poll) : Option SourceBroker :=
  if entry.cancelled then some (broker.enter place request (.ended id range state .failed))
  else if timer then
    if entry.expiresAt ≤ broker.clock then
      some (broker.enter place request (.ended id range state .failed))
    else none
  else
    let polled := { state with reads := state.reads + 1 }
    match poll with
    | .pending => some (broker.enter place request (.body id range polled))
    | .failed => some (broker.enter place request (.ended id range polled .failed))
    | .read count =>
        if bufferLen state < count ∨ source.content.length < state.position + count then none
        else if count = 0 then some (broker.enter place request (.ended id range polled .failed))
        else some (broker.enter place request (.body id range { polled with
          position := state.position + count
          remaining := state.remaining - count
          offset := satAdd state.offset count
          delivered := state.delivered ++ (source.content.drop state.position).take count
          point := .idle }))

def advanceBody (place : Nat) (request : Request) (id : Nat) (range : ByteRange)
    (state : EngineBodyState) (entry : CapabilityEntry) (step : RequestStep) :
    Option SourceBroker :=
  match entry.payload, state.point, step with
  | .engine _, .idle, .pollBody =>
      if state.remaining = 0 then
        some (broker.enter place request (.ended id range state .complete))
      else some (broker.enter place request (.body id range { state with point := .availability }))
  | .engine _, .availability, .pieceAvailability =>
      some (broker.enter place request (.body id range { state with point := .refreshing }))
  | .engine _, .refreshing, .refreshBody succeeds =>
      if succeeds then
        some (broker.enter place request (.body id range { state with point := .selecting }))
      else some (broker.enter place request (.ended id range state .failed))
  | .engine source, .selecting, .select timer poll =>
      broker.select place request id range state entry source timer poll
  | _, _, .drop => some (broker.enter place request (.ended id range state .dropped))
  | _, _, _ => none

def advance (place : Nat) (request : Request) (step : RequestStep) : Option SourceBroker :=
  match request.phase, step with
  | .called, .lookUp =>
      if broker.registry.retaining.isSome then none else some (broker.lookUp digest place request)
  | .found id, .readRevoked => do
      let entry ← broker.capabilities[id]?
      if entry.revoked then some (broker.refuse place request .revoked)
      else some (broker.enter place request (.unrevoked id))
  | .unrevoked id, .readClock => do
      let entry ← broker.capabilities[id]?
      if entry.expiresAt ≤ broker.clock then some (broker.refuse place request .expired)
      else some (broker.enter place request (.lookedUp id))
  | .lookedUp id, .tryAcquire => do
      let entry ← broker.capabilities[id]?
      if entry.requests = 0 then some (broker.refuse place request .rateLimited)
      else some { broker with
        capabilities := broker.changeEntry id fun entry =>
          { entry with requests := entry.requests - 1 }
        requests := broker.requests.set place { request with phase := .admitted id } }
  | .admitted id, .dispatch => do
      let entry ← broker.capabilities[id]?
      some (broker.dispatch place request id entry)
  | .opening id range, .openSource none => some (broker.enter place request (.opened id range))
  | .opening _ _, .openSource (some error) => some (broker.refuse place request error)
  | .opened id range, .refresh succeeds =>
      if succeeds then some (broker.enter place request (.body id range (startBody range)))
      else some (broker.enter place request (.answered 500))
  | .body id range state, step => do
      let entry ← broker.capabilities[id]?
      broker.advanceBody place request id range state entry step
  | .ended .., _ | .answered _, _ | .dropped, _ => none
  | _, .drop => some (broker.enter place request .dropped)
  | _, _ => none

/-- A capability is created before the lock of the entries is taken. -/
def create (credential : Bytes) (lifetime : Nat) (payload : CapabilityPayload) :
    Option SourceBroker :=
  if lifetime = 0 ∨ maxCapabilityLifetime < lifetime ∨ credential.length ≠ capabilityBytes then none
  else some { broker with
    capabilities := broker.capabilities ++ [{
      credential := credential
      expiresAt := broker.clock + lifetime
      revoked := false
      cancelled := false
      requests := maxConcurrentRequestsPerCapability
      payload := payload }]
    waiting := broker.capabilities.length :: broker.waiting }

def lockEntries (id : Nat) : Option SourceBroker :=
  if id ∉ broker.waiting ∨ broker.registry.retaining.isSome then none
  else some { broker with
    waiting := broker.waiting.erase id
    registry := { broker.registry with retaining := some (id, broker.registry.entries) } }

def retainNext : Option SourceBroker :=
  match broker.registry.retaining with
  | some (id, seen :: unseen) =>
      let live := broker.capabilities[seen.2]?.any broker.isLive
      some { broker with registry := {
        entries := if live then broker.registry.entries else broker.registry.entries.erase seen
        retaining := some (id, unseen) } }
  | _ => none

def insert : Option SourceBroker :=
  match broker.registry.retaining with
  | some (id, []) => do
      let entry ← broker.capabilities[id]?
      let key := digest entry.credential
      if maxLiveCapabilities ≤ broker.registry.entries.length then
        some { broker with registry := { broker.registry with retaining := none } }
      else if (broker.registry.entries.lookup key).isSome then
        some { broker with registry := { broker.registry with retaining := none } }
      else some { broker with
        issued := id :: broker.issued
        registry := ⟨(key, id) :: broker.registry.entries, none⟩ }
  | _ => none

-- `revoke` stores the flag and then cancels the token.
def step (broker : SourceBroker) : BrokerAction → Option SourceBroker
  | .tick nanoseconds => some { broker with clock := broker.clock + nanoseconds }
  | .create credential lifetime payload => broker.create credential lifetime payload
  | .lockEntries id => broker.lockEntries id
  | .retainNext => broker.retainNext
  | .insert => broker.insert digest
  | .storeRevoked id =>
      if id ∉ broker.issued then none
      else some { broker with
        capabilities := broker.changeEntry id fun entry => { entry with revoked := true } }
  | .cancelRevocation id => do
      let entry ← broker.capabilities[id]?
      if entry.revoked = false then none
      else some { broker with
        capabilities := broker.changeEntry id fun entry => { entry with cancelled := true } }
  | .call capability method rangeHeader loopback =>
      some { broker with
        requests := broker.requests ++ [⟨capability, method, rangeHeader, loopback, .called⟩] }
  | .advance place requestStep => do
      let request ← broker.requests[place]?
      broker.advance digest place request requestStep

end SourceBroker

end StreamServer.Transcoding
