import Mathlib.Logic.Function.Basic
import StreamServer.Shared.Runs

set_option autoImplicit false

namespace StreamServer.Transcoding

structure UnixGroupIdentity where
  processGroup : Nat
  finalSignalSent : Bool
  leaderReaped : Bool

namespace UnixGroupIdentity

def new (processGroup : Nat) : UnixGroupIdentity := ⟨processGroup, false, false⟩

def finalSignalTarget (identity : UnixGroupIdentity) : Option Nat :=
  if !identity.finalSignalSent && !identity.leaderReaped then some identity.processGroup else none

def markFinalSignalSent (identity : UnixGroupIdentity) : UnixGroupIdentity :=
  { identity with finalSignalSent := true }

def markLeaderReaped (identity : UnixGroupIdentity) : Option UnixGroupIdentity :=
  if identity.finalSignalSent then some { identity with leaderReaped := true } else none

def killableForRetention (identity : UnixGroupIdentity) : Bool := identity.finalSignalTarget.isSome

end UnixGroupIdentity

structure UnixDurableOwnership where
  finalSignalSent : Bool
  childReaped : Bool
  readersJoined : Nat

namespace UnixDurableOwnership

def new : UnixDurableOwnership := ⟨false, false, 0⟩

def markFinalSignalSent (ownership : UnixDurableOwnership) : UnixDurableOwnership :=
  { ownership with finalSignalSent := true }

def markChildReaped (ownership : UnixDurableOwnership) : UnixDurableOwnership :=
  { ownership with childReaped := true }

def markReaderJoined (ownership : UnixDurableOwnership) : UnixDurableOwnership :=
  { ownership with readersJoined := min (ownership.readersJoined + 1) 2 }

def canRelease (ownership : UnixDurableOwnership) : Bool :=
  ownership.finalSignalSent && ownership.childReaped && decide (ownership.readersJoined = 2)

end UnixDurableOwnership

-- `permit` says whether the entry has its permit, which it drops with itself.
structure RegisteredEntry where
  target : Nat
  retained : Bool
  cleanupStarted : Bool
  permit : Bool
  unixKillable : Bool
deriving DecidableEq

def registeredUnix (processGroup : Nat) : RegisteredEntry where
  target := processGroup
  retained := false
  cleanupStarted := false
  permit := false
  unixKillable := true

/-- A reader without a thread reads in the thread of the owner. -/
inductive DurableUnixReader where
  | thread (finished : Bool)
  | inline
  | joined
deriving DecidableEq

namespace DurableUnixReader

def finish : DurableUnixReader → DurableUnixReader
  | .thread _ => .thread true
  | reader => reader

def join : DurableUnixReader → Option DurableUnixReader
  | .thread true | .inline => some .joined
  | _ => none

end DurableUnixReader

-- `child` says whether the handle of the child is there.
structure UnixOwnedProcess where
  child : Bool
  registration : Option Nat
  identity : UnixGroupIdentity
  ownership : UnixDurableOwnership

namespace UnixOwnedProcess

def new (processGroup registration : Nat) : UnixOwnedProcess where
  child := true
  registration := some registration
  identity := .new processGroup
  ownership := .new

def recordFinalSignal (owner : UnixOwnedProcess) : UnixOwnedProcess :=
  { owner with
    identity := owner.identity.markFinalSignalSent
    ownership := owner.ownership.markFinalSignalSent }

/-- The owner thread marks the child as reaped where the identity refuses to. -/
def markLeaderReaped (owner : UnixOwnedProcess) : UnixOwnedProcess :=
  { owner with
    identity := owner.identity.markLeaderReaped.getD owner.identity
    ownership := owner.ownership.markChildReaped }

def markReaderJoined (owner : UnixOwnedProcess) : UnixOwnedProcess :=
  { owner with ownership := owner.ownership.markReaderJoined }

def emptied (owner : UnixOwnedProcess) : UnixOwnedProcess :=
  { owner with child := false, registration := none }

end UnixOwnedProcess

/-- The statement of `own_unix_process` that is next; from `dropping` on, those of `drop`. -/
inductive OwnerPoint where
  | watching (setupFailed : Bool)
  | stopping
  | grace
  | signalling
  | marking
  | draining
  | waiting
  | vanishing
  | joiningStdout
  | joiningStderr
  | completing
  | dropping
  | dropMarking
  | retaining
  | done
deriving DecidableEq

-- `leaderReaped` is what the kernel knows, not a field of the owner.
structure UnixOwner where
  owner : UnixOwnedProcess
  leaderReaped : Bool
  stdout : DurableUnixReader
  stderr : DurableUnixReader
  point : OwnerPoint

-- What the kernel and the threads of the readers answer is in the steps. To be `expired` is to be
-- past the deadline, or past the limit of a reader.
inductive OwnerStep where
  | watch (waitable : Option Bool) (expired : Bool)
  | signalGroup (delivered : Bool)
  | tellRegistry
  | listDescendants (terminal : Bool)
  | tryWait (exited : Bool)
  | lookDescendants (gone : Bool)
  | finishReader (stdout : Bool)
  | joinReader
  | complete
  | retain
deriving DecidableEq

inductive RegistryEffect where
  | markFinalSignalSent (id : Nat)
  | complete (id : Nat)
  | retain (id : Nat) (killable : Bool)

namespace UnixOwner

variable (state : UnixOwner)

def watch (setupFailed stopped expired : Bool) (waitable : Option Bool) : OwnerPoint :=
  if setupFailed then .signalling
  else if waitable ≠ some false then .signalling
  else if stopped then .stopping
  else if expired then .signalling
  else .watching false

def signalGroup (delivered : Bool) (sent unsent : OwnerPoint) (needless : OwnerPoint) : UnixOwner :=
  match state.owner.identity.finalSignalTarget with
  | none => { state with point := needless }
  | some _ =>
      if delivered then { state with owner := state.owner.recordFinalSignal, point := sent }
      else { state with point := unsent }

-- `stopped` tells that a token is cancelled or that the caller has dropped the receiver.
def next (stopped : Bool) : OwnerPoint → OwnerStep → Option (UnixOwner × Option RegistryEffect)
  | .watching setupFailed, .watch waitable expired =>
      some ({ state with point := watch setupFailed stopped expired waitable }, none)
  | .stopping, .signalGroup delivered =>
      some ({ state with point := if delivered then .grace else .signalling }, none)
  | .grace, .watch waitable expired =>
      let point := if expired = false ∧ waitable = some false then OwnerPoint.grace else .signalling
      some ({ state with point := point }, none)
  | .signalling, .signalGroup delivered =>
      some (state.signalGroup delivered .marking .signalling .draining, none)
  | .marking, .tellRegistry =>
      some ({ state with point := .draining },
        state.owner.registration.map RegistryEffect.markFinalSignalSent)
  | .draining, .listDescendants terminal =>
      some ({ state with point := if terminal then .waiting else .draining }, none)
  | .waiting, .tryWait exited =>
      if state.owner.child && exited then
        some ({ state with
          owner := state.owner.markLeaderReaped, leaderReaped := true, point := .vanishing }, none)
      else some (state, none)
  | .vanishing, .lookDescendants gone =>
      some ({ state with point := if gone then .joiningStdout else .vanishing }, none)
  | .joiningStdout, .joinReader =>
      state.stdout.join.map fun reader => ({ state with
        owner := state.owner.markReaderJoined, stdout := reader, point := .joiningStderr }, none)
  | .joiningStderr, .joinReader =>
      state.stderr.join.map fun reader => ({ state with
        owner := state.owner.markReaderJoined, stderr := reader, point := .completing }, none)
  | .completing, .complete =>
      if state.owner.ownership.canRelease = false then some ({ state with point := .dropping }, none)
      else
        match state.owner.registration with
        | none => some ({ state with point := .dropping }, none)
        | some id =>
            some ({ state with owner := state.owner.emptied, point := .dropping },
              some (.complete id))
  | .dropping, .signalGroup delivered =>
      some (state.signalGroup delivered .dropMarking .retaining .retaining, none)
  | .dropMarking, .tellRegistry =>
      some ({ state with point := .retaining },
        state.owner.registration.map RegistryEffect.markFinalSignalSent)
  | .retaining, .retain =>
      some ({ state with owner := state.owner.emptied, point := .done },
        state.owner.registration.map fun id =>
          .retain id state.owner.identity.killableForRetention)
  | _, .finishReader stdout =>
      if stdout then some ({ state with stdout := state.stdout.finish }, none)
      else some ({ state with stderr := state.stderr.finish }, none)
  | _, _ => none

def groupSignalled : OwnerStep → Option Nat
  | .signalGroup _ =>
      match state.point with
      | .stopping => some state.owner.identity.processGroup
      | .signalling | .dropping => state.owner.identity.finalSignalTarget
      | _ => none
  | _ => none

end UnixOwner

-- Where a call of `run_bounded_with_cancellation` stands. A call that is `cancelling` still has its
-- permit when it was already given one.
inductive RunPhase where
  | requested
  | waiting
  | permitted
  | admitted
  | configured
  | gated
  | cleared
  | spawned (processGroup : Nat)
  | registered (processGroup id : Nat)
  | bound (processGroup id : Nat)
  | owned (state : UnixOwner)
  | cancelling (permit : Bool)
  | ended

structure Call where
  operationCancelled : Bool
  dropped : Bool
  phase : RunPhase

-- `poll` is the selection that finds a token cancelled.
inductive CallStep where
  | check
  | poll
  | acquire
  | configure (succeeds : Bool)
  | lockGate
  | clear
  | spawn (processGroup : Option Nat)
  | register
  | bindPermit
  | handOver (stdoutThread stderrThread missingPipe : Bool)
  | own (step : OwnerStep)
deriving DecidableEq

inductive GateHolder where
  | call (place : Nat)
  | cancel (caller : Option Nat)
deriving DecidableEq

-- A call that holds the entries while it goes through them, with the entries that it has yet to see.
inductive RegistryCall where
  | forcing (remaining : List Nat)
  | reaping (remaining : List Nat)

structure ProcessSupervisor where
  available : Nat
  accepting : Bool
  cancelled : Bool
  gate : Option GateHolder
  entries : Nat → Option RegisteredEntry
  nextId : Nat
  lock : Option RegistryCall
  calls : List Call

-- `index` picks the entry that a call looks at next, as a hash map has no order.
inductive SupervisorAction where
  | call
  | cancelOperation (place : Nat)
  | cancelToken
  | dropCaller (place : Nat)
  | beginCancel (caller : Option Nat)
  | endCancel
  | beginForce
  | forceEntry (index : Nat) (delivered : Bool)
  | beginReap
  | reapEntry (index : Nat) (drained : Option Bool)
  | unlockEntries
  | reapOrphan (place : Nat)
  | advance (place : Nat) (step : CallStep)
deriving DecidableEq

inductive Sender where
  | owner (place : Nat)
  | registry (id : Nat)

namespace RunPhase

def leader : RunPhase → Option (Nat × Bool)
  | .spawned processGroup | .registered processGroup _ | .bound processGroup _ =>
      some (processGroup, false)
  | .owned state => some (state.owner.identity.processGroup, state.leaderReaped)
  | _ => none

end RunPhase

namespace ProcessSupervisor

def withMaxConcurrency (maximum : Nat) : ProcessSupervisor where
  available := max maximum 1
  accepting := true
  cancelled := false
  gate := none
  entries := fun _ => none
  nextId := 1
  lock := none
  calls := []

variable (supervisor : ProcessSupervisor)

def setCall (place : Nat) (call : Call) : ProcessSupervisor :=
  { supervisor with calls := supervisor.calls.set place call }

def enter (place : Nat) (call : Call) (phase : RunPhase) : ProcessSupervisor :=
  supervisor.setCall place { call with phase := phase }

def release (permit : Bool) : ProcessSupervisor :=
  { supervisor with available := supervisor.available + permit.toNat }

def unlockGate : ProcessSupervisor := { supervisor with gate := none }

def setEntry (id : Nat) (entry : Option RegisteredEntry) : ProcessSupervisor :=
  { supervisor with entries := Function.update supervisor.entries id entry }

def changeEntry (id : Nat) (change : RegisteredEntry → RegisteredEntry) : ProcessSupervisor :=
  supervisor.setEntry id ((supervisor.entries id).map change)

def isStopping : Bool := supervisor.cancelled || !supervisor.accepting

def removeEntry (id : Nat) : ProcessSupervisor :=
  match supervisor.entries id with
  | none => supervisor
  | some entry => (supervisor.setEntry id none).release entry.permit

def applyEffect : RegistryEffect → ProcessSupervisor
  | .markFinalSignalSent id =>
      supervisor.changeEntry id fun entry => { entry with unixKillable := false }
  | .complete id => supervisor.removeEntry id
  | .retain id killable =>
      supervisor.changeEntry id fun entry =>
        { entry with unixKillable := killable, retained := true, cleanupStarted := false }

def check (place : Nat) (call : Call) (permit : Bool) (passed : RunPhase) : ProcessSupervisor :=
  if call.operationCancelled then (supervisor.enter place call .ended).release permit
  else if supervisor.isStopping then supervisor.enter place call (.cancelling permit)
  else supervisor.enter place call passed

def own (place : Nat) (call : Call) (state : UnixOwner) (step : OwnerStep) :
    Option ProcessSupervisor :=
  let stopped := supervisor.cancelled || call.operationCancelled || call.dropped
  match state.next stopped state.point step with
  | none => none
  | some (after, none) => some (supervisor.enter place call (.owned after))
  | some (after, some effect) =>
      if supervisor.lock.isSome then none
      else some ((supervisor.applyEffect effect).enter place call (.owned after))

/-- The process group that the kernel gives to a child is not that of a child yet to be reaped. -/
def spawn (place : Nat) (call : Call) : Option Nat → Option ProcessSupervisor
  | none => some ((supervisor.enter place call .ended).release true).unlockGate
  | some processGroup =>
      if supervisor.calls.any (fun other => other.phase.leader == some (processGroup, false)) then
        none
      else some (supervisor.enter place call (.spawned processGroup))

def register (place : Nat) (call : Call) (processGroup : Nat) : ProcessSupervisor :=
  { (supervisor.setEntry supervisor.nextId (some (registeredUnix processGroup))).enter place call
      (.registered processGroup supervisor.nextId) with nextId := supervisor.nextId + 1 }

/-- The permit is dropped where there is no entry to take it. -/
def bindPermit (place : Nat) (call : Call) (processGroup id : Nat) : ProcessSupervisor :=
  let bound := (supervisor.enter place call (.bound processGroup id)).unlockGate
  match supervisor.entries id with
  | none => bound.release true
  | some _ => bound.changeEntry id fun entry => { entry with permit := true }

def reader (hasThread : Bool) : DurableUnixReader := if hasThread then .thread false else .inline

def handOver (processGroup id : Nat) (stdoutThread stderrThread missingPipe : Bool) :
    UnixOwner where
  owner := .new processGroup id
  leaderReaped := false
  stdout := reader stdoutThread
  stderr := reader stderrThread
  point := .watching (missingPipe || !stdoutThread || !stderrThread)

def advance (place : Nat) (call : Call) : RunPhase → CallStep → Option ProcessSupervisor
  | .requested, .check => some (supervisor.check place call false .waiting)
  | .waiting, .poll =>
      if call.operationCancelled then some (supervisor.enter place call .ended)
      else if supervisor.cancelled then some (supervisor.enter place call (.cancelling false))
      else none
  | .waiting, .acquire =>
      if supervisor.available = 0 then none
      else some { supervisor.enter place call .permitted with
        available := supervisor.available - 1 }
  | .permitted, .check => some (supervisor.check place call true .admitted)
  | .admitted, .configure succeeds =>
      if succeeds then some (supervisor.enter place call .configured)
      else some ((supervisor.enter place call .ended).release true)
  | .configured, .lockGate =>
      if supervisor.gate.isSome then none
      else some { supervisor.enter place call .gated with gate := some (.call place) }
  | .gated, .clear =>
      if call.operationCancelled || supervisor.isStopping then
        some ((supervisor.enter place call .ended).release true).unlockGate
      else some (supervisor.enter place call .cleared)
  | .cleared, .spawn processGroup => supervisor.spawn place call processGroup
  | .spawned processGroup, .register =>
      if supervisor.lock.isSome then none else some (supervisor.register place call processGroup)
  | .registered processGroup id, .bindPermit =>
      if supervisor.lock.isSome then none
      else some (supervisor.bindPermit place call processGroup id)
  | .bound processGroup id, .handOver stdoutThread stderrThread missingPipe =>
      some (supervisor.enter place call
        (.owned (handOver processGroup id stdoutThread stderrThread missingPipe)))
  | .owned state, .own step => supervisor.own place call state step
  | _, _ => none

def listedIds : List Nat :=
  (List.range supervisor.nextId).filter fun id => (supervisor.entries id).isSome

/-- A call can be dropped where it waits: for a permit, and for the result of its owner. -/
def dropCaller (place : Nat) (call : Call) : Option ProcessSupervisor :=
  match call.phase with
  | .waiting => some (supervisor.enter place { call with dropped := true } .ended)
  | .owned _ => some (supervisor.setCall place { call with dropped := true })
  | _ => none

def isCancelling (place : Nat) : Bool :=
  match supervisor.calls[place]? with
  | some call => match call.phase with
      | .cancelling _ => true
      | _ => false
  | none => false

def beginCancel (caller : Option Nat) : Option ProcessSupervisor :=
  if supervisor.gate.isSome || !caller.all supervisor.isCancelling then none
  else some { supervisor with gate := some (.cancel caller), accepting := false }

/-- A call that cancels returns its error, and with it the permit it may have. -/
def endCancel : Option ProcessSupervisor :=
  match supervisor.gate with
  | some (.cancel none) => some { supervisor with gate := none, cancelled := true }
  | some (.cancel (some place)) =>
      let cancelled := { supervisor with gate := none, cancelled := true }
      match supervisor.calls[place]? with
      | some call =>
          match call.phase with
          | .cancelling permit => some ((cancelled.enter place call .ended).release permit)
          | _ => none
      | none => none
  | _ => none

def reapEntry (id : Nat) (drained : Option Bool) : ProcessSupervisor :=
  match supervisor.entries id with
  | none => supervisor
  | some entry =>
      if entry.retained && !entry.cleanupStarted && drained == some true then
        supervisor.removeEntry id
      else supervisor

/-- A child that is dropped unreaped is killed, by its own id, and reaped by the runtime. -/
def reapOrphan (place : Nat) (call : Call) : Option ProcessSupervisor :=
  match call.phase with
  | .owned state =>
      if state.point = .done ∧ state.leaderReaped = false then
        some (supervisor.enter place call (.owned { state with leaderReaped := true }))
      else none
  | _ => none

def step (supervisor : ProcessSupervisor) : SupervisorAction → Option ProcessSupervisor
  | .call => some { supervisor with calls := supervisor.calls ++ [⟨false, false, .requested⟩] }
  | .cancelOperation place =>
      supervisor.calls[place]?.map fun call =>
        supervisor.setCall place { call with operationCancelled := true }
  | .cancelToken => some { supervisor with cancelled := true }
  | .dropCaller place => supervisor.calls[place]?.bind (supervisor.dropCaller place)
  | .beginCancel caller => supervisor.beginCancel caller
  | .endCancel => supervisor.endCancel
  | .beginForce =>
      if supervisor.lock.isSome then none
      else some { supervisor with lock := some (.forcing supervisor.listedIds) }
  | .forceEntry index _ =>
      match supervisor.lock with
      | some (.forcing remaining) =>
          if remaining[index]?.isSome then
            some { supervisor with lock := some (.forcing (remaining.eraseIdx index)) }
          else none
      | _ => none
  | .beginReap =>
      if supervisor.lock.isSome then none
      else some { supervisor with lock := some (.reaping supervisor.listedIds) }
  | .reapEntry index drained =>
      match supervisor.lock with
      | some (.reaping remaining) =>
          remaining[index]?.map fun id => { supervisor.reapEntry id drained with
            lock := some (.reaping (remaining.eraseIdx index)) }
      | _ => none
  | .unlockEntries =>
      match supervisor.lock with
      | some (.forcing []) | some (.reaping []) => some { supervisor with lock := none }
      | _ => none
  | .reapOrphan place => supervisor.calls[place]?.bind (supervisor.reapOrphan place)
  | .advance place step =>
      supervisor.calls[place]?.bind fun call => supervisor.advance place call call.phase step

def groupSignalled : SupervisorAction → Option (Sender × Nat)
  | .advance place (.own step) => do
      let call ← supervisor.calls[place]?
      match call.phase with
      | .owned state => (state.groupSignalled step).map fun processGroup =>
          (.owner place, processGroup)
      | _ => none
  | .forceEntry index _ =>
      match supervisor.lock with
      | some (.forcing remaining) => do
          let id ← remaining[index]?
          let entry ← supervisor.entries id
          if entry.unixKillable then some (.registry id, entry.target) else none
      | _ => none
  | _ => none

end ProcessSupervisor

end StreamServer.Transcoding
