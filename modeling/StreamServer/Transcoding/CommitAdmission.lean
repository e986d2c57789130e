import Mathlib.Logic.Function.Basic
import StreamServer.Shared.Runs

set_option autoImplicit false

namespace StreamServer.Transcoding.CommitAdmission

/-- The word of an `AcquisitionCommitControl`: `ACQUISITION_ACTIVE` and its two successors. -/
inductive CommitWord where
  | active
  | cancelled
  | committed
deriving DecidableEq, Repr

structure AcquisitionCommitControl where
  state : CommitWord
  cancellation : Bool
deriving DecidableEq, Repr

namespace AcquisitionCommitControl

def new : AcquisitionCommitControl := ⟨.active, false⟩

def exchange (commit : AcquisitionCommitControl) (word : CommitWord) :
    AcquisitionCommitControl × Bool :=
  if commit.state = .active then ({ commit with state := word }, true) else (commit, false)

def notify (commit : AcquisitionCommitControl) : AcquisitionCommitControl :=
  { commit with cancellation := true }

end AcquisitionCommitControl

inductive OperationKind where
  | acquisition
  | rollback
deriving DecidableEq, Repr

/-- Where the owner goes on after its own call of `cancel`. -/
inductive AfterCancel where
  | spawningForwarder
  | ended
deriving DecidableEq, Repr

-- The next thing the owner does: `cancelling` and `notifying` are inside of `cancel`, `admitting`
-- is inside of `admit`, and `working` stands for everything before the commit.
inductive Phase (S : Type) where
  | idle
  | readingSignal
  | cancelling (next : AfterCancel)
  | notifying (next : AfterCancel)
  | spawningForwarder
  | working
  | ready (selection : S)
  | admitting (selection : S)
  | admitted (selection : S)
  | ended
deriving DecidableEq, Repr

def AfterCancel.phase {S : Type} : AfterCancel → Phase S
  | .spawningForwarder => .spawningForwarder
  | .ended => .ended

inductive CallerGuard where
  | absent
  | armed
  | notifying
  | gone
deriving DecidableEq, Repr

inductive Forwarder where
  | absent
  | waiting
  | cancelling
  | notifying
  | stopped
deriving DecidableEq, Repr

structure Operation (S : Type) where
  kind : OperationKind
  commit : AcquisitionCommitControl
  phase : Phase S
  caller : CallerGuard
  forwarder : Forwarder

inductive Move (S : Type) where
  | start (kind : OperationKind)
  | readSignal
  | exchange
  | notify
  | spawnForwarder
  | prepare (selection : S)
  | stop
  | failWrite
  | dropCaller
  | callerNotify
  | callerReturns
  | wakeForwarder
  | forwarderExchange
  | forwarderNotify
deriving DecidableEq, Repr

namespace Operation

variable {S : Type}

def new : Operation S := ⟨.acquisition, .new, .idle, .absent, .absent⟩

def finish (operation : Operation S) : Operation S :=
  { operation with
    phase := .ended
    forwarder := if operation.forwarder = .waiting then .stopped else operation.forwarder }

def move (signal : Bool) (operation : Operation S) : Move S → Option (Operation S)
  | .start .acquisition =>
      match operation.phase with
      | .idle => some { operation with kind := .acquisition, phase := .readingSignal, caller := .armed }
      | _ => none
  | .start .rollback =>
      match operation.phase with
      | .idle => some { operation with kind := .rollback, phase := .working }
      | _ => none
  | .readSignal =>
      match operation.phase with
      | .readingSignal =>
          some { operation with
            phase := if signal then .cancelling .spawningForwarder else .spawningForwarder }
      | _ => none
  | .exchange =>
      match operation.phase with
      | .cancelling next =>
          let (commit, cancelled) := operation.commit.exchange .cancelled
          some { operation with
            commit, phase := if cancelled then .notifying next else next.phase }
      | _ => none
  | .notify =>
      match operation.phase with
      | .notifying next => some { operation with commit := operation.commit.notify, phase := next.phase }
      | _ => none
  | .spawnForwarder =>
      match operation.phase with
      | .spawningForwarder => some { operation with phase := .working, forwarder := .waiting }
      | _ => none
  | .prepare selection =>
      match operation.phase with
      | .working => some { operation with phase := .ready selection }
      | _ => none
  | .stop =>
      -- An error, or the future is dropped while it waits.
      match operation.phase with
      | .readingSignal | .working | .ready _ | .admitted _ => some operation.finish
      | _ => none
  | .failWrite =>
      match operation.phase with
      | .admitted _ => some operation.finish
      | _ => none
  | .dropCaller =>
      match operation.caller with
      | .armed =>
          let (commit, cancelled) := operation.commit.exchange .cancelled
          some { operation with commit, caller := if cancelled then .notifying else .gone }
      | _ => none
  | .callerNotify =>
      match operation.caller with
      | .notifying => some { operation with commit := operation.commit.notify, caller := .gone }
      | _ => none
  | .callerReturns =>
      match operation.caller, operation.phase with
      | .armed, .ended => some { operation with caller := .gone }
      | _, _ => none
  | .wakeForwarder =>
      match operation.forwarder with
      | .waiting => if signal then some { operation with forwarder := .cancelling } else none
      | _ => none
  | .forwarderExchange =>
      match operation.forwarder with
      | .cancelling =>
          let (commit, cancelled) := operation.commit.exchange .cancelled
          some { operation with commit, forwarder := if cancelled then .notifying else .stopped }
      | _ => none
  | .forwarderNotify =>
      match operation.forwarder with
      | .notifying => some { operation with commit := operation.commit.notify, forwarder := .stopped }
      | _ => none

end Operation

inductive AdmissionStage where
  | readingToken
  | readingAccepting
  | swapping
  | leaving (admitted : Bool)
deriving DecidableEq, Repr

inductive CancelStage where
  | storing
  | notifying
  | leaving
deriving DecidableEq, Repr

inductive Gate where
  | free
  | cancelling (stage : CancelStage)
  | admitting (operation : Nat) (stage : AdmissionStage)
deriving DecidableEq, Repr

structure System (S : Type) where
  accepting : Bool
  cancellation : Bool
  gate : Gate
  operations : Nat → Operation S
  current : Option S

inductive Action (S : Type) where
  | operation (operation : Nat) (move : Move S)
  | enterGate (operation : Nat)
  | admissionStep
  | replaceFile (operation : Nat)
  | supervisorCancel
  | supervisorStore
  | supervisorNotify
  | supervisorReturn
  | cancelParent
deriving DecidableEq, Repr

namespace System

variable {S : Type}

def new (current : Option S) : System S := ⟨true, false, .free, fun _ => .new, current⟩

def word (system : System S) (operation : Nat) : CommitWord :=
  (system.operations operation).commit.state

def set (system : System S) (place : Nat) (operation : Operation S) : System S :=
  { system with operations := Function.update system.operations place operation }

def leaveGate (system : System S) (place : Nat) (admitted : Bool) : Option (System S) :=
  let operation := system.operations place
  match operation.phase with
  | .admitting selection =>
      let released := { system with gate := .free }
      if admitted then some (released.set place { operation with phase := .admitted selection })
      else
        match operation.kind with
        | .acquisition => some (released.set place operation.finish)
        | .rollback => some (released.set place { operation with phase := .cancelling .ended })
  | _ => none

def admissionStep (system : System S) : Option (System S) :=
  match system.gate with
  | .admitting place .readingToken =>
      let stage := if system.cancellation then .leaving false else .readingAccepting
      some { system with gate := .admitting place stage }
  | .admitting place .readingAccepting =>
      let stage := if system.accepting then .swapping else .leaving false
      some { system with gate := .admitting place stage }
  | .admitting place .swapping =>
      let operation := system.operations place
      let (commit, admitted) := operation.commit.exchange .committed
      some ({ system with gate := .admitting place (.leaving admitted) }.set place
        { operation with commit })
  | .admitting place (.leaving admitted) => system.leaveGate place admitted
  | .free | .cancelling _ => none

def step (system : System S) : Action S → Option (System S)
  | .operation place move =>
      ((system.operations place).move system.cancellation move).map (system.set place)
  | .enterGate place =>
      match system.gate, (system.operations place).phase with
      | .free, .ready selection =>
          some ({ system with gate := .admitting place .readingToken }.set place
            { system.operations place with phase := .admitting selection })
      | _, _ => none
  | .admissionStep => system.admissionStep
  | .replaceFile place =>
      match (system.operations place).phase with
      | .admitted selection =>
          some ({ system with current := some selection }.set place
            (system.operations place).finish)
      | _ => none
  | .supervisorCancel =>
      match system.gate with
      | .free => some { system with gate := .cancelling .storing }
      | _ => none
  | .supervisorStore =>
      match system.gate with
      | .cancelling .storing => some { system with gate := .cancelling .notifying, accepting := false }
      | _ => none
  | .supervisorNotify =>
      match system.gate with
      | .cancelling .notifying =>
          some { system with gate := .cancelling .leaving, cancellation := true }
      | _ => none
  | .supervisorReturn =>
      match system.gate with
      | .cancelling .leaving => some { system with gate := .free }
      | _ => none
  -- The supervisor's token is a child of the server's; it is cancelled without the gate.
  | .cancelParent => some { system with cancellation := true }

end System

end StreamServer.Transcoding.CommitAdmission
