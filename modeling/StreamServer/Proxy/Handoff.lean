import StreamServer.Shared.Runs
import StreamServer.Shared.UrlCrate

set_option autoImplicit false

namespace StreamServer.Proxy

def proxyBodyChunkSize : Nat := 64 * 1024

/-- Instants and durations are in milliseconds. -/
def upstreamReadIdleDeadline : Nat := 30 * 1000
def downstreamNoProgressDeadline : Nat := 120 * 1000

inductive ProxySourceItem where
  | chunk (bytes : Bytes)
  | eof
  | failed
deriving DecidableEq, Repr

/-- A stream may be endless: it is the sequence of its answers, with the number already given. -/
inductive ProxyBodySource where
  | streaming (answers : Nat → ProxySourceItem) (given : Nat)
  | buffered (bytes : Option Bytes)

namespace ProxyBodySource

def next : ProxyBodySource → ProxySourceItem × ProxyBodySource
  | .streaming answers given => (answers given, .streaming answers (given + 1))
  | .buffered (some bytes) => (.chunk bytes, .buffered none)
  | .buffered none => (.eof, .buffered none)

def isDrained : ProxyBodySource → Bool
  | .buffered none => true
  | _ => false

end ProxyBodySource

inductive ProxyHandoffSlot where
  | empty
  | reserved
  | full (bytes : Bytes) (deadline : Nat)
deriving DecidableEq, Repr

inductive ProxyHandoffTerminal where
  | running
  | clean
  | failedPending
  | failedDelivered
deriving DecidableEq, Repr

inductive ProxyProducerStop where
  | consumerClosed
  | failed
deriving DecidableEq, Repr

inductive ProxyConsumerItem where
  | chunk (bytes : Bytes)
  | failed
  | eof
deriving DecidableEq, Repr

/-- The fields behind the mutex, with the cancellation token and the fixed deadline. -/
structure ProxyHandoff where
  slot : ProxyHandoffSlot
  terminal : ProxyHandoffTerminal
  consumerClosed : Bool
  cancelled : Bool
  fixedDeliveryDeadline : Option Nat
deriving DecidableEq, Repr

namespace ProxyHandoff

def new (fixedDeliveryDeadline : Option Nat) : ProxyHandoff :=
  ⟨.empty, .running, false, false, fixedDeliveryDeadline⟩

def failLocked (handoff : ProxyHandoff) : ProxyHandoff :=
  if !handoff.consumerClosed && handoff.terminal == .running then
    { handoff with slot := .empty, terminal := .failedPending }
  else handoff

def fail (handoff : ProxyHandoff) : ProxyHandoff := handoff.failLocked

def closeConsumer (handoff : ProxyHandoff) : ProxyHandoff :=
  { handoff with consumerClosed := true, slot := .empty }

def fixedDeadlinePassed (handoff : ProxyHandoff) (now : Nat) : Bool :=
  handoff.fixedDeliveryDeadline.any fun deadline => deadline ≤ now

/-- One pass of the loop under the lock; without a result the caller waits. -/
def reserve (handoff : ProxyHandoff) (now : Nat) :
    ProxyHandoff × Option (Except ProxyProducerStop Unit) :=
  if handoff.consumerClosed then (handoff, some (.error .consumerClosed))
  else if handoff.terminal ≠ .running then (handoff, some (.error .failed))
  else if handoff.fixedDeadlinePassed now then (handoff.failLocked, some (.error .failed))
  else if handoff.slot = .empty then ({ handoff with slot := .reserved }, some (.ok ()))
  else (handoff, none)

def publish (handoff : ProxyHandoff) (bytes : Bytes) (deadline now : Nat) :
    ProxyHandoff × Except ProxyProducerStop Unit :=
  if handoff.consumerClosed then ({ handoff with slot := .empty }, .error .consumerClosed)
  else if handoff.cancelled || handoff.terminal != .running then (handoff.failLocked, .error .failed)
  else if handoff.fixedDeadlinePassed now then (handoff.failLocked, .error .failed)
  else ({ handoff with slot := .full bytes deadline }, .ok ())

def deliveryDeadline (handoff : ProxyHandoff) (slidingDeadline : Nat) : Nat :=
  match handoff.fixedDeliveryDeadline with
  | none => slidingDeadline
  | some fixed => min fixed slidingDeadline

def waitUntilConsumed (handoff : ProxyHandoff) : Option (Except ProxyProducerStop Unit) :=
  if handoff.consumerClosed then some (.error .consumerClosed)
  else if handoff.terminal ≠ .running then some (.error .failed)
  else if handoff.slot = .empty then some (.ok ())
  else none

def waitExpired (handoff : ProxyHandoff) : ProxyHandoff × Except ProxyProducerStop Unit :=
  match handoff.waitUntilConsumed with
  | some result => (handoff, result)
  | none => (handoff.failLocked, .error .failed)

def clean (handoff : ProxyHandoff) : ProxyHandoff :=
  if handoff.cancelled then handoff.failLocked
  else if !handoff.consumerClosed && handoff.terminal == .running then
    { handoff with slot := .empty, terminal := .clean }
  else handoff

def deadlinePassed (handoff : ProxyHandoff) (now : Nat) : Bool :=
  match handoff.terminal, handoff.slot with
  | .running, .full _ deadline => deadline ≤ now
  | _, _ => false

def offer (handoff : ProxyHandoff) : ProxyHandoff × Option ProxyConsumerItem :=
  match handoff.terminal with
  | .failedPending => ({ handoff with slot := .empty, terminal := .failedDelivered }, some .failed)
  | .failedDelivered => (handoff, some .eof)
  | .clean => (handoff, some .eof)
  | .running =>
      match handoff.slot with
      | .full bytes _ => ({ handoff with slot := .empty }, some (.chunk bytes))
      | _ => (handoff, none)

def take (handoff : ProxyHandoff) (now : Nat) : ProxyHandoff × Option ProxyConsumerItem :=
  let handoff := if handoff.cancelled then handoff.failLocked else handoff
  let handoff := if handoff.deadlinePassed now then handoff.failLocked else handoff
  handoff.offer

end ProxyHandoff

-- Where `run_proxy_body_producer` is. `reserving` keeps the chunk that is being cut up and how far
-- it has been handed over.
inductive ProxyProducer where
  | reserving (cutting : Option (Bytes × Nat))
  | reading (deadline : Nat)
  | publishing (bytes : Bytes) (offset : Nat)
  | waiting (bytes : Bytes) (stop deadline : Nat)
  | cleaning
  | finished
deriving DecidableEq, Repr

structure ProxyBody where
  handoff : ProxyHandoff
  source : ProxyBodySource
  producer : ProxyProducer
  received : List ProxyConsumerItem

/-- The armed guard makes the handoff fail when the task is dropped or unwinds. -/
inductive ProxyBodyAction where
  | cancel
  | reserve (now : Nat)
  | reserveCancelled
  | reserveExpired (now : Nat)
  | readCancelled
  | readConsumerClosed
  | readFixedDeadline (now : Nat)
  | readIdle (now : Nat)
  | readNext
  | publish (started now : Nat)
  | waitUntilConsumed
  | waitCancelled
  | waitExpired (now : Nat)
  | clean
  | dropProducer
  | take (now : Nat)
  | takeCancelled
  | closeConsumer
deriving DecidableEq, Repr

namespace ProxyBody

def new (source : ProxyBodySource) (fixedDeliveryDeadline : Option Nat) : ProxyBody :=
  ⟨.new fixedDeliveryDeadline, source, .reserving none, []⟩

def failProducer (body : ProxyBody) : ProxyBody :=
  { body with handoff := body.handoff.fail, producer := .finished }

/-- Lengths are at most `isize::MAX`, so the addition never saturates. -/
def chunkEnd (bytes : Bytes) (offset : Nat) : Nat := min (offset + proxyBodyChunkSize) bytes.length

def afterChunk (source : ProxyBodySource) (bytes : Bytes) (offset : Nat) : ProxyProducer :=
  if offset < bytes.length then .reserving (some (bytes, offset))
  else if source.isDrained then .cleaning
  else .reserving none

def reserved (cutting : Option (Bytes × Nat)) (now : Nat) : ProxyProducer :=
  match cutting with
  | none => .reading (now + upstreamReadIdleDeadline)
  | some (bytes, offset) => .publishing bytes offset

def readNext (body : ProxyBody) (deadline : Nat) : ProxyBody :=
  let (item, source) := body.source.next
  let body := { body with source }
  match item with
  | .chunk [] => { body with producer := .reading deadline }
  | .chunk bytes => { body with producer := .publishing bytes 0 }
  | .eof => { body with producer := .cleaning }
  | .failed => body.failProducer

def publishChunk (body : ProxyBody) (bytes : Bytes) (offset started now : Nat) : ProxyBody :=
  let stop := chunkEnd bytes offset
  let deadline := body.handoff.deliveryDeadline (started + downstreamNoProgressDeadline)
  let (handoff, result) := body.handoff.publish ((bytes.take stop).drop offset) deadline now
  match result with
  | .ok _ => { body with handoff, producer := .waiting bytes stop deadline }
  | .error _ => { body with handoff, producer := .finished }

def takeItem (body : ProxyBody) (now : Nat) : ProxyBody :=
  let (handoff, item) := body.handoff.take now
  { body with handoff, received := body.received ++ item.toList }

def reserve (body : ProxyBody) (cutting : Option (Bytes × Nat)) (now : Nat) : ProxyBody :=
  match body.handoff.reserve now with
  | (handoff, some (.ok _)) => { body with handoff, producer := reserved cutting now }
  | (handoff, some (.error _)) => { body with handoff, producer := .finished }
  | (handoff, none) => { body with handoff }

def waitUntilConsumed (body : ProxyBody) (bytes : Bytes) (stop : Nat) : ProxyBody :=
  match body.handoff.waitUntilConsumed with
  | some (.ok _) => { body with producer := afterChunk body.source bytes stop }
  | some (.error _) => { body with producer := .finished }
  | none => body

def waitExpired (body : ProxyBody) (bytes : Bytes) (stop : Nat) : ProxyBody :=
  match body.handoff.waitExpired with
  | (handoff, .ok _) => { body with handoff, producer := afterChunk body.source bytes stop }
  | (handoff, .error _) => { body with handoff, producer := .finished }

def stepReserving (body : ProxyBody) (cutting : Option (Bytes × Nat)) :
    ProxyBodyAction → Option ProxyBody
  | .reserve now => some (body.reserve cutting now)
  | .reserveCancelled => if body.handoff.cancelled then some body.failProducer else none
  | .reserveExpired now =>
      if body.handoff.fixedDeadlinePassed now then some body.failProducer else none
  | _ => none

def stepReading (body : ProxyBody) (deadline : Nat) : ProxyBodyAction → Option ProxyBody
  | .readCancelled => if body.handoff.cancelled then some body.failProducer else none
  | .readConsumerClosed =>
      if body.handoff.consumerClosed then some { body with producer := .finished } else none
  | .readFixedDeadline now =>
      if body.handoff.fixedDeadlinePassed now then some body.failProducer else none
  | .readIdle now => if deadline ≤ now then some body.failProducer else none
  | .readNext => some (body.readNext deadline)
  | _ => none

def stepWaiting (body : ProxyBody) (bytes : Bytes) (stop deadline : Nat) :
    ProxyBodyAction → Option ProxyBody
  | .waitUntilConsumed => some (body.waitUntilConsumed bytes stop)
  | .waitCancelled => if body.handoff.cancelled then some body.failProducer else none
  | .waitExpired now => if deadline ≤ now then some (body.waitExpired bytes stop) else none
  | _ => none

def stepProducer (body : ProxyBody) (action : ProxyBodyAction) : Option ProxyBody :=
  match body.producer with
  | .reserving cutting => body.stepReserving cutting action
  | .reading deadline => body.stepReading deadline action
  | .publishing bytes offset =>
      match action with
      | .publish started now => some (body.publishChunk bytes offset started now)
      | _ => none
  | .waiting bytes stop deadline => body.stepWaiting bytes stop deadline action
  | .cleaning =>
      match action with
      | .clean => some { body with handoff := body.handoff.clean, producer := .finished }
      | _ => none
  | .finished => none

/-- Notifications are left out: a side that waits may look again at any time. -/
def step (body : ProxyBody) : ProxyBodyAction → Option ProxyBody
  | .cancel => some { body with handoff := { body.handoff with cancelled := true } }
  | .take now => some (body.takeItem now)
  | .takeCancelled =>
      if body.handoff.cancelled then some { body with handoff := body.handoff.fail } else none
  | .closeConsumer => some { body with handoff := body.handoff.closeConsumer }
  | .dropProducer => if body.producer = .finished then none else some body.failProducer
  | action => body.stepProducer action

end ProxyBody

end StreamServer.Proxy
