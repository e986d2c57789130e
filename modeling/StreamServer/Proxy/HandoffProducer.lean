import StreamServer.Proxy.Handoff

set_option autoImplicit false

namespace StreamServer.Proxy

open Runs

/-- Asked again and again, the source gives these bytes in whole chunks and is then `rest`. -/
inductive ProxyBodySource.Yields : ProxyBodySource → Bytes → ProxyBodySource → Prop where
  | nothing (source : ProxyBodySource) : Yields source [] source
  | chunk {source rest later : ProxyBodySource} {bytes more : Bytes} (earlier : Yields source bytes rest)
      (next : rest.next = (.chunk more, later)) : Yields source (bytes ++ more) later

def ProxyConsumerItem.bytes : ProxyConsumerItem → Bytes
  | .chunk bytes => bytes
  | _ => []

def ProxyHandoffSlot.bytes : ProxyHandoffSlot → Bytes
  | .full bytes _ => bytes
  | _ => []

def ProxyProducer.bytes : ProxyProducer → Bytes
  | .reserving (some (bytes, offset)) => bytes.drop offset
  | .publishing bytes offset => bytes.drop offset
  | .waiting bytes stop _ => bytes.drop stop
  | _ => []

namespace ProxyBody

def delivered (body : ProxyBody) : Bytes := body.received.flatMap ProxyConsumerItem.bytes

structure DeliveredFaithfully (source : ProxyBodySource) (body : ProxyBody) : Prop where
  inOrder : ∃ bytes rest, source.Yields bytes rest ∧ body.delivered <+: bytes
  bounded : ∀ bytes, .chunk bytes ∈ body.received → bytes.length ≤ proxyBodyChunkSize
  cleanEnd : .eof ∈ body.received → .failed ∉ body.received →
    ∃ rest, source.Yields body.delivered rest ∧ rest.next.1 = .eof
  failedOnce : body.received.count .failed ≤ 1
  failedLast : body.received.Pairwise fun earlier later => earlier = .failed → later = .eof

def Placed (slot : ProxyHandoffSlot) (source rest : ProxyBodySource) : ProxyProducer → Prop
  | .reserving _ => slot = .empty ∧ source = rest
  | .reading _ => slot = .reserved ∧ source = rest
  | .publishing _ _ => slot = .reserved ∧ source = rest
  | .waiting _ _ _ => slot ≠ .reserved ∧ source = rest
  | .cleaning => slot.bytes = [] ∧ rest.next.1 = .eof
  | .finished => False

def Halted (handoff : ProxyHandoff) : Prop :=
  handoff.consumerClosed = true ∨ handoff.terminal ≠ .running

-- While the handoff runs, every byte of the source is delivered, in the slot or with the producer.
structure Sound (source : ProxyBodySource) (body : ProxyBody) : Prop where
  inOrder : ∃ bytes rest, source.Yields bytes rest ∧ body.delivered <+: bytes
  bounded : ∀ bytes, .chunk bytes ∈ body.received → bytes.length ≤ proxyBodyChunkSize
  slotBounded : body.handoff.slot.bytes.length ≤ proxyBodyChunkSize
  halted : Halted body.handoff → body.handoff.slot = .empty
  accounted : ¬ Halted body.handoff → ∃ rest,
    source.Yields (body.delivered ++ body.handoff.slot.bytes ++ body.producer.bytes) rest ∧
      Placed body.handoff.slot body.source rest body.producer
  cleanEnd : body.handoff.terminal = .clean →
    ∃ rest, source.Yields body.delivered rest ∧ rest.next.1 = .eof
  failures : body.received.count .failed = if body.handoff.terminal = .failedDelivered then 1 else 0
  ended : .eof ∈ body.received →
    body.handoff.terminal = .clean ∨ body.handoff.terminal = .failedDelivered
  failedLast : body.received.Pairwise fun earlier later => earlier = .failed → later = .eof

variable {source : ProxyBodySource} {body : ProxyBody}

theorem Sound.deliveredFaithfully (sound : Sound source body) : DeliveredFaithfully source body where
  inOrder := sound.inOrder
  bounded := sound.bounded
  cleanEnd seen unfailed := by
    rcases sound.ended seen with clean | failed
    · exact sound.cleanEnd clean
    · have failures := sound.failures
      rw [if_pos failed] at failures
      exact absurd (List.count_pos_iff.mp (by omega)) unfailed
  failedOnce := by
    rw [sound.failures]
    split <;> omega
  failedLast := sound.failedLast

theorem new_sound (source : ProxyBodySource) (fixedDeliveryDeadline : Option Nat) :
    Sound source (new source fixedDeliveryDeadline) where
  inOrder := ⟨[], source, .nothing source, List.prefix_refl _⟩
  bounded := by simp [new]
  slotBounded := by simp [new, ProxyHandoff.new, ProxyHandoffSlot.bytes]
  halted := by simp [new, ProxyHandoff.new]
  accounted _ := ⟨source, .nothing source, rfl, rfl⟩
  cleanEnd := by simp [new, ProxyHandoff.new]
  failures := by simp [new, ProxyHandoff.new]
  ended := by simp [new]
  failedLast := List.Pairwise.nil

theorem Sound.halt (sound : Sound source body) {handoff : ProxyHandoff} (halted : Halted handoff)
    (dropped : handoff.slot = .empty)
    (terminal : handoff.terminal = body.handoff.terminal ∨
      body.handoff.terminal = .running ∧ handoff.terminal = .failedPending)
    (producer : ProxyProducer) (next : ProxyBodySource) :
    Sound source ⟨handoff, next, producer, body.received⟩ where
  inOrder := sound.inOrder
  bounded := sound.bounded
  slotBounded := by simp [dropped, ProxyHandoffSlot.bytes]
  halted _ := dropped
  accounted running := absurd halted running
  cleanEnd clean := by
    rcases terminal with same | ⟨-, failed⟩
    · exact sound.cleanEnd (same ▸ clean)
    · rw [clean] at failed
      cases failed
  failures := by
    rcases terminal with same | ⟨running, failed⟩
    · simpa [same] using sound.failures
    · simpa [running, failed] using sound.failures
  ended seen := by
    rcases terminal with same | ⟨running, failed⟩
    · simpa [same] using sound.ended seen
    · rcases sound.ended seen with other | other <;> simp [running] at other
  failedLast := sound.failedLast

theorem not_halted_iff {handoff : ProxyHandoff} :
    ¬ Halted handoff ↔ handoff.consumerClosed = false ∧ handoff.terminal = .running := by
  simp [Halted]

theorem Sound.stop (sound : Sound source body) (halted : Halted body.handoff)
    (producer : ProxyProducer) (next : ProxyBodySource) :
    Sound source ⟨body.handoff, next, producer, body.received⟩ :=
  sound.halt halted (sound.halted halted) (.inl rfl) producer next

theorem Sound.failLocked (sound : Sound source body) (producer : ProxyProducer)
    (next : ProxyBodySource) :
    Sound source ⟨body.handoff.failLocked, next, producer, body.received⟩ := by
  unfold ProxyHandoff.failLocked
  split
  next running =>
    rw [Bool.and_eq_true, Bool.not_eq_true', beq_iff_eq] at running
    exact sound.halt (.inr (by simp)) rfl (.inr ⟨running.2, rfl⟩) producer next
  next stopped =>
    refine sound.stop ?_ producer next
    by_contra running
    obtain ⟨isOpen, running⟩ := not_halted_iff.mp running
    simp [isOpen, running] at stopped

theorem Sound.closeConsumer (sound : Sound source body) :
    Sound source { body with handoff := body.handoff.closeConsumer } := by
  have halted : Halted body.handoff.closeConsumer := .inl rfl
  exact sound.halt halted rfl (.inl rfl) body.producer body.source

theorem Sound.cancel (sound : Sound source body) :
    Sound source { body with handoff := { body.handoff with cancelled := true } } :=
  ⟨sound.inOrder, sound.bounded, sound.slotBounded, sound.halted, sound.accounted, sound.cleanEnd,
    sound.failures, sound.ended, sound.failedLast⟩

theorem Sound.advance (sound : Sound source body) (running : ¬ Halted body.handoff)
    {slot : ProxyHandoffSlot} {producer : ProxyProducer} {next : ProxyBodySource}
    (rest : ProxyBodySource) (bounded : slot.bytes.length ≤ proxyBodyChunkSize)
    (yields : source.Yields (body.delivered ++ slot.bytes ++ producer.bytes) rest)
    (placed : Placed slot next rest producer) :
    Sound source ⟨{ body.handoff with slot }, next, producer, body.received⟩ where
  inOrder := sound.inOrder
  bounded := sound.bounded
  slotBounded := bounded
  halted halted := absurd halted running
  accounted _ := ⟨rest, yields, placed⟩
  cleanEnd := sound.cleanEnd
  failures := sound.failures
  ended := sound.ended
  failedLast := sound.failedLast

theorem reserve_cases (handoff : ProxyHandoff) (now : Nat) :
    (Halted handoff ∧ ∃ stop, handoff.reserve now = (handoff, some (.error stop))) ∨
      handoff.reserve now = (handoff.failLocked, some (.error .failed)) ∨
      (¬ Halted handoff ∧ handoff.slot = .empty ∧
        handoff.reserve now = ({ handoff with slot := .reserved }, some (.ok ()))) ∨
      handoff.reserve now = (handoff, none) := by
  unfold ProxyHandoff.reserve
  split
  next closed => exact .inl ⟨.inl closed, .consumerClosed, rfl⟩
  next isOpen =>
  split
  next stopped => exact .inl ⟨.inr stopped, .failed, rfl⟩
  next running =>
  split
  next => exact .inr (.inl rfl)
  next =>
  split
  next empty =>
    exact .inr (.inr (.inl
      ⟨not_halted_iff.mpr ⟨by simpa using isOpen, not_not.mp running⟩, empty, rfl⟩))
  next => exact .inr (.inr (.inr rfl))

theorem Sound.reserve (sound : Sound source body) {cutting : Option (Bytes × Nat)}
    (place : body.producer = .reserving cutting) (now : Nat) :
    Sound source (body.reserve cutting now) := by
  unfold ProxyBody.reserve
  rcases reserve_cases body.handoff now with
    ⟨halted, stop, result⟩ | result | ⟨running, empty, result⟩ | result
  · rw [result]
    exact sound.stop halted .finished body.source
  · rw [result]
    exact sound.failLocked .finished body.source
  · rw [result]
    obtain ⟨rest, yields, placed⟩ := sound.accounted running
    rw [place] at yields placed
    rw [empty] at yields
    apply sound.advance running rest (Nat.zero_le _)
    · cases cutting with
      | none => exact yields
      | some piece => exact yields
    · cases cutting with
      | none => exact ⟨rfl, placed.2⟩
      | some piece => exact ⟨rfl, placed.2⟩
  · rw [result]
    exact sound

theorem Sound.readNext (sound : Sound source body) {deadline : Nat}
    (place : body.producer = .reading deadline) : Sound source (body.readNext deadline) := by
  unfold ProxyBody.readNext
  cases answer : body.source.next with | mk item later =>
  by_cases halted : Halted body.handoff
  case pos =>
    match item with
    | .chunk [] => exact sound.stop halted _ _
    | .chunk (byte :: more) => exact sound.stop halted _ _
    | .eof => exact sound.stop halted _ _
    | .failed => exact sound.failLocked _ _
  obtain ⟨rest, yields, placed⟩ := sound.accounted halted
  rw [place] at yields placed
  obtain ⟨reserved, rfl⟩ := placed
  rw [reserved] at yields
  have keep {producer : ProxyProducer} {next : ProxyBodySource} (rest : ProxyBodySource)
      (yields : source.Yields (body.delivered ++ [] ++ producer.bytes) rest)
      (placed : Placed .reserved next rest producer) :
      Sound source ⟨body.handoff, next, producer, body.received⟩ := by
    have advanced : Sound source ⟨{ body.handoff with slot := .reserved }, _, _, _⟩ :=
      sound.advance halted rest (Nat.zero_le _) yields placed
    rwa [← reserved] at advanced
  match item with
  | .chunk [] =>
    refine keep later ?_ ⟨rfl, rfl⟩
    have more := yields.chunk answer
    simpa [ProxyProducer.bytes, ProxyHandoffSlot.bytes] using more
  | .chunk (byte :: more) =>
    refine keep later ?_ ⟨rfl, rfl⟩
    have more := yields.chunk answer
    simpa [ProxyProducer.bytes, ProxyHandoffSlot.bytes] using more
  | .eof => exact keep body.source yields ⟨rfl, by rw [answer]⟩
  | .failed => exact sound.failLocked _ _

theorem take_drop_append_drop (bytes : Bytes) (offset : Nat) :
    (bytes.take (chunkEnd bytes offset)).drop offset ++ bytes.drop (chunkEnd bytes offset) =
      bytes.drop offset := by
  by_cases within : offset ≤ bytes.length
  · have ordered : offset ≤ chunkEnd bytes offset := by
      unfold chunkEnd
      omega
    have joined := congrArg (List.drop offset) (List.take_append_drop (chunkEnd bytes offset) bytes)
    rwa [List.drop_append_of_le_length (by simp [chunkEnd] at ordered ⊢; omega)] at joined
  · have past : chunkEnd bytes offset = bytes.length := by
      unfold chunkEnd
      omega
    rw [past, List.take_length, List.drop_length, List.append_nil]

theorem publish_cases (handoff : ProxyHandoff) (bytes : Bytes) (deadline now : Nat) :
    (Halted handoff ∧ ∃ stop,
      handoff.publish bytes deadline now = ({ handoff with slot := .empty }, .error stop)) ∨
      handoff.publish bytes deadline now = (handoff.failLocked, .error .failed) ∨
      ¬ Halted handoff ∧
        handoff.publish bytes deadline now = ({ handoff with slot := .full bytes deadline }, .ok ()) := by
  unfold ProxyHandoff.publish
  split
  next closed => exact .inl ⟨.inl closed, .consumerClosed, rfl⟩
  next isOpen =>
  split
  next => exact .inr (.inl rfl)
  next uncancelled =>
  split
  next => exact .inr (.inl rfl)
  next =>
    refine .inr (.inr ⟨not_halted_iff.mpr ⟨by simpa using isOpen, ?_⟩, rfl⟩)
    simpa using (not_or.mp (mt Bool.or_eq_true_iff.mpr uncancelled)).2

theorem Sound.publishChunk (sound : Sound source body) {bytes : Bytes} {offset : Nat}
    (place : body.producer = .publishing bytes offset) (started now : Nat) :
    Sound source (body.publishChunk bytes offset started now) := by
  unfold ProxyBody.publishChunk
  simp only
  rcases publish_cases body.handoff ((bytes.take (chunkEnd bytes offset)).drop offset)
    (body.handoff.deliveryDeadline (started + downstreamNoProgressDeadline)) now with
    ⟨halted, stop, result⟩ | result | ⟨running, result⟩
  · rw [result]
    have dropped : Halted { body.handoff with slot := .empty } := halted
    exact sound.halt dropped rfl (.inl rfl) _ _
  · rw [result]
    exact sound.failLocked _ _
  · rw [result]
    obtain ⟨rest, yields, placed⟩ := sound.accounted running
    rw [place] at yields placed
    obtain ⟨reserved, rfl⟩ := placed
    rw [reserved] at yields
    apply sound.advance running body.source
    · simp only [ProxyHandoffSlot.bytes, List.length_drop, List.length_take, chunkEnd]
      omega
    · simp only [ProxyHandoffSlot.bytes, ProxyProducer.bytes, List.append_nil] at yields ⊢
      rwa [List.append_assoc, take_drop_append_drop]
    · exact ⟨by simp, rfl⟩

theorem waitUntilConsumed_cases (handoff : ProxyHandoff) :
    (Halted handoff ∧ ∃ stop, handoff.waitUntilConsumed = some (.error stop)) ∨
      (¬ Halted handoff ∧ handoff.slot = .empty ∧ handoff.waitUntilConsumed = some (.ok ())) ∨
      handoff.waitUntilConsumed = none := by
  unfold ProxyHandoff.waitUntilConsumed
  split
  next closed => exact .inl ⟨.inl closed, .consumerClosed, rfl⟩
  next isOpen =>
  split
  next stopped => exact .inl ⟨.inr stopped, .failed, rfl⟩
  next running =>
  split
  next empty =>
    exact .inr (.inl ⟨not_halted_iff.mpr ⟨by simpa using isOpen, not_not.mp running⟩, empty, rfl⟩)
  next => exact .inr (.inr rfl)

theorem isDrained_next {drained : ProxyBodySource} (done : drained.isDrained = true) :
    drained.next.1 = .eof := by
  match drained, done with
  | .buffered none, _ => rfl

theorem Sound.afterChunk (sound : Sound source body) {bytes : Bytes} {stop deadline : Nat}
    (place : body.producer = .waiting bytes stop deadline) (running : ¬ Halted body.handoff)
    (empty : body.handoff.slot = .empty) :
    Sound source { body with producer := afterChunk body.source bytes stop } := by
  obtain ⟨rest, yields, placed⟩ := sound.accounted running
  rw [place] at yields placed
  obtain ⟨-, rfl⟩ := placed
  rw [empty] at yields
  have keep {producer : ProxyProducer} (same : producer.bytes = bytes.drop stop)
      (placed : Placed .empty body.source body.source producer) :
      Sound source { body with producer } := by
    have advanced :
        Sound source ⟨{ body.handoff with slot := .empty }, body.source, producer, body.received⟩ := by
      apply sound.advance running body.source (Nat.zero_le _)
      · rw [same]
        exact yields
      · exact placed
    rwa [← empty] at advanced
  unfold ProxyBody.afterChunk
  split
  next => exact keep rfl ⟨rfl, rfl⟩
  next consumed =>
    have nothing : bytes.drop stop = [] := List.drop_eq_nil_of_le (by omega)
    split
    next drained => exact keep nothing.symm ⟨rfl, isDrained_next drained⟩
    next => exact keep nothing.symm ⟨rfl, rfl⟩

theorem Sound.waitUntilConsumed (sound : Sound source body) {bytes : Bytes} {stop deadline : Nat}
    (place : body.producer = .waiting bytes stop deadline) :
    Sound source (body.waitUntilConsumed bytes stop) := by
  unfold ProxyBody.waitUntilConsumed
  rcases waitUntilConsumed_cases body.handoff with
    ⟨halted, stopped, result⟩ | ⟨running, empty, result⟩ | result
  · rw [result]
    exact sound.stop halted _ _
  · rw [result]
    exact sound.afterChunk place running empty
  · rw [result]
    exact sound

theorem Sound.waitExpired (sound : Sound source body) {bytes : Bytes} {stop deadline : Nat}
    (place : body.producer = .waiting bytes stop deadline) :
    Sound source (body.waitExpired bytes stop) := by
  unfold ProxyBody.waitExpired ProxyHandoff.waitExpired
  rcases waitUntilConsumed_cases body.handoff with
    ⟨halted, stopped, result⟩ | ⟨running, empty, result⟩ | result
  · rw [result]
    exact sound.stop halted _ _
  · rw [result]
    exact sound.afterChunk place running empty
  · rw [result]
    exact sound.failLocked _ _

theorem Sound.clean (sound : Sound source body) (place : body.producer = .cleaning) :
    Sound source { body with handoff := body.handoff.clean, producer := .finished } := by
  unfold ProxyHandoff.clean
  split
  next => exact sound.failLocked _ _
  next =>
  split
  next running =>
    rw [Bool.and_eq_true, Bool.not_eq_true', beq_iff_eq] at running
    obtain ⟨rest, yields, placed⟩ := sound.accounted (not_halted_iff.mpr running)
    rw [place] at yields placed
    obtain ⟨consumed, finished⟩ := placed
    rw [consumed] at yields
    simp only [ProxyProducer.bytes, List.append_nil] at yields
    exact {
      inOrder := sound.inOrder
      bounded := sound.bounded
      slotBounded := Nat.zero_le _
      halted := fun _ => rfl
      accounted := fun running => absurd (.inr (by simp)) running
      cleanEnd := fun _ => ⟨rest, yields, finished⟩
      failures := by simpa [running.2] using sound.failures
      ended := fun _ => .inl rfl
      failedLast := sound.failedLast }
  next stopped =>
    refine sound.stop ?_ _ _
    by_contra running
    obtain ⟨isOpen, running⟩ := not_halted_iff.mp running
    simp [isOpen, running] at stopped

end ProxyBody

namespace ProxyBody

variable {source : ProxyBodySource} {body : ProxyBody}

theorem pairwise_snoc {received : List ProxyConsumerItem} {item : ProxyConsumerItem}
    (ordered : received.Pairwise fun earlier later => earlier = .failed → later = .eof)
    (allowed : .failed ∈ received → item = .eof) :
    (received ++ [item]).Pairwise fun earlier later => earlier = .failed → later = .eof := by
  apply List.pairwise_append.mpr
  refine ⟨ordered, List.pairwise_singleton _ _, ?_⟩
  intro earlier member later last failed
  rw [List.mem_singleton] at last
  subst last failed
  exact allowed member

theorem Sound.failed_notMem (sound : Sound source body)
    (undelivered : body.handoff.terminal ≠ .failedDelivered) : .failed ∉ body.received := by
  rw [← List.count_eq_zero, sound.failures, if_neg undelivered]

@[simp] theorem delivered_append (body : ProxyBody) (handoff : ProxyHandoff)
    (items : List ProxyConsumerItem) :
    ({ body with handoff, received := body.received ++ items } : ProxyBody).delivered =
      body.delivered ++ items.flatMap ProxyConsumerItem.bytes := by
  simp [delivered]

theorem Sound.deliverFailure (sound : Sound source body)
    (pending : body.handoff.terminal = .failedPending) :
    Sound source { body with
      handoff := { body.handoff with slot := .empty, terminal := .failedDelivered }
      received := body.received ++ [.failed] } := by
  have unfailed := sound.failed_notMem (by simp [pending])
  exact {
    inOrder := by simpa [ProxyConsumerItem.bytes] using sound.inOrder
    bounded := by simpa using sound.bounded
    slotBounded := Nat.zero_le _
    halted := fun _ => rfl
    accounted := fun running => absurd (.inr (by simp)) running
    cleanEnd := by simp
    failures := by simp [List.count_eq_zero.mpr unfailed]
    ended := fun _ => .inr rfl
    failedLast := pairwise_snoc sound.failedLast fun failed => absurd failed unfailed }

theorem Sound.deliverEnd (sound : Sound source body)
    (ended : body.handoff.terminal = .clean ∨ body.handoff.terminal = .failedDelivered) :
    Sound source { body with received := body.received ++ [.eof] } where
  inOrder := by
    have same := delivered_append body body.handoff [.eof]
    simp only [ProxyConsumerItem.bytes, List.flatMap_cons, List.flatMap_nil, List.append_nil] at same
    rw [same]
    exact sound.inOrder
  bounded := by simpa using sound.bounded
  slotBounded := sound.slotBounded
  halted := sound.halted
  accounted running := by
    rw [not_halted_iff] at running
    rcases ended with clean | failed
    · simp [clean] at running
    · simp [failed] at running
  cleanEnd := by
    have same := delivered_append body body.handoff [.eof]
    simp only [ProxyConsumerItem.bytes, List.flatMap_cons, List.flatMap_nil, List.append_nil] at same
    rw [same]
    exact sound.cleanEnd
  failures := by simpa using sound.failures
  ended _ := ended
  failedLast := pairwise_snoc sound.failedLast fun _ => rfl

theorem Sound.deliverChunk (sound : Sound source body) {bytes : Bytes} {deadline : Nat}
    (running : body.handoff.terminal = .running) (full : body.handoff.slot = .full bytes deadline) :
    Sound source { body with
      handoff := { body.handoff with slot := .empty }
      received := body.received ++ [.chunk bytes] } := by
  have unhalted : ¬ Halted body.handoff := by
    intro halted
    have empty := sound.halted halted
    rw [full] at empty
    cases empty
  obtain ⟨rest, yields, placed⟩ := sound.accounted unhalted
  have bounded := sound.slotBounded
  rw [full] at yields placed bounded
  have unfailed := sound.failed_notMem (by simp [running])
  exact {
    inOrder := by
      refine ⟨_, rest, yields, body.producer.bytes, ?_⟩
      simp [ProxyConsumerItem.bytes, ProxyHandoffSlot.bytes]
    bounded := by
      intro chunk member
      rcases List.mem_append.mp member with earlier | last
      · exact sound.bounded chunk earlier
      · cases List.mem_singleton.mp last
        exact bounded
    slotBounded := Nat.zero_le _
    halted := fun _ => rfl
    accounted := fun _ => by
      refine ⟨rest, ?_, ?_⟩
      · simpa [ProxyConsumerItem.bytes, ProxyHandoffSlot.bytes] using yields
      -- Only a producer that waits for this chunk can be behind a full slot.
      · cases place : body.producer with
        | reserving cutting => simp [place, Placed] at placed
        | reading deadline => simp [place, Placed] at placed
        | publishing bytes offset => simp [place, Placed] at placed
        | waiting bytes stop deadline =>
          rw [place] at placed
          exact ⟨by simp, placed.2⟩
        | cleaning =>
          rw [place] at placed
          exact ⟨rfl, placed.2⟩
        | finished => simp [place, Placed] at placed
    cleanEnd := by simp [running]
    failures := by simp [running, List.count_eq_zero.mpr unfailed]
    ended := fun seen => by
      have earlier : ProxyConsumerItem.eof ∈ body.received := by simpa using seen
      exact sound.ended earlier
    failedLast := pairwise_snoc sound.failedLast fun failed => absurd failed unfailed }

theorem Sound.offer (sound : Sound source body) :
    Sound source { body with
      handoff := body.handoff.offer.1
      received := body.received ++ body.handoff.offer.2.toList } := by
  unfold ProxyHandoff.offer
  split
  next pending => exact sound.deliverFailure pending
  next delivered => exact sound.deliverEnd (.inr delivered)
  next clean => exact sound.deliverEnd (.inl clean)
  next running =>
    split
    next bytes deadline full => exact sound.deliverChunk running full
    next => simpa using sound

theorem Sound.failIf (sound : Sound source body) (condition : Bool) :
    Sound source { body with
      handoff := if condition then body.handoff.failLocked else body.handoff } := by
  cases condition with
  | true => exact sound.failLocked _ _
  | false => exact sound

theorem Sound.takeItem (sound : Sound source body) (now : Nat) :
    Sound source (body.takeItem now) :=
  ((sound.failIf body.handoff.cancelled).failIf _).offer

theorem stepProducer_sound (sound : Sound source body) {action : ProxyBodyAction} {next : ProxyBody}
    (taken : body.stepProducer action = some next) : Sound source next := by
  have failed : Sound source body.failProducer := sound.failLocked _ _
  have guarded {condition : Prop} [Decidable condition]
      (taken : (if condition then some body.failProducer else none) = some next) :
      Sound source next := by
    split at taken
    · cases taken
      exact failed
    · cases taken
  unfold stepProducer at taken
  split at taken
  next cutting place =>
    unfold stepReserving at taken
    split at taken
    next now =>
      cases taken
      exact sound.reserve place now
    next => exact guarded taken
    next => exact guarded taken
    next => cases taken
  next deadline place =>
    unfold stepReading at taken
    split at taken
    next => exact guarded taken
    next =>
      split at taken
      next closed =>
        cases taken
        exact sound.stop (.inl closed) _ _
      next => cases taken
    next => exact guarded taken
    next => exact guarded taken
    next =>
      cases taken
      exact sound.readNext place
    next => cases taken
  next bytes offset place =>
    split at taken
    next started now =>
      cases taken
      exact sound.publishChunk place started now
    next => cases taken
  next bytes stop deadline place =>
    unfold stepWaiting at taken
    split at taken
    next =>
      cases taken
      exact sound.waitUntilConsumed place
    next => exact guarded taken
    next =>
      split at taken
      next =>
        cases taken
        exact sound.waitExpired place
      next => cases taken
    next => cases taken
  next place =>
    split at taken
    next =>
      cases taken
      exact sound.clean place
    next => cases taken
  next => cases taken

theorem step_sound (body : ProxyBody) (action : ProxyBodyAction) (next : ProxyBody)
    (sound : Sound source body) (taken : body.step action = some next) : Sound source next := by
  unfold step at taken
  split at taken
  next =>
    cases taken
    exact sound.cancel
  next now =>
    cases taken
    exact sound.takeItem now
  next =>
    split at taken
    next =>
      cases taken
      exact sound.failLocked _ _
    next => cases taken
  next =>
    cases taken
    exact sound.closeConsumer
  next =>
    split at taken
    next => cases taken
    next =>
      cases taken
      exact sound.failLocked _ _
  next => exact stepProducer_sound sound taken

theorem always_deliveredFaithfully (source : ProxyBodySource) (fixedDeliveryDeadline : Option Nat)
    (actions : List ProxyBodyAction) :
    Always (DeliveredFaithfully source) step (new source fixedDeliveryDeadline) actions := by
  have sound : Always (Sound source) step (new source fixedDeliveryDeadline) actions :=
    always_of_preserved step_sound actions (new_sound source fixedDeliveryDeadline)
  exact sound.mono fun _ sound => sound.deliveredFaithfully

end ProxyBody

end StreamServer.Proxy
