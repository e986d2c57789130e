import StreamServer.Archives.FileReader
import StreamServer.Shared.Runs

set_option autoImplicit false

namespace StreamServer.Archives

open ByteText

structure StateSnapshot where
  writtenBytes : Nat
  isComplete : Bool
  error : Option String
deriving DecidableEq, Repr

inductive Change where
  | bytes (count : Nat)
  | complete
  | failed (error : String)
deriving DecidableEq, Repr

def StateSnapshot.modify (state : StateSnapshot) : Change → StateSnapshot
  | .bytes count => { state with writtenBytes := state.writtenBytes + count }
  | .complete => { state with isComplete := true }
  | .failed error => { state with error := some error, isComplete := true }

/-- Between its file operation, `send_modify` and `notify_waiters` a writer can be overtaken. -/
inductive WriterPhase where
  | idle
  | changing (change : Change)
  | notifying
deriving DecidableEq, Repr

-- The `CacheWriter` hands its bytes to a background write; a `SyncCacheWriter` writes them itself.
-- Each has a cursor of its own in the file.
structure Writer where
  sync : Bool
  cursor : Nat
  buffered : Bytes
  phase : WriterPhase
deriving DecidableEq, Repr

inductive ReaderPhase where
  | idle
  | checking (snapshot : StateSnapshot) (buf : ReadBuf)
  | lacking (snapshot : StateSnapshot) (buf : ReadBuf)
  | created (snapshot : StateSnapshot) (buf : ReadBuf) (notified : Bool)
  | registered (snapshot : StateSnapshot) (woken : Bool)
  -- `Pending` for lack of data: the future has been dropped.
  | parked (snapshot : StateSnapshot) (woken : Bool)
  -- `Pending` of the file itself, which wakes the task when it is done.
  | filePending

structure ProgressiveReader where
  cursor : Nat
  pos : Nat
  totalSize : Option Nat
  phase : ReaderPhase
  ready : Option ReadyRead

structure ProgressiveCache where
  state : StateSnapshot
  disk : Bytes
  writers : List Writer
  reader : ProgressiveReader

def overwrite (disk : Bytes) (cursor : Nat) (data : Bytes) : Bytes :=
  (disk ++ List.replicate (cursor - disk.length) 0).take cursor ++ data ++
    disk.drop (cursor + data.length)

-- `notify_waiters` reaches the futures that exist: one that has not been polled becomes ready, the
-- task of one that has been polled is woken.
def ReaderPhase.notified : ReaderPhase → ReaderPhase
  | .created snapshot buf _ => .created snapshot buf true
  | .registered snapshot _ => .registered snapshot true
  | other => other

def Writer.write (writer : Writer) (disk data : Bytes) : Bytes × Writer :=
  let phase := if data = [] then .idle else .changing (.bytes data.length)
  if writer.sync then
    (overwrite disk writer.cursor data,
      { writer with cursor := writer.cursor + data.length, phase := phase })
  else (disk, { writer with buffered := writer.buffered ++ data, phase := phase })

def ProgressiveReader.seek (reader : ProgressiveReader) (position : SeekFrom) :
    Option ProgressiveReader := do
  let target ← match position with
    | .start p => some p
    | .fromEnd p => reader.totalSize.map fun total => seekEnd total p
    | .current p => seekCurrent reader.pos p
  let file ← (File.mk [] reader.cursor).seekTo target
  some { reader with cursor := file.cursor, pos := file.cursor }

namespace ProgressiveCache

def new (totalSize : Option Nat) : ProgressiveCache where
  state := ⟨0, false, none⟩
  disk := []
  writers := [⟨false, 0, [], .idle⟩]
  reader := ⟨0, 0, totalSize, .idle, none⟩

def entry (cache : ProgressiveCache) : Bytes :=
  cache.writers.foldl (fun disk writer => overwrite disk writer.cursor writer.buffered) cache.disk

def setWriter (cache : ProgressiveCache) (index : Nat) (writer : Writer) : ProgressiveCache :=
  { cache with writers := cache.writers.set index writer }

def setReader (cache : ProgressiveCache) (reader : ProgressiveReader) : ProgressiveCache :=
  { cache with reader := reader }

def returnReady (cache : ProgressiveCache) (snapshot : StateSnapshot) (given returned : ReadBuf)
    (cursor pos : Nat) : ProgressiveReader :=
  { cache.reader with
    cursor := cursor
    pos := pos
    phase := .idle
    ready := some ⟨cache.entry,
      snapshot.isComplete && decide (snapshot.writtenBytes ≤ cache.reader.pos),
      cache.reader.pos, pos, given, returned⟩ }

def readAvailable (cache : ProgressiveCache) (snapshot : StateSnapshot) (buf : ReadBuf)
    (answer : FilePoll) : ProgressiveReader :=
  let reader := cache.reader
  -- No data, or the read returned nothing although there is data.
  let fallThrough (returned : ReadBuf) : ProgressiveReader :=
    if snapshot.isComplete then cache.returnReady snapshot buf returned reader.cursor reader.pos
    else { reader with phase := .lacking snapshot returned }
  if reader.pos < snapshot.writtenBytes then
    let available := snapshot.writtenBytes - reader.pos
    let needed := min buf.remaining available
    if needed = 0 ∧ buf.remaining = 0 then
      cache.returnReady snapshot buf buf reader.cursor reader.pos
    else
      let subBuf := buf.take needed
      let startFilled := subBuf.filled.length
      match (File.mk cache.disk reader.cursor).pollRead answer subBuf with
      | (.ready, file, filledBuf) =>
          let bytesRead := filledBuf.filled.length - startFilled
          if bytesRead = 0 ∧ 0 < needed then fallThrough (buf.afterSub filledBuf)
          else cache.returnReady snapshot buf (buf.afterSub filledBuf) file.cursor
            (reader.pos + bytesRead)
      | (.failed, _, _) => { reader with phase := .idle }
      | (.pending, _, _) => { reader with phase := .filePending }
  else fallThrough buf

inductive Action where
  -- `try_clone_sync`.
  | cloneSync
  -- The file accepted these bytes; `finish` and `set_error` have no file operation.
  | write (writer : Nat) (data : Bytes)
  | finish (writer : Nat)
  | setError (writer : Nat) (error : String)
  | sendModify (writer : Nat)
  | notifyWaiters (writer : Nat)
  -- The background write of the `CacheWriter` reaches the disk.
  | flushed (writer : Nat)
  -- The executor polls the reader: the snapshot.
  | poll (buf : ReadBuf)
  | read (answer : FilePoll)
  | createNotified
  | pollNotified
  | returnPending
  | seek (position : SeekFrom)
  | seekFailed

def step (cache : ProgressiveCache) : Action → Option ProgressiveCache
  | .cloneSync => some { cache with writers := cache.writers ++ [⟨true, 0, [], .idle⟩] }
  | .write index data => do
      let writer ← cache.writers[index]?
      guard (writer.phase = .idle)
      let (disk, writer) := writer.write cache.disk data
      some { cache with disk := disk, writers := cache.writers.set index writer }
  | .finish index => do
      let writer ← cache.writers[index]?
      guard (writer.phase = .idle)
      some (cache.setWriter index { writer with phase := .changing .complete })
  | .setError index error => do
      let writer ← cache.writers[index]?
      guard (writer.phase = .idle)
      some (cache.setWriter index { writer with phase := .changing (.failed error) })
  | .sendModify index => do
      let writer ← cache.writers[index]?
      match writer.phase with
      | .changing change =>
          some { cache.setWriter index { writer with phase := .notifying } with
            state := cache.state.modify change }
      | _ => none
  | .notifyWaiters index => do
      let writer ← cache.writers[index]?
      guard (writer.phase = .notifying)
      some { cache.setWriter index { writer with phase := .idle } with
        reader := { cache.reader with phase := cache.reader.phase.notified } }
  | .flushed index => do
      let writer ← cache.writers[index]?
      some { cache.setWriter index { writer with
          cursor := writer.cursor + writer.buffered.length, buffered := [] } with
        disk := overwrite cache.disk writer.cursor writer.buffered }
  | .poll buf =>
      match cache.reader.phase with
      | .idle | .parked _ _ | .filePending =>
          match cache.state.error with
          | some _ => some (cache.setReader { cache.reader with phase := .idle, ready := none })
          | none => some (cache.setReader
              { cache.reader with phase := .checking cache.state buf, ready := none })
      | _ => none
  | .read answer =>
      match cache.reader.phase with
      | .checking snapshot buf =>
          some (cache.setReader (cache.readAvailable snapshot buf answer))
      | _ => none
  | .createNotified =>
      match cache.reader.phase with
      | .lacking snapshot buf =>
          some (cache.setReader { cache.reader with phase := .created snapshot buf false })
      | _ => none
  | .pollNotified =>
      match cache.reader.phase with
      -- A notified future is ready: the loop starts over with a new snapshot.
      | .created _ buf true =>
          match cache.state.error with
          | some _ => some (cache.setReader { cache.reader with phase := .idle })
          | none => some (cache.setReader { cache.reader with phase := .checking cache.state buf })
      | .created snapshot _ false =>
          some (cache.setReader { cache.reader with phase := .registered snapshot false })
      | _ => none
  | .returnPending =>
      match cache.reader.phase with
      | .registered snapshot woken =>
          some (cache.setReader { cache.reader with phase := .parked snapshot woken })
      | _ => none
  | .seek position =>
      match cache.reader.phase with
      | .idle | .parked _ _ | .filePending =>
          some (cache.setReader
            { (cache.reader.seek position).getD cache.reader with phase := .idle, ready := none })
      | _ => none
  | .seekFailed =>
      match cache.reader.phase with
      | .idle | .parked _ _ | .filePending =>
          some (cache.setReader { cache.reader with phase := .idle, ready := none })
      | _ => none

end ProgressiveCache

namespace ProgressiveCache

def ReadsExactly (cache : ProgressiveCache) : Prop :=
  ∀ call ∈ cache.reader.ready, call.Delivers ↔ call.NothingToRead

theorem returnReady_exact {cache : ProgressiveCache} {snapshot : StateSnapshot}
    {given returned : ReadBuf} {cursor pos : Nat} (unseen : returned.filled = given.filled)
    (still : given.remaining = 0 ∨ (snapshot.isComplete = true ∧
      snapshot.writtenBytes ≤ cache.reader.pos) → pos = cache.reader.pos) :
    ∀ call ∈ (cache.returnReady snapshot given returned cursor pos).ready,
      call.Delivers ↔ call.NothingToRead := by
  intro call isCall
  cases isCall
  refine ReadyRead.delivers_iff unseen ?_
  rintro (noRoom | atEnd)
  · exact still (.inl noRoom)
  · exact still (.inr (by simpa using atEnd))

theorem readAvailable_exact {cache : ProgressiveCache} (before : cache.ReadsExactly)
    (snapshot : StateSnapshot) (buf : ReadBuf) (answer : FilePoll) :
    ∀ call ∈ (cache.readAvailable snapshot buf answer).ready,
      call.Delivers ↔ call.NothingToRead := by
  unfold readAvailable
  simp only
  split
  next available =>
    split
    next => exact returnReady_exact rfl fun _ => rfl
    next wanted =>
      split
      next =>
        split
        next =>
          split
          next => exact returnReady_exact (buf.filled_afterSub _) fun _ => rfl
          next => exact before
        next =>
          refine returnReady_exact (buf.filled_afterSub _) ?_
          rintro (noRoom | ⟨_, atEnd⟩)
          · exact absurd ⟨by omega, noRoom⟩ wanted
          · omega
      next => exact before
      next => exact before
  next =>
    split
    next => exact returnReady_exact rfl fun _ => rfl
    next => exact before

theorem step_readsExactly {cache next : ProgressiveCache} {action : Action}
    (before : cache.ReadsExactly) (taken : cache.step action = some next) : next.ReadsExactly := by
  cases action with
  | cloneSync =>
    cases taken
    exact before
  | write index data =>
    obtain ⟨writer, _, taken⟩ := Option.bind_eq_some_iff.mp taken
    obtain ⟨_, _, taken⟩ := Option.bind_eq_some_iff.mp taken
    cases taken
    exact before
  | finish index =>
    obtain ⟨writer, _, taken⟩ := Option.bind_eq_some_iff.mp taken
    obtain ⟨_, _, taken⟩ := Option.bind_eq_some_iff.mp taken
    cases taken
    exact before
  | setError index error =>
    obtain ⟨writer, _, taken⟩ := Option.bind_eq_some_iff.mp taken
    obtain ⟨_, _, taken⟩ := Option.bind_eq_some_iff.mp taken
    cases taken
    exact before
  | sendModify index =>
    obtain ⟨writer, _, taken⟩ := Option.bind_eq_some_iff.mp taken
    split at taken
    next =>
      cases taken
      exact before
    next => cases taken
  | notifyWaiters index =>
    obtain ⟨writer, _, taken⟩ := Option.bind_eq_some_iff.mp taken
    obtain ⟨_, _, taken⟩ := Option.bind_eq_some_iff.mp taken
    cases taken
    exact before
  | flushed index =>
    obtain ⟨writer, _, taken⟩ := Option.bind_eq_some_iff.mp taken
    cases taken
    exact before
  | poll buf =>
    simp only [step] at taken
    split at taken
    all_goals first
      | (split at taken <;> (cases taken; intro call isCall; cases isCall))
      | cases taken
  | read answer =>
    simp only [step] at taken
    split at taken
    next snapshot buf _ =>
      cases taken
      exact readAvailable_exact before snapshot buf answer
    next => cases taken
  | createNotified =>
    simp only [step] at taken
    split at taken
    next =>
      cases taken
      exact before
    next => cases taken
  | pollNotified =>
    simp only [step] at taken
    split at taken
    next => split at taken <;> (cases taken; exact before)
    next =>
      cases taken
      exact before
    next => cases taken
  | returnPending =>
    simp only [step] at taken
    split at taken
    next =>
      cases taken
      exact before
    next => cases taken
  | seek position =>
    simp only [step] at taken
    split at taken
    all_goals first
      | (cases taken; intro call isCall; cases isCall)
      | cases taken
  | seekFailed =>
    simp only [step] at taken
    split at taken
    all_goals first
      | (cases taken; intro call isCall; cases isCall)
      | cases taken

end ProgressiveCache

theorem always_readsExactly (content : List UInt8) (offset size : Nat) (totalSize : Option Nat)
    (reads : List SliceAction) (actions : List ProgressiveCache.Action) :
    Runs.Always SliceState.ReadsExactly SliceState.step ⟨.new content offset size, none⟩ reads ∧
      Runs.Always ProgressiveCache.ReadsExactly ProgressiveCache.step (.new totalSize) actions := by
  constructor
  · refine Runs.always_of_preserved ?_ reads ?_
    · intro state action next _ taken
      exact SliceState.step_readsExactly taken
    · intro call isCall
      cases isCall
  · refine Runs.always_of_preserved ?_ actions ?_
    · intro cache action next before taken
      exact ProgressiveCache.step_readsExactly before taken
    · intro call isCall
      cases isCall

def roomForTwo : ReadBuf := ⟨[0, 0], 0, by decide⟩

-- Two bytes are read from the file and the position moves on, but the caller sees none of them.
theorem read_bytes_are_not_delivered :
    (∃ state call, Runs.run SliceState.step ⟨.new [1, 2, 3, 4] 1 3, none⟩
        [.read (.ready 7) roomForTwo] = some state ∧ state.ready = some call ∧
      call.after = 2 ∧ call.returned.filled = [] ∧ call.returned.memory = [2, 3] ∧ ¬ call.Delivers) ∧
    (∃ cache call, Runs.run ProgressiveCache.step (.new (some 3))
        [.write 0 [1, 2, 3], .sendModify 0, .notifyWaiters 0, .flushed 0, .poll roomForTwo,
          .read (.ready 7)] = some cache ∧ cache.reader.ready = some call ∧
      call.after = 2 ∧ call.returned.filled = [] ∧ call.returned.memory = [1, 2] ∧
      ¬ call.Delivers) := by
  refine ⟨⟨_, _, rfl, rfl, rfl, rfl, rfl, ?_⟩, ⟨_, _, rfl, rfl, rfl, rfl, rfl, ?_⟩⟩
  · rintro ⟨added, seen, _, moved, _⟩
    cases added with
    | nil => cases moved
    | cons byte rest => cases seen
  · rintro ⟨added, seen, _, moved, _⟩
    cases added with
    | nil => cases moved
    | cons byte rest => cases seen

end StreamServer.Archives
