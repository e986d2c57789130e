import StreamServer.Shared.ByteText
import StreamServer.Shared.Checked

set_option autoImplicit false

namespace StreamServer.Archives

open ByteText

section ReadBuf

structure ReadBuf where
  memory : Bytes
  filledLen : Nat
  inside : filledLen ≤ memory.length

namespace ReadBuf

def filled (buf : ReadBuf) : Bytes := buf.memory.take buf.filledLen

def remaining (buf : ReadBuf) : Nat := buf.memory.length - buf.filledLen

def take (buf : ReadBuf) (limit : Nat) : ReadBuf where
  memory := (buf.memory.drop buf.filledLen).take limit
  filledLen := 0
  inside := Nat.zero_le _

def putSlice (buf : ReadBuf) (data : Bytes) : ReadBuf where
  memory := buf.filled ++ data ++ buf.memory.drop (buf.filledLen + data.length)
  filledLen := buf.filledLen + data.length
  inside := by
    have inside := buf.inside
    simp only [filled, List.length_append, List.length_take, List.length_drop]
    omega

-- The buffer after a cursor taken from it has been written: the memory is shared, the filled
-- length is not.
def afterSub (buf sub : ReadBuf) : ReadBuf where
  memory := buf.filled ++ sub.memory ++ buf.memory.drop (buf.filledLen + sub.memory.length)
  filledLen := buf.filledLen
  inside := by
    have inside := buf.inside
    simp only [filled, List.length_append, List.length_take]
    omega

theorem filled_afterSub (buf sub : ReadBuf) : (buf.afterSub sub).filled = buf.filled := by
  have length : buf.filled.length = buf.filledLen := by
    simpa [filled] using buf.inside
  show ((buf.filled ++ sub.memory) ++ _).take buf.filledLen = buf.filled
  rw [List.append_assoc, ← length, List.take_left]

end ReadBuf

end ReadBuf

section File

structure File where
  content : Bytes
  cursor : Nat
deriving DecidableEq, Repr

-- What the operating system answers to a read of a file: nothing yet, an error, or how many more
-- bytes than one it is ready to copy.
inductive FilePoll where
  | pending
  | failed
  | ready (further : Nat)
deriving DecidableEq, Repr

inductive Poll where
  | pending
  | failed
  | ready
deriving DecidableEq, Repr

namespace File

def readable (file : File) (room further : Nat) : Bytes :=
  (file.content.drop file.cursor).take (min (further + 1) room)

def pollRead (file : File) (answer : FilePoll) (buf : ReadBuf) : Poll × File × ReadBuf :=
  match answer with
  | .pending => (.pending, file, buf)
  | .failed => (.failed, file, buf)
  | .ready further =>
      let data := file.readable buf.remaining further
      (.ready, { file with cursor := file.cursor + data.length }, buf.putSlice data)

end File

inductive SeekFrom where
  | start (position : Nat)
  | fromEnd (position : Int)
  | current (position : Int)
deriving DecidableEq, Repr

-- Sums wrap as in the release profile; an absolute target past the range of the file offset is
-- refused by the operating system.
def File.seekTo (file : File) (target : Nat) : Option File :=
  if target < 2 ^ 63 then some { file with cursor := target } else none

def seekEnd (size : Nat) (position : Int) : Nat :=
  if position < 0 then size - position.natAbs else (size + position.natAbs) % u64Limit

def seekCurrent (pos : Nat) (position : Int) : Option Nat :=
  let moved := (MachineInt.asI64 pos + position).bmod (2 ^ 64)
  if moved < 0 then none else some (MachineInt.asU64 moved)

end File

section RawFileSlice

structure AsyncRawFileSlice where
  file : File
  offset : Nat
  size : Nat
  pos : Nat
deriving DecidableEq, Repr

namespace AsyncRawFileSlice

def new (content : Bytes) (offset size : Nat) : AsyncRawFileSlice :=
  ⟨⟨content, offset⟩, offset, size, 0⟩

def entry (slice : AsyncRawFileSlice) : Bytes :=
  (slice.file.content.drop slice.offset).take slice.size

def pollRead (slice : AsyncRawFileSlice) (answer : FilePoll) (buf : ReadBuf) :
    Poll × AsyncRawFileSlice × ReadBuf :=
  if slice.size ≤ slice.pos then (.ready, slice, buf)
  else
    let want := min buf.remaining (slice.size - slice.pos)
    if want = 0 then (.ready, slice, buf)
    else
      let subBuf := buf.take want
      let startFilled := subBuf.filled.length
      match slice.file.pollRead answer subBuf with
      | (.ready, file, filledBuf) =>
          let n := filledBuf.filled.length - startFilled
          (.ready, { slice with file := file, pos := slice.pos + n }, buf.afterSub filledBuf)
      | (other, file, filledBuf) => (other, { slice with file := file }, buf.afterSub filledBuf)

-- `start_seek` and the `poll_complete` that ends it; a failed seek leaves the reader as it was.
def seek (slice : AsyncRawFileSlice) (position : SeekFrom) : Option AsyncRawFileSlice := do
  let newPos ← match position with
    | .start p => some p
    | .fromEnd p => some (seekEnd slice.size p)
    | .current p => seekCurrent slice.pos p
  let file ← slice.file.seekTo ((slice.offset + newPos) % u64Limit)
  some { slice with
    file := file
    pos := if file.cursor < slice.offset then 0 else file.cursor - slice.offset }

end AsyncRawFileSlice

end RawFileSlice

section Calls

structure ReadyRead where
  entry : Bytes
  atEnd : Bool
  before : Nat
  after : Nat
  given : ReadBuf
  returned : ReadBuf

namespace ReadyRead

def Delivers (call : ReadyRead) : Prop :=
  ∃ added, call.returned.filled = call.given.filled ++ added ∧
    added = (call.entry.drop call.before).take added.length ∧
    call.after = call.before + added.length ∧
    (added = [] → 0 < call.given.remaining → call.atEnd = true)

def NothingToRead (call : ReadyRead) : Prop :=
  call.given.remaining = 0 ∨ call.atEnd = true

theorem delivers_iff {call : ReadyRead} (unseen : call.returned.filled = call.given.filled)
    (still : call.NothingToRead → call.after = call.before) :
    call.Delivers ↔ call.NothingToRead := by
  constructor
  · rintro ⟨added, seen, _, _, atEnd⟩
    have none : added = [] := by
      rw [unseen] at seen
      exact List.append_cancel_left (seen.symm.trans (List.append_nil _).symm)
    by_cases room : call.given.remaining = 0
    · exact .inl room
    · exact .inr (atEnd none (Nat.pos_of_ne_zero room))
  · intro nothing
    refine ⟨[], by simp [unseen], by simp, by simp [still nothing], ?_⟩
    intro _ room
    obtain noRoom | atEnd := nothing
    · omega
    · exact atEnd

end ReadyRead

end Calls

section SliceRuns

structure SliceState where
  slice : AsyncRawFileSlice
  ready : Option ReadyRead

inductive SliceAction where
  | read (answer : FilePoll) (buf : ReadBuf)
  | seek (position : SeekFrom)
  | seekFailed

def SliceState.step (state : SliceState) : SliceAction → Option SliceState
  | .read answer buf =>
      match state.slice.pollRead answer buf with
      | (.ready, slice, returned) =>
          some ⟨slice, some ⟨state.slice.entry, decide (state.slice.size ≤ state.slice.pos),
            state.slice.pos, slice.pos, buf, returned⟩⟩
      | (_, slice, _) => some ⟨slice, none⟩
  | .seek position => some ⟨(state.slice.seek position).getD state.slice, none⟩
  | .seekFailed => some ⟨state.slice, none⟩

theorem AsyncRawFileSlice.pollRead_ready {slice next : AsyncRawFileSlice} {answer : FilePoll}
    {buf returned : ReadBuf} (polled : slice.pollRead answer buf = (.ready, next, returned)) :
    returned.filled = buf.filled ∧
      (buf.remaining = 0 ∨ slice.size ≤ slice.pos → next.pos = slice.pos) := by
  unfold pollRead at polled
  split at polled
  next =>
    cases polled
    exact ⟨rfl, fun _ => rfl⟩
  next before =>
    simp only at polled
    split at polled
    next =>
      cases polled
      exact ⟨rfl, fun _ => rfl⟩
    next wanted =>
      split at polled
      next =>
        cases polled
        refine ⟨buf.filled_afterSub _, ?_⟩
        intro nothing
        omega
      next =>
        cases polled
        exact ⟨buf.filled_afterSub _, fun _ => rfl⟩

def SliceState.ReadsExactly (state : SliceState) : Prop :=
  ∀ call ∈ state.ready, call.Delivers ↔ call.NothingToRead

theorem SliceState.step_readsExactly {state next : SliceState} {action : SliceAction}
    (taken : state.step action = some next) : next.ReadsExactly := by
  intro call returned
  cases action with
  | read answer buf =>
    simp only [step] at taken
    split at taken
    next slice buffer polled =>
      cases taken
      cases returned
      obtain ⟨unseen, still⟩ := AsyncRawFileSlice.pollRead_ready polled
      refine ReadyRead.delivers_iff unseen ?_
      intro nothing
      exact still (nothing.imp_right of_decide_eq_true)
    next =>
      cases taken
      cases returned
  | seek position =>
    cases taken
    cases returned
  | seekFailed =>
    cases taken
    cases returned

end SliceRuns

end StreamServer.Archives
