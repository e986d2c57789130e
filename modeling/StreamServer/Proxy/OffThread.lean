import StreamServer.Proxy.PlaylistGuarantees
import StreamServer.Shared.Runs

set_option autoImplicit false

namespace StreamServer.Proxy

open ByteText Loops PlaylistWriter Results

section Interruption

def Cut {A : Type} (cancelled : Nat → Bool) (result plain : Except ProxyError A) : Prop :=
  result = plain ∨ result = .error .cancelled ∧ ∃ look, cancelled look = true

variable {A B S : Type} {cancelled : Nat → Bool}

theorem Cut.refl (result : Except ProxyError A) : Cut cancelled result result := .inl rfl

theorem Cut.bind {result plain : Except ProxyError A} {next nextPlain : A → Except ProxyError B}
    (first : Cut cancelled result plain)
    (rest : ∀ value, Cut cancelled (next value) (nextPlain value)) :
    Cut cancelled (result >>= next) (plain >>= nextPlain) := by
  obtain rfl | ⟨rfl, stopped⟩ := first
  · cases result with
    | error error => exact .refl _
    | ok value => exact rest value
  · exact .inr ⟨rfl, stopped⟩

theorem Cut.run {loop plain : Loop ProxyError S A}
    (turns : ∀ state, Cut cancelled (loop.turn state) (plain.turn state)) (state : S) :
    Cut cancelled (loop.run state) (plain.run state) := by
  refine Loop.run_induction loop (motive := fun state ran => Cut cancelled ran (plain.run state))
    ?_ ?_ ?_ state
  · intro state error taken
    obtain same | ⟨cut, stopped⟩ := turns state
    · rw [Loop.run_error (same.symm.trans taken)]
      exact .refl _
    · cases taken.symm.trans cut
      exact .inr ⟨rfl, stopped⟩
  · intro state result taken
    obtain same | ⟨cut, -⟩ := turns state
    · rw [Loop.run_done (same.symm.trans taken)]
      exact .refl _
    · cases taken.symm.trans cut
  · intro state next taken ih
    obtain same | ⟨cut, -⟩ := turns state
    · rw [Loop.run_again (same.symm.trans taken)]
      exact ih
    · cases taken.symm.trans cut

variable {crate : UrlCrate} (context : PlaylistContext crate)

def PlaylistContext.undisturbed : PlaylistContext crate :=
  { context with cancelled := fun _ => false }

theorem cut_check (writer : PlaylistWriter) :
    Cut cancelled (writer.check cancelled) (writer.check fun _ => false) := by
  unfold check
  cases stopped : cancelled writer.checks with
  | false => exact .refl _
  | true => exact .inr ⟨rfl, _, stopped⟩

theorem cut_reference (reference : Bytes) (writer : PlaylistWriter) :
    Cut context.cancelled (rewritePlaylistReference context reference writer)
      (rewritePlaylistReference context.undisturbed reference writer) :=
  (cut_check writer).bind fun _ => .refl _

theorem cut_tagTurn (line : Bytes) (scan : TagScan) :
    Cut context.cancelled (tagTurn context line scan) (tagTurn context.undisturbed line scan) := by
  unfold tagTurn
  split
  next => exact .refl _
  next =>
    simp only
    split
    next =>
      split
      next => exact .refl _
      next =>
        exact (Cut.refl _).bind fun writer => (cut_reference context _ writer).bind fun _ => .refl _
    next => exact .refl _

theorem cut_line (line : Bytes) (writer : PlaylistWriter) :
    Cut context.cancelled (rewriteLine context line writer)
      (rewriteLine context.undisturbed line writer) := by
  unfold rewriteLine
  split
  next =>
    unfold rewritePlaylistTag
    split
    next => exact .refl _
    next => exact (Cut.run (cut_tagTurn context line) _).bind fun _ => .refl _
  next =>
    split
    next => exact .refl _
    next => exact cut_reference context line writer

theorem cut_rewritePlaylist (body : Bytes) :
    Cut context.cancelled (rewritePlaylist context body) (rewritePlaylist context.undisturbed body) := by
  have turns (scan : LineScan) :
      Cut context.cancelled (lineTurn context body scan) (lineTurn context.undisturbed body scan) := by
    unfold lineTurn
    split
    next => exact .refl _
    next =>
      exact (cut_check scan.writer).bind fun writer => (cut_line context _ writer).bind fun _ => .refl _
  exact (Cut.run turns _).bind fun _ => .refl _

end Interruption

section Jobs

variable {crate : UrlCrate} {C P : Type}

structure PlaylistRewriteJob (crate : UrlCrate) (C P : Type) where
  input : Bytes
  baseUrl : crate.Url
  requestHeaders : HeaderMap
  responseHeaders : HeaderMap
  context : C
  playlistCapacity : P

structure PlaylistRewriteOutput (C P : Type) where
  body : Bytes
  context : C
  playlistCapacity : P
deriving DecidableEq

abbrev Rewritten (C P : Type) := Except ProxyError (PlaylistRewriteOutput C P)

-- What a job finds when it looks at its two cancellation tokens: the first look that finds one of
-- them cancelled, if there is one before the last look, and what the last look finds.
structure Looks where
  first : Option Nat
  last : Bool

namespace Looks

def cancelled (looks : Looks) (look : Nat) : Bool := looks.first.any fun first => first ≤ look

/-- Tokens stay cancelled, from before the job is claimed until after it is finished. -/
def fits (looks : Looks) (before after : Bool) : Bool :=
  (!before || looks.first == some 0) && (looks.first.isNone || looks.last) && (!looks.last || after)

end Looks

namespace PlaylistRewriteJob

variable (job : PlaylistRewriteJob crate C P)

def playlist (looks : Looks) : PlaylistContext crate :=
  ⟨job.baseUrl, job.requestHeaders, job.responseHeaders, fun look => looks.cancelled (look + 1)⟩

def run (looks : Looks) : Except ProxyError (PlaylistRewriteOutput C P) :=
  if looks.cancelled 0 then .error .cancelled
  else if ¬IsUtf8 job.input then .error .upstream
  else do
    let body ← rewritePlaylist (job.playlist looks) job.input
    if looks.last then .error .cancelled else .ok ⟨body, job.context, job.playlistCapacity⟩

def outcome : Rewritten C P := job.run ⟨none, false⟩

def held : C × P := (job.context, job.playlistCapacity)

end PlaylistRewriteJob

inductive Worker (crate : UrlCrate) (C P : Type) where
  | queued
  -- `cancelled` says whether a token was when the job was taken out of the slot.
  | running (job : PlaylistRewriteJob crate C P) (cancelled : Bool)
  | finished (result : Rewritten C P)
  | notifying
  | ended (failed : Bool)

inductive Caller (C P : Type) where
  | looping
  -- `notified` is enabled, and the slot has not been looked at yet.
  | listening (woken : Bool)
  | selecting (woken : Bool)
  | joining (result : Rewritten C P)
  -- The guard is dropped while it is armed, by an error or together with the request.
  | clearing (error : Option ProxyError)
  | cancelling (error : Option ProxyError)
  | gone (error : Option ProxyError)
  | returned (result : Rewritten C P)

def Caller.wake : Caller C P → Caller C P
  | .listening _ => .listening true
  | .selecting _ => .selecting true
  | caller => caller

structure PlaylistJobSlot (crate : UrlCrate) (C P : Type) where
  pending : Option (PlaylistRewriteJob crate C P)
  completed : Option (Rewritten C P)

structure OffThread (crate : UrlCrate) (C P : Type) where
  slot : PlaylistJobSlot crate C P
  worker : Worker crate C P
  caller : Caller C P
  policyCancelled : Bool
  requestCancelled : Bool

inductive OffThreadAction where
  | claim
  | finish (looks : Looks)
  | panics
  | store
  | notifies
  -- The worker never starts: it has been aborted, or the runtime is going down.
  | discard
  | listen
  | look
  | poll
  | dropCaller
  | clear
  | cancelRequest
  | cancelPolicy

namespace OffThread

variable (state : OffThread crate C P)

def spawned (job : PlaylistRewriteJob crate C P) (policyCancelled : Bool) : OffThread crate C P :=
  ⟨⟨some job, none⟩, .queued, .looping, policyCancelled, false⟩

def cancelled : Bool := state.policyCancelled || state.requestCancelled

def claim : OffThread crate C P :=
  match state.slot.pending with
  | some job => { state with
      slot := { state.slot with pending := none }, worker := .running job state.cancelled }
  | none => { state with worker := .notifying }

def look (woken : Bool) : OffThread crate C P :=
  match state.slot.completed with
  | some result => { state with
      slot := { state.slot with completed := none }, caller := .joining result }
  | none => { state with caller := .selecting woken }

def takeCompleted : OffThread crate C P :=
  match state.slot.completed with
  | some result => { state with
      slot := { state.slot with completed := none }, caller := .returned result }
  | none => { state with caller := .clearing (some .upstream) }

/-- The branches of the `select!` are biased. -/
def select (woken : Bool) : Option (OffThread crate C P) :=
  if state.policyCancelled then some { state with caller := .clearing (some .cancelled) }
  else
    match state.worker with
    | .ended true => some { state with caller := .clearing (some .upstream) }
    | .ended false => some state.takeCompleted
    | _ => if woken then some { state with caller := .looping } else none

def join (result : Rewritten C P) : Option (OffThread crate C P) :=
  match state.worker with
  | .ended true => some { state with caller := .clearing (some .upstream) }
  | .ended false => some { state with caller := .returned result }
  | _ => none

def stepWorker : OffThreadAction → Option (OffThread crate C P)
  | .claim =>
      match state.worker with
      | .queued => some state.claim
      | _ => none
  | .finish looks =>
      match state.worker with
      | .running job before =>
          if looks.fits before state.cancelled then
            some { state with worker := .finished (job.run looks) }
          else none
      | _ => none
  | .panics =>
      match state.worker with
      | .running _ _ => some { state with worker := .ended true }
      | _ => none
  | .store =>
      match state.worker with
      | .finished result => some { state with
          slot := { state.slot with completed := some result }, worker := .notifying }
      | _ => none
  | .notifies =>
      match state.worker with
      | .notifying => some { state with worker := .ended false, caller := Caller.wake state.caller }
      | _ => none
  | .discard =>
      match state.worker with
      | .queued => some { state with worker := .ended true }
      | _ => none
  | _ => none

def stepCaller : OffThreadAction → Option (OffThread crate C P)
  | .listen =>
      match state.caller with
      | .looping => some { state with caller := .listening false }
      | _ => none
  | .look =>
      match state.caller with
      | .listening woken => some (state.look woken)
      | _ => none
  | .poll =>
      match state.caller with
      | .selecting woken => state.select woken
      | .joining result => state.join result
      | _ => none
  | .dropCaller =>
      match state.caller with
      | .selecting _ | .joining _ => some { state with caller := .clearing none }
      | _ => none
  | .clear =>
      match state.caller with
      | .clearing error => some { state with slot := ⟨none, none⟩, caller := .cancelling error }
      | _ => none
  | .cancelRequest =>
      match state.caller with
      | .cancelling error => some { state with requestCancelled := true, caller := .gone error }
      | _ => none
  | _ => none

def step (state : OffThread crate C P) (action : OffThreadAction) : Option (OffThread crate C P) :=
  match action with
  | .cancelPolicy => some { state with policyCancelled := true }
  | .claim | .finish _ | .panics | .store | .notifies | .discard => state.stepWorker action
  | .listen | .look | .poll | .dropCaller | .clear | .cancelRequest => state.stepCaller action

end OffThread

end Jobs

section Answers

variable {crate : UrlCrate} {C P : Type}

def Caller.active : Caller C P → Bool
  | .looping | .listening _ | .selecting _ => true
  | _ => false

def Caller.took : Caller C P → Bool
  | .joining _ | .returned _ => true
  | _ => false

def heldBy : Rewritten C P → List (C × P)
  | .ok output => [(output.context, output.playlistCapacity)]
  | .error _ => []

def PlaylistJobSlot.held (slot : PlaylistJobSlot crate C P) : List (C × P) :=
  (slot.pending.elim [] fun job => [job.held]) ++ slot.completed.elim [] heldBy

def Worker.held : Worker crate C P → List (C × P)
  | .running job _ => [job.held]
  | .finished result => heldBy result
  | _ => []

def Caller.held : Caller C P → List (C × P)
  | .joining result | .returned result => heldBy result
  | _ => []

def Worker.isOver : Worker crate C P → Bool
  | .ended _ => true
  | _ => false

def Caller.isOver : Caller C P → Bool
  | .gone _ | .returned _ => true
  | _ => false

def OffThreadAction.own : OffThreadAction → Bool
  | .claim | .finish _ | .store | .notifies | .listen | .look | .poll | .clear | .cancelRequest => true
  | _ => false

namespace OffThread

variable (job : PlaylistRewriteJob crate C P) (state : OffThread crate C P)

def isOver : Bool := state.worker.isOver && state.caller.isOver

-- Everything there is of the request's context and playlist permit, wherever it is; the slot goes
-- with the last of its two owners.
def holders : List (C × P) :=
  (if state.isOver then [] else state.slot.held) ++ (state.worker.held ++ state.caller.held)

def Produced (stopped : Bool) (result : Rewritten C P) : Prop :=
  result = job.outcome ∨ result = .error .cancelled ∧ stopped = true

def WorkerSound : Prop :=
  match state.worker with
  | .queued => state.slot.completed = none ∧ state.caller.took = false ∧
      (∀ pending ∈ state.slot.pending, pending = job) ∧
        (state.caller.active = true → state.slot.pending = some job)
  | .running running before => state.slot = ⟨none, none⟩ ∧ state.caller.took = false ∧
      running = job ∧ (before = true → state.cancelled = true)
  | .finished result => state.slot = ⟨none, none⟩ ∧ state.caller.took = false ∧
      Produced job state.cancelled result
  | .notifying | .ended false => state.slot.pending = none ∧
      (∀ result ∈ state.slot.completed,
        state.caller.took = false ∧ Produced job state.cancelled result) ∧
          (state.caller.active = true → state.slot.completed ≠ none)
  | .ended true => state.slot.completed = none ∧ state.caller.took = false ∧
      ∀ pending ∈ state.slot.pending, pending = job

/-- Why the caller may give up with an error. -/
def Excuse (error : ProxyError) : Prop :=
  error = .cancelled ∧ state.policyCancelled = true ∨
    error = .upstream ∧ state.worker = .ended true

def CallerSound : Prop :=
  match state.caller with
  | .looping | .listening _ | .selecting _ => state.requestCancelled = false
  | .joining result => state.requestCancelled = false ∧ Produced job state.policyCancelled result
  | .clearing error | .cancelling error =>
      state.requestCancelled = false ∧ ∀ reason ∈ error, Excuse state reason
  | .gone error => ∀ reason ∈ error, Excuse state reason
  | .returned result => Produced job state.policyCancelled result

structure Sound : Prop where
  worker : WorkerSound job state
  caller : CallerSound job state

variable {job state} {next : OffThread crate C P}

theorem Produced.mono {stopped later : Bool} {result : Rewritten C P}
    (produced : Produced job stopped result)
    (remains : stopped = true → later = true) : Produced job later result :=
  produced.imp_right fun ⟨cut, before⟩ => ⟨cut, remains before⟩

theorem run_produced {looks : Looks} {before after : Bool} (fits : looks.fits before after = true) :
    Produced job after (job.run looks) := by
  obtain ⟨first, last⟩ := looks
  simp only [Looks.fits, Bool.and_eq_true, Bool.or_eq_true, Bool.not_eq_true', beq_iff_eq] at fits
  obtain ⟨⟨-, looked⟩, still⟩ := fits
  have stopped (look : Nat) (found : (⟨first, last⟩ : Looks).cancelled look = true) :
      after = true := by
    cases first with
    | none => cases found
    | some first =>
      obtain none | late := looked
      · cases none
      · exact still.resolve_left fun never => by rw [late] at never; cases never
  have plain : (job.playlist ⟨first, last⟩).undisturbed = job.playlist ⟨none, false⟩ := rfl
  unfold Produced PlaylistRewriteJob.outcome PlaylistRewriteJob.run
  cases atFirst : (⟨first, last⟩ : Looks).cancelled 0 with
  | true => exact .inr ⟨rfl, stopped 0 atFirst⟩
  | false =>
    have fresh : (⟨none, false⟩ : Looks).cancelled 0 = false := rfl
    simp only [fresh, Bool.false_eq_true, if_false]
    split
    next => exact .inl rfl
    next =>
      obtain same | ⟨cut, look, found⟩ := cut_rewritePlaylist (job.playlist ⟨first, last⟩) job.input
      · rw [same, plain]
        cases last with
        | false => exact .inl rfl
        | true =>
          cases rewritePlaylist (job.playlist ⟨none, false⟩) job.input with
          | error error => exact .inl rfl
          | ok body => exact .inr ⟨rfl, still.resolve_left (by simp)⟩
      · rw [cut]
        exact .inr ⟨rfl, stopped _ found⟩

theorem CallerSound.imply (sound : CallerSound job state) (same : next.caller = state.caller)
    (policy : state.policyCancelled = true → next.policyCancelled = true)
    (request : next.requestCancelled = state.requestCancelled)
    (ended : state.worker = .ended true → next.worker = .ended true) : CallerSound job next := by
  have excused (error : ProxyError) (excuse : Excuse state error) : Excuse next error :=
    excuse.imp (fun both => ⟨both.1, policy both.2⟩) fun both => ⟨both.1, ended both.2⟩
  unfold CallerSound at sound ⊢
  rw [same, request]
  revert sound
  cases state.caller with
  | looping | listening woken | selecting woken => exact id
  | joining result => exact fun sound => ⟨sound.1, sound.2.mono policy⟩
  | clearing error | cancelling error =>
    exact fun sound => ⟨sound.1, fun reason member => excused reason (sound.2 reason member)⟩
  | gone error => exact fun sound reason member => excused reason (sound reason member)
  | returned result => exact fun sound => sound.mono policy

theorem CallerSound.wake (sound : CallerSound job state) :
    CallerSound job { state with caller := state.caller.wake } := by
  unfold CallerSound at sound ⊢
  revert sound
  cases state.caller <;> exact id

theorem Caller.wake_active (caller : Caller C P) : caller.wake.active = caller.active := by
  cases caller <;> rfl

theorem Caller.wake_took (caller : Caller C P) : caller.wake.took = caller.took := by
  cases caller <;> rfl

theorem Sound.stepWorker (sound : Sound job state) {action : OffThreadAction}
    (taken : state.stepWorker action = some next) : Sound job next := by
  obtain ⟨⟨pending, completed⟩, worker, caller, policyCancelled, requestCancelled⟩ := state
  obtain ⟨working, calling⟩ := sound
  cases action <;> cases worker <;>
    simp only [OffThread.stepWorker, Option.some.injEq, reduceCtorEq] at taken
  case claim.queued =>
    obtain ⟨rfl, untaken, own, waiting⟩ := working
    cases pending with
    | none =>
      cases taken
      refine ⟨⟨rfl, by rintro result ⟨⟩, fun active => ?_⟩, calling.imply rfl id rfl (by simp)⟩
      cases waiting active
    | some pending =>
      cases taken
      exact ⟨⟨rfl, untaken, own pending rfl, id⟩, calling.imply rfl id rfl (by simp)⟩
  case finish.running =>
    obtain ⟨same, untaken, rfl, -⟩ := working
    split at taken
    next fits =>
      cases taken
      exact ⟨⟨same, untaken, run_produced fits⟩, calling.imply rfl id rfl (by simp)⟩
    next => cases taken
  case panics.running =>
    obtain ⟨same, untaken, rfl, -⟩ := working
    cases same
    cases taken
    exact ⟨⟨rfl, untaken, by simp⟩, calling.imply rfl id rfl (by simp)⟩
  case store.finished =>
    obtain ⟨same, untaken, produced⟩ := working
    cases same
    cases taken
    refine ⟨⟨rfl, ?_, by simp⟩, calling.imply rfl id rfl (by simp)⟩
    rintro result ⟨⟩
    exact ⟨untaken, produced⟩
  case notifies.notifying =>
    obtain ⟨rfl, stored, waiting⟩ := working
    cases taken
    refine ⟨⟨rfl, fun result member => ?_, fun active => ?_⟩, calling.wake.imply rfl id rfl (by simp)⟩
    · rw [Caller.wake_took]
      exact stored result member
    · rw [Caller.wake_active] at active
      exact waiting active
  case discard.queued =>
    obtain ⟨rfl, untaken, own, -⟩ := working
    cases taken
    exact ⟨⟨rfl, untaken, own⟩, calling.imply rfl id rfl (by simp)⟩

theorem WorkerSound.imply (sound : WorkerSound job state) (slot : next.slot = state.slot)
    (worker : next.worker = state.worker) (took : state.caller.took = false → next.caller.took = false)
    (active : next.caller.active = true → state.caller.active = true)
    (stopped : state.cancelled = true → next.cancelled = true) : WorkerSound job next := by
  unfold WorkerSound at sound ⊢
  rw [slot, worker]
  revert sound
  cases state.worker with
  | queued =>
    rintro ⟨empty, untaken, own, waiting⟩
    exact ⟨empty, took untaken, own, fun still => waiting (active still)⟩
  | running running before =>
    rintro ⟨empty, untaken, own, cancelled⟩
    exact ⟨empty, took untaken, own, fun earlier => stopped (cancelled earlier)⟩
  | finished result =>
    rintro ⟨empty, untaken, produced⟩
    exact ⟨empty, took untaken, produced.mono stopped⟩
  | notifying =>
    rintro ⟨claimed, stored, waiting⟩
    exact ⟨claimed, fun result member =>
      ⟨took (stored result member).1, (stored result member).2.mono stopped⟩,
      fun still => waiting (active still)⟩
  | ended failed =>
    cases failed with
    | true =>
      rintro ⟨empty, untaken, own⟩
      exact ⟨empty, took untaken, own⟩
    | false =>
      rintro ⟨claimed, stored, waiting⟩
      exact ⟨claimed, fun result member =>
        ⟨took (stored result member).1, (stored result member).2.mono stopped⟩,
        fun still => waiting (active still)⟩

theorem WorkerSound.taken (sound : WorkerSound job state) {result : Rewritten C P}
    (stored : state.slot.completed = some result) (caller : Caller C P)
    (inactive : caller.active = false) :
    Produced job state.cancelled result ∧
      WorkerSound job { state with
        slot := { state.slot with completed := none }, caller := caller } := by
  unfold WorkerSound at sound ⊢
  revert sound
  dsimp only
  cases state.worker with
  | queued =>
    rintro ⟨empty, -⟩
    cases stored.symm.trans empty
  | running running before =>
    rintro ⟨empty, -⟩
    rw [empty] at stored
    cases stored
  | finished result =>
    rintro ⟨empty, -⟩
    rw [empty] at stored
    cases stored
  | notifying =>
    rintro ⟨claimed, kept, -⟩
    exact ⟨(kept result stored).2, claimed, by rintro result ⟨⟩, by simp [inactive]⟩
  | ended failed =>
    cases failed with
    | true =>
      rintro ⟨empty, -⟩
      cases stored.symm.trans empty
    | false =>
      rintro ⟨claimed, kept, -⟩
      exact ⟨(kept result stored).2, claimed, by rintro result ⟨⟩, by simp [inactive]⟩

theorem WorkerSound.cleared (sound : WorkerSound job state) (slot : next.slot = ⟨none, none⟩)
    (worker : next.worker = state.worker) (untaken : next.caller.took = false)
    (inactive : next.caller.active = false) (stopped : next.cancelled = state.cancelled) :
    WorkerSound job next := by
  unfold WorkerSound at sound ⊢
  rw [slot, worker, stopped]
  revert sound
  cases state.worker with
  | queued => exact fun _ => ⟨rfl, untaken, by rintro pending ⟨⟩, by simp [inactive]⟩
  | running running before => exact fun sound => ⟨rfl, untaken, sound.2.2⟩
  | finished result => exact fun sound => ⟨rfl, untaken, sound.2.2⟩
  | notifying => exact fun _ => ⟨rfl, by rintro result ⟨⟩, by simp [inactive]⟩
  | ended failed =>
    cases failed with
    | true => exact fun _ => ⟨rfl, untaken, by rintro pending ⟨⟩⟩
    | false => exact fun _ => ⟨rfl, by rintro result ⟨⟩, by simp [inactive]⟩

theorem Produced.policy {result : Rewritten C P} (produced : Produced job state.cancelled result)
    (request : state.requestCancelled = false) : Produced job state.policyCancelled result := by
  refine produced.mono fun stopped => ?_
  rwa [cancelled, request, Bool.or_false] at stopped

theorem Sound.giveUp (sound : Sound job state) {error : Option ProxyError}
    (request : state.requestCancelled = false) (excused : ∀ reason ∈ error, Excuse state reason) :
    Sound job { state with caller := .clearing error } :=
  ⟨sound.worker.imply rfl rfl (fun _ => rfl) (by rintro ⟨⟩) id, request, excused⟩

theorem Sound.selects (sound : Sound job state) {woken : Bool}
    (selecting : state.caller = .selecting woken)
    (taken : state.select woken = some next) : Sound job next := by
  have request : state.requestCancelled = false := by
    have calling := sound.caller
    rwa [CallerSound, selecting] at calling
  unfold select at taken
  split at taken
  next cancelled =>
    cases taken
    exact sound.giveUp request (by rintro reason ⟨⟩; exact .inl ⟨rfl, cancelled⟩)
  next =>
    split at taken
    next failed =>
      cases taken
      exact sound.giveUp request (by rintro reason ⟨⟩; exact .inr ⟨rfl, failed⟩)
    next ended =>
      cases taken
      unfold takeCompleted
      split
      next result stored =>
        obtain ⟨produced, working⟩ := sound.worker.taken stored (.returned result) rfl
        exact ⟨working, produced.policy request⟩
      next empty =>
        -- The worker has left a result, and nobody else takes it.
        have working := sound.worker
        rw [WorkerSound, ended] at working
        exact absurd empty (working.2.2 (by rw [selecting]; rfl))
    next =>
      split at taken
      next =>
        cases taken
        exact ⟨sound.worker.imply rfl rfl (fun _ => rfl) (fun _ => by rw [selecting]; rfl) id, request⟩
      next => cases taken

theorem Sound.joins (sound : Sound job state) {result : Rewritten C P}
    (joining : state.caller = .joining result) (taken : state.join result = some next) :
    Sound job next := by
  have calling := sound.caller
  rw [CallerSound, joining] at calling
  unfold join at taken
  split at taken
  next failed =>
    cases taken
    exact sound.giveUp calling.1 (by rintro reason ⟨⟩; exact .inr ⟨rfl, failed⟩)
  next =>
    cases taken
    exact ⟨sound.worker.imply rfl rfl (by rw [joining]; exact id) (by rintro ⟨⟩) id, calling.2⟩
  next => cases taken

theorem Sound.looks (sound : Sound job state) {woken : Bool}
    (listening : state.caller = .listening woken) : Sound job (state.look woken) := by
  have request : state.requestCancelled = false := by
    have calling := sound.caller
    rwa [CallerSound, listening] at calling
  unfold look
  split
  next result stored =>
    obtain ⟨produced, working⟩ := sound.worker.taken stored (.joining result) rfl
    exact ⟨working, request, produced.policy request⟩
  next =>
    exact ⟨sound.worker.imply rfl rfl (fun _ => rfl) (fun _ => by rw [listening]; rfl) id, request⟩

theorem Sound.stepCaller (sound : Sound job state) {action : OffThreadAction}
    (taken : state.stepCaller action = some next) : Sound job next := by
  have calling := sound.caller
  cases action <;> cases caller : state.caller <;>
    simp only [OffThread.stepCaller, caller, Option.some.injEq, reduceCtorEq] at taken <;>
    rw [CallerSound, caller] at calling
  case listen.looping =>
    cases taken
    exact ⟨sound.worker.imply rfl rfl (fun _ => rfl) (fun _ => by rw [caller]; rfl) id, calling⟩
  case look.listening => exact taken ▸ sound.looks caller
  case poll.selecting => exact sound.selects caller taken
  case poll.joining => exact sound.joins caller taken
  case dropCaller.selecting =>
    cases taken
    exact sound.giveUp calling (by rintro reason ⟨⟩)
  case dropCaller.joining =>
    cases taken
    exact sound.giveUp calling.1 (by rintro reason ⟨⟩)
  case clear.clearing =>
    cases taken
    exact ⟨sound.worker.cleared rfl rfl rfl rfl rfl, calling⟩
  case cancelRequest.cancelling =>
    cases taken
    refine ⟨sound.worker.imply rfl rfl (fun _ => rfl) (by rintro ⟨⟩) fun _ => ?_, calling.2⟩
    exact Bool.or_true _

theorem Sound.step (sound : Sound job state) {action : OffThreadAction}
    (taken : state.step action = some next) : Sound job next := by
  unfold OffThread.step at taken
  cases action with
  | claim | finish looks | panics | store | notifies | discard => exact sound.stepWorker taken
  | listen | look | poll | dropCaller | clear | cancelRequest => exact sound.stepCaller taken
  | cancelPolicy =>
    cases taken
    exact ⟨sound.worker.imply rfl rfl id id fun _ => rfl, sound.caller.imply rfl (fun _ => rfl) rfl id⟩

theorem spawned_sound (policyCancelled : Bool) : Sound job (spawned job policyCancelled) :=
  ⟨⟨rfl, rfl, by rintro pending ⟨⟩; rfl, fun _ => rfl⟩, rfl⟩

theorem Produced.heldBy {stopped : Bool} {result : Rewritten C P}
    (produced : Produced job stopped result) :
    heldBy result = [] ∨ heldBy result = [job.held] := by
  obtain rfl | ⟨rfl, -⟩ := produced
  · unfold PlaylistRewriteJob.outcome PlaylistRewriteJob.run
    split
    next => exact .inl rfl
    next =>
      split
      next => exact .inl rfl
      next =>
        cases rewritePlaylist (job.playlist ⟨none, false⟩) job.input with
        | error error => exact .inl rfl
        | ok body => exact .inr rfl
  · exact .inl rfl

theorem Caller.held_untaken {caller : Caller C P} (untaken : caller.took = false) :
    caller.held = [] := by
  cases caller <;> first | rfl | cases untaken

theorem pending_held {slot : PlaylistJobSlot crate C P} (empty : slot.completed = none)
    (own : ∀ pending ∈ slot.pending, pending = job) : slot.held = [] ∨ slot.held = [job.held] := by
  unfold PlaylistJobSlot.held
  rw [empty]
  cases pending : slot.pending with
  | none => exact .inl rfl
  | some pending =>
    cases own _ pending
    exact .inr rfl

theorem Sound.caller_held (sound : Sound job state) :
    state.caller.held = [] ∨ state.caller.held = [job.held] := by
  have calling := sound.caller
  unfold CallerSound at calling
  revert calling
  cases state.caller with
  | looping | listening woken | selecting woken => exact fun _ => .inl rfl
  | clearing error | cancelling error | gone error => exact fun _ => .inl rfl
  | joining result => exact fun calling => calling.2.heldBy
  | returned result => exact fun calling => calling.heldBy

theorem Sound.stored_held (sound : Sound job state) (claimed : state.slot.pending = none)
    (stored : ∀ result ∈ state.slot.completed,
      state.caller.took = false ∧ Produced job state.cancelled result) :
    state.slot.held ++ state.caller.held = [] ∨ state.slot.held ++ state.caller.held = [job.held] := by
  unfold PlaylistJobSlot.held
  rw [claimed]
  cases completed : state.slot.completed with
  | none => exact sound.caller_held
  | some result =>
    obtain ⟨untaken, produced⟩ := stored result completed
    rw [Caller.held_untaken untaken, List.append_nil]
    exact produced.heldBy

theorem Sound.held (sound : Sound job state) :
    state.slot.held ++ (state.worker.held ++ state.caller.held) = [] ∨
      state.slot.held ++ (state.worker.held ++ state.caller.held) = [job.held] := by
  have working := sound.worker
  unfold WorkerSound at working
  cases worker : state.worker with
  | queued =>
    rw [worker] at working
    obtain ⟨empty, untaken, own, -⟩ := working
    have idle : (Worker.queued : Worker crate C P).held = [] := rfl
    rw [Caller.held_untaken untaken, idle, List.append_nil, List.append_nil]
    exact pending_held empty own
  | running running before =>
    rw [worker] at working
    obtain ⟨empty, untaken, rfl, -⟩ := working
    rw [empty, Caller.held_untaken untaken]
    exact .inr rfl
  | finished result =>
    rw [worker] at working
    obtain ⟨empty, untaken, produced⟩ := working
    rw [empty, Caller.held_untaken untaken, List.append_nil]
    exact produced.heldBy
  | notifying =>
    rw [worker] at working
    exact sound.stored_held working.1 working.2.1
  | ended failed =>
    rw [worker] at working
    cases failed with
    | true =>
      obtain ⟨empty, untaken, own⟩ := working
      have idle : (Worker.ended true : Worker crate C P).held = [] := rfl
      rw [Caller.held_untaken untaken, idle, List.append_nil, List.append_nil]
      exact pending_held empty own
    | false => exact sound.stored_held working.1 working.2.1

theorem Sound.holders (sound : Sound job state) : holders state = [] ∨ holders state = [job.held] := by
  unfold OffThread.holders
  cases isOver : state.isOver with
  | false => exact sound.held
  | true =>
    have ended : state.worker.held = [] := by
      rw [OffThread.isOver, Bool.and_eq_true] at isOver
      cases worker : state.worker <;> rw [worker] at isOver <;> first | rfl | cases isOver.1
    rw [ended]
    exact sound.caller_held

section Progress

def Leads : (OffThread crate C P → Prop) → OffThread crate C P → Prop :=
  Runs.Leads (fun action => OffThreadAction.own action = true) OffThread.step

theorem notifying_leads (notifying : state.worker = .notifying) :
    Leads (fun next => next.worker.isOver = true) state := by
  have taken : state.step .notifies = some { state with
      worker := .ended false, caller := state.caller.wake } := by
    unfold OffThread.step OffThread.stepWorker
    rw [notifying]
  exact Runs.Leads.after taken rfl (.here rfl)

theorem finished_leads {result : Rewritten C P} (finished : state.worker = .finished result) :
    Leads (fun next => next.worker.isOver = true) state := by
  have taken : state.step .store = some { state with
      slot := { state.slot with completed := some result }, worker := .notifying } := by
    unfold OffThread.step OffThread.stepWorker
    rw [finished]
  exact Runs.Leads.after taken rfl (notifying_leads rfl)

theorem running_leads {running : PlaylistRewriteJob crate C P} {before : Bool}
    (claimed : state.worker = .running running before)
    (monotone : before = true → state.cancelled = true) :
    Leads (fun next => next.worker.isOver = true) state := by
  -- Whatever the tokens are now, every look finds them so.
  let looks : Looks := if state.cancelled then ⟨some 0, true⟩ else ⟨none, false⟩
  have fits : looks.fits before state.cancelled = true := by
    cases now : state.cancelled with
    | true => cases before <;> simp [looks, now, Looks.fits]
    | false =>
      cases before with
      | true => cases now.symm.trans (monotone rfl)
      | false => simp [looks, now, Looks.fits]
  have taken : state.step (.finish looks) =
      some { state with worker := .finished (running.run looks) } := by
    unfold OffThread.step OffThread.stepWorker
    rw [claimed]
    exact if_pos fits
  exact Runs.Leads.after taken rfl (finished_leads rfl)

theorem Sound.worker_leads (sound : Sound job state) :
    Leads (fun next => next.worker.isOver = true) state := by
  have working := sound.worker
  unfold WorkerSound at working
  cases worker : state.worker with
  | queued =>
    have taken : state.step .claim = some state.claim := by
      unfold OffThread.step OffThread.stepWorker
      rw [worker]
    refine Runs.Leads.after taken rfl ?_
    unfold claim
    split
    next => exact running_leads rfl id
    next => exact notifying_leads rfl
  | running running before =>
    rw [worker] at working
    exact running_leads worker working.2.2.2
  | finished result => exact finished_leads worker
  | notifying => exact notifying_leads worker
  | ended failed => exact .here (by rw [worker]; rfl)

theorem over_leads (ended : state.worker.isOver = true) (gone : state.caller.isOver = true) :
    Leads (fun next => next.isOver = true) state :=
  .here (by rw [OffThread.isOver, ended, gone]; rfl)

theorem cancelling_leads {error : Option ProxyError} (ended : state.worker.isOver = true)
    (cancelling : state.caller = .cancelling error) : Leads (fun next => next.isOver = true) state := by
  have taken : state.step .cancelRequest =
      some { state with requestCancelled := true, caller := .gone error } := by
    unfold OffThread.step OffThread.stepCaller
    rw [cancelling]
  exact Runs.Leads.after taken rfl (over_leads ended rfl)

theorem clearing_leads {error : Option ProxyError} (ended : state.worker.isOver = true)
    (clearing : state.caller = .clearing error) : Leads (fun next => next.isOver = true) state := by
  have taken : state.step .clear =
      some { state with slot := ⟨none, none⟩, caller := .cancelling error } := by
    unfold OffThread.step OffThread.stepCaller
    rw [clearing]
  exact Runs.Leads.after taken rfl (cancelling_leads ended rfl)

theorem joining_leads {result : Rewritten C P} (ended : state.worker.isOver = true)
    (joining : state.caller = .joining result) : Leads (fun next => next.isOver = true) state := by
  have polled : state.step .poll = state.join result := by
    unfold OffThread.step OffThread.stepCaller
    rw [joining]
  unfold join at polled
  cases worker : state.worker with
  | ended failed =>
    rw [worker] at polled
    cases failed with
    | true => exact Runs.Leads.after polled rfl (clearing_leads rfl rfl)
    | false => exact Runs.Leads.after polled rfl (over_leads rfl rfl)
  | queued | running running before | finished result | notifying =>
    rw [worker] at ended
    cases ended

theorem selecting_leads {woken : Bool} (ended : state.worker.isOver = true)
    (selecting : state.caller = .selecting woken) : Leads (fun next => next.isOver = true) state := by
  have polled : state.step .poll = state.select woken := by
    unfold OffThread.step OffThread.stepCaller
    rw [selecting]
  unfold select at polled
  split at polled
  next => exact Runs.Leads.after polled rfl (clearing_leads ended rfl)
  next =>
    cases worker : state.worker with
    | ended failed =>
      rw [worker] at polled
      cases failed with
      | true => exact Runs.Leads.after polled rfl (clearing_leads rfl rfl)
      | false =>
        refine Runs.Leads.after polled rfl ?_
        unfold takeCompleted
        split
        next => exact over_leads ended rfl
        next => exact clearing_leads ended rfl
    | queued | running running before | finished result | notifying =>
      rw [worker] at ended
      cases ended

theorem listening_leads {woken : Bool} (ended : state.worker.isOver = true)
    (listening : state.caller = .listening woken) : Leads (fun next => next.isOver = true) state := by
  have taken : state.step .look = some (state.look woken) := by
    unfold OffThread.step OffThread.stepCaller
    rw [listening]
  refine Runs.Leads.after taken rfl ?_
  unfold look
  split
  next => exact joining_leads ended rfl
  next => exact selecting_leads ended rfl

theorem caller_leads (ended : state.worker.isOver = true) :
    Leads (fun next => next.isOver = true) state := by
  cases caller : state.caller with
  | looping =>
    have taken : state.step .listen = some { state with caller := .listening false } := by
      unfold OffThread.step OffThread.stepCaller
      rw [caller]
    exact Runs.Leads.after taken rfl (listening_leads ended rfl)
  | listening woken => exact listening_leads ended caller
  | selecting woken => exact selecting_leads ended caller
  | joining result => exact joining_leads ended caller
  | clearing error => exact clearing_leads ended caller
  | cancelling error => exact cancelling_leads ended caller
  | gone error | returned result => exact over_leads ended (by rw [caller]; rfl)

end Progress

structure Safe (job : PlaylistRewriteJob crate C P) (state : OffThread crate C P) : Prop where
  exclusive : holders state = [] ∨ holders state = [job.held]
  -- With both sides at their end, nothing is left behind but in the caller's hands.
  released : state.isOver = true → (∀ output, state.caller ≠ .returned (.ok output)) →
    holders state = []
  answered : ∀ result, state.caller = .returned result →
    result = job.outcome ∨ result = .error .cancelled ∧ state.policyCancelled = true
  excused : ∀ reason, state.caller = .gone (some reason) → Excuse state reason
  ends : Leads (fun next => next.isOver = true) state

theorem Sound.safe (sound : Sound job state) : Safe job state where
  exclusive := sound.holders
  released isOver kept := by
    unfold OffThread.holders
    rw [if_pos isOver]
    rw [OffThread.isOver, Bool.and_eq_true] at isOver
    cases worker : state.worker with
    | ended failed =>
      cases caller : state.caller with
      | returned result =>
        cases result with
        | error error => rfl
        | ok output => exact absurd caller (kept output)
      | gone error => rfl
      | looping | listening woken | selecting woken | joining result | clearing error | cancelling error =>
        rw [caller] at isOver
        cases isOver.2
    | queued | running running before | finished result | notifying =>
      rw [worker] at isOver
      cases isOver.1
  answered result returned := by
    have calling := sound.caller
    rwa [CallerSound, returned] at calling
  excused reason gone := by
    have calling := sound.caller
    rw [CallerSound, gone] at calling
    exact calling reason rfl
  ends := sound.worker_leads.trans fun _ ended => caller_leads ended

theorem sound_of_run {policyCancelled : Bool} {actions : List OffThreadAction}
    (ran : Runs.run OffThread.step (spawned job policyCancelled) actions = some state) :
    Sound job state :=
  Runs.invariant_of_run (fun _ _ _ sound taken => sound.step taken) (spawned_sound policyCancelled) ran

end OffThread

open OffThread in
theorem rewritePlaylistOffThread_safe {job : PlaylistRewriteJob crate C P} {policyCancelled : Bool}
    {actions : List OffThreadAction} {state : OffThread crate C P}
    (ran : Runs.run OffThread.step (spawned job policyCancelled) actions = some state) :
    Safe job state :=
  (sound_of_run ran).safe

/-- The request is dropped while the worker is at work, which finds out at its last look. -/
def abandonedActions : List OffThreadAction :=
  [.listen, .claim, .look, .dropCaller, .clear, .cancelRequest, .finish ⟨none, true⟩, .store, .notifies]

def folderJob : PlaylistRewriteJob exampleFolder Nat Nat :=
  ⟨utf8 "#EXTM3U\nx000", .root, [], [], 1, 2⟩

theorem rewritePlaylistOffThread_safe_abandoned : ∃ state,
    Runs.run OffThread.step (OffThread.spawned folderJob false) abandonedActions = some state ∧
      state.isOver = true ∧ OffThread.Safe folderJob state := by
  have isOver : (Runs.run OffThread.step (OffThread.spawned folderJob false) abandonedActions).any
      OffThread.isOver = true := by
    decide +kernel
  cases ran : Runs.run OffThread.step (OffThread.spawned folderJob false) abandonedActions with
  | none =>
    rw [ran] at isOver
    cases isOver
  | some state =>
    rw [ran] at isOver
    exact ⟨state, rfl, isOver, rewritePlaylistOffThread_safe ran⟩

end Answers

end StreamServer.Proxy
