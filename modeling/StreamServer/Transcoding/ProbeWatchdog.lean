import Mathlib.Data.List.Chain

set_option autoImplicit false

namespace StreamServer.Transcoding

section Source

inductive ProbeErrorCode where
  | outputTooLarge
  | malformedOutput
  | limitExceeded
  | runtimeUnavailable
  | sourceInvalid
  | processFailure
  | nonZeroExit
  | inactivity
  | sourceStarvation
  | overallDeadline
  | capacityExceeded
  | cancelled
deriving DecidableEq, Repr

/-- Times and durations are counted in nanoseconds. -/
def seconds (count : Nat) : Nat := count * 1000000000

def probeInactivity : Nat := seconds 30

def probeStarvationDefault : Nat := seconds (10 * 60)

def probeHardDeadline : Nat := seconds (30 * 60)

structure SourceActivitySnapshot where
  deliveredBytesTotal : Nat
  activeRequests : Nat
  allActiveRequestsPieceBlocked : Bool
deriving DecidableEq, Repr

def isConfirmedStarvation (snapshot : SourceActivitySnapshot) : Bool :=
  0 < snapshot.activeRequests && snapshot.allActiveRequestsPieceBlocked

structure ProbeWatch where
  hardDeadline : Nat
  last : SourceActivitySnapshot
  starved : Bool
  inactivityRemaining : Nat
  inactivityStarted : Nat
  starvationRemaining : Nat
  starvationStarted : Nat
deriving DecidableEq, Repr

namespace ProbeWatch

def initial (started : Nat) (snapshot : SourceActivitySnapshot) : ProbeWatch where
  hardDeadline := started + probeHardDeadline
  last := snapshot
  starved := isConfirmedStarvation snapshot
  inactivityRemaining := probeInactivity
  inactivityStarted := started
  starvationRemaining := probeStarvationDefault
  starvationStarted := started

def deadline (watch : ProbeWatch) : Nat :=
  if watch.starved then min (watch.starvationStarted + watch.starvationRemaining) watch.hardDeadline
  else min (watch.inactivityStarted + watch.inactivityRemaining) watch.hardDeadline

def expired (watch : ProbeWatch) : ProbeErrorCode :=
  if watch.deadline = watch.hardDeadline then .overallDeadline
  else if watch.starved then .sourceStarvation
  else .inactivity

def changed (watch : ProbeWatch) (now : Nat) (next : SourceActivitySnapshot) : ProbeWatch :=
  let nextStarved := isConfirmedStarvation next
  let starvationRemaining :=
    if watch.starved then watch.starvationRemaining - (now - watch.starvationStarted)
    else watch.starvationRemaining
  let inactivityRemaining :=
    if watch.starved then watch.inactivityRemaining
    else watch.inactivityRemaining - (now - watch.inactivityStarted)
  { watch with
    last := next
    starved := nextStarved
    starvationRemaining := starvationRemaining
    inactivityRemaining :=
      if next.deliveredBytesTotal > watch.last.deliveredBytesTotal then probeInactivity
      else inactivityRemaining
    starvationStarted := if nextStarved then now else watch.starvationStarted
    inactivityStarted := if nextStarved then watch.inactivityStarted else now }

end ProbeWatch

-- What the loop wakes up to: the timer, an update, or the end of the updates. A watch channel keeps
-- the latest value only, so updates sent together may be overwritten before the last of them is
-- seen.
inductive Wake where
  | timer (now : Nat)
  | changed (now : Nat) (overwritten : List SourceActivitySnapshot) (next : SourceActivitySnapshot)
  | closed (noticed now : Nat)

/-- The loop from its top; there is no result yet when the list of wakes ends. -/
def watchProbeActivity (watch : ProbeWatch) (now : Nat) : List Wake → Option (Nat × ProbeErrorCode)
  | [] => if now ≥ watch.hardDeadline then some (now, .overallDeadline) else none
  | .timer moment :: _ =>
      if now ≥ watch.hardDeadline then some (now, .overallDeadline) else some (moment, watch.expired)
  | .closed _ moment :: _ =>
      if now ≥ watch.hardDeadline then some (now, .overallDeadline) else some (moment, watch.expired)
  | .changed moment _ next :: rest =>
      if now ≥ watch.hardDeadline then some (now, .overallDeadline)
      else watchProbeActivity (watch.changed moment next) moment rest

end Source

section Sums

/-- From this moment on the source was as the snapshot has it. -/
structure Mark where
  time : Nat
  snapshot : SourceActivitySnapshot
deriving DecidableEq, Repr

def timeIn (kind : SourceActivitySnapshot → Bool) : List Mark → (now : Nat) → Nat
  | [], _ => 0
  | [mark], now => if kind mark.snapshot then now - mark.time else 0
  | mark :: next :: rest, now =>
      (if kind mark.snapshot then next.time - mark.time else 0) + timeIn kind (next :: rest) now

def Increases (before after : Mark) : Prop :=
  before.snapshot.deliveredBytesTotal < after.snapshot.deliveredBytesTotal

instance (before after : Mark) : Decidable (Increases before after) :=
  inferInstanceAs (Decidable (_ < _))

/-- After the first of the marks the delivered bytes were never increased. -/
def Steady (marks : List Mark) : Prop := marks.IsChain fun before after => ¬ Increases before after

instance (marks : List Mark) : Decidable (Steady marks) := inferInstanceAs (Decidable (List.IsChain _ _))

/-- The marks from the last one on that increased the delivered bytes. -/
def sinceProgress : List Mark → List Mark
  | [] => []
  | mark :: rest => if Steady (mark :: rest) then mark :: rest else sinceProgress rest

def starvedTime (marks : List Mark) (now : Nat) : Nat := timeIn isConfirmedStarvation marks now

def quietTime (marks : List Mark) (now : Nat) : Nat :=
  timeIn (fun snapshot => !isConfirmedStarvation snapshot) (sinceProgress marks) now

variable {kind : SourceActivitySnapshot → Bool} {marks : List Mark} {last mark : Mark} {now : Nat}

theorem timeIn_append (kind : SourceActivitySnapshot → Bool) (nonempty : marks ≠ []) (mark : Mark)
    (now : Nat) : timeIn kind (marks ++ [mark]) now =
      timeIn kind marks mark.time + if kind mark.snapshot then now - mark.time else 0 := by
  induction marks with
  | nil => exact absurd rfl nonempty
  | cons first rest ih =>
    cases rest with
    | nil => rfl
    | cons second rest =>
      have later := ih (List.cons_ne_nil _ _)
      simp only [List.cons_append, timeIn] at later ⊢
      rw [later, Nat.add_assoc]

theorem timeIn_later (ends : marks.getLast? = some last) {moment : Nat} (reached : last.time ≤ now)
    (passed : now ≤ moment) : timeIn kind marks moment =
      timeIn kind marks now + if kind last.snapshot then moment - now else 0 := by
  obtain ⟨before, rfl⟩ := List.getLast?_eq_some_iff.mp ends
  by_cases single : before = []
  · subst single
    simp only [List.nil_append, timeIn]
    split <;> omega
  · rw [timeIn_append kind single, timeIn_append kind single]
    split <;> omega

theorem steady_append (ends : marks.getLast? = some last) (mark : Mark) :
    Steady (marks ++ [mark]) ↔ Steady marks ∧ ¬ Increases last mark := by
  unfold Steady
  rw [List.isChain_append]
  simp [ends]

theorem sinceProgress_append (ends : marks.getLast? = some last) (mark : Mark) :
    sinceProgress (marks ++ [mark]) =
      if Increases last mark then [mark] else sinceProgress marks ++ [mark] := by
  induction marks with
  | nil => cases ends
  | cons first rest ih =>
    have extended : sinceProgress ((first :: rest) ++ [mark]) =
        if Steady ((first :: rest) ++ [mark]) then (first :: rest) ++ [mark]
        else sinceProgress (rest ++ [mark]) := rfl
    have steady := steady_append ends mark
    rw [extended]
    by_cases increased : Increases last mark
    · rw [if_neg (fun all => (steady.mp all).2 increased), if_pos increased]
      cases rest with
      | nil => rfl
      | cons second rest => rw [ih (by simpa using ends), if_pos increased]
    · rw [if_neg increased, sinceProgress]
      by_cases before : Steady (first :: rest)
      · rw [if_pos (steady.mpr ⟨before, increased⟩), if_pos before]
      · rw [if_neg (fun all => before (steady.mp all).1), if_neg before]
        cases rest with
        | nil => exact absurd (List.IsChain.singleton first) before
        | cons second rest => rw [ih (by simpa using ends), if_neg increased]

theorem sinceProgress_getLast? (marks : List Mark) :
    (sinceProgress marks).getLast? = marks.getLast? := by
  induction marks with
  | nil => rfl
  | cons mark rest ih =>
    rw [sinceProgress]
    split
    next => rfl
    next turned =>
      cases rest with
      | nil => exact absurd (List.IsChain.singleton mark) turned
      | cons second rest => rw [ih, List.getLast?_cons_cons]

theorem starvedTime_append (ends : marks.getLast? = some last) (mark : Mark) :
    starvedTime (marks ++ [mark]) mark.time = starvedTime marks mark.time := by
  have nonempty : marks ≠ [] := by
    rintro rfl
    cases ends
  rw [starvedTime, timeIn_append _ nonempty, Nat.sub_self, ite_self, Nat.add_zero, starvedTime]

theorem quietTime_append (ends : marks.getLast? = some last) (mark : Mark) :
    quietTime (marks ++ [mark]) mark.time =
      if Increases last mark then 0 else quietTime marks mark.time := by
  have nonempty : sinceProgress marks ≠ [] := by
    intro empty
    rw [← sinceProgress_getLast?, empty] at ends
    cases ends
  unfold quietTime
  rw [sinceProgress_append ends]
  split
  next => simp [timeIn]
  next => rw [timeIn_append _ nonempty, Nat.sub_self, ite_self, Nat.add_zero]

theorem starvedTime_later (ends : marks.getLast? = some last) {moment : Nat} (reached : last.time ≤ now)
    (passed : now ≤ moment) : starvedTime marks moment =
      starvedTime marks now + if isConfirmedStarvation last.snapshot then moment - now else 0 :=
  timeIn_later ends reached passed

theorem quietTime_later (ends : marks.getLast? = some last) {moment : Nat} (reached : last.time ≤ now)
    (passed : now ≤ moment) : quietTime marks moment =
      quietTime marks now + if isConfirmedStarvation last.snapshot then 0 else moment - now := by
  unfold quietTime
  rw [timeIn_later ((sinceProgress_getLast? marks).trans ends) reached passed]
  cases isConfirmedStarvation last.snapshot <;> simp

-- Marks of one moment add no time; what counts is whether the bytes have grown.
theorem sums_batch (ends : marks.getLast? = some last) (batch : List SourceActivitySnapshot)
    (moment : Nat) :
    starvedTime (marks ++ batch.map (Mark.mk moment)) moment = starvedTime marks moment ∧
      quietTime (marks ++ batch.map (Mark.mk moment)) moment =
        if (last.snapshot :: batch).IsChain
            (fun before after => ¬ before.deliveredBytesTotal < after.deliveredBytesTotal)
        then quietTime marks moment else 0 := by
  induction batch generalizing marks last with
  | nil => simp
  | cons snapshot batch ih =>
    have added : (marks ++ [Mark.mk moment snapshot]).getLast? = some ⟨moment, snapshot⟩ := by simp
    have starved := starvedTime_append ends ⟨moment, snapshot⟩
    have quiet := quietTime_append ends ⟨moment, snapshot⟩
    obtain ⟨starvedRest, quietRest⟩ := ih added
    rw [List.map_cons, List.append_cons, starvedRest, quietRest]
    refine ⟨starved, ?_⟩
    simp only at quiet
    rw [quiet]
    simp only [Increases, List.isChain_cons_cons]
    by_cases grown : last.snapshot.deliveredBytesTotal < snapshot.deliveredBytesTotal
    · simp [grown]
    · simp [grown]

end Sums

section Wakes

def Wake.marks : Wake → List Mark
  | .changed moment overwritten next => (overwritten ++ [next]).map (Mark.mk moment)
  | .timer _ | .closed _ _ => []

-- No wake comes early, nor before the one it follows; and what was overwritten delivered no more
-- than what replaced it.
def Wakes (watch : ProbeWatch) (now : Nat) : List Wake → Prop
  | [] => True
  | .timer moment :: _ => watch.deadline ≤ moment ∧ now ≤ moment
  | .closed noticed moment :: _ => now ≤ noticed ∧ noticed ≤ moment ∧ watch.deadline ≤ moment
  | .changed moment overwritten next :: rest =>
      now ≤ moment ∧
      (overwritten = [] ∨ ((watch.last :: overwritten) ++ [next]).IsChain
        fun before after => before.deliveredBytesTotal ≤ after.deliveredBytesTotal) ∧
      Wakes (watch.changed moment next) moment rest

def Punctual (watch : ProbeWatch) : List Wake → Prop
  | [] => True
  | .timer moment :: _ => moment = watch.deadline
  | .closed noticed moment :: _ => noticed ≤ watch.deadline ∧ moment = watch.deadline
  | .changed moment _ next :: rest =>
      moment ≤ watch.deadline ∧ Punctual (watch.changed moment next) rest

end Wakes

section Invariant

/-- The remaining times are what the sums leave of their limits. -/
structure ProbeWatch.Keeps (watch : ProbeWatch) (now : Nat) (marks : List Mark) : Prop where
  last : marks.getLast? = some ⟨now, watch.last⟩
  starved : watch.starved = isConfirmedStarvation watch.last
  inactivity : watch.inactivityRemaining = probeInactivity - quietTime marks now
  starvation : watch.starvationRemaining = probeStarvationDefault - starvedTime marks now
  startedStarved : watch.starved = true → watch.starvationStarted = now
  startedQuiet : watch.starved = false → watch.inactivityStarted = now

structure ProbeWatch.InTime (watch : ProbeWatch) (now : Nat) (marks : List Mark) : Prop where
  quiet : quietTime marks now ≤ probeInactivity
  starved : starvedTime marks now ≤ probeStarvationDefault
  hard : now ≤ watch.hardDeadline

variable {watch : ProbeWatch} {now moment : Nat} {marks : List Mark}

theorem sums_initial (started : Nat) (snapshot : SourceActivitySnapshot) :
    quietTime [⟨started, snapshot⟩] started = 0 ∧ starvedTime [⟨started, snapshot⟩] started = 0 := by
  have steady : Steady [⟨started, snapshot⟩] := List.IsChain.singleton _
  constructor
  · simp [quietTime, sinceProgress, steady, timeIn]
  · simp [starvedTime, timeIn]

theorem inTime_initial (started : Nat) (snapshot : SourceActivitySnapshot) :
    (ProbeWatch.initial started snapshot).InTime started [⟨started, snapshot⟩] := by
  obtain ⟨quiet, starved⟩ := sums_initial started snapshot
  refine ⟨?_, ?_, Nat.le_add_right ..⟩
  · rw [quiet]
    exact Nat.zero_le _
  · rw [starved]
    exact Nat.zero_le _

theorem keeps_initial (started : Nat) (snapshot : SourceActivitySnapshot) :
    (ProbeWatch.initial started snapshot).Keeps started [⟨started, snapshot⟩] := by
  obtain ⟨quiet, starved⟩ := sums_initial started snapshot
  refine ⟨rfl, rfl, ?_, ?_, fun _ => rfl, fun _ => rfl⟩
  · rw [quiet]
    rfl
  · rw [starved]
    rfl

theorem delivered_le {first next : SourceActivitySnapshot} {overwritten : List SourceActivitySnapshot}
    (growing : ((first :: overwritten) ++ [next]).IsChain
      fun before after => before.deliveredBytesTotal ≤ after.deliveredBytesTotal) :
    first.deliveredBytesTotal ≤ next.deliveredBytesTotal := by
  induction overwritten generalizing first with
  | nil => simpa using growing
  | cons second overwritten ih =>
    simp only [List.cons_append, List.isChain_cons_cons] at growing
    exact Nat.le_trans growing.1 (ih growing.2)

theorem steady_batch_iff {first next : SourceActivitySnapshot}
    {overwritten : List SourceActivitySnapshot}
    (growing : overwritten = [] ∨ ((first :: overwritten) ++ [next]).IsChain
      fun before after => before.deliveredBytesTotal ≤ after.deliveredBytesTotal) :
    (first :: (overwritten ++ [next])).IsChain
        (fun before after => ¬ before.deliveredBytesTotal < after.deliveredBytesTotal) ↔
      ¬ first.deliveredBytesTotal < next.deliveredBytesTotal := by
  rcases growing with rfl | growing
  · simp
  induction overwritten generalizing first with
  | nil => simp
  | cons second overwritten ih =>
    simp only [List.cons_append, List.isChain_cons_cons] at growing
    have ends : second.deliveredBytesTotal ≤ next.deliveredBytesTotal := delivered_le growing.2
    simp only [List.cons_append, List.isChain_cons_cons, ih growing.2]
    omega

theorem sums_changed (ends : marks.getLast? = some ⟨now, watch.last⟩) (passed : now ≤ moment)
    {overwritten : List SourceActivitySnapshot} {next : SourceActivitySnapshot}
    (growing : overwritten = [] ∨ ((watch.last :: overwritten) ++ [next]).IsChain
      fun before after => before.deliveredBytesTotal ≤ after.deliveredBytesTotal) :
    starvedTime (marks ++ (Wake.changed moment overwritten next).marks) moment =
        starvedTime marks now + (if isConfirmedStarvation watch.last then moment - now else 0) ∧
      quietTime (marks ++ (Wake.changed moment overwritten next).marks) moment =
        if next.deliveredBytesTotal > watch.last.deliveredBytesTotal then 0
        else quietTime marks now + if isConfirmedStarvation watch.last then 0 else moment - now := by
  obtain ⟨starved, quiet⟩ := sums_batch ends (overwritten ++ [next]) moment
  rw [Wake.marks, starved, quiet, starvedTime_later ends (Nat.le_refl now) passed,
    quietTime_later ends (Nat.le_refl now) passed]
  refine ⟨rfl, ?_⟩
  simp only [steady_batch_iff growing]
  by_cases grown : watch.last.deliveredBytesTotal < next.deliveredBytesTotal
  · rw [if_neg (fun steady => steady grown), if_pos grown]
  · rw [if_pos grown, if_neg grown]

theorem keeps_changed (keeps : watch.Keeps now marks) (passed : now ≤ moment)
    {overwritten : List SourceActivitySnapshot} {next : SourceActivitySnapshot}
    (growing : overwritten = [] ∨ ((watch.last :: overwritten) ++ [next]).IsChain
      fun before after => before.deliveredBytesTotal ≤ after.deliveredBytesTotal) :
    (watch.changed moment next).Keeps moment
      (marks ++ (Wake.changed moment overwritten next).marks) := by
  obtain ⟨starved, quiet⟩ := sums_changed keeps.last passed growing
  refine ⟨by simp [Wake.marks, ProbeWatch.changed], rfl, ?_, ?_, ?_, ?_⟩
  · rw [quiet, ← keeps.starved]
    simp only [ProbeWatch.changed]
    by_cases grown : watch.last.deliveredBytesTotal < next.deliveredBytesTotal
    · rw [if_pos grown, if_pos grown, Nat.sub_zero]
    · rw [if_neg grown, if_neg grown, keeps.inactivity]
      cases inside : watch.starved with
      | true => simp
      | false =>
        rw [keeps.startedQuiet inside]
        simp only [Bool.false_eq_true, if_false]
        omega
  · rw [starved, ← keeps.starved]
    simp only [ProbeWatch.changed, keeps.starvation]
    cases inside : watch.starved with
    | true =>
      rw [keeps.startedStarved inside]
      simp only [if_true]
      omega
    | false => simp
  · intro nextStarved
    exact if_pos nextStarved
  · intro nextQuiet
    exact if_neg (Bool.not_eq_true _ ▸ nextQuiet)

theorem deadline_eq (keeps : watch.Keeps now marks) : watch.deadline =
    min (if isConfirmedStarvation watch.last then now + (probeStarvationDefault - starvedTime marks now)
      else now + (probeInactivity - quietTime marks now)) watch.hardDeadline := by
  unfold ProbeWatch.deadline
  rw [← keeps.starved, keeps.starvation, keeps.inactivity]
  cases inside : watch.starved with
  | true => simp [keeps.startedStarved inside]
  | false => simp [keeps.startedQuiet inside]

theorem deadline_le (watch : ProbeWatch) : watch.deadline ≤ watch.hardDeadline := by
  unfold ProbeWatch.deadline
  split <;> exact Nat.min_le_right ..

theorem le_deadline (keeps : watch.Keeps now marks) (inTime : watch.InTime now marks) :
    now ≤ watch.deadline := by
  rw [deadline_eq keeps]
  have hard := inTime.hard
  split <;> omega

theorem sums_by_deadline (keeps : watch.Keeps now marks) (inTime : watch.InTime now marks)
    (passed : now ≤ moment) (early : moment ≤ watch.deadline) :
    starvedTime marks now + (if isConfirmedStarvation watch.last then moment - now else 0) ≤
        probeStarvationDefault ∧
      quietTime marks now + (if isConfirmedStarvation watch.last then 0 else moment - now) ≤
        probeInactivity := by
  rw [deadline_eq keeps] at early
  have quiet := inTime.quiet
  have starved := inTime.starved
  by_cases inside : isConfirmedStarvation watch.last = true
  · rw [if_pos inside] at early ⊢
    rw [if_pos inside]
    omega
  · rw [if_neg inside] at early ⊢
    rw [if_neg inside]
    omega

theorem inTime_changed (keeps : watch.Keeps now marks) (inTime : watch.InTime now marks)
    (passed : now ≤ moment) (early : moment ≤ watch.deadline)
    {overwritten : List SourceActivitySnapshot} {next : SourceActivitySnapshot}
    (growing : overwritten = [] ∨ ((watch.last :: overwritten) ++ [next]).IsChain
      fun before after => before.deliveredBytesTotal ≤ after.deliveredBytesTotal) :
    (watch.changed moment next).InTime moment
      (marks ++ (Wake.changed moment overwritten next).marks) := by
  obtain ⟨starved, quiet⟩ := sums_changed keeps.last passed growing
  obtain ⟨starvedBound, quietBound⟩ := sums_by_deadline keeps inTime passed early
  refine ⟨?_, starved ▸ starvedBound, Nat.le_trans early (deadline_le watch)⟩
  rw [quiet]
  split
  next => exact Nat.zero_le _
  next => exact quietBound

end Invariant

section Verdicts

structure Verdict (hardDeadline : Nat) (marks : List Mark) (moment : Nat) (code : ProbeErrorCode) :
    Prop where
  codes : code = .inactivity ∨ code = .sourceStarvation ∨ code = .overallDeadline
  inactivity : code = .inactivity → probeInactivity ≤ quietTime marks moment
  starvation : code = .sourceStarvation → probeStarvationDefault ≤ starvedTime marks moment
  overall : code = .overallDeadline → hardDeadline ≤ moment

structure OnTime (hardDeadline : Nat) (marks : List Mark) (moment : Nat) : Prop where
  quiet : quietTime marks moment ≤ probeInactivity
  starved : starvedTime marks moment ≤ probeStarvationDefault
  hard : moment ≤ hardDeadline

variable {watch : ProbeWatch} {now moment : Nat} {marks : List Mark}

theorem verdict_hard (late : watch.hardDeadline ≤ now) :
    Verdict watch.hardDeadline marks now .overallDeadline where
  codes := .inr (.inr rfl)
  inactivity same := by cases same
  starvation same := by cases same
  overall _ := late

theorem verdict_expired (keeps : watch.Keeps now marks) (passed : now ≤ moment)
    (due : watch.deadline ≤ moment) : Verdict watch.hardDeadline marks moment watch.expired := by
  have starved := starvedTime_later keeps.last (Nat.le_refl now) passed
  have quiet := quietTime_later keeps.last (Nat.le_refl now) passed
  have reached := deadline_eq keeps
  unfold ProbeWatch.expired
  split
  next hard =>
    rw [hard] at due
    exact verdict_hard due
  next soft =>
    have short := Nat.lt_of_le_of_ne (deadline_le watch) soft
    rw [keeps.starved]
    split
    next inside =>
      rw [if_pos inside] at reached starved
      refine ⟨.inr (.inl rfl), fun same => (by cases same), fun _ => ?_, fun same => (by cases same)⟩
      omega
    next outside =>
      rw [if_neg outside] at reached quiet
      refine ⟨.inl rfl, fun _ => ?_, fun same => (by cases same), fun same => (by cases same)⟩
      omega

theorem onTime_expired (keeps : watch.Keeps now marks) (inTime : watch.InTime now marks) :
    OnTime watch.hardDeadline marks watch.deadline := by
  have passed := le_deadline keeps inTime
  obtain ⟨starved, quiet⟩ := sums_by_deadline keeps inTime passed (Nat.le_refl _)
  refine ⟨?_, ?_, deadline_le watch⟩
  · rwa [quietTime_later keeps.last (Nat.le_refl now) passed]
  · rwa [starvedTime_later keeps.last (Nat.le_refl now) passed]

end Verdicts

section Runs

/-- The marks that the loop has seen when it returns, or when the list ends. -/
def seenMarks (watch : ProbeWatch) (now : Nat) : List Wake → List Mark
  | .changed moment overwritten next :: rest =>
      if now ≥ watch.hardDeadline then []
      else
        (Wake.changed moment overwritten next).marks ++ seenMarks (watch.changed moment next) moment rest
  | _ => []

variable {watch : ProbeWatch} {now moment : Nat} {marks : List Mark} {code : ProbeErrorCode}

theorem onTime_of_inTime (inTime : watch.InTime now marks) : OnTime watch.hardDeadline marks now :=
  ⟨inTime.quiet, inTime.starved, inTime.hard⟩

theorem watchProbeActivity_verdict (wakes : List Wake) (keeps : watch.Keeps now marks)
    (valid : Wakes watch now wakes)
    (returned : watchProbeActivity watch now wakes = some (moment, code)) :
    Verdict watch.hardDeadline (marks ++ seenMarks watch now wakes) moment code ∧
      (Punctual watch wakes → watch.InTime now marks →
        OnTime watch.hardDeadline (marks ++ seenMarks watch now wakes) moment) := by
  induction wakes generalizing watch now marks with
  | nil =>
    rw [watchProbeActivity] at returned
    split at returned
    next late =>
      rw [Option.some.injEq, Prod.mk.injEq] at returned
      rw [show seenMarks watch now [] = [] from rfl, List.append_nil, ← returned.1, ← returned.2]
      exact ⟨verdict_hard late, fun _ inTime => onTime_of_inTime inTime⟩
    next => cases returned
  | cons wake rest ih =>
    by_cases late : now ≥ watch.hardDeadline
    · have seen : seenMarks watch now (wake :: rest) = [] := by
        cases wake with
        | changed => exact if_pos late
        | timer => rfl
        | closed => rfl
      have stopped : watchProbeActivity watch now (wake :: rest) = some (now, .overallDeadline) := by
        cases wake <;> exact if_pos late
      have same := returned.symm.trans stopped
      rw [Option.some.injEq, Prod.mk.injEq] at same
      rw [seen, List.append_nil, same.1, same.2]
      exact ⟨verdict_hard late, fun _ inTime => onTime_of_inTime inTime⟩
    cases wake with
    | timer due =>
      rw [watchProbeActivity, if_neg late] at returned
      cases returned
      rw [show seenMarks watch now (.timer moment :: rest) = [] from rfl, List.append_nil]
      refine ⟨verdict_expired keeps valid.2 valid.1, fun punctual inTime => ?_⟩
      rw [show moment = watch.deadline from punctual]
      exact onTime_expired keeps inTime
    | closed noticed due =>
      rw [watchProbeActivity, if_neg late] at returned
      cases returned
      rw [show seenMarks watch now (.closed noticed moment :: rest) = [] from rfl, List.append_nil]
      refine ⟨verdict_expired keeps (Nat.le_trans valid.1 valid.2.1) valid.2.2,
        fun punctual inTime => ?_⟩
      rw [show moment = watch.deadline from punctual.2]
      exact onTime_expired keeps inTime
    | changed sent overwritten next =>
      rw [watchProbeActivity, if_neg late] at returned
      obtain ⟨passed, growing, later⟩ := valid
      have seen : seenMarks watch now (.changed sent overwritten next :: rest) =
          (Wake.changed sent overwritten next).marks ++
            seenMarks (watch.changed sent next) sent rest := if_neg late
      rw [seen, ← List.append_assoc]
      obtain ⟨verdict, onTime⟩ := ih (keeps_changed keeps passed growing) later returned
      exact ⟨verdict, fun punctual inTime =>
        onTime punctual.2 (inTime_changed keeps inTime passed punctual.1 growing)⟩

def afterWakes (watch : ProbeWatch) (now : Nat) : List Wake → ProbeWatch × Nat
  | .changed moment _ next :: rest => afterWakes (watch.changed moment next) moment rest
  | _ => (watch, now)

theorem watchProbeActivity_due (wakes : List Wake)
    (watching : watchProbeActivity watch now wakes = none) :
    (afterWakes watch now wakes).1.deadline ≤ watch.hardDeadline ∧
      (afterWakes watch now wakes).2 < watch.hardDeadline ∧
      ∀ moment, watchProbeActivity watch now (wakes ++ [.timer moment]) =
        some (moment, (afterWakes watch now wakes).1.expired) := by
  induction wakes generalizing watch now with
  | nil =>
    rw [watchProbeActivity] at watching
    split at watching
    next => cases watching
    next early =>
      refine ⟨deadline_le watch, Nat.lt_of_not_le early, fun moment => ?_⟩
      rw [List.nil_append, watchProbeActivity, if_neg early]
      rfl
  | cons wake rest ih =>
    cases wake with
    | timer =>
      rw [watchProbeActivity] at watching
      split at watching <;> cases watching
    | closed =>
      rw [watchProbeActivity] at watching
      split at watching <;> cases watching
    | changed sent overwritten next =>
      rw [watchProbeActivity] at watching
      split at watching
      next => cases watching
      next early =>
        obtain ⟨due, reached, fires⟩ := ih watching
        refine ⟨due, reached, fun later => ?_⟩
        rw [List.cons_append, watchProbeActivity, if_neg early]
        exact fires later

theorem watchProbeActivity_exact (started : Nat) (snapshot : SourceActivitySnapshot)
    (wakes : List Wake) (valid : Wakes (ProbeWatch.initial started snapshot) started wakes) :
    (∀ moment code, watchProbeActivity (ProbeWatch.initial started snapshot) started wakes =
        some (moment, code) →
      Verdict (started + probeHardDeadline)
        (⟨started, snapshot⟩ :: seenMarks (ProbeWatch.initial started snapshot) started wakes)
        moment code ∧
      (Punctual (ProbeWatch.initial started snapshot) wakes → OnTime (started + probeHardDeadline)
        (⟨started, snapshot⟩ :: seenMarks (ProbeWatch.initial started snapshot) started wakes)
        moment)) ∧
    (watchProbeActivity (ProbeWatch.initial started snapshot) started wakes = none →
      (afterWakes (ProbeWatch.initial started snapshot) started wakes).1.deadline ≤
          started + probeHardDeadline ∧
        ∀ moment, watchProbeActivity (ProbeWatch.initial started snapshot) started
            (wakes ++ [.timer moment]) =
          some (moment, (afterWakes (ProbeWatch.initial started snapshot) started wakes).1.expired)) := by
  have keeps := keeps_initial started snapshot
  constructor
  · intro moment code returned
    obtain ⟨verdict, onTime⟩ := watchProbeActivity_verdict wakes keeps valid returned
    exact ⟨verdict, fun punctual => onTime punctual (inTime_initial started snapshot)⟩
  · intro watching
    obtain ⟨due, _, fires⟩ := watchProbeActivity_due wakes watching
    exact ⟨due, fires⟩

-- A source that is only waited for, with one update on the way that delivers a byte.
theorem watchProbeActivity_waiting :
    ∃ wakes, Wakes (ProbeWatch.initial 0 ⟨0, 0, false⟩) 0 wakes ∧
      watchProbeActivity (ProbeWatch.initial 0 ⟨0, 0, false⟩) 0 wakes =
        some (seconds 59, .inactivity) ∧
      Verdict (0 + probeHardDeadline)
        (⟨0, ⟨0, 0, false⟩⟩ :: seenMarks (ProbeWatch.initial 0 ⟨0, 0, false⟩) 0 wakes)
        (seconds 59) .inactivity :=
  have valid : Wakes (ProbeWatch.initial 0 ⟨0, 0, false⟩) 0
      [.changed (seconds 29) [] ⟨1, 1, false⟩, .timer (seconds 59)] :=
    ⟨by decide, .inl rfl, by decide, by decide⟩
  ⟨_, valid, by decide,
    ((watchProbeActivity_exact 0 ⟨0, 0, false⟩ _ valid).1 _ _ (by decide)).1⟩

end Runs

end StreamServer.Transcoding
