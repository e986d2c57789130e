import StreamServer.EngineFs.IdleSafety

set_option autoImplicit false

namespace StreamServer.EngineFs

open BackendEngineFs

variable {H : Type} [DecidableEq H]

theorem Cleanup.advance_sameActivity (cleanup : Cleanup H) (fs : BackendEngineFs H) (ok : Bool)
    (stage : CleanupStage) : SameActivity fs (cleanup.advance fs ok stage).1 := by
  have moved := cleanup.advance_move fs ok stage
  generalize (cleanup.advance fs ok stage).1 = after, (cleanup.advance fs ok stage).2 = next at moved ⊢
  cases moved with
  | takeSelection => exact ⟨rfl, rfl, rfl, rfl, fun _ member => member, fun _ paused => paused⟩
  | activeFile =>
    split
    · exact .setActiveFile fs _
    · exact .refl fs
  | reconcile => exact .updateTorrent fs _ fun _ paused => paused
  | _ => exact .refl fs

structure PauseStep (fs after : BackendEngineFs H) (task : IdlePause H) (stage : PauseStage)
    (next : Option PauseStage) : Prop where
  native : after.native = fs.native
  watched : after.watched = fs.watched
  streams : after.activeStreams = fs.activeStreams
  removed : after.removed = fs.removed
  mapped : ∀ hash ∈ after.mapped, hash ∈ fs.mapped
  paused : ∀ hash, after.paused hash = true →
    fs.paused hash = true ∨ stage.decided = true ∧ task.hash = hash
  decided : ∀ target, next = some target → target.decided = true →
    stage.decided = true ∨ stage = .hashActive ∧ task.hash ∉ fs.activeStreams

namespace PauseStep

variable {fs after : BackendEngineFs H} {task : IdlePause H} {stage target : PauseStage}

omit [DecidableEq H] in
theorem stops (same : SameActivity fs after) : PauseStep fs after task stage none :=
  ⟨same.native, same.watched, same.streams, same.removed, same.mapped,
    fun hash paused => .inl (same.paused hash paused), by rintro _ ⟨⟩⟩

omit [DecidableEq H] in
theorem moves (same : SameActivity fs after)
    (decided : target.decided = true → stage.decided = true) :
    PauseStep fs after task stage (some target) := by
  refine ⟨same.native, same.watched, same.streams, same.removed, same.mapped,
    fun hash paused => .inl (same.paused hash paused), fun reached equal decides => ?_⟩
  cases equal
  exact .inl (decided decides)

end PauseStep

theorem decided_of_or {active more : Bool} (decided : (!(active || more)) = true) :
    (!active) = true := by
  cases active with
  | true => cases decided
  | false => rfl

theorem IdlePause.advance_step (task : IdlePause H) (fs : BackendEngineFs H) (ok : Bool)
    (stage : PauseStage) :
    PauseStep fs (task.advance fs ok stage).1 task stage (task.advance fs ok stage).2 := by
  have untouched {after : BackendEngineFs H} {engine : Nat}
      (touched : after = fs ∨ after = fs.touch engine) : SameActivity fs after := by
    rcases touched with rfl | rfl
    · exact .refl after
    · exact .touch fs engine
  have moved := task.advance_move fs ok stage
  generalize (task.advance fs ok stage).1 = after, (task.advance fs ok stage).2 = next at moved ⊢
  cases moved with
  | seeding | busy | gone | unknown => exact .stops (.refl fs)
  | checkSeeding => exact .moves (.refl fs) Bool.noConfusion
  | hashActive =>
    refine ⟨rfl, rfl, rfl, rfl, fun _ member => member, fun _ paused => .inl paused,
      fun target equal decided => ?_⟩
    cases equal
    refine .inr ⟨rfl, fun member => ?_⟩
    simp [PauseStage.decided, member] at decided
  | fileActive | playbackActive => exact .moves (.refl fs) decided_of_or
  | multifileActive | lookup | stats => exact .moves (.refl fs) fun _ => rfl
  | flagged engine _ touched => exact .stops (untouched touched)
  | swapFlag engine _ touched =>
    exact .moves ((untouched touched).trans (.setIdlePaused _ _ _)) fun _ => rfl
  | pause =>
    refine ⟨rfl, rfl, rfl, rfl, fun _ member => member, fun hash paused => ?_, by rintro _ ⟨⟩⟩
    by_cases same : hash = task.hash
    · exact .inr ⟨rfl, same.symm⟩
    · left
      simpa [BackendEngineFs.paused, setPaused, updateTorrent, same] using paused
  | unpaused => exact .moves (.refl fs) Bool.noConfusion
  | restoreFlag => exact .stops (.setIdlePaused fs _ _)

namespace IdleStep

variable {fs after : BackendEngineFs H} {tasks next : List (Task H)} {task : Task H} {ok : Bool}

omit [DecidableEq H] in
theorem pausing_of_pause? {current : IdlePause H} {stage : PauseStage}
    (inside : task.pause? = some (current, stage)) (decided : stage.decided = true) :
    task.pausing = some current.hash := by
  simp [Task.pausing, inside, decided]

theorem of_pause {current : IdlePause H} {stage : PauseStage} {target : Option PauseStage}
    (inside : task.pause? = some (current, stage))
    (apart : task.KeepsApart fs tasks ok) (stepped : PauseStep fs after current stage target)
    (follows : ∀ follow ∈ next, follow.starting = none ∧ follow.resumed = none ∧
      follow.counted = none ∧ follow.removing = [] ∧
        follow.pause? = target.map fun stage => (current, stage)) :
    IdleStep fs after tasks task next where
  native := stepped.native
  owed := fun hash => by
    rw [List.filterMap_eq_nil_iff.mpr fun follow member => (follows follow member).2.2.1,
      watchedTorrents, stepped.watched, stepped.streams, List.count_nil, watchedTorrents]
    omega
  watched := fun hash member => .inl (by rwa [watchedTorrents, stepped.watched] at member)
  counted := fun follow member hash counted => by
    rw [(follows follow member).2.2.1] at counted
    cases counted
  resumed := fun follow member hash resumed => by
    rw [(follows follow member).2.1] at resumed
    cases resumed
  paused := fun hash paused => (stepped.paused hash paused).imp_right fun pauses => by
    rw [pausing_of_pause? inside pauses.1, pauses.2]
  pausing := fun follow member hash pausing => by
    have continued := (follows follow member).2.2.2.2
    cases target with
    | none =>
      simp [Task.pausing, continued] at pausing
    | some target =>
      simp only [Task.pausing, continued, Option.map_some, Option.ite_none_right_eq_some,
        Option.some.injEq] at pausing
      obtain ⟨decided, rfl⟩ := pausing
      rcases stepped.decided target rfl decided with before | ⟨rfl, absent⟩
      · exact .inl (pausing_of_pause? inside before)
      · have checks : task.pauseChecks = some current.hash := by
          simp [Task.pauseChecks, inside]
        exact .inr ⟨absent, apart.1 current.hash checks absent⟩
  starting := fun follow member hash starting => by
    rw [(follows follow member).1] at starting
    cases starting
  found := fun follow member hash found => by
    rw [Task.found_eq_none (follows follow member).1] at found
    cases found
  removed := fun hash removed => .inl (by rwa [stepped.removed] at removed)
  removing := fun follow member hash removes => by
    rw [(follows follow member).2.2.2.1] at removes
    cases removes
  mapped := fun hash member => .inr ⟨stepped.mapped hash member, by rw [stepped.removed]⟩

theorem of_removal {stage target : PeriodicStage H} (same : SameActivity fs after)
    (pausing : Task.pausing (.periodic target) = none)
    (removing : ∀ hash ∈ Task.removing (.periodic target),
      hash ∈ Task.removing (.periodic stage) ∨
        hash ∉ fs.activeStreams ∧ hash ∉ tasks.filterMap Task.starting) :
    IdleStep fs after tasks (.periodic stage) [.periodic target] where
  native := same.native
  owed := owed_of_sameActivity same (List.forall_mem_singleton.mpr rfl)
  watched := fun hash member => .inl (by rwa [watchedTorrents, same.watched] at member)
  counted := List.forall_mem_singleton.mpr (by rintro _ ⟨⟩)
  resumed := List.forall_mem_singleton.mpr (by rintro _ ⟨⟩)
  paused := fun hash paused => .inl (same.paused hash paused)
  pausing := List.forall_mem_singleton.mpr fun hash pauses => by
    rw [pausing] at pauses
    cases pauses
  starting := List.forall_mem_singleton.mpr (by rintro _ ⟨⟩)
  found := List.forall_mem_singleton.mpr (by rintro _ ⟨⟩)
  removed := fun hash removed => .inl (by rwa [same.removed] at removed)
  removing := List.forall_mem_singleton.mpr removing
  mapped := mapped_of_sameActivity same

end IdleStep

namespace PeriodicStage

variable {fs after : BackendEngineFs H} {ok : Bool} {stage next : PeriodicStage H}
  {tasks : List (Task H)}

-- The look at one engine: what it decides to remove had no stream when it looked.
theorem scanned {now : Nat} {check : RemovalCheck H} {scan : RemovalStage} {rest : List (H × Nat)}
    {toRemove : List H}
    (apart : (Task.periodic (.scanning now (some (check, scan)) rest toRemove)).KeepsApart fs tasks
      ok) {target : RemovalStage} (taken : check.advance fs scan = .inr target)
    (decided : target.decided = true) :
    scan.decided = true ∨
      check.hash ∉ fs.activeStreams ∧ check.hash ∉ tasks.filterMap Task.starting := by
  cases scan with
  | age =>
    simp only [RemovalCheck.advance] at taken
    split at taken <;> cases taken
    cases decided
  | streamCount active =>
    cases taken
    cases active with
    | true => cases decided
    | false =>
      have absent : check.hash ∉ fs.activeStreams := by
        intro member
        simp [RemovalStage.decided, member] at decided
      exact .inr ⟨absent, apart.2.1 check.hash rfl absent⟩
  | fileStreamCount active | leaseCount active | activeFile active =>
    cases taken
    exact .inl (decided_of_or decided)
  | multifile active => cases taken

theorem decided_of_removes {check : RemovalCheck H} {scan : RemovalStage}
    (taken : check.advance fs scan = .inl true) : scan.decided = true := by
  cases scan with
  | age =>
    simp only [RemovalCheck.advance] at taken
    split at taken <;> cases taken
  | multifile active =>
    simp only [RemovalCheck.advance, Sum.inl.injEq] at taken
    exact decided_of_or taken
  | _ => cases taken

omit [DecidableEq H] in
theorem mem_removing_of_mem {now : Nat} {check : RemovalCheck H} {scan : RemovalStage}
    {rest : List (H × Nat)} {toRemove : List H} {hash : H} (member : hash ∈ toRemove) :
    hash ∈ Task.removing (.periodic (.scanning now (some (check, scan)) rest toRemove)) := by
  simp only [Task.removing]
  split
  · exact List.mem_cons_of_mem _ member
  · exact member

omit [DecidableEq H] in
theorem mem_removing_of_decided {now : Nat} {check : RemovalCheck H} {scan : RemovalStage}
    {rest : List (H × Nat)} {toRemove : List H} (decided : scan.decided = true) :
    check.hash ∈ Task.removing (.periodic (.scanning now (some (check, scan)) rest toRemove)) := by
  simp [Task.removing, decided]

theorem advance_idle (apart : (Task.periodic stage).KeepsApart fs tasks ok)
    (taken : stage.advance fs ok = some (after, next)) :
    IdleStep fs after tasks (.periodic stage) [.periodic next] := by
  cases advance_move taken with
  | wakes =>
    exact .of_removal ⟨rfl, rfl, rfl, rfl, fun _ member => member, fun _ paused => paused⟩ rfl
      (List.forall_mem_nil _)
  | expiring | expired | scannedNone | dropped | seeding | seedingPolicy | skips | pausing | paused =>
    exact .of_removal (.refl fs) rfl (List.forall_mem_nil _)
  | cleans _ cleanup scan =>
    exact .of_removal (cleanup.advance_sameActivity fs ok scan) rfl (List.forall_mem_nil _)
  | scanning | scanned => exact .of_removal (.refl fs) rfl fun hash member => .inl member
  | checks now check scan target rest toRemove moved =>
    refine .of_removal (.refl fs) rfl fun hash member => ?_
    simp only [Task.removing] at member
    split at member
    next decided =>
      rcases List.mem_cons.mp member with rfl | earlier
      · exact (scanned apart moved decided).imp_left mem_removing_of_decided
      · exact .inl (mem_removing_of_mem earlier)
    next => exact .inl (mem_removing_of_mem member)
  | condemns now check scan rest toRemove removes =>
    refine .of_removal (.refl fs) rfl fun hash member => ?_
    rcases List.mem_append.mp member with earlier | new
    · exact .inl (mem_removing_of_mem earlier)
    · cases List.mem_singleton.mp new
      exact .inl (mem_removing_of_decided (decided_of_removes removes))
  | spares => exact .of_removal (.refl fs) rfl fun hash member => .inl (mem_removing_of_mem member)
  | removing now toRemove =>
    have step : IdleStep fs fs tasks (.periodic (.removing now toRemove))
        [.periodic (.dropping now toRemove)] :=
      .of_removal (.refl fs) rfl fun hash member => .inl member
    refine { step with removed := fun hash removed => ?_, mapped := fun hash member => ?_ }
    · simp only [Bool.or_eq_true, decide_eq_true_eq] at removed
      exact removed.symm
    · obtain ⟨entry, present, rfl⟩ := List.mem_map.mp member
      obtain ⟨before, kept⟩ := List.mem_filter.mp present
      refine .inr ⟨List.mem_map.mpr ⟨entry, before, rfl⟩, ?_⟩
      simp [of_decide_eq_true kept]
  | dropping now hash rest =>
    refine .of_removal ?_ rfl fun hash member => .inl (List.mem_cons_of_mem _ member)
    split
    · exact .updateTorrent fs _ fun _ paused => paused
    · exact .refl fs
  | pauses now task stage rest =>
    exact .of_pause rfl apart (task.advance_step fs ok stage)
      (List.forall_mem_singleton.mpr ⟨rfl, rfl, rfl, rfl, rfl⟩)

end PeriodicStage

end StreamServer.EngineFs
