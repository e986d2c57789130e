import StreamServer.EngineFs.IdleSteps

set_option autoImplicit false

namespace StreamServer.EngineFs

open BackendEngineFs

variable {H : Type} [DecidableEq H]

namespace Task

variable {fs after : BackendEngineFs H} {tasks next : List (Task H)} {task : Task H} {ok : Bool}

omit [DecidableEq H] in
theorem bystander_activation (call : Activation H) (stage : ActivationStage)
    (counts : call.counts = false) : (Task.activation call stage).Bystander := by
  refine ⟨?_, ?_, rfl, rfl, rfl⟩
  · simp [starting, counts]
  · simp [resumed, counts]

omit [DecidableEq H] in
theorem bystander_of_mem_schedulePause {hash : H} {condition : Bool} {follow : Task H}
    (member : follow ∈ if condition then [schedulePause fs hash] else []) : follow.Bystander := by
  split at member
  · cases List.mem_singleton.mp member
    exact ⟨rfl, rfl, rfl, rfl, rfl⟩
  · cases member

theorem refreshed_idle {key : H × Nat} {expiresAt fileIdx : Nat} {hash : H}
    {native : List (Task H)} {engine : Option Nat} (bystanders : ∀ follow ∈ native, follow.Bystander)
    (refreshed : RefreshMove (fs.insertLease key expiresAt) hash fileIdx native engine after next) :
    IdleStep fs after tasks task next := by
  have inserted := SameActivity.insertLease fs key expiresAt
  cases refreshed with
  | unknown => exact .last inserted
  | native engine => exact .of_bystanders (inserted.trans (.touch _ engine)) bystanders
  | activates =>
    exact .of_bystanders inserted (List.forall_mem_singleton.mpr (bystander_activation _ _ rfl))

theorem countTorrent_idle (hash : H) (fileIdx : Nat) :
    IdleStep fs { fs with activeStreams := hash :: fs.activeStreams } tasks
      (.countTorrent hash fileIdx) [.countFile hash fileIdx] where
  native := rfl
  owed := fun other => by
    simp only [watchedTorrents, List.filterMap_cons, List.filterMap_nil, counted, Option.toList_none,
      List.count_cons, List.count_nil]
    omega
  watched := fun _ member => .inl member
  counted := List.forall_mem_singleton.mpr fun other same => ⟨same, same⟩
  resumed := List.forall_mem_singleton.mpr (by rintro _ ⟨⟩)
  paused := fun _ paused => .inl paused
  pausing := List.forall_mem_singleton.mpr (by rintro _ ⟨⟩)
  starting := List.forall_mem_singleton.mpr (by rintro _ ⟨⟩)
  found := List.forall_mem_singleton.mpr (by rintro _ ⟨⟩)
  removed := fun _ removed => .inl removed
  removing := List.forall_mem_singleton.mpr (List.forall_mem_nil _)
  mapped := fun _ member => .inr ⟨member, rfl⟩

theorem countFile_idle (hash : H) (fileIdx : Nat) :
    IdleStep fs
      { fs with
        activeFileStreams := (hash, fileIdx) :: fs.activeFileStreams
        watched := (hash, fileIdx) :: fs.watched } tasks
      (.countFile hash fileIdx) [] where
  native := rfl
  owed := fun other => by
    simp only [watchedTorrents, List.map_cons, List.filterMap_nil, counted, Option.toList_some,
      List.count_cons, List.count_nil]
    omega
  watched := fun other member => by
    rcases List.mem_cons.mp member with rfl | earlier
    · exact .inr rfl
    · exact .inl earlier
  counted := List.forall_mem_nil _
  resumed := List.forall_mem_nil _
  paused := fun _ paused => .inl paused
  pausing := List.forall_mem_nil _
  starting := List.forall_mem_nil _
  found := List.forall_mem_nil _
  removed := fun _ removed => .inl removed
  removing := List.forall_mem_nil _
  mapped := fun _ member => .inr ⟨member, rfl⟩

theorem endTorrent_idle (hash : H) (fileIdx : Nat) {hashRemaining : Nat} :
    IdleStep fs { fs with activeStreams := fs.activeStreams.erase hash } tasks
      (.endTorrent hash fileIdx) [.endFile hash fileIdx hashRemaining] := by
  have step : IdleStep fs fs tasks (.endTorrent hash fileIdx)
      [.endFile hash fileIdx hashRemaining] :=
    .followed (.refl fs) ⟨rfl, rfl, rfl, rfl, rfl⟩
  refine { step with owed := fun other => ?_ }
  simp only [watchedTorrents, List.filterMap_cons, List.filterMap_nil, counted, Option.toList_some,
    List.count_nil]
  by_cases same : hash = other
  · rw [same, List.count_erase_self, List.count_singleton_self]
    omega
  · rw [List.count_erase_of_ne fun equal => same equal.symm, List.count_cons_of_ne same]
    omega

theorem advance_idle (apart : task.KeepsApart fs tasks ok)
    (taken : task.advance fs ok = some (after, next)) : IdleStep fs after tasks task next := by
  cases advance_move taken with
  | streamStartNative hash fileIdx native =>
    have mapped := apart.2.2.1 hash rfl
    refine .of_start (.getEngine fs hash) rfl rfl rfl (fun _ starts => starts) ?_ fun _ _ =>
      .inr (.inl native)
    rintro _ ⟨⟩
    exact .inr ⟨rfl, mapped⟩
  | streamStart hash fileIdx =>
    have mapped := apart.2.2.1 hash rfl
    refine .of_start (.getEngine fs hash) rfl rfl rfl (fun _ starts => starts) ?_ (by rintro _ ⟨⟩)
    rintro _ ⟨⟩
    exact .inr ⟨rfl, mapped⟩
  | nativeTouch hash =>
    exact .of_start (.getEngine fs hash) rfl rfl rfl (fun _ starts => starts)
      (fun _ found => .inl found) fun _ resumed => .inl resumed
  | nativeStarted =>
    exact .of_start (.setActiveFile fs _) rfl rfl rfl (fun _ starts => starts)
      (fun _ found => .inl found) fun _ resumed => .inl resumed
  | nativeFile => exact .last (.setActiveFile fs _)
  | countTorrent hash fileIdx => exact countTorrent_idle hash fileIdx
  | countFile hash fileIdx => exact countFile_idle hash fileIdx
  | activation call stage => exact call.advance_idle stage apart
  | playbackNative hash | ended hash | endedHls hash => exact .last (.getEngine fs hash)
  | playbackLookup hash =>
    exact .of_bystanders (.getEngine fs hash)
      (List.forall_mem_singleton.mpr (bystander_activation _ _ rfl))
  | endTorrent hash fileIdx => exact endTorrent_idle hash fileIdx
  | endFile | endHls =>
    exact .of_bystanders ⟨rfl, rfl, rfl, rfl, fun _ member => member, fun _ paused => paused⟩
      (List.forall_mem_singleton.mpr ⟨rfl, rfl, rfl, rfl, rfl⟩)
  | endLookup hash =>
    refine .of_bystanders (.getEngine fs hash) fun follow member => ?_
    rcases List.mem_append.mp member with scheduled | cleans
    · split at scheduled
      · cases List.mem_singleton.mp scheduled
        exact ⟨rfl, rfl, rfl, rfl, rfl⟩
      · cases scheduled
    · cases List.mem_singleton.mp cleans
      exact ⟨rfl, rfl, rfl, rfl, rfl⟩
  | cleanupNative hash =>
    exact .of_bystanders (.getEngine fs hash) fun _ => bystander_of_mem_schedulePause
  | cleanupLookup hash | refreshHls hash | refreshExistingHls hash | endHlsLookup hash =>
    exact .followed (.getEngine fs hash) ⟨rfl, rfl, rfl, rfl, rfl⟩
  | cleanupGeneration =>
    refine .of_bystanders (.refl fs) fun follow member => ?_
    rcases List.mem_cons.mp member with rfl | scheduled
    · exact ⟨rfl, rfl, rfl, rfl, rfl⟩
    · exact bystander_of_mem_schedulePause scheduled
  | insertLease _ _ _ _ _ _ _ refreshed =>
    exact refreshed_idle (List.forall_mem_singleton.mpr ⟨rfl, rfl, rfl, rfl, rfl⟩) refreshed
  | extendLease _ _ _ _ _ _ _ refreshed => exact refreshed_idle (List.forall_mem_nil _) refreshed
  | leaseGone =>
    exact .last ⟨rfl, rfl, rfl, rfl, fun _ member => member, fun _ paused => paused⟩
  | cleanupDue | pauseDue | reseedLock | reseedRunning | reseedFailed =>
    exact .followed (.refl fs) ⟨rfl, rfl, rfl, rfl, rfl⟩
  | cleanup cleanup stage =>
    refine .of_bystanders (cleanup.advance_sameActivity fs ok stage) fun follow member => ?_
    obtain ⟨stage, _, rfl⟩ := Option.map_eq_some_iff.mp (Option.mem_toList.mp member)
    exact ⟨rfl, rfl, rfl, rfl, rfl⟩
  | pause task stage =>
    refine .of_pause rfl apart (task.advance_step fs ok stage) fun follow member => ?_
    obtain ⟨target, moved, rfl⟩ := Option.map_eq_some_iff.mp (Option.mem_toList.mp member)
    rw [moved]
    exact ⟨rfl, rfl, rfl, rfl, rfl⟩
  | reseeded => exact .last (.refl fs)
  | reseed | reseedRestore => exact .followed (.setIdlePaused fs _ _) ⟨rfl, rfl, rfl, rfl, rfl⟩
  | reseedResume => exact .followed (.resume fs _) ⟨rfl, rfl, rfl, rfl, rfl⟩
  | engineKnown hash engine => exact .last (.touch fs engine)
  | insertEngine hash =>
    have step : IdleStep fs fs tasks (.insertEngine hash) [] :=
      .of_bystanders (.refl fs) (List.forall_mem_nil _)
    refine { step with removed := fun other removed => ?_, mapped := fun other member => ?_ }
    · by_cases same : other = hash
      · simp [same] at removed
      · exact .inl (by simpa [same] using removed)
    · by_cases same : other = hash
      · exact .inl (by simp [same])
      · exact .inr ⟨(List.mem_cons.mp member).resolve_left same, by simp [same]⟩
  | periodic stage next _ moved => exact PeriodicStage.advance_idle apart moved

end Task

end StreamServer.EngineFs
