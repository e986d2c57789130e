import StreamServer.EngineFs.FileEffects

set_option autoImplicit false

namespace StreamServer.EngineFs

open BackendEngineFs Runs

variable {H : Type}

namespace Task

variable (task : Task H) (tasks more : List (Task H))

@[simp] theorem endings_cons : endings (task :: tasks) = task.ending.toList ++ endings tasks := by
  cases found : task.ending <;> simp [endings, found]

@[simp] theorem endings_append : endings (tasks ++ more) = endings tasks ++ endings more :=
  List.filterMap_append

@[simp] theorem selections_cons :
    selections (task :: tasks) = task.selecting.toList ++ selections tasks := by
  cases found : task.selecting <;> simp [selections, found]

@[simp] theorem selections_append :
    selections (tasks ++ more) = selections tasks ++ selections more :=
  List.filterMap_append

@[simp] theorem cleanups_cons : cleanups (task :: tasks) = task.cleanup?.toList ++ cleanups tasks := by
  cases found : task.cleanup? <;> simp [cleanups, found]

@[simp] theorem cleanups_append : cleanups (tasks ++ more) = cleanups tasks ++ cleanups more :=
  List.filterMap_append

@[simp] theorem endings_nil : endings ([] : List (Task H)) = [] := rfl

@[simp] theorem selections_nil : selections ([] : List (Task H)) = [] := rfl

@[simp] theorem cleanups_nil : cleanups ([] : List (Task H)) = [] := rfl

end Task

variable [DecidableEq H]

-- In every state of a run that keeps clear of the cleanups. The counter is exact only for the
-- selected file: a switch drops the counts of the files it leaves.
structure FilesSafe (fs : BackendEngineFs H) (tasks : List (Task H)) : Prop where
  covered : ∀ hash fileIdx,
    fs.selectedFile hash = some fileIdx ∨ fs.isMultifile hash = false →
      Task.Covered fs tasks (hash, fileIdx)
  flights : ∀ hash fileIdx, (hash, fileIdx) ∈ Task.selections tasks →
    fs.isMultifile hash = true ∧ ∀ selected, fs.selectedFile hash = some selected →
      selected = fileIdx
  spared : ∀ cleanup stage, (cleanup, stage) ∈ Task.cleanups tasks → ∀ fileIdx,
    (cleanup.hash, fileIdx) ∈ fs.watched → cleanup.Spares fs fileIdx stage
  prioritized : ∀ hash fileIdx, hash ∉ (Task.selections tasks).map (·.1) →
    fs.wanted hash = some fileIdx → (hash, fileIdx) ∈ fs.watched →
      fs.selectedFile hash = some fileIdx
  -- The priorities of a native backend are not ours to set.
  unplanned : fs.native = true → ∀ hash, fs.wanted hash = none
  cleanups : fs.native = true → ∀ cleanup stage, (cleanup, stage) ∈ Task.cleanups tasks →
    stage.setsPriorities = false
  reconciles : fs.native = true → ∀ task ∈ tasks, task.reconciles = false

namespace FilesSafe

variable {fs after : BackendEngineFs H} {tasks rest next : List (Task H)} {task : Task H} {ok : Bool}

theorem perm {reordered : List (Task H)} (safe : FilesSafe fs tasks)
    (order : tasks.Perm reordered) : FilesSafe fs reordered := by
  have endings : (Task.endings tasks).Perm (Task.endings reordered) := order.filterMap _
  have selections : (Task.selections tasks).Perm (Task.selections reordered) := order.filterMap _
  have cleanups : (Task.cleanups tasks).Perm (Task.cleanups reordered) := order.filterMap _
  constructor
  · intro hash fileIdx condition
    simpa only [Task.Covered, endings.count_eq] using safe.covered hash fileIdx condition
  · intro hash fileIdx member
    exact safe.flights hash fileIdx (selections.mem_iff.mpr member)
  · intro cleanup stage member
    exact safe.spared cleanup stage (cleanups.mem_iff.mpr member)
  · intro hash fileIdx absent
    exact safe.prioritized hash fileIdx fun member => absent ((selections.map _).mem_iff.mp member)
  · exact safe.unplanned
  · intro native cleanup stage member
    exact safe.cleanups native cleanup stage (cleanups.mem_iff.mpr member)
  · intro native task member
    exact safe.reconciles native task (order.mem_iff.mpr member)

theorem retask {tasks' : List (Task H)} (safe : FilesSafe fs tasks) (same : SameFiles fs after)
    (endings : ∀ key, (Task.endings tasks').count key ≤ (Task.endings tasks).count key)
    (selections : ∀ key, key ∈ Task.selections tasks' ↔ key ∈ Task.selections tasks)
    (spared : ∀ cleanup stage, (cleanup, stage) ∈ Task.cleanups tasks' →
      (cleanup, stage) ∈ Task.cleanups tasks ∨
        (∀ fileIdx, (cleanup.hash, fileIdx) ∈ fs.watched → cleanup.Spares fs fileIdx stage) ∧
          (fs.native = true → stage.setsPriorities = false))
    (reconciles : fs.native = true → ∀ task ∈ tasks', task ∈ tasks ∨ task.reconciles = false) :
    FilesSafe after tasks' := by
  constructor
  · intro hash fileIdx condition
    rw [same.selectedFile, same.isMultifile] at condition
    have covered := safe.covered hash fileIdx condition
    have fewer := endings (hash, fileIdx)
    simp only [Task.Covered, same.watched, same.streams] at covered ⊢
    omega
  · intro hash fileIdx member
    rw [same.isMultifile, same.selectedFile]
    exact safe.flights hash fileIdx ((selections _).mp member)
  · intro cleanup stage member fileIdx watched
    rw [same.watched] at watched
    apply same.spares
    rcases spared cleanup stage member with before | ⟨spares, _⟩
    · exact safe.spared cleanup stage before fileIdx watched
    · exact spares fileIdx watched
  · intro hash fileIdx absent wanted watched
    rw [same.selectedFile]
    rw [same.wanted] at wanted
    rw [same.watched] at watched
    refine safe.prioritized hash fileIdx (fun member => absent ?_) wanted watched
    obtain ⟨key, selecting, rfl⟩ := List.mem_map.mp member
    exact List.mem_map.mpr ⟨key, (selections key).mpr selecting, rfl⟩
  · intro native hash
    rw [same.native] at native
    rw [same.wanted]
    exact safe.unplanned native hash
  · intro native cleanup stage member
    rw [same.native] at native
    rcases spared cleanup stage member with before | ⟨_, idle⟩
    · exact safe.cleanups native cleanup stage before
    · exact idle native
  · intro native task member
    rw [same.native] at native
    rcases reconciles native task member with before | idle
    · exact safe.reconciles native task before
    · exact idle

theorem quiet (safe : FilesSafe fs (task :: rest)) (same : SameFiles fs after)
    (endings : Task.endings next = task.ending.toList)
    (selections : Task.selections next = task.selecting.toList)
    (cleanups : ∀ follow ∈ next, ∀ cleanup stage, follow.cleanup? = some (cleanup, stage) →
      stage = .checkStreams)
    (reconciles : ∀ follow ∈ next, follow.reconciles = true → fs.native = false) :
    FilesSafe after (rest ++ next) := by
  refine safe.retask same ?_ ?_ ?_ ?_
  · intro key
    simp only [Task.endings_append, Task.endings_cons, List.count_append, endings]
    omega
  · intro key
    simp only [Task.selections_append, Task.selections_cons, List.mem_append, selections]
    exact or_comm
  · intro cleanup stage member
    rw [Task.cleanups_append] at member
    rcases List.mem_append.mp member with earlier | new
    · left
      rw [Task.cleanups_cons]
      exact List.mem_append_right _ earlier
    · obtain ⟨follow, present, inside⟩ := List.mem_filterMap.mp new
      cases cleanups follow present cleanup stage inside
      exact .inr ⟨fun _ _ => trivial, fun _ => rfl⟩
  · intro native follow member
    rcases List.mem_append.mp member with earlier | new
    · exact .inl (List.mem_cons_of_mem _ earlier)
    · right
      by_contra sets
      rw [reconciles follow new ((Bool.not_eq_false _).mp sets)] at native
      cases native

theorem counted {hash : H} {fileIdx : Nat} (safe : FilesSafe fs (.countFile hash fileIdx :: rest))
    (clear : Task.CountsClear fs (.countFile hash fileIdx :: rest) (hash, fileIdx)) :
    FilesSafe
      { fs with
        activeFileStreams := (hash, fileIdx) :: fs.activeFileStreams
        watched := (hash, fileIdx) :: fs.watched } rest := by
  constructor
  · intro other otherIdx condition
    have covered := safe.covered other otherIdx condition
    simp only [Task.Covered, Task.endings_cons, Task.ending, Option.toList_none, List.nil_append,
      List.count_cons] at covered ⊢
    omega
  · exact safe.flights
  · intro cleanup stage member otherIdx watched
    rcases List.mem_cons.mp watched with same | earlier
    · cases same
      exact clear.1 (cleanup, stage) member rfl
    · exact safe.spared cleanup stage member otherIdx earlier
  · intro other otherIdx absent wanted watched
    rcases List.mem_cons.mp watched with same | earlier
    · cases same
      exact clear.2 wanted
    · exact safe.prioritized other otherIdx absent wanted earlier
  · exact safe.unplanned
  · exact safe.cleanups
  · exact fun native task member => safe.reconciles native task (List.mem_cons_of_mem _ member)

theorem append_plain (safe : FilesSafe fs rest) (plain : ∀ follow ∈ next, follow.Plain) :
    FilesSafe fs (rest ++ next) := by
  have endings : Task.endings next = [] :=
    List.filterMap_eq_nil_iff.mpr fun follow member => (plain follow member).ending
  have selections : Task.selections next = [] :=
    List.filterMap_eq_nil_iff.mpr fun follow member => (plain follow member).selecting
  have cleanups : Task.cleanups next = [] :=
    List.filterMap_eq_nil_iff.mpr fun follow member => (plain follow member).cleanup
  refine safe.retask (.refl fs) (fun key => ?_) (fun key => ?_) (fun cleanup stage member => ?_) ?_
  · rw [Task.endings_append, endings, List.append_nil]
  · rw [Task.selections_append, selections, List.append_nil]
  · rw [Task.cleanups_append, cleanups, List.append_nil] at member
    exact .inl member
  · intro _ follow member
    rcases List.mem_append.mp member with earlier | new
    · exact .inl earlier
    · exact .inr (plain follow new).reconciles

theorem ended {hash : H} {fileIdx hashRemaining fileRemaining : Nat}
    (safe : FilesSafe fs (.endFile hash fileIdx hashRemaining :: rest)) :
    FilesSafe { fs with activeFileStreams := fs.activeFileStreams.erase (hash, fileIdx) }
      (rest ++ [.endLookup hash fileIdx hashRemaining fileRemaining]) := by
  refine append_plain ?_ (List.forall_mem_singleton.mpr ⟨rfl, rfl, rfl, rfl⟩)
  constructor
  · intro other otherIdx condition
    have covered := safe.covered other otherIdx condition
    simp only [Task.Covered, Task.endings_cons, Task.ending, Option.toList_some,
      List.singleton_append] at covered ⊢
    by_cases same : (hash, fileIdx) = (other, otherIdx)
    · rw [same, List.count_cons_self] at covered
      rw [same, List.count_erase_self]
      omega
    · rw [List.count_cons_of_ne same] at covered
      rw [List.count_erase_of_ne fun equal => same equal.symm]
      exact covered
  · exact safe.flights
  · exact safe.spared
  · exact safe.prioritized
  · exact safe.unplanned
  · exact safe.cleanups
  · exact fun native task member => safe.reconciles native task (List.mem_cons_of_mem _ member)

theorem selected {call : Activation H} {engine generation : Nat}
    (safe : FilesSafe fs (.activation call (.select engine generation) :: rest))
    (clear : Task.SelectsClear fs (.activation call (.select engine generation) :: rest) call
      generation) :
    FilesSafe (fs.select call.hash (some ⟨call.fileIdx, generation⟩))
      (rest ++ [.activation call (.dropLeases engine)]) := by
  obtain ⟨multifile, alone, exact, spared⟩ := clear
  have chosen : (fs.select call.hash (some ⟨call.fileIdx, generation⟩)).selectedFile call.hash =
      some call.fileIdx := by simp [select, selectedFile]
  have elsewhere (other : H) (different : other ≠ call.hash) :
      (fs.select call.hash (some ⟨call.fileIdx, generation⟩)).selectedFile other =
        fs.selectedFile other := by simp [select, selectedFile, different]
  constructor
  · intro other otherIdx condition
    have endings : Task.endings (rest ++ [.activation call (.dropLeases engine)]) =
        Task.endings (.activation call (.select engine generation) :: rest) := by
      simp [Task.ending]
    rw [Task.Covered, endings]
    by_cases same : other = call.hash
    · subst same
      rcases condition with selects | single
      · rw [chosen] at selects
        cases selects
        exact exact
      · exact absurd (multifile.symm.trans single) Bool.noConfusion
    · rw [elsewhere other same] at condition
      exact safe.covered other otherIdx condition
  · intro other otherIdx member
    rw [Task.selections_append] at member
    rcases List.mem_append.mp member with earlier | new
    · have different : other ≠ call.hash := by
        rintro rfl
        exact alone (List.mem_map_of_mem (f := (·.1)) earlier)
      rw [elsewhere other different]
      exact safe.flights other otherIdx earlier
    · cases List.mem_singleton.mp new
      rw [chosen]
      exact ⟨multifile, fun selected same => (Option.some.inj same).symm⟩
  · intro cleanup stage member otherIdx watched
    have present : (cleanup, stage) ∈ Task.cleanups rest := by simpa [Task.cleanup?] using member
    by_cases same : cleanup.hash = call.hash
    · exact spared (cleanup, stage) present same (cleanup.hash, otherIdx) watched same
    · exact (safe.spared cleanup stage present otherIdx watched).congr (by rw [elsewhere _ same]) rfl
  · intro other otherIdx absent wanted watched
    have different : other ≠ call.hash := by
      rintro rfl
      simp [Task.selecting] at absent
    rw [elsewhere other different]
    refine safe.prioritized other otherIdx (fun member => absent ?_) wanted watched
    rw [Task.selections_append, List.map_append]
    exact List.mem_append_left _ member
  · exact safe.unplanned
  · intro native cleanup stage member
    exact safe.cleanups native cleanup stage (by simpa [Task.cleanup?] using member)
  · intro native task member
    rcases List.mem_append.mp member with earlier | new
    · exact safe.reconciles native task (List.mem_cons_of_mem _ earlier)
    · cases List.mem_singleton.mp new
      rfl

theorem dropped {call : Activation H} {engine : Nat}
    (safe : FilesSafe fs (.activation call (.dropStreams engine) :: rest)) :
    FilesSafe
      { fs with
        activeFileStreams := fs.activeFileStreams.filter fun stream =>
          stream.1 != call.hash || stream.2 == call.fileIdx }
      (rest ++ [.activation call (.multifileActive engine)]) := by
  have moved : FilesSafe fs (rest ++ [.activation call (.multifileActive engine)]) := by
    refine safe.quiet (.refl fs) rfl rfl ?_ ?_
    · intro follow member cleanup stage inside
      cases List.mem_singleton.mp member
      cases inside
    · intro follow member sets
      cases List.mem_singleton.mp member
      cases sets
  obtain ⟨multifile, only⟩ := safe.flights call.hash call.fileIdx (by simp [Task.selecting])
  refine ⟨?_, moved.flights, moved.spared, moved.prioritized, moved.unplanned, moved.cleanups,
    moved.reconciles⟩
  intro other otherIdx condition
  have covered := moved.covered other otherIdx condition
  -- Only counts of files that are not selected are dropped.
  have kept : (other != call.hash || otherIdx == call.fileIdx) = true := by
    by_cases same : other = call.hash
    · subst same
      rcases condition with selects | single
      · simp [only otherIdx selects]
      · exact absurd (multifile.symm.trans single) Bool.noConfusion
    · simp [same]
  have same := List.count_filter (l := fs.activeFileStreams) (a := (other, otherIdx))
    (p := fun stream => stream.1 != call.hash || stream.2 == call.fileIdx) kept
  exact Nat.le_trans covered (Nat.le_of_eq same.symm)

theorem skipped {call : Activation H} (safe : FilesSafe fs (.activation call .reconcileCount :: rest))
    (reason : fs.native = true ∨ fs.isMultifile call.hash = false) :
    FilesSafe fs (rest ++ Task.afterActivation call none) := by
  refine append_plain ?_ fun _ => Task.plain_of_mem_afterActivation
  obtain ⟨multifile, only⟩ := safe.flights call.hash call.fileIdx (by simp [Task.selecting])
  have native : fs.native = true := by
    refine reason.resolve_right fun single => ?_
    exact absurd (multifile.symm.trans single) Bool.noConfusion
  constructor
  · exact safe.covered
  · intro other otherIdx member
    exact safe.flights other otherIdx (List.mem_cons_of_mem _ member)
  · exact safe.spared
  · intro other otherIdx absent wanted watched
    rw [safe.unplanned native other] at wanted
    cases wanted
  · exact safe.unplanned
  · exact safe.cleanups
  · exact fun native task member => safe.reconciles native task (List.mem_cons_of_mem _ member)

theorem reconciled {call : Activation H} (safe : FilesSafe fs (.activation call .reconcile :: rest))
    (succeeds : ok = true)
    (selected : (call.hash, call.fileIdx) ∈ fs.watched →
      fs.selectedFile call.hash = some call.fileIdx) :
    FilesSafe (if ok then fs.reconcileFilePriorities call.hash (some call.fileIdx) else fs)
      (rest ++ Task.afterActivation call none) := by
  refine append_plain ?_ fun _ => Task.plain_of_mem_afterActivation
  rw [if_pos succeeds]
  have own : fs.native = false := by
    by_contra native
    exact Bool.noConfusion (safe.reconciles ((Bool.not_eq_false _).mp native) _ List.mem_cons_self)
  have fileCount (other : H) :
      (fs.reconcileFilePriorities call.hash (some call.fileIdx)).isMultifile other =
        fs.isMultifile other := by
    by_cases same : other = call.hash <;>
      simp [reconcileFilePriorities, updateTorrent, isMultifile, same]
  constructor
  · intro other otherIdx condition
    rw [fileCount] at condition
    exact safe.covered other otherIdx condition
  · intro other otherIdx member
    rw [fileCount]
    exact safe.flights other otherIdx (List.mem_cons_of_mem _ member)
  · intro cleanup stage member otherIdx watched
    exact (safe.spared cleanup stage member otherIdx watched).congr .rfl (fileCount _)
  · intro other otherIdx absent wanted watched
    by_cases same : other = call.hash
    · subst same
      simp only [BackendEngineFs.wanted, reconcileFilePriorities, updateTorrent,
        Function.update_self, Option.some.injEq] at wanted
      subst wanted
      exact selected watched
    · refine safe.prioritized other otherIdx (fun member => ?_) ?_ watched
      · rcases List.mem_cons.mp member with first | later
        · exact same first
        · exact absent later
      · simpa [BackendEngineFs.wanted, reconcileFilePriorities, updateTorrent, same] using wanted
  · intro native
    exact absurd (own.symm.trans native) Bool.noConfusion
  · exact safe.cleanups
  · exact fun native task member => safe.reconciles native task (List.mem_cons_of_mem _ member)

end FilesSafe

end StreamServer.EngineFs
