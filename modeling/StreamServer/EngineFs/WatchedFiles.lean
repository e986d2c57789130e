import StreamServer.EngineFs.CleanupSteps

set_option autoImplicit false

namespace StreamServer.EngineFs

open BackendEngineFs Runs

variable {H : Type} [DecidableEq H]

namespace FilesSafe

variable {fs after : BackendEngineFs H} {tasks : List (Task H)}

theorem call (safe : FilesSafe fs tasks) {task : Task H} (plain : task.Plain)
    (same : SameFiles fs after) : FilesSafe after (tasks ++ [task]) :=
  have added := safe.append_plain (List.forall_mem_singleton.mpr plain)
  added.retask same (fun _ => Nat.le_refl _) (fun _ => .rfl) (fun _ _ member => .inl member)
    fun _ _ member => .inl member

theorem environment (safe : FilesSafe fs tasks) (same : SameFiles fs after) : FilesSafe after tasks :=
  safe.retask same (fun _ => Nat.le_refl _) (fun _ => .rfl) (fun _ _ member => .inl member)
    fun _ _ member => .inl member

theorem streamEnd (safe : FilesSafe fs tasks) {hash : H} {fileIdx : Nat}
    (watched : (hash, fileIdx) ∈ fs.watched) :
    FilesSafe { fs with watched := fs.watched.erase (hash, fileIdx) }
      (tasks ++ [.endTorrent hash fileIdx]) := by
  constructor
  · intro other otherIdx condition
    have covered := safe.covered other otherIdx condition
    simp only [Task.Covered, Task.endings_append, List.count_append] at covered ⊢
    have ends : Task.endings [Task.endTorrent hash fileIdx] = [(hash, fileIdx)] := rfl
    rw [ends]
    by_cases same : (hash, fileIdx) = (other, otherIdx)
    · have counted := List.count_pos_iff.mpr watched
      rw [same] at counted
      rw [same, List.count_erase_self, List.count_singleton_self]
      omega
    · rw [List.count_erase_of_ne fun equal => same equal.symm, List.count_cons_of_ne same]
      exact covered
  · intro other otherIdx member
    rw [Task.selections_append] at member
    exact safe.flights other otherIdx ((List.mem_append.mp member).resolve_right List.not_mem_nil)
  · intro cleanup stage member otherIdx still
    rw [Task.cleanups_append] at member
    exact safe.spared cleanup stage ((List.mem_append.mp member).resolve_right List.not_mem_nil)
      otherIdx (List.mem_of_mem_erase still)
  · intro other otherIdx absent wanted still
    refine safe.prioritized other otherIdx (fun member => absent ?_) wanted
      (List.mem_of_mem_erase still)
    rw [Task.selections_append, List.map_append]
    exact List.mem_append_left _ member
  · exact safe.unplanned
  · intro native cleanup stage member
    rw [Task.cleanups_append] at member
    exact safe.cleanups native cleanup stage
      ((List.mem_append.mp member).resolve_right List.not_mem_nil)
  · intro native task member
    rcases List.mem_append.mp member with earlier | new
    · exact safe.reconciles native task earlier
    · cases List.mem_singleton.mp new
      rfl

theorem added (safe : FilesSafe fs tasks) {hash : H} {fileCount : Nat}
    (unwatched : hash ∉ fs.watched.map (·.1)) (ended : hash ∉ (Task.endings tasks).map (·.1))
    (unselected : hash ∉ (Task.selections tasks).map (·.1)) :
    FilesSafe (fs.updateTorrent hash fun _ => ⟨true, fileCount, false, none⟩) tasks := by
  have elsewhere (other : H) (different : other ≠ hash) :
      (fs.updateTorrent hash fun _ => ⟨true, fileCount, false, none⟩).torrents other =
        fs.torrents other := by simp [updateTorrent, different]
  have idle (fileIdx : Nat) (watched : (hash, fileIdx) ∈ fs.watched) : False :=
    unwatched (List.mem_map_of_mem (f := (·.1)) watched)
  constructor
  · intro other otherIdx condition
    by_cases same : other = hash
    · subst same
      have unended : (other, otherIdx) ∉ Task.endings tasks := fun member =>
        ended (List.mem_map_of_mem (f := (·.1)) member)
      have none : fs.watched.count (other, otherIdx) +
          (Task.endings tasks).count (other, otherIdx) = 0 := by
        rw [List.count_eq_zero.mpr unended, List.count_eq_zero.mpr (idle otherIdx)]
      exact Nat.le_trans (Nat.le_of_eq none) (Nat.zero_le _)
    · rw [isMultifile, elsewhere other same] at condition
      exact safe.covered other otherIdx condition
  · intro other otherIdx member
    have different : other ≠ hash := by
      rintro rfl
      exact unselected (List.mem_map_of_mem (f := (·.1)) member)
    rw [isMultifile, elsewhere other different]
    exact safe.flights other otherIdx member
  · intro cleanup stage member otherIdx watched
    have different : cleanup.hash ≠ hash := by
      rintro same
      rw [same] at watched
      exact idle otherIdx watched
    refine (safe.spared cleanup stage member otherIdx watched).congr .rfl ?_
    rw [isMultifile, elsewhere _ different, isMultifile]
  · intro other otherIdx absent wanted watched
    have different : other ≠ hash := by
      rintro rfl
      exact idle otherIdx watched
    rw [BackendEngineFs.wanted, elsewhere other different] at wanted
    exact safe.prioritized other otherIdx absent wanted watched
  · intro native other
    by_cases same : other = hash
    · simp [BackendEngineFs.wanted, updateTorrent, same]
    · rw [BackendEngineFs.wanted, elsewhere other same]
      exact safe.unplanned native other
  · exact safe.cleanups
  · exact safe.reconciles

theorem resolved (safe : FilesSafe fs tasks) {hash : H} {fileCount : Nat}
    (unknown : fs.isMultifile hash = false) :
    FilesSafe (fs.updateTorrent hash fun torrent => { torrent with fileCount }) tasks := by
  have elsewhere (other : H) (different : other ≠ hash) :
      (fs.updateTorrent hash fun torrent => { torrent with fileCount }).isMultifile other =
        fs.isMultifile other := by simp [updateTorrent, isMultifile, different]
  have wants (other : H) :
      (fs.updateTorrent hash fun torrent => { torrent with fileCount }).wanted other =
        fs.wanted other := by
    by_cases same : other = hash <;> simp [updateTorrent, BackendEngineFs.wanted, same]
  constructor
  · intro other otherIdx condition
    refine safe.covered other otherIdx ?_
    by_cases same : other = hash
    · exact .inr (same ▸ unknown)
    · rwa [elsewhere other same] at condition
  · intro other otherIdx member
    have flight := safe.flights other otherIdx member
    have different : other ≠ hash := by
      rintro rfl
      exact absurd (flight.1.symm.trans unknown) Bool.noConfusion
    rw [elsewhere other different]
    exact flight
  · intro cleanup stage member otherIdx watched
    have spared := safe.spared cleanup stage member otherIdx watched
    by_cases same : cleanup.hash = hash
    · have single : fs.isMultifile cleanup.hash = false := same ▸ unknown
      cases stage with
      | checkStreams => trivial
      | checkLease | takeSelection =>
        intro own
        exact absurd ((spared own).2.symm.trans single) Bool.noConfusion
      | activeFile | lookup | fileCount => exact ⟨fun _ => spared.1 single, spared.2⟩
      | reconcile | clearFileStreaming => exact spared
    · exact spared.congr .rfl (elsewhere _ same)
  · intro other otherIdx absent wanted watched
    rw [wants] at wanted
    exact safe.prioritized other otherIdx absent wanted watched
  · intro native other
    rw [wants]
    exact safe.unplanned native other
  · exact safe.cleanups
  · exact safe.reconciles

theorem abandoned {task : Task H} {rest : List (Task H)} (safe : FilesSafe fs (task :: rest))
    (selecting : task.selecting = none) : FilesSafe fs rest := by
  refine safe.retask (.refl fs) (fun key => ?_) (fun key => ?_) (fun cleanup stage member => ?_) ?_
  · simp
  · simp [selecting]
  · left
    rw [Task.cleanups_cons]
    exact List.mem_append_right _ member
  · exact fun _ follow member => .inl (List.mem_cons_of_mem _ member)

end FilesSafe

theorem filesSafe_new (native : Bool) :
    FilesSafe (System.new native : System H).fs (System.new native : System H).tasks := by
  constructor
  · intro hash fileIdx condition
    exact Nat.le_refl _
  · intro hash fileIdx member
    cases member
  · intro cleanup stage member
    cases member
  · intro hash fileIdx absent wanted
    cases wanted
  · intro native hash
    rfl
  · intro native cleanup stage member
    cases member
  · exact fun native => List.forall_mem_singleton.mpr rfl

theorem step_filesSafe {before after : System H} {action : Action H}
    (safe : FilesSafe before.fs before.tasks) (clear : KeepsClear before action)
    (taken : before.step action = some after) : FilesSafe after.fs after.tasks := by
  cases action with
  | tick | readerOpens | readerCloses =>
    cases taken
    exact safe.environment ⟨rfl, rfl, rfl, rfl, fun _ => rfl, fun _ => rfl⟩
  | streamStart | activateMultifileFileForPlayback | refreshHlsPlayback
  | refreshExistingHlsPlayback | endHlsPlayback =>
    cases taken
    exact safe.call ⟨rfl, rfl, rfl, rfl⟩ (.refl _)
  | streamEnd hash fileIdx =>
    simp only [System.step] at taken
    split at taken
    next watched =>
      cases taken
      exact safe.streamEnd (List.contains_iff_mem.mp watched)
    next => cases taken
  | addTorrent hash fileCount =>
    cases taken
    simp only
    split
    · exact safe.call ⟨rfl, rfl, rfl, rfl⟩ (.refl _)
    next outside =>
      obtain ⟨unwatched, ended, unselected⟩ := clear.resolve_left outside
      exact (safe.added unwatched ended unselected).call ⟨rfl, rfl, rfl, rfl⟩ (.refl _)
  | resolveMetadata hash fileCount =>
    simp only [System.step] at taken
    split at taken
    next => cases taken
    next unknown =>
      cases taken
      refine safe.resolved ?_
      simp only [Torrent.hasMetadata, decide_eq_true_eq] at unknown
      simp only [isMultifile, decide_eq_false_iff_not]
      omega
  | removeEngine hash =>
    simp only [System.step] at taken
    split at taken
    next =>
      cases taken
      exact safe.environment ⟨rfl, rfl, rfl, rfl, fun _ => rfl, fun _ => rfl⟩
    next => cases taken
  | setSeedingEnabled enabled =>
    cases taken
    have same : SameFiles before.fs { before.fs with seedingEnabled := enabled } :=
      ⟨rfl, rfl, rfl, rfl, fun _ => rfl, fun _ => rfl⟩
    cases enabled with
    | true => exact safe.call ⟨rfl, rfl, rfl, rfl⟩ same
    | false => exact (safe.append_plain (List.forall_mem_nil _)).environment same
  | rehash engines leases =>
    simp only [System.step] at taken
    split at taken
    next =>
      cases taken
      exact safe.environment ⟨rfl, rfl, rfl, rfl, fun _ => rfl, fun _ => rfl⟩
    next => cases taken
  | advance index ok =>
    obtain ⟨task, found, moved⟩ := Option.bind_eq_some_iff.mp taken
    have order := perm_of_getElem? found
    split at moved
    next => cases moved
    next =>
      obtain ⟨result, advanced, same⟩ := Option.bind_eq_some_iff.mp moved
      cases same
      exact (safe.perm order).advance ((clear task found).perm order) advanced
  | abandon index =>
    obtain ⟨task, found, moved⟩ := Option.bind_eq_some_iff.mp taken
    split at moved
    next =>
      cases moved
      exact (safe.perm (perm_of_getElem? found)).abandoned (clear task found)
    next => cases moved

theorem leavesWatchedFiles_of_filesSafe {system : System H} {action : Action H}
    (safe : FilesSafe system.fs system.tasks) (clear : KeepsClear system action) :
    LeavesWatchedFiles system action := by
  cases action with
  | advance index ok =>
    intro task cleanup stage found inside fileIdx tears
    have order := perm_of_getElem? found
    exact (safe.perm order).unwatched_of_tearsDown inside ((clear task found).perm order) tears
  | _ => trivial

theorem meets_leavesWatchedFiles (native : Bool) (actions : List (Action H))
    (clear : Meets KeepsClear System.step (.new native) actions) :
    Meets LeavesWatchedFiles System.step (.new native) actions :=
  meets_of_meets (fun _ _ _ safe permitted taken => step_filesSafe safe permitted taken)
    (fun _ _ _ safe permitted _ => leavesWatchedFiles_of_filesSafe safe permitted)
    (filesSafe_new native) clear

-- File 1 is selected while a stream of file 0 is still open; when that stream ends, the cleanup of
-- file 0 leaves file 1 its priorities.
def switchAway : List (Action Nat) :=
  [.addTorrent 0 2] ++ Action.advances 1 1 ++ [.streamStart 0 0] ++ Action.advances 1 19 ++ [.streamStart 0 1] ++
    Action.advances 1 19 ++ [.streamEnd 0 0] ++ Action.advances 1 5 ++ List.replicate 5 .tick ++ Action.advances 1 8

theorem switch_away_keeps_clear :
    Meets KeepsClear System.step (.new false) switchAway ∧
      Meets LeavesWatchedFiles System.step (.new false) switchAway := by
  have clear : Meets KeepsClear System.step (.new false) switchAway := by decide +kernel
  exact ⟨clear, meets_leavesWatchedFiles false _ clear⟩

-- File 0, file 1 and file 0 again are streamed, and the first stream ends last: its count was
-- dropped by the switch, so its end is charged to the new stream of the file.
def switchBack : List (Action Nat) :=
  [.addTorrent 0 2] ++ Action.advances 1 1 ++ [.streamStart 0 0] ++ Action.advances 1 19 ++ [.streamStart 0 1] ++
    Action.advances 1 19 ++ [.streamStart 0 0] ++ Action.advances 1 19 ++ [.streamEnd 0 0] ++ Action.advances 1 5 ++
    List.replicate 5 .tick ++ Action.advances 1 3

theorem cleanup_clears_a_watched_selection :
    ∃ before after, run System.step (.new false) switchBack = some before ∧
      before.step (.advance 1 true) = some after ∧ (0, 0) ∈ before.fs.watched ∧
      before.fs.selectedFile 0 = some 0 ∧ after.fs.selectedFile 0 = none ∧
      ¬ LeavesWatchedFiles before (.advance 1 true) := by
  refine ⟨_, _, rfl, rfl, by decide, rfl, rfl, fun leaves => ?_⟩
  exact leaves _ _ _ rfl rfl 0 (.inl ⟨rfl, by decide⟩) (by decide)

end StreamServer.EngineFs
