import StreamServer.EngineFs.IdleInversion

set_option autoImplicit false

namespace StreamServer.EngineFs

open BackendEngineFs Runs

variable {H : Type}

def Busy (fs : BackendEngineFs H) (tasks : List (Task H)) (hash : H) : Prop :=
  hash ∈ fs.watchedTorrents ∨ hash ∈ tasks.filterMap Task.counted ∨
    hash ∈ tasks.filterMap Task.resumed

/-- A stream of the torrent has started, or is past the section that looks its engine up. -/
def InUse (fs : BackendEngineFs H) (tasks : List (Task H)) (hash : H) : Prop :=
  hash ∈ fs.watchedTorrents ∨ hash ∈ tasks.filterMap Task.counted ∨
    hash ∈ tasks.filterMap Task.found

variable [DecidableEq H]

-- In every state of a run that keeps stream starts and idle tasks apart. The counter of a torrent
-- is never dropped, so an idle task that reads zero has found every stream ended.
structure IdleSafe (fs : BackendEngineFs H) (tasks : List (Task H)) : Prop where
  covered : ∀ hash, fs.watchedTorrents.count hash + (tasks.filterMap Task.counted).count hash ≤
    fs.activeStreams.count hash
  running : ∀ hash, Busy fs tasks hash →
    fs.paused hash = false ∧ hash ∉ tasks.filterMap Task.pausing
  native : fs.native = true → (∀ hash, fs.paused hash = false) ∧ tasks.filterMap Task.pausing = []
  kept : ∀ hash, InUse fs tasks hash → fs.removed hash = false
  unscanned : ∀ hash, InUse fs tasks hash ∨ hash ∈ tasks.filterMap Task.starting →
    hash ∉ tasks.flatMap Task.removing
  mapped : ∀ hash ∈ fs.mapped, fs.removed hash = false

namespace IdleSafe

variable {fs after : BackendEngineFs H} {tasks rest next : List (Task H)} {task : Task H} {ok : Bool}

theorem perm {reordered : List (Task H)} (safe : IdleSafe fs tasks) (order : tasks.Perm reordered) :
    IdleSafe fs reordered := by
  have counted := order.filterMap Task.counted
  have resumed := order.filterMap Task.resumed
  have pausing := order.filterMap Task.pausing
  have found := order.filterMap Task.found
  have starting := order.filterMap Task.starting
  have removing := order.flatMap_right Task.removing
  constructor
  · intro hash
    rw [← counted.count_eq]
    exact safe.covered hash
  · intro hash busy
    rw [← pausing.mem_iff]
    refine safe.running hash ?_
    rwa [Busy, counted.mem_iff, resumed.mem_iff]
  · intro native
    obtain ⟨paused, none⟩ := safe.native native
    exact ⟨paused, List.perm_nil.mp (none ▸ pausing.symm)⟩
  · intro hash used
    refine safe.kept hash ?_
    rwa [InUse, counted.mem_iff, found.mem_iff]
  · intro hash used
    rw [← removing.mem_iff]
    refine safe.unscanned hash ?_
    rwa [InUse, counted.mem_iff, found.mem_iff, starting.mem_iff]
  · exact safe.mapped

theorem uncounted {hash : H} (safe : IdleSafe fs tasks) (absent : hash ∉ fs.activeStreams) :
    hash ∉ fs.watchedTorrents ∧ hash ∉ tasks.filterMap Task.counted := by
  have covered := safe.covered hash
  rw [List.count_eq_zero.mpr absent] at covered
  constructor
  · intro member
    have present := List.count_pos_iff.mpr member
    omega
  · intro member
    have present := List.count_pos_iff.mpr member
    omega

omit [DecidableEq H] in
theorem mem_role {role : Task H → Option H} {hash : H} (own : role task = some hash) :
    hash ∈ (task :: rest).filterMap role :=
  List.mem_filterMap.mpr ⟨task, List.mem_cons_self, own⟩

omit [DecidableEq H] in
theorem role_cases (task : Task H) {role : Task H → Option H} {hash : H}
    (member : hash ∈ (rest ++ next).filterMap role) :
    hash ∈ (task :: rest).filterMap role ∨ ∃ follow ∈ next, role follow = some hash := by
  obtain ⟨other, present, has⟩ := List.mem_filterMap.mp member
  rcases List.mem_append.mp present with earlier | new
  · exact .inl (List.mem_filterMap.mpr ⟨other, List.mem_cons_of_mem _ earlier, has⟩)
  · exact .inr ⟨other, new, has⟩

theorem unpaused {hash : H} (safe : IdleSafe fs (task :: rest))
    (step : IdleStep fs after (task :: rest) task next) (busy : Busy fs (task :: rest) hash) :
    after.paused hash = false ∧ hash ∉ (rest ++ next).filterMap Task.pausing := by
  obtain ⟨running, alone⟩ := safe.running hash busy
  constructor
  · by_contra paused
    rcases step.paused hash ((Bool.not_eq_false _).mp paused) with before | own
    · exact absurd (running.symm.trans before) Bool.noConfusion
    · exact alone (mem_role own)
  · intro member
    rcases role_cases task member with before | ⟨follow, present, pauses⟩
    · exact alone before
    · rcases step.pausing follow present hash pauses with own | ⟨absent, -, unresumed⟩
      · exact alone (mem_role own)
      · obtain ⟨unwatched, uncounted⟩ := safe.uncounted absent
        rcases busy with watched | counted | resumed
        · exact unwatched watched
        · exact uncounted counted
        · exact unresumed resumed

theorem native_step (safe : IdleSafe fs (task :: rest))
    (step : IdleStep fs after (task :: rest) task next) (native : fs.native = true) :
    (∀ hash, after.paused hash = false) ∧ (rest ++ next).filterMap Task.pausing = [] := by
  obtain ⟨running, none⟩ := safe.native native
  have idle (hash : H) : task.pausing ≠ some hash := by
    intro own
    have member : hash ∈ (task :: rest).filterMap Task.pausing := mem_role own
    rw [none] at member
    cases member
  constructor
  · intro hash
    by_contra paused
    rcases step.paused hash ((Bool.not_eq_false _).mp paused) with before | own
    · exact absurd ((running hash).symm.trans before) Bool.noConfusion
    · exact idle hash own
  · refine List.eq_nil_iff_forall_not_mem.mpr fun hash member => ?_
    rcases role_cases task member with before | ⟨follow, present, pauses⟩
    · rw [none] at before
      cases before
    · rcases step.pausing follow present hash pauses with own | ⟨-, other, -⟩
      · exact idle hash own
      · exact absurd (other.symm.trans native) Bool.noConfusion

theorem inUse_cases {hash : H} (step : IdleStep fs after (task :: rest) task next)
    (used : InUse after (rest ++ next) hash) :
    InUse fs (task :: rest) hash ∨ task.starting = some hash ∧ hash ∈ fs.mapped := by
  rcases used with watched | counted | found
  · rcases step.watched hash watched with before | own
    · exact .inl (.inl before)
    · exact .inl (.inr (.inl (mem_role own)))
  · rcases role_cases task counted with before | ⟨follow, present, counts⟩
    · exact .inl (.inr (.inl before))
    · exact .inl (.inr (.inr (mem_role (step.counted follow present hash counts).2)))
  · rcases role_cases task found with before | ⟨follow, present, finds⟩
    · exact .inl (.inr (.inr before))
    · rcases step.found follow present hash finds with own | new
      · exact .inl (.inr (.inr (mem_role own)))
      · exact .inr new

theorem advance (safe : IdleSafe fs (task :: rest))
    (step : IdleStep fs after (task :: rest) task next) : IdleSafe after (rest ++ next) := by
  have earlier (hash : H) (used : InUse after (rest ++ next) hash) :
      InUse fs (task :: rest) hash ∨ hash ∈ (task :: rest).filterMap Task.starting :=
    (inUse_cases step used).imp_right fun new => mem_role new.1
  constructor
  · intro hash
    have covered := safe.covered hash
    have owed := step.owed hash
    have own : (task :: rest).filterMap Task.counted =
        task.counted.toList ++ rest.filterMap Task.counted := by
      cases found : task.counted <;> simp [found]
    rw [own, List.count_append] at covered
    rw [List.filterMap_append, List.count_append]
    omega
  · intro hash busy
    rcases busy with watched | counted | resumed
    · refine safe.unpaused step ?_
      exact (step.watched hash watched).imp_right fun own => .inl (mem_role own)
    · refine safe.unpaused step ?_
      rcases role_cases task counted with before | ⟨follow, present, counts⟩
      · exact .inr (.inl before)
      · exact .inr (.inr (mem_role (step.counted follow present hash counts).1))
    · rcases role_cases task resumed with before | ⟨follow, present, resumes⟩
      · exact safe.unpaused step (.inr (.inr before))
      · rcases step.resumed follow present hash resumes with own | native | ⟨running, alone, idle⟩
        · exact safe.unpaused step (.inr (.inr (mem_role own)))
        · obtain ⟨running, none⟩ := safe.native_step step native
          rw [none]
          exact ⟨running hash, List.not_mem_nil⟩
        · refine ⟨running, fun member => ?_⟩
          rcases role_cases task member with before | ⟨other, inside, pauses⟩
          · exact alone before
          · rw [idle other inside] at pauses
            cases pauses
  · intro native
    rw [step.native] at native
    exact safe.native_step step native
  · intro hash used
    by_contra removed
    have unremoved : fs.removed hash = false := by
      rcases inUse_cases step used with before | new
      · exact safe.kept hash before
      · exact safe.mapped hash new.2
    rcases step.removed hash ((Bool.not_eq_false _).mp removed) with before | own
    · exact absurd (unremoved.symm.trans before) Bool.noConfusion
    · exact safe.unscanned hash (earlier hash used)
        (List.mem_flatMap.mpr ⟨task, List.mem_cons_self, own⟩)
  · intro hash used member
    have before : InUse fs (task :: rest) hash ∨ hash ∈ (task :: rest).filterMap Task.starting := by
      rcases used with used | starting
      · exact earlier hash used
      · rcases role_cases task starting with before | ⟨follow, present, starts⟩
        · exact .inr before
        · exact .inr (mem_role (step.starting follow present hash starts))
    have clear := safe.unscanned hash before
    obtain ⟨other, present, removes⟩ := List.mem_flatMap.mp member
    rcases List.mem_append.mp present with kept | new
    · exact clear (List.mem_flatMap.mpr ⟨other, List.mem_cons_of_mem _ kept, removes⟩)
    · rcases step.removing other new hash removes with own | ⟨absent, unstarted⟩
      · exact clear (List.mem_flatMap.mpr ⟨task, List.mem_cons_self, own⟩)
      · obtain ⟨unwatched, uncounted⟩ := safe.uncounted absent
        rcases before with (watched | counted | found) | starting
        · exact unwatched watched
        · exact uncounted counted
        · obtain ⟨starter, inside, finds⟩ := List.mem_filterMap.mp found
          exact unstarted (List.mem_filterMap.mpr
            ⟨starter, inside, Task.starting_of_found finds⟩)
        · exact unstarted starting
  · intro hash member
    rcases step.mapped hash member with unremoved | ⟨before, same⟩
    · exact unremoved
    · exact same.trans (safe.mapped hash before)

omit [DecidableEq H] in
theorem role_of_append_bystanders {role : Task H → Option H} (bystanders : ∀ other ∈ next,
    role other = none) : (tasks ++ next).filterMap role = tasks.filterMap role := by
  rw [List.filterMap_append, List.filterMap_eq_nil_iff.mpr bystanders, List.append_nil]

theorem join (safe : IdleSafe fs tasks) (same : SameActivity fs after)
    (bystanders : ∀ other ∈ next, other.Bystander) : IdleSafe after (tasks ++ next) := by
  have counted : (tasks ++ next).filterMap Task.counted = tasks.filterMap Task.counted :=
    role_of_append_bystanders fun other member => (bystanders other member).counted
  have resumed : (tasks ++ next).filterMap Task.resumed = tasks.filterMap Task.resumed :=
    role_of_append_bystanders fun other member => (bystanders other member).resumed
  have pausing : (tasks ++ next).filterMap Task.pausing = tasks.filterMap Task.pausing :=
    role_of_append_bystanders fun other member => (bystanders other member).pausing
  have starting : (tasks ++ next).filterMap Task.starting = tasks.filterMap Task.starting :=
    role_of_append_bystanders fun other member => (bystanders other member).starting
  have found : (tasks ++ next).filterMap Task.found = tasks.filterMap Task.found :=
    role_of_append_bystanders fun other member =>
      Task.found_eq_none (bystanders other member).starting
  have removing : (tasks ++ next).flatMap Task.removing = tasks.flatMap Task.removing := by
    rw [List.flatMap_append, List.flatMap_eq_nil_iff.mpr fun other member =>
      (bystanders other member).removing, List.append_nil]
  have watched : after.watchedTorrents = fs.watchedTorrents := by
    rw [watchedTorrents, same.watched, watchedTorrents]
  have unpaused (hash : H) (running : fs.paused hash = false) : after.paused hash = false := by
    by_contra paused
    exact absurd (running.symm.trans (same.paused hash ((Bool.not_eq_false _).mp paused)))
      Bool.noConfusion
  constructor
  · intro hash
    rw [watched, counted, same.streams]
    exact safe.covered hash
  · intro hash busy
    rw [Busy, watched, counted, resumed] at busy
    rw [pausing]
    exact (safe.running hash busy).imp_left (unpaused hash)
  · intro native
    rw [same.native] at native
    rw [pausing]
    exact (safe.native native).imp_left fun running hash => unpaused hash (running hash)
  · intro hash used
    rw [InUse, watched, counted, found] at used
    rw [same.removed]
    exact safe.kept hash used
  · intro hash used
    rw [InUse, watched, counted, found, starting] at used
    rw [removing]
    exact safe.unscanned hash used
  · intro hash member
    rw [same.removed]
    exact safe.mapped hash (same.mapped hash member)

theorem environment (safe : IdleSafe fs tasks) (same : SameActivity fs after) :
    IdleSafe after tasks := by
  simpa using safe.join same (List.forall_mem_nil Task.Bystander)

theorem call (safe : IdleSafe fs tasks) (bystander : task.Bystander) : IdleSafe fs (tasks ++ [task]) :=
  safe.join (.refl fs) (List.forall_mem_singleton.mpr bystander)

theorem streamStart (safe : IdleSafe fs tasks) {hash : H} {fileIdx : Nat}
    (clear : hash ∉ tasks.flatMap Task.removing) :
    IdleSafe fs (tasks ++ [.streamStart hash fileIdx]) := by
  have fresh (role : Task H → Option H) (none : role (Task.streamStart hash fileIdx) = none) :
      (tasks ++ [Task.streamStart hash fileIdx]).filterMap role = tasks.filterMap role :=
    role_of_append_bystanders (List.forall_mem_singleton.mpr none)
  have removing : (tasks ++ [Task.streamStart hash fileIdx]).flatMap Task.removing =
      tasks.flatMap Task.removing := by
    rw [List.flatMap_append]
    exact List.append_nil _
  constructor
  · intro other
    rw [fresh Task.counted rfl]
    exact safe.covered other
  · intro other busy
    rw [Busy, fresh Task.counted rfl, fresh Task.resumed rfl] at busy
    rw [fresh Task.pausing rfl]
    exact safe.running other busy
  · intro native
    rw [fresh Task.pausing rfl]
    exact safe.native native
  · intro other used
    rw [InUse, fresh Task.counted rfl, fresh Task.found rfl] at used
    exact safe.kept other used
  · intro other used
    rw [removing]
    rw [InUse, fresh Task.counted rfl, fresh Task.found rfl] at used
    rcases used with used | starting
    · exact safe.unscanned other (.inl used)
    · rw [List.filterMap_append] at starting
      rcases List.mem_append.mp starting with before | new
      · exact safe.unscanned other (.inr before)
      · cases List.mem_singleton.mp new
        exact clear
  · exact safe.mapped

theorem streamEnd (safe : IdleSafe fs tasks) {hash : H} {fileIdx : Nat}
    (watched : (hash, fileIdx) ∈ fs.watched) :
    IdleSafe { fs with watched := fs.watched.erase (hash, fileIdx) }
      (tasks ++ [.endTorrent hash fileIdx]) := by
  have fresh (role : Task H → Option H) (none : role (Task.endTorrent hash fileIdx) = none) :
      (tasks ++ [Task.endTorrent hash fileIdx]).filterMap role = tasks.filterMap role :=
    role_of_append_bystanders (List.forall_mem_singleton.mpr none)
  have removing : (tasks ++ [Task.endTorrent hash fileIdx]).flatMap Task.removing =
      tasks.flatMap Task.removing := by
    rw [List.flatMap_append]
    exact List.append_nil _
  have counted : (tasks ++ [Task.endTorrent hash fileIdx]).filterMap Task.counted =
      tasks.filterMap Task.counted ++ [hash] := by
    rw [List.filterMap_append]
    rfl
  have perm := ((List.perm_cons_erase watched).map (·.1)).count_eq
  have fewer (other : H) (member : other ∈ (fs.watched.erase (hash, fileIdx)).map (·.1)) :
      other ∈ fs.watchedTorrents := by
    obtain ⟨stream, present, rfl⟩ := List.mem_map.mp member
    exact List.mem_map.mpr ⟨stream, List.mem_of_mem_erase present, rfl⟩
  have own : hash ∈ fs.watchedTorrents := List.mem_map.mpr ⟨_, watched, rfl⟩
  have ending (other : H) (member : other ∈ tasks.filterMap Task.counted ++ [hash]) :
      other ∈ fs.watchedTorrents ∨ other ∈ tasks.filterMap Task.counted := by
    rcases List.mem_append.mp member with before | new
    · exact .inr before
    · cases List.mem_singleton.mp new
      exact .inl own
  have inUse (other : H) (used : InUse { fs with watched := fs.watched.erase (hash, fileIdx) }
      (tasks ++ [.endTorrent hash fileIdx]) other) : InUse fs tasks other := by
    rw [InUse, counted, fresh Task.found rfl] at used
    rcases used with before | ends | found
    · exact .inl (fewer other before)
    · exact (ending other ends).imp_right .inl
    · exact .inr (.inr found)
  constructor
  · intro other
    have covered := safe.covered other
    have split := perm other
    rw [counted, List.count_append, List.count_singleton, watchedTorrents]
    rw [List.map_cons, List.count_cons] at split
    rw [watchedTorrents] at covered
    simp only [beq_iff_eq] at split ⊢
    omega
  · intro other busy
    rw [Busy, counted, fresh Task.resumed rfl] at busy
    rw [fresh Task.pausing rfl]
    refine safe.running other ?_
    rcases busy with before | ends | resumed
    · exact .inl (fewer other before)
    · exact (ending other ends).imp_right .inl
    · exact .inr (.inr resumed)
  · intro native
    rw [fresh Task.pausing rfl]
    exact safe.native native
  · exact fun other used => safe.kept other (inUse other used)
  · intro other used
    rw [removing]
    rw [fresh Task.starting rfl] at used
    exact safe.unscanned other (used.imp_left (inUse other))
  · exact safe.mapped

omit [DecidableEq H] in
theorem role_of_cons {role : Task H → Option H} {hash : H} (member : hash ∈ rest.filterMap role) :
    hash ∈ (task :: rest).filterMap role := by
  obtain ⟨other, present, has⟩ := List.mem_filterMap.mp member
  exact List.mem_filterMap.mpr ⟨other, List.mem_cons_of_mem _ present, has⟩

theorem abandoned (safe : IdleSafe fs (task :: rest)) : IdleSafe fs rest := by
  have inUse (hash : H) (used : InUse fs rest hash) : InUse fs (task :: rest) hash :=
    used.imp_right fun parts => parts.imp role_of_cons role_of_cons
  constructor
  · intro hash
    have covered := safe.covered hash
    have fewer : (rest.filterMap Task.counted).count hash ≤
        ((task :: rest).filterMap Task.counted).count hash :=
      ((List.sublist_cons_self task rest).filterMap _).count_le hash
    omega
  · intro hash busy
    obtain ⟨running, alone⟩ := safe.running hash
      (busy.imp_right fun parts => parts.imp role_of_cons role_of_cons)
    exact ⟨running, fun member => alone (role_of_cons member)⟩
  · intro native
    obtain ⟨running, none⟩ := safe.native native
    refine ⟨running, List.eq_nil_iff_forall_not_mem.mpr fun hash member => ?_⟩
    have before : hash ∈ (task :: rest).filterMap Task.pausing := role_of_cons member
    rw [none] at before
    cases before
  · exact fun hash used => safe.kept hash (inUse hash used)
  · intro hash used member
    obtain ⟨other, present, removes⟩ := List.mem_flatMap.mp member
    exact safe.unscanned hash (used.imp (inUse hash) role_of_cons)
      (List.mem_flatMap.mpr ⟨other, List.mem_cons_of_mem _ present, removes⟩)
  · exact safe.mapped

end IdleSafe

omit [DecidableEq H] in
theorem Task.KeepsApart.perm {fs : BackendEngineFs H} {tasks reordered : List (Task H)}
    {task : Task H} {ok : Bool} (apart : task.KeepsApart fs tasks ok)
    (order : tasks.Perm reordered) : task.KeepsApart fs reordered ok := by
  obtain ⟨pauses, removes, looks, resumes, recounts⟩ := apart
  refine ⟨fun hash member absent => ?_, fun hash member absent => ?_, looks, fun hash member => ?_,
    recounts⟩
  · rw [← (order.filterMap _).mem_iff]
    exact pauses hash member absent
  · rw [← (order.filterMap _).mem_iff]
    exact removes hash member absent
  · rw [← (order.filterMap _).mem_iff]
    exact resumes hash member

theorem idleSafe_new (native : Bool) :
    IdleSafe (System.new native : System H).fs (System.new native : System H).tasks := by
  constructor
  · exact fun _ => Nat.le_refl _
  · rintro hash (member | member | member) <;> cases member
  · exact fun _ => ⟨fun _ => rfl, rfl⟩
  · exact fun _ _ => rfl
  · exact fun _ _ => List.not_mem_nil
  · exact List.forall_mem_nil _

theorem step_idleSafe {before after : System H} {action : Action H}
    (safe : IdleSafe before.fs before.tasks) (apart : KeepsApart before action)
    (taken : before.step action = some after) : IdleSafe after.fs after.tasks := by
  cases action with
  | tick | readerOpens | readerCloses =>
    cases taken
    exact safe.environment ⟨rfl, rfl, rfl, rfl, fun _ member => member, fun _ paused => paused⟩
  | streamStart hash fileIdx =>
    cases taken
    exact safe.streamStart apart
  | activateMultifileFileForPlayback | refreshHlsPlayback | refreshExistingHlsPlayback
  | endHlsPlayback =>
    cases taken
    exact safe.call ⟨rfl, rfl, rfl, rfl, rfl⟩
  | streamEnd hash fileIdx =>
    simp only [System.step] at taken
    split at taken
    next watched =>
      cases taken
      exact safe.streamEnd (List.contains_iff_mem.mp watched)
    next => cases taken
  | addTorrent hash fileCount =>
    cases taken
    simp only
    split
    · exact safe.call ⟨rfl, rfl, rfl, rfl, rfl⟩
    · exact safe.join (.updateTorrent before.fs hash fun _ => Bool.noConfusion)
        (List.forall_mem_singleton.mpr ⟨rfl, rfl, rfl, rfl, rfl⟩)
  | resolveMetadata hash fileCount =>
    simp only [System.step] at taken
    split at taken
    next => cases taken
    next =>
      cases taken
      have same : SameActivity before.fs
          (before.fs.updateTorrent hash fun torrent => { torrent with fileCount }) :=
        .updateTorrent before.fs hash fun _ paused => paused
      exact safe.environment same
  | removeEngine hash =>
    simp only [System.step] at taken
    split at taken
    next =>
      cases taken
      refine safe.environment ⟨rfl, rfl, rfl, rfl, fun other member => ?_, fun _ paused => paused⟩
      obtain ⟨entry, present, rfl⟩ := List.mem_map.mp member
      exact List.mem_map.mpr ⟨entry, List.mem_of_mem_filter present, rfl⟩
    next => cases taken
  | setSeedingEnabled enabled =>
    cases taken
    refine safe.join ⟨rfl, rfl, rfl, rfl, fun _ member => member, fun _ paused => paused⟩
      fun other member => ?_
    split at member
    · cases List.mem_singleton.mp member
      exact ⟨rfl, rfl, rfl, rfl, rfl⟩
    · cases member
  | rehash engines leases =>
    simp only [System.step] at taken
    split at taken
    next orders =>
      cases taken
      refine safe.environment ⟨rfl, rfl, rfl, rfl, fun other member => ?_, fun _ paused => paused⟩
      exact (orders.1.map _).mem_iff.mp member
    next => cases taken
  | advance index ok =>
    obtain ⟨task, found, moved⟩ := Option.bind_eq_some_iff.mp taken
    have order := perm_of_getElem? found
    split at moved
    next => cases moved
    next =>
      obtain ⟨result, advanced, same⟩ := Option.bind_eq_some_iff.mp moved
      cases same
      exact (safe.perm order).advance (Task.advance_idle ((apart task found).perm order) advanced)
  | abandon index =>
    obtain ⟨task, found, moved⟩ := Option.bind_eq_some_iff.mp taken
    split at moved
    next =>
      cases moved
      exact (safe.perm (perm_of_getElem? found)).abandoned
    next => cases moved

theorem always_watchedRunning (native : Bool) (actions : List (Action H))
    (apart : Meets KeepsApart System.step (.new native) actions) :
    Always WatchedRunning System.step (.new native) actions := by
  have safe : Always (fun system => IdleSafe system.fs system.tasks) System.step (.new native)
      actions :=
    always_of_meets (fun _ _ _ safe permitted taken => step_idleSafe safe permitted taken)
      (idleSafe_new native) apart
  refine safe.mono fun system safe _ hash watched => ⟨?_, ?_⟩
  · exact (safe.running hash (.inl watched)).1
  · exact safe.kept hash (.inl watched)

def pausedBetweenStreams : List (Action Nat) :=
  [.addTorrent 0 1, .setSeedingEnabled false] ++ Action.advances 1 1 ++ [.streamStart 0 0] ++
    Action.advances 1 8 ++ [.streamEnd 0 0] ++ Action.advances 1 3 ++ Action.advances 2 2 ++
    List.replicate 15 .tick ++ Action.advances 1 1 ++ Action.advances 2 9 ++ [.streamStart 0 0] ++
    Action.advances 2 8

theorem pause_between_streams_is_undone :
    Meets KeepsApart System.step (.new false) pausedBetweenStreams ∧
      Always WatchedRunning System.step (.new false) pausedBetweenStreams := by
  have apart : Meets KeepsApart System.step (.new false) pausedBetweenStreams := by decide +kernel
  exact ⟨apart, always_watchedRunning false _ apart⟩

/-- The second stream starts after the pause has found the torrent idle and before it pauses it. -/
def startDuringPause : List (Action Nat) :=
  [.addTorrent 0 1, .setSeedingEnabled false] ++ Action.advances 1 1 ++ [.streamStart 0 0] ++
    Action.advances 1 8 ++ [.streamEnd 0 0] ++ Action.advances 1 3 ++ Action.advances 2 2 ++
    List.replicate 15 .tick ++ Action.advances 1 1 ++ Action.advances 2 7 ++ [.streamStart 0 0] ++
    Action.advances 3 8 ++ Action.advances 2 2

-- A stream starts after the removal has found the torrent inactive and before it takes the engine
-- out.
def startDuringRemoval : List (Action Nat) :=
  [.addTorrent 0 1] ++ Action.advances 1 1 ++ List.replicate 301 .tick ++ Action.advances 0 8 ++
    [.streamStart 0 0] ++ Action.advances 1 2 ++ Action.advances 0 1 ++ Action.advances 1 1 ++
    Action.advances 0 1 ++ Action.advances 1 2 ++ Action.advances 0 3

theorem idle_tasks_stop_watched_torrents :
    (∃ final, run System.step (.new false) startDuringPause = some final ∧ Quiescent final ∧
      final.fs.watched = [(0, 0)] ∧ final.fs.paused 0 = true ∧ ¬ WatchedRunning final) ∧
    ∃ final, run System.step (.new true) startDuringRemoval = some final ∧ Quiescent final ∧
      final.fs.watched = [(0, 0)] ∧ final.fs.lookup 0 = none ∧ ¬ WatchedRunning final := by
  constructor
  · refine ⟨_, rfl, by decide, rfl, rfl, fun runs => ?_⟩
    exact absurd (runs (by decide) 0 (by decide)).1 (by decide)
  · have reached : (run System.step (.new true) startDuringRemoval).map (fun final =>
        (decide (Quiescent final), final.fs.watched, final.fs.lookup 0, final.fs.removed 0)) =
          some (true, [(0, 0)], none, true) := by decide +kernel
    obtain ⟨final, ran, same⟩ := Option.map_eq_some_iff.mp reached
    simp only [Prod.mk.injEq, decide_eq_true_eq] at same
    obtain ⟨quiescent, watched, unmapped, removed⟩ := same
    refine ⟨final, ran, quiescent, watched, unmapped, fun runs => ?_⟩
    have kept := (runs quiescent 0 (by simp [watchedTorrents, watched])).2
    exact absurd (kept.symm.trans removed) Bool.noConfusion

end StreamServer.EngineFs
