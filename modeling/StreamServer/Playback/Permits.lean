import StreamServer.Playback.Actions
import StreamServer.Shared.PermitLedger
import StreamServer.Shared.Runs

set_option autoImplicit false

namespace StreamServer.Playback

open CancellationTokens TorrentPlaybackState Store PermitLedger Runs

variable {H : Type}

def permitScheme (foregroundOnly : Bool) : Scheme H (LibtorrentPlaybackPermit H) where
  key := (·.infoHash)
  issuer := (·.issuer)
  slot := (·.generation)
  counts permit := !foregroundOnly || permit.foreground

def TorrentPlaybackState.permitCount (foregroundOnly : Bool) (state : TorrentPlaybackState)
    (generation : Nat) : Nat :=
  (if foregroundOnly then state.foregroundPermits else state.directPermits).count generation

def Coordinator.ledger [DecidableEq H] (foregroundOnly : Bool) (coordinator : Coordinator H) :
    Ledger H (LibtorrentPlaybackPermit H) where
  mapped infoHash := coordinator.store.entries.lookup infoHash
  size := coordinator.store.cells.length
  counter entry generation :=
    (coordinator.store.state? entry).elim 0 (·.permitCount foregroundOnly generation)
  outstanding := ↑coordinator.outstanding
  starting := {target | ∃ task ∈ coordinator.tasks, task.starting = some target}
  releasing := coordinator.worker.releasing
  unused entry generation outside := by
    rw [(coordinator.store.state?_eq_none_iff entry).mpr outside]
    rfl

section Accounts

structure SameAccounts (before after : Store H) : Prop where
  entries : after.entries = before.entries
  length : after.cells.length = before.cells.length
  counters : ∀ entry,
    (after.state? entry).map (fun state => (state.directPermits, state.foregroundPermits)) =
      (before.state? entry).map fun state => (state.directPermits, state.foregroundPermits)
  pending : after.pending.Perm before.pending

variable {before after : Store H}

theorem SameAccounts.of_statesBy
    {update : Nat → TorrentPlaybackState → TorrentPlaybackState → Prop}
    (step : StatesBy update before after)
    (keeps : ∀ entry previous state, update entry previous state → SameCounters previous state) :
    SameAccounts before after := by
  refine ⟨step.entries, step.length, fun entry => ?_, .of_eq ?_⟩
  · cases found : after.state? entry with
    | none =>
      have outside := (after.state?_eq_none_iff entry).mp found
      rw [(before.state?_eq_none_iff entry).mpr (step.length ▸ outside)]
    | some state =>
      obtain ⟨previous, present, updated⟩ := step.states entry state found
      obtain ⟨direct, foreground⟩ := keeps entry previous state updated
      simp [present, direct, foreground]
  · simp [Store.pending, step.permits, step.queue]

theorem SameAccounts.of_sectionStep (step : SectionStep before after) :
    SameAccounts before after :=
  .of_statesBy step fun _ _ _ updated => updated.sameCounters

theorem SameAccounts.of_beginStep {entry : Nat} (step : BeginStep entry before after) :
    SameAccounts before after := by
  refine .of_statesBy step fun other previous state updated => ?_
  split at updated
  · exact updated.sameCounters
  · exact updated ▸ ⟨rfl, rfl⟩

theorem SameAccounts.dropPermit [DecidableEq H] (same : SameAccounts before after) (id : Nat) :
    SameAccounts before (after.dropPermit id) := by
  obtain ⟨entries, cells⟩ := dropPermit_frame after id
  refine ⟨entries.trans same.entries, by simpa [cells] using same.length, fun entry => ?_,
    (pending_dropPermit after id).trans same.pending⟩
  simpa [Store.state?, cells] using same.counters entry

theorem entry_accounts [DecidableEq H] (store : Store H) (infoHash : H) :
    (store.entry infoHash).2.pending = store.pending ∧
      ∀ entry foregroundOnly generation,
        ((store.entry infoHash).2.state? entry).elim 0 (·.permitCount foregroundOnly generation) =
          (store.state? entry).elim 0 (·.permitCount foregroundOnly generation) := by
  unfold Store.entry
  split
  next => exact ⟨rfl, fun _ _ _ => rfl⟩
  next =>
    refine ⟨rfl, fun entry foregroundOnly generation => ?_⟩
    rcases Nat.lt_trichotomy entry store.cells.length with inside | rfl | outside
    · simp [Store.state?, List.getElem?_append_left inside]
    · cases foregroundOnly <;> simp [Store.state?, permitCount, TorrentPlaybackState.new,
        PermitCounters.count]
    · have beyond (cell : TorrentPlaybackEntry) : (store.cells ++ [cell])[entry]? = none :=
        List.getElem?_eq_none (by simpa using Nat.succ_le_of_lt outside)
      simp [Store.state?, beyond, Nat.le_of_lt outside]

end Accounts

section Simulation

variable [DecidableEq H] {before after : Coordinator H} (foregroundOnly : Bool)

theorem counter_of_sameAccounts (same : SameAccounts before.store after.store) :
    (after.ledger foregroundOnly).counter = (before.ledger foregroundOnly).counter := by
  funext entry generation
  have counters := same.counters entry
  simp only [Coordinator.ledger]
  cases found : after.store.state? entry <;> cases present : before.store.state? entry <;>
    simp only [found, present, Option.map_some, Option.map_none, Option.some.injEq, Prod.mk.injEq,
      reduceCtorEq] at counters
  · rfl
  · obtain ⟨direct, foreground⟩ := counters
    simp [permitCount, direct, foreground]

theorem ledgerStep_keep (same : SameAccounts before.store after.store)
    (unreleased : after.worker.unreleased = before.worker.unreleased)
    (starting : ∀ task ∈ after.tasks, ∀ target ∈ task.starting,
      ∃ earlier ∈ before.tasks, earlier.starting = some target)
    (releasing : ∀ target ∈ after.worker.releasing, before.worker.releasing = some target) :
    LedgerStep (permitScheme foregroundOnly) (before.ledger foregroundOnly)
      (after.ledger foregroundOnly) := by
  refine .keep ?_ same.length (counter_of_sameAccounts foregroundOnly same) ?_ ?_ releasing
  · simp [Coordinator.ledger, same.entries]
  · apply Multiset.coe_eq_coe.mpr
    unfold Coordinator.outstanding
    rw [unreleased]
    exact same.pending.append_right _
  · rintro target ⟨task, member, has⟩
    exact starting task member target has

theorem ledgerStep_quiet (quiet : QuietAction before after) :
    LedgerStep (permitScheme foregroundOnly) (before.ledger foregroundOnly)
      (after.ledger foregroundOnly) := by
  refine .keep ?_ quiet.length ?_ (Multiset.coe_eq_coe.mpr quiet.outstanding) ?_ quiet.releasing
  · simp [Coordinator.ledger, quiet.entries]
  · simp [Coordinator.ledger, quiet.states]
  · rintro target ⟨task, member, has⟩
    rcases quiet.tasks task member with earlier | ⟨idle, -⟩
    · exact ⟨task, earlier, has⟩
    · simp [idle] at has

theorem ledger_looked {infoHash : H}
    (looked : after.store = (before.store.entry infoHash).2) :
    Looked (before.ledger foregroundOnly) (after.ledger foregroundOnly) infoHash
      (before.store.entry infoHash).1 := by
  unfold Store.entry at looked ⊢
  split at looked
  next entry present =>
    exact .found present (by simp [Coordinator.ledger, looked]) (by simp [Coordinator.ledger, looked])
  next absent =>
    refine .created absent rfl ?_ (fun other different => ?_) ?_ <;>
      simp [Coordinator.ledger, looked]
    exact AList.lookup_insert_ne different

theorem ledgerStep_look {infoHash : H}
    (looked : after.store = (before.store.entry infoHash).2)
    (unreleased : after.worker.unreleased = before.worker.unreleased)
    (starting : ∀ task ∈ after.tasks, ∀ target ∈ task.starting,
      target = (infoHash, (before.store.entry infoHash).1) ∨
      ∃ earlier ∈ before.tasks, earlier.starting = some target)
    (releasing : ∀ target ∈ after.worker.releasing, before.worker.releasing = some target ∨
      target.1 ∈ before.worker.unreleased ∧ target.1.infoHash = infoHash ∧
        target.2 = (before.store.entry infoHash).1) :
    LedgerStep (permitScheme foregroundOnly) (before.ledger foregroundOnly)
      (after.ledger foregroundOnly) := by
  obtain ⟨pending, counters⟩ := entry_accounts before.store infoHash
  refine .look infoHash _ (ledger_looked foregroundOnly looked) ?_ ?_ ?_ ?_
  · funext entry generation
    simpa [Coordinator.ledger, looked] using counters entry foregroundOnly generation
  · simp [Coordinator.ledger, Coordinator.outstanding, looked, pending, unreleased]
  · rintro target ⟨task, member, has⟩
    exact starting task member target has
  · intro target has
    rcases releasing target has with pending | ⟨received, rightHash, found⟩
    · exact .inl pending
    · refine .inr ⟨?_, rightHash, found⟩
      have member : target.1 ∈ before.outstanding :=
        List.mem_append_right _ (Option.mem_toList.mpr received)
      exact member

theorem ledgerStep_issue {infoHash : H} {entry : Nat} {state next : TorrentPlaybackState}
    {permit : LibtorrentPlaybackPermit H}
    (issued : Issued before.store after.store infoHash entry state next permit)
    (found : before.store.state? entry = some state) (worker : after.worker = before.worker)
    (requested : ∃ task ∈ before.tasks, task.starting = some (infoHash, entry))
    (starting : ∀ task ∈ after.tasks, ∀ target ∈ task.starting,
      ∃ earlier ∈ before.tasks, earlier.starting = some target) :
    LedgerStep (permitScheme foregroundOnly) (before.ledger foregroundOnly)
      (after.ledger foregroundOnly) := by
  refine .issue permit ?_ issued.length ?_ (fun owner generation => ?_) ?_ ?_ ?_
  · simp [Coordinator.ledger, issued.entries]
  · simpa [Coordinator.ledger, permitScheme, issued.infoHash, issued.issuer] using requested
  · simp only [Coordinator.ledger, permitScheme, issued.states, issued.issuer]
    by_cases same : owner = entry
    · subst same
      cases foregroundOnly
      · simp [found, permitCount, issued.direct, PermitCounters.count_acquire]
      · cases foreground : permit.foreground <;>
          simp [found, permitCount, issued.foreground, foreground, PermitCounters.count_acquire]
    · simp [same]
  · simp only [Coordinator.ledger, Coordinator.outstanding, Store.pending, issued.permits,
      issued.queue, worker, Multiset.cons_coe, Multiset.coe_eq_coe, List.append_assoc,
      List.cons_append, List.nil_append]
    exact List.perm_middle
  · rintro target ⟨task, member, has⟩
    exact starting task member target has
  · simp [Coordinator.ledger, worker]

theorem ledger_released {permit : LibtorrentPlaybackPermit H} {entry : Nat}
    (applied : before.worker = .releaseState permit entry)
    (store : after.store = before.store.updateState entry fun state =>
      (state.releasePlayback permit.generation permit.streamId permit.foreground
        before.store.now).1)
    (worker : after.worker = .releaseNative entry) (tasks : after.tasks = before.tasks) :
    Released (permitScheme foregroundOnly) (before.ledger foregroundOnly)
      (after.ledger foregroundOnly) permit entry := by
  refine ⟨?_, ?_, ?_, fun owner generation => ?_, ?_, ?_, ?_⟩
  · simp [Coordinator.ledger, applied, Worker.releasing]
  · simp [Coordinator.ledger, store, updateState, updateCell]
  · simp [Coordinator.ledger, store, updateState, updateCell]
  · simp only [Coordinator.ledger, permitScheme, store, state?_updateState]
    by_cases same : owner = entry
    · subst same
      cases present : before.store.state? owner with
      | none => simp
      | some state =>
        obtain ⟨direct, foreground, -, -⟩ := state.releasePlayback_frame permit.generation
          permit.streamId permit.foreground before.store.now
        cases foregroundOnly
        · simp [permitCount, direct, PermitCounters.count_release]
        · simp only [if_true, Option.map_some, Option.elim_some, permitCount, foreground,
            Bool.not_true, Bool.false_or, true_and]
          by_cases held : permit.foreground <;> simp [held, PermitCounters.count_release]
    · simp [same]
  · simp only [Coordinator.ledger, Coordinator.outstanding, Store.pending, applied, worker, store,
      Worker.unreleased, Multiset.cons_coe, Multiset.coe_eq_coe, Option.toList, List.append_nil]
    exact List.perm_append_singleton _ _
  · simp [Coordinator.ledger, tasks]
  · simp [Coordinator.ledger, worker, Worker.releasing]

theorem ledgerStep_task {task : Task H} {index : Nat} {store : Store H} {rest : Option (Task H)}
    (present : before.tasks[index]? = some task) (step : TaskStep before.store task store rest) :
    LedgerStep (permitScheme foregroundOnly) (before.ledger foregroundOnly)
      (Coordinator.ledger foregroundOnly
        { before with store, tasks := continueTask before.tasks index rest }) := by
  have starting (quiet : ∀ next ∈ rest, next.starting = none) (other : Task H)
      (member : other ∈ continueTask before.tasks index rest) (target : H × Nat)
      (has : target ∈ other.starting) :
      ∃ earlier ∈ before.tasks, earlier.starting = some target := by
    rcases mem_continueTask member with earlier | new
    · exact ⟨other, earlier, has⟩
    · simp [quiet other new] at has
  cases step with
  | lookup infoHash next looked =>
    refine ledgerStep_look foregroundOnly rfl rfl (fun other member target has => ?_)
      fun _ has => .inl has
    have earlierOrNext : other ∈ before.tasks ∨ other ∈ some next := mem_continueTask member
    rcases earlierOrNext with earlier | new
    · exact .inr ⟨other, earlier, has⟩
    · cases new
      exact .inl (looked target has)
  | sections _ _ step quiet =>
    exact ledgerStep_keep foregroundOnly (.of_sectionStep step) rfl (starting quiet) fun _ has => has
  | began entry _ _ begins step quiet =>
    exact ledgerStep_keep foregroundOnly (.of_beginStep step) rfl
      (starting fun next member => (quiet next member).1) fun _ has => has
  | issued infoHash entry fileCount start complete state selection _ _ starts found selected quiet =>
    obtain ⟨next, permit, issued, -⟩ := startSelect_issued selected
    exact ledgerStep_issue foregroundOnly issued found rfl
      ⟨task, List.mem_of_getElem? present, by simp [starts, Task.starting]⟩
      (starting fun next member => (quiet next member).1)
  | failed next id step =>
    exact ledgerStep_keep foregroundOnly ((SameAccounts.of_sectionStep step).dropPermit id) rfl
      (starting (by simp)) fun _ has => has
  | wroteBack entry generation writes =>
    have written : StatesBy (fun _ => SameCounters) before.store
        (before.store.updateState entry (·.writePhase generation .pausedIdle)) :=
      StatesBy.updateState (fun _ _ _ => ⟨rfl, rfl⟩) fun _ _ => ⟨rfl, rfl⟩
    exact ledgerStep_keep foregroundOnly (.of_statesBy written fun _ _ _ same => same) rfl
      (starting (by simp)) fun _ has => has

theorem ledgerStep_worker {store : Store H} {worker : Worker H}
    (step : WorkerStep before.store before.worker store worker) :
    LedgerStep (permitScheme foregroundOnly) (before.ledger foregroundOnly)
        (Coordinator.ledger foregroundOnly { before with store, worker }) ∨
      ∃ permit entry, before.worker = .releaseState permit entry ∧
        Released (permitScheme foregroundOnly) (before.ledger foregroundOnly)
          (Coordinator.ledger foregroundOnly { before with store, worker }) permit entry := by
  have starting (task : Task H) (member : task ∈ before.tasks) (target : H × Nat)
      (has : target ∈ task.starting) :
      ∃ earlier ∈ before.tasks, earlier.starting = some target := ⟨task, member, has⟩
  cases step with
  | lookup infoHash _ quiet releasing =>
    refine .inl (ledgerStep_look foregroundOnly rfl quiet
      (fun task member target has => .inr (starting task member target has)) fun target has => ?_)
    obtain ⟨rightHash, found⟩ := releasing target has
    exact .inr ⟨quiet ▸ unreleased_of_releasing has, rightHash, found⟩
  | sections _ _ step quiet =>
    exact .inl (ledgerStep_keep foregroundOnly (.of_sectionStep step) quiet.1 starting
      fun target has => quiet.2 ▸ has)
  | began entry _ _ begins step quiet =>
    exact .inl (ledgerStep_keep foregroundOnly (.of_beginStep step) quiet.1 starting
      fun target has => quiet.2 ▸ has)
  | released permit entry applied =>
    exact .inr ⟨permit, entry, applied, ledger_released foregroundOnly applied rfl rfl rfl⟩

theorem step_ledger {action : Action H} (taken : before.step action = some after) :
    LedgerStep (permitScheme foregroundOnly) (before.ledger foregroundOnly)
        (after.ledger foregroundOnly) ∨
      ∃ permit entry outcome attempt, action = .worker outcome attempt ∧
        before.worker = .releaseState permit entry ∧
        Released (permitScheme foregroundOnly) (before.ledger foregroundOnly)
          (after.ledger foregroundOnly) permit entry := by
  cases step_cases taken with
  | quiet _ _ step => exact .inl (ledgerStep_quiet foregroundOnly step)
  | task index outcome task store rest present step =>
    exact .inl (ledgerStep_task foregroundOnly present step)
  | worker outcome attempt store worker step =>
    rcases ledgerStep_worker foregroundOnly step with kept | ⟨permit, entry, applied, released⟩
    · exact .inl kept
    · exact .inr ⟨permit, entry, outcome, attempt, rfl, applied, released⟩
  | registered infoHash =>
    exact .inl (ledgerStep_look foregroundOnly rfl rfl (fun task member target has =>
      .inr ⟨task, member, has⟩) fun _ has => .inl has)
  | removed infoHash entry =>
    refine .inl (.remove infoHash ?_ (fun other different => ?_) rfl rfl rfl ?_ fun _ has => has)
    · simp [Coordinator.ledger]
    · exact AList.lookup_erase_ne different
    · rintro target ⟨task, member, has⟩
      rcases List.mem_append.mp member with earlier | new
      · exact ⟨task, earlier, has⟩
      · cases List.mem_singleton.mp new
        cases has

end Simulation

def issuedBy (permits : List (LibtorrentPlaybackPermit H)) (entry generation : Nat) : Nat :=
  permits.countP fun permit => permit.issuer == entry && permit.generation == generation

def issuedForegroundBy (permits : List (LibtorrentPlaybackPermit H)) (entry generation : Nat) :
    Nat :=
  permits.countP fun permit =>
    permit.foreground && permit.issuer == entry && permit.generation == generation

theorem issuedForegroundBy_le (permits : List (LibtorrentPlaybackPermit H))
    (entry generation : Nat) :
    issuedForegroundBy permits entry generation ≤ issuedBy permits entry generation :=
  List.countP_mono_left fun permit _ counted => by
    simp only [Bool.and_eq_true] at counted ⊢
    exact ⟨counted.1.2, counted.2⟩

theorem held_direct (permits : List (LibtorrentPlaybackPermit H)) (entry generation : Nat) :
    held (permitScheme false) (permits : Multiset (LibtorrentPlaybackPermit H)) entry generation =
      issuedBy permits entry generation := by
  simp [held, issuedBy, permitScheme, beq_eq_decide]

theorem held_foreground (permits : List (LibtorrentPlaybackPermit H)) (entry generation : Nat) :
    held (permitScheme true) (permits : Multiset (LibtorrentPlaybackPermit H)) entry generation =
      issuedForegroundBy permits entry generation := by
  simp [held, issuedForegroundBy, permitScheme, beq_eq_decide, Bool.and_assoc]

variable [DecidableEq H]

def CountersExact (coordinator : Coordinator H) : Prop :=
  ∀ infoHash entry state, coordinator.store.entries.lookup infoHash = some entry →
    coordinator.store.state? entry = some state → ∀ generation,
      state.directPermits.count generation = issuedBy coordinator.outstanding entry generation ∧
      state.foregroundPermits.count generation =
        issuedForegroundBy coordinator.outstanding entry generation

-- When the worker applies a release to the entry now mapped to the hash and that entry is not the
-- one that issued the permit, the entry counts no permit in the permit's generation.
def ReleaseMeetsIssuer (coordinator : Coordinator H) : Action H → Prop
  | .worker _ _ => ∀ permit entry state, coordinator.worker = .releaseState permit entry →
      coordinator.store.entries.lookup permit.infoHash = some entry → entry ≠ permit.issuer →
      coordinator.store.state? entry = some state →
        state.directPermits.count permit.generation = 0
  | _ => True

def EntriesCoherent (coordinator : Coordinator H) : Prop :=
  ∀ foregroundOnly, Coherent (permitScheme foregroundOnly) (coordinator.ledger foregroundOnly)

theorem entriesCoherent_new : EntriesCoherent (Coordinator.new (H := H)) := by
  intro foregroundOnly
  constructor <;>
    simp [Coordinator.ledger, Coordinator.new, Coordinator.outstanding, Store.pending, releases,
      Worker.unreleased, Worker.releasing]

theorem countersExact_new : CountersExact (Coordinator.new (H := H)) := by
  intro infoHash entry state present
  simp [Coordinator.new] at present

section Exactness

variable {before after : Coordinator H} {action : Action H}

theorem step_coherent (coherent : EntriesCoherent before)
    (taken : before.step action = some after) : EntriesCoherent after := by
  intro foregroundOnly
  rcases step_ledger foregroundOnly taken with step | ⟨_, _, _, _, -, -, released⟩
  · exact step.coherent (coherent foregroundOnly)
  · exact released.coherent (coherent foregroundOnly)

theorem countersExact_iff (coherent : EntriesCoherent before) :
    CountersExact before ↔
      ∀ foregroundOnly, Exact (permitScheme foregroundOnly) (before.ledger foregroundOnly) := by
  constructor
  · intro exact foregroundOnly infoHash entry present generation
    obtain ⟨state, found⟩ := Option.ne_none_iff_exists'.mp fun absent =>
      Nat.not_le_of_lt ((coherent false).mapped infoHash entry present).1
        ((before.store.state?_eq_none_iff entry).mp absent)
    obtain ⟨direct, foreground⟩ := exact infoHash entry state present found generation
    cases foregroundOnly
    · simpa [Coordinator.ledger, found, permitCount, held_direct] using direct
    · simpa [Coordinator.ledger, found, permitCount, held_foreground] using foreground
  · intro exact infoHash entry state present found generation
    have direct := exact false infoHash entry present generation
    have foreground := exact true infoHash entry present generation
    constructor
    · simpa [Coordinator.ledger, found, permitCount, held_direct] using direct
    · simpa [Coordinator.ledger, found, permitCount, held_foreground] using foreground

theorem releasesOwn_of_meets {outcome : Outcome} {attempt entry : Nat}
    {permit : LibtorrentPlaybackPermit H} (exact : CountersExact before)
    (meets : ReleaseMeetsIssuer before (.worker outcome attempt))
    (applied : before.worker = .releaseState permit entry) (foregroundOnly : Bool) :
    ReleasesOwn (permitScheme foregroundOnly) (before.ledger foregroundOnly) := by
  intro released target releasing present different counts
  obtain ⟨rfl, rfl⟩ : permit = released ∧ entry = target := by
    simpa [Coordinator.ledger, applied, Worker.releasing] using releasing
  cases found : before.store.state? entry with
  | none => simp [Coordinator.ledger, found]
  | some state =>
    have empty := meets permit entry state applied present different found
    obtain ⟨direct, foreground⟩ := exact permit.infoHash entry state present found permit.generation
    -- The foreground permits of a generation are among its direct ones.
    have fewer := issuedForegroundBy_le before.outstanding entry permit.generation
    have both : state.permitCount foregroundOnly permit.generation = 0 := by
      cases foregroundOnly
      · exact empty
      · show state.foregroundPermits.count permit.generation = 0
        omega
    simpa [Coordinator.ledger, permitScheme, found] using both

theorem step_countersExact (coherent : EntriesCoherent before) (exact : CountersExact before)
    (meets : ReleaseMeetsIssuer before action) (taken : before.step action = some after) :
    CountersExact after := by
  refine (countersExact_iff (step_coherent coherent taken)).mpr fun foregroundOnly => ?_
  have exactBefore := (countersExact_iff coherent).mp exact foregroundOnly
  rcases step_ledger foregroundOnly taken with
    step | ⟨permit, entry, outcome, attempt, rfl, applied, released⟩
  · exact step.exact (coherent foregroundOnly) exactBefore
  · exact released.exact (coherent foregroundOnly) exactBefore
      (releasesOwn_of_meets exact meets applied foregroundOnly)

theorem meets_of_countersExact (coherent : EntriesCoherent before) (exactBefore : CountersExact before)
    (exactAfter : CountersExact after) (taken : before.step action = some after) :
    ReleaseMeetsIssuer before action := by
  cases action with
  | worker outcome attempt =>
    intro permit entry state applied present different found
    obtain ⟨⟨store, worker⟩, stepped, equal⟩ := Option.map_eq_some_iff.mp taken
    rw [applied] at stepped
    cases stepped
    have released := ledger_released false applied (congrArg Coordinator.store equal).symm
      (congrArg Coordinator.worker equal).symm (congrArg Coordinator.tasks equal).symm
    have own := released.releasesOwn ((countersExact_iff coherent).mp exactBefore false)
      ((countersExact_iff (step_coherent coherent taken)).mp exactAfter false)
    have empty := own permit entry (by simp [Coordinator.ledger, applied, Worker.releasing])
      present different rfl
    simpa [Coordinator.ledger, found, permitScheme, permitCount] using empty
  | _ => trivial

theorem always_countersExact_iff (actions : List (Action H)) :
    Always CountersExact Coordinator.step Coordinator.new actions ↔
      Meets ReleaseMeetsIssuer Coordinator.step Coordinator.new actions := by
  constructor
  · intro always
    refine meets_of_always (fun before action after (coherent : EntriesCoherent before) => ?_)
      (fun before action after coherent => ?_) entriesCoherent_new always
    · exact meets_of_countersExact coherent
    · exact step_coherent coherent
  · intro meets
    have both : Always (fun coordinator => EntriesCoherent coordinator ∧ CountersExact coordinator)
        Coordinator.step Coordinator.new actions :=
      always_of_meets
        (fun _ _ _ ⟨coherent, exact⟩ permitted taken =>
          ⟨step_coherent coherent taken, step_countersExact coherent exact permitted taken⟩)
        ⟨entriesCoherent_new, countersExact_new⟩ meets
    exact both.mono fun _ held => held.2

end Exactness

-- A start whose caller goes away after the torrent was removed and added again: the first entry and
-- the second both issue from generation 1.
def releaseAfterReadding : List (Action Nat) :=
  let start : LibtorrentPlaybackStart := ⟨0, 0, .directInitial⟩
  let outcome : Outcome := ⟨true, false, 0, []⟩
  [.call (.startEntry 7 1 start false), .task 0 outcome, .task 0 outcome, .removeTorrent 7,
    .call (.startEntry 7 1 start false), .task 2 outcome, .task 2 outcome, .abandon 0, .receive,
    .worker outcome 0, .worker outcome 0, .worker outcome 0]

theorem release_after_readding_loses_a_permit :
    ∃ final state, run Coordinator.step Coordinator.new releaseAfterReadding = some final ∧
      final.store.entries.lookup 7 = some 1 ∧ final.store.state? 1 = some state ∧
      state.generation = 1 ∧ state.directPermits.count 1 = 0 ∧
      issuedBy final.outstanding 1 1 = 1 ∧ ¬ CountersExact final := by
  refine ⟨_, _, rfl, rfl, rfl, rfl, rfl, rfl, fun exact => ?_⟩
  have counted := (exact 7 1 _ rfl rfl 1).1
  cases counted

end StreamServer.Playback
