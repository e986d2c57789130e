import Mathlib.Algebra.BigOperators.Group.Finset.Basic
import StreamServer.NetworkSecurity.Resolver
import StreamServer.Shared.Runs
import StreamServer.Shared.Tokens

set_option autoImplicit false

namespace StreamServer.NetworkSecurity

open CancellationTokens

def maxConcurrentProxyRequests : Nat := 64
def maxConcurrentProxyRequestsPerPeer : Nat := 16

structure ProxyPolicySettings where
  allowPrivateNetworkSources : Bool
  allowInvalidProxyTlsCertificates : Bool
deriving DecidableEq, Repr

def ProxyPolicySettings.GrantedBy (held granted : ProxyPolicySettings) : Prop :=
  (held.allowPrivateNetworkSources = true → granted.allowPrivateNetworkSources = true) ∧
    (held.allowInvalidProxyTlsCertificates = true → granted.allowInvalidProxyTlsCertificates = true)

instance (held granted : ProxyPolicySettings) : Decidable (held.GrantedBy granted) :=
  inferInstanceAs (Decidable (_ ∧ _))

inductive ProxyPeer where
  | known (address : IpAddr)
  | unknown
deriving DecidableEq, Repr

structure ProxyCapacityState where
  global : Nat
  peers : ProxyPeer → Option Nat

structure ProxyCapacityPermit where
  peer : ProxyPeer
deriving DecidableEq, Repr

structure ProxyCapacityError where
deriving DecidableEq, Repr

def normalizePeer : Option IpAddr → ProxyPeer
  | some (.v6 address) =>
      match address.toIpv4Mapped with
      | some mapped => .known (.v4 mapped)
      | none => .known (.v6 address)
  | some address => .known address
  | none => .unknown

namespace ProxyCapacityState

def empty : ProxyCapacityState := ⟨0, fun _ => none⟩

def tryAcquireNormalized (state : ProxyCapacityState) (peer : ProxyPeer)
    (globalLimit peerLimit : Nat) :
    Except ProxyCapacityError (ProxyCapacityPermit × ProxyCapacityState) :=
  let peerActive := (state.peers peer).getD 0
  if state.global ≥ globalLimit ∨ peerActive ≥ peerLimit then .error {}
  else .ok (⟨peer⟩, ⟨state.global + 1, Function.update state.peers peer (some (peerActive + 1))⟩)

def tryAcquire (state : ProxyCapacityState) (peer : Option IpAddr) (globalLimit peerLimit : Nat) :
    Except ProxyCapacityError (ProxyCapacityPermit × ProxyCapacityState) :=
  state.tryAcquireNormalized (normalizePeer peer) globalLimit peerLimit

/-- Each `none` is one of the `expect` panics of the permit's drop. -/
def release (state : ProxyCapacityState) (permit : ProxyCapacityPermit) :
    Option ProxyCapacityState :=
  if state.global = 0 then none
  else
    match state.peers permit.peer with
    | none | some 0 => none
    | some (active + 1) =>
        some ⟨state.global - 1,
          Function.update state.peers permit.peer (if active = 0 then none else some active)⟩

end ProxyCapacityState

structure ProxyGeneration where
  settings : ProxyPolicySettings
  cancellation : Token
deriving DecidableEq, Repr

structure ProxyRequestContext where
  settings : ProxyPolicySettings
  cancellation : Token
  capacity : ProxyCapacityPermit
deriving DecidableEq, Repr

-- The runtime with the requests that use it. `admitting` holds the calls of `try_request_for_peer`
-- that own a permit and have not yet locked the generation; `announced` is the settings value most
-- recently passed to a reconfiguration.
structure ProxyRuntime where
  tokens : Tokens
  capacity : ProxyCapacityState
  generation : ProxyGeneration
  admitting : List ProxyCapacityPermit
  contexts : List ProxyRequestContext
  announced : ProxyPolicySettings

namespace ProxyRuntime

def new (settings : ProxyPolicySettings) : ProxyRuntime :=
  let (cancellation, tokens) := Tokens.empty.create
  { tokens
    capacity := .empty
    generation := ⟨settings, cancellation⟩
    admitting := []
    contexts := []
    announced := settings }

def replaceGeneration (runtime : ProxyRuntime) (settings : ProxyPolicySettings) : ProxyRuntime :=
  let (cancellation, tokens) := runtime.tokens.create
  { runtime with tokens, generation := ⟨settings, cancellation⟩ }

def cancelGeneration (runtime : ProxyRuntime) : ProxyRuntime :=
  { runtime with tokens := runtime.tokens.cancel runtime.generation.cancellation }

def beginReconfigure (runtime : ProxyRuntime) (next : ProxyPolicySettings) : ProxyRuntime :=
  let settings := runtime.generation.settings
  let intersection : ProxyPolicySettings :=
    { allowPrivateNetworkSources :=
        settings.allowPrivateNetworkSources && next.allowPrivateNetworkSources
      allowInvalidProxyTlsCertificates :=
        settings.allowInvalidProxyTlsCertificates && next.allowInvalidProxyTlsCertificates }
  if intersection ≠ settings then runtime.cancelGeneration.replaceGeneration intersection
  else runtime

def finishReconfigure (runtime : ProxyRuntime) (next : ProxyPolicySettings) : ProxyRuntime :=
  let settings := runtime.generation.settings
  if settings = next then runtime
  else
    let restrictive :=
      (settings.allowPrivateNetworkSources && !next.allowPrivateNetworkSources) ||
        (settings.allowInvalidProxyTlsCertificates && !next.allowInvalidProxyTlsCertificates)
    (if restrictive then runtime.cancelGeneration else runtime).replaceGeneration next

def acquireCapacity (runtime : ProxyRuntime) (peer : Option IpAddr) : ProxyRuntime :=
  match runtime.capacity.tryAcquire peer maxConcurrentProxyRequests
      maxConcurrentProxyRequestsPerPeer with
  | .error _ => runtime
  | .ok (permit, capacity) =>
      { runtime with capacity, admitting := runtime.admitting ++ [permit] }

def admitRequest (runtime : ProxyRuntime) (index : Nat) : Option ProxyRuntime :=
  runtime.admitting[index]?.map fun permit =>
    { runtime with
      admitting := runtime.admitting.eraseIdx index
      contexts := runtime.contexts ++
        [⟨runtime.generation.settings, runtime.generation.cancellation, permit⟩] }

def dropContext (runtime : ProxyRuntime) (index : Nat) : Option ProxyRuntime := do
  let context ← runtime.contexts[index]?
  let capacity ← runtime.capacity.release context.capacity
  return { runtime with capacity, contexts := runtime.contexts.eraseIdx index }

/-- One critical section of the runtime. A call of `try_request_for_peer` is two of them. -/
inductive Action where
  | acquireCapacity (peer : Option IpAddr)
  | admitRequest (index : Nat)
  | dropContext (index : Nat)
  | beginReconfigure (next : ProxyPolicySettings)
  | finishReconfigure (next : ProxyPolicySettings)
deriving DecidableEq, Repr

def step (runtime : ProxyRuntime) : Action → Option ProxyRuntime
  | .acquireCapacity peer => some (runtime.acquireCapacity peer)
  | .admitRequest index => runtime.admitRequest index
  | .dropContext index => runtime.dropContext index
  | .beginReconfigure next => some { runtime.beginReconfigure next with announced := next }
  | .finishReconfigure next => some { runtime.finishReconfigure next with announced := next }

end ProxyRuntime

end StreamServer.NetworkSecurity

namespace StreamServer.NetworkSecurity.Capacity

structure Accounts where
  state : ProxyCapacityState
  permits : List ProxyCapacityPermit

def Accounts.initial : Accounts := ⟨.empty, []⟩

inductive Action where
  | acquire (peer : Option IpAddr)
  | drop (index : Nat)

/-- A refused acquisition is a step too; a drop that would panic is none. -/
def step (globalLimit peerLimit : Nat) (accounts : Accounts) : Action → Option Accounts
  | .acquire peer =>
      match accounts.state.tryAcquire peer globalLimit peerLimit with
      | .ok (permit, state) => some ⟨state, permit :: accounts.permits⟩
      | .error _ => some accounts
  | .drop index =>
      accounts.permits[index]?.bind fun permit =>
        (accounts.state.release permit).map fun state => ⟨state, accounts.permits.eraseIdx index⟩

def held (permits : List ProxyCapacityPermit) (peer : ProxyPeer) : Nat :=
  (permits.map ProxyCapacityPermit.peer).count peer

structure Balanced (globalLimit peerLimit : Nat) (accounts : Accounts) : Prop where
  total : accounts.state.global = accounts.permits.length
  peers : ∀ peer, accounts.state.peers peer =
    if held accounts.permits peer = 0 then none else some (held accounts.permits peer)
  withinGlobal : accounts.state.global ≤ globalLimit
  withinPeer : ∀ peer, held accounts.permits peer ≤ peerLimit

section Steps

variable {globalLimit peerLimit : Nat} {accounts : Accounts} {permit : ProxyCapacityPermit}

theorem held_cons (permit : ProxyCapacityPermit) (permits : List ProxyCapacityPermit)
    (peer : ProxyPeer) :
    held (permit :: permits) peer = held permits peer + if permit.peer = peer then 1 else 0 := by
  simp [held, List.count_cons]

theorem held_eraseIdx {permits : List ProxyCapacityPermit} {index : Nat}
    (found : permits[index]? = some permit) (peer : ProxyPeer) :
    held permits peer = held (permits.eraseIdx index) peer + if permit.peer = peer then 1 else 0 := by
  obtain ⟨inside, rfl⟩ := List.getElem?_eq_some_iff.mp found
  rw [← held_cons]
  exact ((List.getElem_cons_eraseIdx_perm inside).map ProxyCapacityPermit.peer).count_eq peer |>.symm

theorem Balanced.active (balanced : Balanced globalLimit peerLimit accounts) (peer : ProxyPeer) :
    (accounts.state.peers peer).getD 0 = held accounts.permits peer := by
  rw [balanced.peers]
  split
  next none => exact none.symm
  next => rfl

theorem Balanced.acquired (balanced : Balanced globalLimit peerLimit accounts) {peer : Option IpAddr}
    {next : ProxyCapacityState}
    (acquired : accounts.state.tryAcquire peer globalLimit peerLimit = .ok (permit, next)) :
    Balanced globalLimit peerLimit ⟨next, permit :: accounts.permits⟩ := by
  unfold ProxyCapacityState.tryAcquire ProxyCapacityState.tryAcquireNormalized at acquired
  simp only [balanced.active] at acquired
  split at acquired
  next => cases acquired
  next free =>
    cases acquired
    obtain ⟨freeGlobal, freePeer⟩ := not_or.mp free
    refine ⟨?_, fun other => ?_, ?_, fun other => ?_⟩
    · simp only [balanced.total, List.length_cons]
    · simp only [held_cons]
      by_cases same : normalizePeer peer = other
      · subst same
        rw [Function.update_self, if_pos rfl, if_neg (by omega)]
      · rw [Function.update_of_ne (Ne.symm same), if_neg same, Nat.add_zero]
        exact balanced.peers other
    · simp only
      omega
    · have limit := balanced.withinPeer other
      simp only [held_cons]
      by_cases same : normalizePeer peer = other
      · subst same
        rw [if_pos rfl]
        omega
      · rw [if_neg same, Nat.add_zero]
        exact limit

theorem Balanced.released (balanced : Balanced globalLimit peerLimit accounts) {index : Nat}
    (found : accounts.permits[index]? = some permit) :
    ∃ next, accounts.state.release permit = some next ∧
      Balanced globalLimit peerLimit ⟨next, accounts.permits.eraseIdx index⟩ := by
  have inside := (List.getElem?_eq_some_iff.mp found).1
  have length : (accounts.permits.eraseIdx index).length + 1 = accounts.permits.length := by
    rw [List.length_eraseIdx_of_lt inside]
    omega
  have erased := held_eraseIdx found
  have own := erased permit.peer
  rw [if_pos rfl] at own
  have counted : accounts.state.peers permit.peer =
      some (held (accounts.permits.eraseIdx index) permit.peer + 1) := by
    rw [balanced.peers, own, if_neg (by omega)]
  have total := balanced.total
  have positive : accounts.state.global ≠ 0 := by omega
  refine ⟨⟨accounts.state.global - 1, Function.update accounts.state.peers permit.peer
    (if held (accounts.permits.eraseIdx index) permit.peer = 0 then none
      else some (held (accounts.permits.eraseIdx index) permit.peer))⟩, ?_, ?_, fun other => ?_, ?_,
    fun other => ?_⟩
  · simp only [ProxyCapacityState.release, counted, positive, if_false]
  · simp only
    omega
  · simp only
    by_cases same : permit.peer = other
    · subst same
      rw [Function.update_self]
    · have count := erased other
      rw [if_neg same, Nat.add_zero] at count
      rw [Function.update_of_ne (Ne.symm same), ← count]
      exact balanced.peers other
  · have limit := balanced.withinGlobal
    simp only
    omega
  · have count := erased other
    have limit := balanced.withinPeer other
    simp only
    omega

theorem step_balanced (accounts : Accounts) (action : Action) (next : Accounts)
    (balanced : Balanced globalLimit peerLimit accounts)
    (taken : step globalLimit peerLimit accounts action = some next) :
    Balanced globalLimit peerLimit next := by
  cases action with
  | acquire peer =>
    unfold step at taken
    simp only at taken
    split at taken
    next permit state acquired =>
      cases taken
      exact balanced.acquired acquired
    next =>
      cases taken
      exact balanced
  | drop index =>
    obtain ⟨permit, found, taken⟩ := Option.bind_eq_some_iff.mp taken
    obtain ⟨state, released, kept⟩ := balanced.released found
    rw [released] at taken
    cases taken
    exact kept

end Steps

theorem initial_balanced (globalLimit peerLimit : Nat) :
    Balanced globalLimit peerLimit .initial := by
  refine ⟨rfl, fun peer => ?_, Nat.zero_le _, fun peer => ?_⟩
  · simp [Accounts.initial, held, ProxyCapacityState.empty]
  · simp [Accounts.initial, held]

structure Exact (globalLimit peerLimit : Nat) (accounts : Accounts) : Prop where
  outstanding : accounts.state.global = accounts.permits.length
  sum : ∃ counted : Finset ProxyPeer, (∀ peer, peer ∈ counted ↔ accounts.state.peers peer ≠ none) ∧
    accounts.state.global = counted.sum fun peer => (accounts.state.peers peer).getD 0
  nonzero : ∀ peer, accounts.state.peers peer ≠ some 0
  withinGlobal : accounts.state.global ≤ globalLimit
  withinPeer : ∀ peer, (accounts.state.peers peer).getD 0 ≤ peerLimit
  refuses : ∀ peer, (∃ error, accounts.state.tryAcquire peer globalLimit peerLimit = .error error) ↔
    globalLimit ≤ accounts.permits.length ∨ peerLimit ≤ held accounts.permits (normalizePeer peer)
  unchanged : ∀ peer error, accounts.state.tryAcquire peer globalLimit peerLimit = .error error →
    step globalLimit peerLimit accounts (.acquire peer) = some accounts
  drops : ∀ permit ∈ accounts.permits, accounts.state.release permit ≠ none

theorem Balanced.exact {globalLimit peerLimit : Nat} {accounts : Accounts}
    (balanced : Balanced globalLimit peerLimit accounts) : Exact globalLimit peerLimit accounts where
  outstanding := balanced.total
  sum := by
    refine ⟨(accounts.permits.map ProxyCapacityPermit.peer).toFinset, fun peer => ?_, ?_⟩
    · rw [balanced.peers, List.mem_toFinset, ← List.count_pos_iff]
      change 0 < held accounts.permits peer ↔ _
      split <;> simp <;> omega
    · simp only [balanced.active]
      rw [balanced.total]
      exact (List.length_map ..).symm.trans (List.sum_toFinset_count_eq_length _).symm
  nonzero peer := by
    rw [balanced.peers]
    split
    next => simp
    next some => simpa using some
  withinGlobal := balanced.withinGlobal
  withinPeer peer := by
    rw [balanced.active]
    exact balanced.withinPeer peer
  refuses peer := by
    unfold ProxyCapacityState.tryAcquire ProxyCapacityState.tryAcquireNormalized
    simp only [balanced.active, balanced.total]
    split
    next full => exact iff_of_true ⟨_, rfl⟩ full
    next free =>
      refine iff_of_false ?_ free
      rintro ⟨error, impossible⟩
      cases impossible
  unchanged peer error refused := by simp [step, refused]
  drops permit member := by
    obtain ⟨index, found⟩ := List.getElem?_of_mem member
    obtain ⟨next, released, -⟩ := balanced.released found
    rw [released]
    exact Option.some_ne_none next

theorem run_exact (globalLimit peerLimit : Nat) (actions : List Action) (accounts : Accounts)
    (ran : Runs.run (step globalLimit peerLimit) .initial actions = some accounts) :
    Exact globalLimit peerLimit accounts :=
  (Runs.invariant_of_run step_balanced (initial_balanced globalLimit peerLimit) ran).exact

def twoSpellings : List Action :=
  [.acquire (some (.v4 (.new 203 0 113 7))), .acquire none,
    .acquire (some (.v6 (.new 0 0 0 0 0 0xffff 0xcb00 0x7107))), .drop 1]

theorem two_spellings_share_a_limit :
    ∃ accounts, Runs.run (step 64 1) .initial twoSpellings = some accounts ∧
      Exact 64 1 accounts ∧ accounts.permits = [⟨.unknown⟩] := by
  have finishes : (Runs.run (step 64 1) .initial twoSpellings).map Accounts.permits =
      some [⟨.unknown⟩] := by
    decide +kernel
  obtain ⟨accounts, ran, permits⟩ := Option.map_eq_some_iff.mp finishes
  exact ⟨accounts, ran, run_exact 64 1 twoSpellings accounts ran, permits⟩

end StreamServer.NetworkSecurity.Capacity

namespace StreamServer.NetworkSecurity

open CancellationTokens Runs

theorem ProxyPolicySettings.GrantedBy.refl (settings : ProxyPolicySettings) :
    settings.GrantedBy settings := ⟨id, id⟩

namespace ProxyRuntime

def PermissionsCurrent (runtime : ProxyRuntime) : Prop :=
  ∀ context ∈ runtime.contexts, runtime.tokens.isCancelled context.cancellation = false →
    context.settings.GrantedBy runtime.announced

-- A reconfiguration to `next` may not find a live request of a replaced generation that holds a
-- permission `next` withdraws.
def ReplacedGenerationsComply (runtime : ProxyRuntime) : Action → Prop
  | .beginReconfigure next | .finishReconfigure next =>
      ∀ context ∈ runtime.contexts,
        context.cancellation ≠ runtime.generation.cancellation →
          runtime.tokens.isCancelled context.cancellation = false →
            context.settings.GrantedBy next
  | _ => True

structure GenerationConsistent (runtime : ProxyRuntime) : Prop where
  issued : runtime.tokens.Issued runtime.generation.cancellation
  contextsIssued : ∀ context ∈ runtime.contexts, runtime.tokens.Issued context.cancellation
  settings : ∀ context ∈ runtime.contexts,
    context.cancellation = runtime.generation.cancellation →
      context.settings = runtime.generation.settings
  announced : runtime.generation.settings.GrantedBy runtime.announced

theorem new_consistent (settings : ProxyPolicySettings) :
    (new settings).GenerationConsistent where
  issued := Tokens.issued_fresh Tokens.empty
  contextsIssued := by simp [new]
  settings := by simp [new]
  announced := .refl settings

-- What a reconfiguration to `next` does: it keeps the generation, or it replaces it after
-- cancelling it, or it replaces it and leaves its token alive.
inductive Reconfigured (before : ProxyRuntime) (next : ProxyPolicySettings) :
    ProxyRuntime → Prop where
  | kept (covered : before.generation.settings.GrantedBy next) : Reconfigured before next before
  | cancelled (settings : ProxyPolicySettings) (covered : settings.GrantedBy next) :
      Reconfigured before next (before.cancelGeneration.replaceGeneration settings)
  | widened (settings : ProxyPolicySettings) (covered : settings.GrantedBy next)
      (widens : before.generation.settings.GrantedBy next) :
      Reconfigured before next (before.replaceGeneration settings)

theorem beginReconfigure_cases (runtime : ProxyRuntime) (next : ProxyPolicySettings) :
    Reconfigured runtime next (runtime.beginReconfigure next) := by
  unfold beginReconfigure
  simp only
  split
  next =>
    apply Reconfigured.cancelled
    simp [ProxyPolicySettings.GrantedBy]
  next unchanged =>
    apply Reconfigured.kept
    have same := not_not.mp unchanged
    constructor <;> intro held
    · have field := congrArg ProxyPolicySettings.allowPrivateNetworkSources same
      simpa [held] using field
    · have field := congrArg ProxyPolicySettings.allowInvalidProxyTlsCertificates same
      simpa [held] using field

theorem finishReconfigure_cases (runtime : ProxyRuntime) (next : ProxyPolicySettings) :
    Reconfigured runtime next (runtime.finishReconfigure next) := by
  unfold finishReconfigure
  simp only
  split
  next same => exact .kept (same ▸ .refl _)
  next =>
    split
    next => exact .cancelled next (.refl next)
    next permissive =>
      apply Reconfigured.widened next (.refl next)
      simpa [ProxyPolicySettings.GrantedBy] using permissive

section Reconfigured

variable {before after : ProxyRuntime} {next : ProxyPolicySettings}

theorem Reconfigured.contexts (change : Reconfigured before next after) :
    after.contexts = before.contexts := by
  cases change <;> rfl

theorem Reconfigured.issued (change : Reconfigured before next after) {token : Token}
    (issued : before.tokens.Issued token) : after.tokens.Issued token := by
  cases change with
  | kept => exact issued
  | cancelled settings _ => exact Tokens.issued_create _ (by simpa [cancelGeneration] using issued)
  | widened settings _ _ => exact Tokens.issued_create _ issued

theorem Reconfigured.isCancelled_of_ne (change : Reconfigured before next after) {token : Token}
    (older : token ≠ before.generation.cancellation) :
    after.tokens.isCancelled token = before.tokens.isCancelled token := by
  cases change with
  | kept => rfl
  | cancelled settings _ =>
    simpa [replaceGeneration, cancelGeneration] using
      Tokens.isCancelled_cancel_of_ne before.tokens older
  | widened settings _ _ => simp [replaceGeneration]

theorem Reconfigured.consistent (change : Reconfigured before next after)
    (consistent : before.GenerationConsistent) :
    GenerationConsistent { after with announced := next } := by
  have fresh (tokens : Tokens) (token : Token) (issued : tokens.Issued token) :
      token ≠ tokens.create.1 := Nat.ne_of_lt issued
  refine ⟨?_, ?_, ?_, ?_⟩
  · cases change with
    | kept => exact consistent.issued
    | cancelled settings _ => exact Tokens.issued_fresh _
    | widened settings _ _ => exact Tokens.issued_fresh _
  · intro context member
    exact change.issued (consistent.contextsIssued context (change.contexts ▸ member))
  · cases change with
    | kept => exact consistent.settings
    | cancelled settings _ =>
      intro context member same
      have issued := consistent.contextsIssued context member
      exact absurd same (fresh (before.tokens.cancel _) _ (by simpa using issued))
    | widened settings _ _ =>
      intro context member same
      exact absurd same (fresh before.tokens _ (consistent.contextsIssued context member))
  · cases change with
    | kept covered => exact covered
    | cancelled settings covered => exact covered
    | widened settings covered _ => exact covered

theorem Reconfigured.permissionsCurrent (change : Reconfigured before next after)
    (consistent : before.GenerationConsistent)
    (comply : ∀ context ∈ before.contexts,
      context.cancellation ≠ before.generation.cancellation →
        before.tokens.isCancelled context.cancellation = false →
          context.settings.GrantedBy next) :
    PermissionsCurrent { after with announced := next } := by
  intro context member live
  change context ∈ after.contexts at member
  change after.tokens.isCancelled context.cancellation = false at live
  change context.settings.GrantedBy next
  rw [change.contexts] at member
  by_cases current : context.cancellation = before.generation.cancellation
  · have carried := consistent.settings context member current
    -- A request of the replaced generation is either cancelled with it or loses nothing.
    cases change with
    | kept covered => exact carried ▸ covered
    | cancelled settings covered =>
      have cancelled := Tokens.isCancelled_cancel_self before.tokens _ consistent.issued
      simp [replaceGeneration, cancelGeneration, current, cancelled] at live
    | widened settings covered widens => exact carried ▸ widens
  · rw [change.isCancelled_of_ne current] at live
    exact comply context member current live

end Reconfigured

theorem acquireCapacity_generation (runtime : ProxyRuntime) (peer : Option IpAddr) :
    (runtime.acquireCapacity peer).tokens = runtime.tokens ∧
      (runtime.acquireCapacity peer).generation = runtime.generation ∧
      (runtime.acquireCapacity peer).contexts = runtime.contexts ∧
      (runtime.acquireCapacity peer).announced = runtime.announced := by
  unfold acquireCapacity
  split <;> simp

theorem step_consistent (runtime : ProxyRuntime) (action : Action) (next : ProxyRuntime)
    (consistent : runtime.GenerationConsistent) (taken : runtime.step action = some next) :
    next.GenerationConsistent := by
  obtain ⟨issued, contextsIssued, settings, announced⟩ := consistent
  cases action with
  | acquireCapacity peer =>
    cases Option.some.inj taken
    obtain ⟨tokens, generation, contexts, said⟩ := acquireCapacity_generation runtime peer
    constructor <;> simp_all
  | admitRequest index =>
    obtain ⟨permit, found, rfl⟩ := Option.map_eq_some_iff.mp taken
    refine ⟨issued, ?_, ?_, announced⟩
    · intro context member
      rcases List.mem_append.mp member with old | new
      · exact contextsIssued context old
      · cases List.mem_singleton.mp new
        exact issued
    · intro context member same
      rcases List.mem_append.mp member with old | new
      · exact settings context old same
      · cases List.mem_singleton.mp new
        rfl
  | dropContext index =>
    simp only [step, dropContext, Option.bind_eq_bind, Option.bind_eq_some_iff] at taken
    obtain ⟨context, found, capacity, released, same⟩ := taken
    cases Option.some.inj same
    exact ⟨issued, fun context member => contextsIssued context (List.mem_of_mem_eraseIdx member),
      fun context member => settings context (List.mem_of_mem_eraseIdx member), announced⟩
  | beginReconfigure settings' =>
    cases Option.some.inj taken
    exact (beginReconfigure_cases runtime settings').consistent
      ⟨issued, contextsIssued, settings, announced⟩
  | finishReconfigure settings' =>
    cases Option.some.inj taken
    exact (finishReconfigure_cases runtime settings').consistent
      ⟨issued, contextsIssued, settings, announced⟩

theorem step_permissionsCurrent (runtime : ProxyRuntime) (action : Action) (next : ProxyRuntime)
    (consistent : runtime.GenerationConsistent) (current : runtime.PermissionsCurrent)
    (comply : runtime.ReplacedGenerationsComply action)
    (taken : runtime.step action = some next) : next.PermissionsCurrent := by
  cases action with
  | acquireCapacity peer =>
    cases Option.some.inj taken
    obtain ⟨tokens, generation, contexts, said⟩ := acquireCapacity_generation runtime peer
    simpa only [PermissionsCurrent, tokens, contexts, said] using current
  | admitRequest index =>
    obtain ⟨permit, found, rfl⟩ := Option.map_eq_some_iff.mp taken
    intro context member live
    rcases List.mem_append.mp member with old | new
    · exact current context old live
    · cases List.mem_singleton.mp new
      exact consistent.announced
  | dropContext index =>
    simp only [step, dropContext, Option.bind_eq_bind, Option.bind_eq_some_iff] at taken
    obtain ⟨context, found, capacity, released, same⟩ := taken
    cases Option.some.inj same
    exact fun context member => current context (List.mem_of_mem_eraseIdx member)
  | beginReconfigure settings =>
    cases Option.some.inj taken
    exact (beginReconfigure_cases runtime settings).permissionsCurrent consistent comply
  | finishReconfigure settings =>
    cases Option.some.inj taken
    exact (finishReconfigure_cases runtime settings).permissionsCurrent consistent comply

theorem Reconfigured.comply_of_permissionsCurrent {before after : ProxyRuntime}
    {next : ProxyPolicySettings} (change : Reconfigured before next after)
    (current : PermissionsCurrent { after with announced := next })
    (context : ProxyRequestContext) (member : context ∈ before.contexts)
    (older : context.cancellation ≠ before.generation.cancellation)
    (live : before.tokens.isCancelled context.cancellation = false) :
    context.settings.GrantedBy next := by
  apply current context
  · exact change.contexts.symm ▸ member
  · exact (change.isCancelled_of_ne older).trans live

theorem comply_of_step_permissionsCurrent (runtime : ProxyRuntime) (action : Action)
    (next : ProxyRuntime) (current : next.PermissionsCurrent)
    (taken : runtime.step action = some next) : runtime.ReplacedGenerationsComply action := by
  cases action with
  | acquireCapacity | admitRequest | dropContext => trivial
  | beginReconfigure settings =>
    cases Option.some.inj taken
    exact (beginReconfigure_cases runtime settings).comply_of_permissionsCurrent current
  | finishReconfigure settings =>
    cases Option.some.inj taken
    exact (finishReconfigure_cases runtime settings).comply_of_permissionsCurrent current

theorem always_permissionsCurrent_iff (settings : ProxyPolicySettings) (actions : List Action) :
    Always PermissionsCurrent step (new settings) actions ↔
      Meets ReplacedGenerationsComply step (new settings) actions := by
  constructor
  · intro always
    exact meets_of_always
      (fun runtime action next _ _ after => comply_of_step_permissionsCurrent runtime action next after)
      step_consistent (new_consistent settings) always
  · intro meets
    have both : Always (fun runtime => runtime.GenerationConsistent ∧ runtime.PermissionsCurrent)
        step (new settings) actions := by
      refine always_of_meets ?_ ?_ meets
      · intro runtime action next invariant comply taken
        exact ⟨step_consistent runtime action next invariant.1 taken,
          step_permissionsCurrent runtime action next invariant.1 invariant.2 comply taken⟩
      · exact ⟨new_consistent settings, by simp [PermissionsCurrent, new]⟩
    exact both.mono fun _ invariant => invariant.2

-- One request is admitted with private sources allowed, the other permission is then granted, which
-- leaves the request's generation behind with a live token, and last both are withdrawn.
theorem widening_then_narrowing_strands_a_request :
    ¬ ∀ (settings : ProxyPolicySettings) (actions : List Action),
      Always PermissionsCurrent step (new settings) actions := by
  intro claimed
  have always := claimed ⟨true, false⟩
    [.acquireCapacity none, .admitRequest 0, .beginReconfigure ⟨true, true⟩,
      .finishReconfigure ⟨true, true⟩, .beginReconfigure ⟨false, false⟩,
      .finishReconfigure ⟨false, false⟩]
  have stranded := always.last rfl ⟨⟨true, false⟩, 0, ⟨.unknown⟩⟩ (by decide) (by decide)
  exact absurd stranded (by decide)

end ProxyRuntime

end StreamServer.NetworkSecurity
