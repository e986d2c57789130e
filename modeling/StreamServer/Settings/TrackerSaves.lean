import Mathlib.Order.MinMax
import StreamServer.Settings.Coherence

set_option autoImplicit false

namespace StreamServer.Settings

/-- A tracker save past its check, whose list is not published yet. -/
def Phase.writing : Phase → Bool
  | .checked | .loaded _ | .persisting _ _ | .persisted _ _ | .replaced _ => true
  | _ => false

theorem Phase.holds_of_writing {phase : Phase} (writing : phase.writing = true) :
    phase.holds = true := by
  cases phase <;> first | rfl | cases writing

theorem Call.admitted_of_wrote {call : Call} (wrote : call.wroteTrackers = true) :
    call.admittedTrackers = true := by
  obtain ⟨request, sequence, phase, abandoned⟩ := call
  simp only [wroteTrackers, Bool.and_eq_true] at wrote
  cases phase with
  | published => simp [admittedTrackers, wrote.1]
  | finished outcome =>
    cases outcome with
    | saved => simp [admittedTrackers, wrote.1]
    | superseded | failed error => cases wrote.2
  | called | sequenced | admitted | locked | checked | loaded current | persisting disk publish
  | persisted disk publish | replaced publish | dropped => cases wrote.2

namespace System

structure Numbered (system : System) : Prop where
  bounded : ∀ call ∈ system.calls, call.sequence ≤ system.nextTrackerSequence
  apart : ∀ (place other : Nat) (first second : Call), system.calls[place]? = some first →
    system.calls[other]? = some second → first.sequence = second.sequence →
      0 < first.sequence → place = other
  positive : ∀ call ∈ system.calls, call.request.isTrackers = true →
    call.phase = .called ∨ 0 < call.sequence

structure Admitted (system : System) : Prop where
  bounded : ∀ call ∈ system.calls, call.admittedTrackers = true →
    call.sequence ≤ system.latestAdmittedTrackerSequence
  latest : system.latestAdmittedTrackerSequence = 0 ∨
    ∃ call ∈ system.calls, call.admittedTrackers = true ∧
      call.sequence = system.latestAdmittedTrackerSequence
  superseded : ∀ call ∈ system.calls, call.phase = .finished .superseded →
    ∃ other ∈ system.calls, other.admittedTrackers = true ∧ call.sequence < other.sequence

/-- The live trackers are those of the newest save that was written, or still the first ones. -/
def TrackersKept (origin : ServerSettings) (system : System) : Prop :=
  ((∀ call ∈ system.calls, call.wroteTrackers = false) ∧
    system.live.cachedTrackers = origin.cachedTrackers ∧
    system.live.trackersLastUpdated = origin.trackersLastUpdated) ∨
  ∃ call ∈ system.calls, call.wroteTrackers = true ∧
    call.request = .trackers system.live.cachedTrackers system.live.trackersLastUpdated ∧
    ∀ other ∈ system.calls, other.wroteTrackers = true → other.sequence ≤ call.sequence

structure Tracked (origin : ServerSettings) (system : System) : Prop where
  newest : ∀ call ∈ system.calls, call.request.isTrackers = true → call.phase.writing = true →
    ∀ other ∈ system.calls, other.wroteTrackers = true → other.sequence ≤ call.sequence
  kept : TrackersKept origin system

structure Ordered (origin : ServerSettings) (system : System) : Prop where
  numbered : system.Numbered
  admitted : system.Admitted
  tracked : system.Tracked origin

section Steps

variable {system next : System} {place : Nat} {call after : Call} {origin : ServerSettings}

theorem numbered_set (numbered : system.Numbered) (found : system.calls[place]? = some call)
    (calls : next.calls = system.calls.set place after)
    (counter : next.nextTrackerSequence = system.nextTrackerSequence)
    (sequence : after.sequence = call.sequence) (request : after.request = call.request)
    (waits : call.request.isTrackers = true → call.phase = .called → after.phase = .called) :
    next.Numbered := by
  have member := List.mem_of_getElem? found
  refine ⟨fun other among => ?_, fun one other first second atOne atOther => ?_,
    fun other among => ?_⟩
  · rw [calls] at among
    rw [counter]
    obtain earlier | same := List.mem_or_eq_of_mem_set among
    · exact numbered.bounded other earlier
    · rw [same, sequence]
      exact numbered.bounded call member
  · have before : ∀ (spot : Nat) (shown : Call), next.calls[spot]? = some shown →
        ∃ earlier, system.calls[spot]? = some earlier ∧ earlier.sequence = shown.sequence := by
      intro spot shown present
      rw [calls] at present
      obtain ⟨_, earlier⟩ | ⟨same, same'⟩ := Lists.getElem?_set_cases present
      · exact ⟨shown, earlier, rfl⟩
      · rw [same, same']
        exact ⟨call, found, sequence.symm⟩
    obtain ⟨earlierFirst, presentFirst, sameFirst⟩ := before one first atOne
    obtain ⟨earlierSecond, presentSecond, sameSecond⟩ := before other second atOther
    rw [← sameFirst, ← sameSecond]
    exact numbered.apart one other earlierFirst earlierSecond presentFirst presentSecond
  · rw [calls] at among
    obtain earlier | same := List.mem_or_eq_of_mem_set among
    · exact numbered.positive other earlier
    · rw [same, request, sequence]
      intro trackers
      exact (numbered.positive call member trackers).imp_left (waits trackers)

theorem numbered_sequenced (numbered : system.Numbered)
    (calls : next.calls = system.calls.set place after)
    (counter : next.nextTrackerSequence = system.nextTrackerSequence + 1)
    (sequence : after.sequence = system.nextTrackerSequence + 1) : next.Numbered := by
  have fresh : ∀ (spot : Nat) (shown : Call), next.calls[spot]? = some shown →
      spot = place ∧ shown.sequence = system.nextTrackerSequence + 1 ∨
        spot ≠ place ∧ system.calls[spot]? = some shown ∧
          shown.sequence ≤ system.nextTrackerSequence := by
    intro spot shown present
    rw [calls] at present
    obtain ⟨different, earlier⟩ | ⟨same, same'⟩ := Lists.getElem?_set_cases present
    · exact .inr ⟨different, earlier, numbered.bounded shown (List.mem_of_getElem? earlier)⟩
    · exact .inl ⟨same, by rw [same', sequence]⟩
  refine ⟨fun other among => ?_, fun one other first second atOne atOther alike positive => ?_,
    fun other among trackers => ?_⟩
  · obtain ⟨spot, present⟩ := List.mem_iff_getElem?.mp among
    rw [counter]
    obtain ⟨_, same⟩ | ⟨_, _, below⟩ := fresh spot other present <;> omega
  · obtain ⟨isFirst, newFirst⟩ | ⟨_, earlierFirst, oldFirst⟩ := fresh one first atOne
    · obtain ⟨isSecond, _⟩ | ⟨_, _, oldSecond⟩ := fresh other second atOther
      · rw [isFirst, isSecond]
      · omega
    · obtain ⟨_, newSecond⟩ | ⟨_, earlierSecond, _⟩ := fresh other second atOther
      · omega
      · exact numbered.apart one other first second earlierFirst earlierSecond alike positive
  · obtain ⟨spot, present⟩ := List.mem_iff_getElem?.mp among
    obtain ⟨_, same⟩ | ⟨_, earlier, _⟩ := fresh spot other present
    · exact .inr (by omega)
    · exact numbered.positive other (List.mem_of_getElem? earlier) trackers

theorem admitted_set (admitted : system.Admitted) (found : system.calls[place]? = some call)
    (calls : next.calls = system.calls.set place after)
    (latest : next.latestAdmittedTrackerSequence = system.latestAdmittedTrackerSequence)
    (alike : after.admittedTrackers = call.admittedTrackers)
    (sequence : call.admittedTrackers = true → after.sequence = call.sequence)
    (late : after.phase = .finished .superseded →
      ∃ other ∈ system.calls, other.admittedTrackers = true ∧ after.sequence < other.sequence) :
    next.Admitted := by
  have member := List.mem_of_getElem? found
  have forward : ∀ other ∈ system.calls, other.admittedTrackers = true →
      ∃ later ∈ next.calls, later.admittedTrackers = true ∧ later.sequence = other.sequence := by
    intro other among holds
    rw [calls]
    by_cases same : other = call
    · subst same
      exact ⟨after, Lists.mem_set_self found, by rw [alike, holds], sequence holds⟩
    · exact ⟨other, Lists.mem_set_of_ne found same among, holds, rfl⟩
  refine ⟨fun other among holds => ?_, ?_, fun other among phase => ?_⟩
  · rw [calls] at among
    rw [latest]
    obtain earlier | same := List.mem_or_eq_of_mem_set among
    · exact admitted.bounded other earlier holds
    · rw [same, alike] at holds
      rw [same, sequence holds]
      exact admitted.bounded call member holds
  · rw [latest]
    refine admitted.latest.imp_right fun ⟨other, among, holds, attains⟩ => ?_
    obtain ⟨later, amongLater, holdsLater, same⟩ := forward other among holds
    exact ⟨later, amongLater, holdsLater, same.trans attains⟩
  · rw [calls] at among
    have behind : ∃ earlier ∈ system.calls, earlier.admittedTrackers = true ∧
        other.sequence < earlier.sequence := by
      obtain earlier | same := List.mem_or_eq_of_mem_set among
      · exact admitted.superseded other earlier phase
      · rw [same] at phase ⊢
        exact late phase
    obtain ⟨ahead, amongAhead, holds, below⟩ := behind
    obtain ⟨later, amongLater, holdsLater, same⟩ := forward ahead amongAhead holds
    exact ⟨later, amongLater, holdsLater, by rw [same]; exact below⟩

theorem admitted_admitted (admitted : system.Admitted) (found : system.calls[place]? = some call)
    (calls : next.calls = system.calls.set place after)
    (latest : next.latestAdmittedTrackerSequence =
      max system.latestAdmittedTrackerSequence call.sequence)
    (before : call.admittedTrackers = false) (sequence : after.sequence = call.sequence)
    (unfinished : after.phase ≠ .finished .superseded)
    (holds : call.request.isTrackers = true → after.admittedTrackers = true)
    (trackers : call.request.isTrackers = true) : next.Admitted := by
  have forward : ∀ other ∈ system.calls, other.admittedTrackers = true → other ∈ next.calls := by
    intro other among admittedOther
    rw [calls]
    refine Lists.mem_set_of_ne found (fun same => ?_) among
    rw [same, before] at admittedOther
    cases admittedOther
  refine ⟨fun other among admittedOther => ?_, ?_, fun other among phase => ?_⟩
  · rw [calls] at among
    rw [latest]
    obtain earlier | same := List.mem_or_eq_of_mem_set among
    · exact le_max_of_le_left (admitted.bounded other earlier admittedOther)
    · rw [same, sequence]
      exact le_max_right _ _
  · right
    rcases Nat.lt_or_ge call.sequence system.latestAdmittedTrackerSequence with below | above
    · obtain none | ⟨other, among, admittedOther, attains⟩ := admitted.latest
      · omega
      · exact ⟨other, forward other among admittedOther, admittedOther, by omega⟩
    · refine ⟨after, ?_, holds trackers, by omega⟩
      rw [calls]
      exact Lists.mem_set_self found
  · rw [calls] at among
    obtain earlier | same := List.mem_or_eq_of_mem_set among
    · obtain ⟨ahead, amongAhead, admittedAhead, below⟩ := admitted.superseded other earlier phase
      exact ⟨ahead, forward ahead amongAhead admittedAhead, admittedAhead, below⟩
    · rw [same] at phase
      exact absurd phase unfinished

theorem tracked_set (tracked : system.Tracked origin) (found : system.calls[place]? = some call)
    (calls : next.calls = system.calls.set place after) (live : next.live = system.live)
    (alike : after.wroteTrackers = call.wroteTrackers)
    (same : call.wroteTrackers = true →
      after.sequence = call.sequence ∧ after.request = call.request)
    (fresh : after.request.isTrackers = true → after.phase.writing = true →
      ∀ other ∈ system.calls, other.wroteTrackers = true → other.sequence ≤ after.sequence) :
    next.Tracked origin := by
  have member := List.mem_of_getElem? found
  have backward : ∀ other ∈ next.calls, other.wroteTrackers = true →
      ∃ earlier ∈ system.calls, earlier.wroteTrackers = true ∧
        earlier.sequence = other.sequence := by
    intro other among wrote
    rw [calls] at among
    obtain earlier | is := List.mem_or_eq_of_mem_set among
    · exact ⟨other, earlier, wrote, rfl⟩
    · rw [is, alike] at wrote
      rw [is]
      exact ⟨call, member, wrote, (same wrote).1.symm⟩
  refine ⟨fun writer among trackers writing other amongOther wrote => ?_, ?_⟩
  · obtain ⟨earlier, amongEarlier, wroteEarlier, sequence⟩ := backward other amongOther wrote
    rw [← sequence]
    rw [calls] at among
    obtain old | is := List.mem_or_eq_of_mem_set among
    · exact tracked.newest writer old trackers writing earlier amongEarlier wroteEarlier
    · rw [is] at trackers writing ⊢
      exact fresh trackers writing earlier amongEarlier wroteEarlier
  · unfold TrackersKept
    rw [live]
    refine tracked.kept.imp (fun ⟨unwritten, trackers⟩ => ⟨fun other among => ?_, trackers⟩)
      fun ⟨writer, amongWriter, wrote, request, greatest⟩ => ?_
    · rw [Bool.eq_false_iff]
      intro wrote
      obtain ⟨earlier, amongEarlier, wroteEarlier, _⟩ := backward other among wrote
      rw [unwritten earlier amongEarlier] at wroteEarlier
      cases wroteEarlier
    · have upper : ∀ other ∈ next.calls, other.wroteTrackers = true →
          other.sequence ≤ writer.sequence := by
        intro other among wroteOther
        obtain ⟨earlier, amongEarlier, wroteEarlier, sequence⟩ := backward other among wroteOther
        rw [← sequence]
        exact greatest earlier amongEarlier wroteEarlier
      by_cases is : writer = call
      · subst is
        refine ⟨after, ?_, by rw [alike, wrote], by rw [(same wrote).2, request], ?_⟩
        · rw [calls]
          exact Lists.mem_set_self found
        · rw [(same wrote).1]
          exact upper
      · refine ⟨writer, ?_, wrote, request, upper⟩
        rw [calls]
        exact Lists.mem_set_of_ne found is amongWriter

theorem publish_trackers {earlier disk settings : ServerSettings} {request : Request}
    (plan : request.planned earlier system.live = .ok (disk, some settings)) :
    request.isTrackers = false ∧ settings.cachedTrackers = system.live.cachedTrackers ∧
        settings.trackersLastUpdated = system.live.trackersLastUpdated ∨
      request = .trackers settings.cachedTrackers settings.trackersLastUpdated := by
  cases request with
  | update payload authority =>
    obtain ⟨_, same, computed⟩ := planned_update plan
    cases same
    obtain ⟨object, _, applied, _⟩ := updateSettings_ok computed
    rw [applied]
    exact .inl ⟨rfl, rfl, rfl⟩
  | save => cases plan
  | trackers list timestamp =>
    cases plan
    exact .inr rfl

theorem tracked_published {settings earlier : ServerSettings} (tracked : system.Tracked origin)
    (found : system.calls[place]? = some call) (calls : next.calls = system.calls.set place after)
    (alone : ∀ other ∈ next.calls, other.phase.writing = false)
    (live : next.live = settings)
    (plan : call.request.planned earlier system.live = .ok (system.raw, some settings))
    (before : call.phase = .replaced (some settings)) (shown : after.phase = .published)
    (sequence : after.sequence = call.sequence) (request : after.request = call.request) :
    next.Tracked origin := by
  have member := List.mem_of_getElem? found
  have amongNext : after ∈ next.calls := by
    rw [calls]
    exact Lists.mem_set_self found
  have unwritten : call.wroteTrackers = false := by
    rw [Call.wroteTrackers, before]
    exact Bool.and_false _
  have written : after.wroteTrackers = call.request.isTrackers := by
    rw [Call.wroteTrackers, shown, request]
    exact Bool.and_true _
  have backward : ∀ other ∈ next.calls, other = after ∨ other ∈ system.calls := by
    intro other among
    rw [calls] at among
    exact (List.mem_or_eq_of_mem_set among).symm
  refine ⟨fun other among _ writing => ?_, ?_⟩
  · rw [alone other among] at writing
    cases writing
  · unfold TrackersKept
    rw [live]
    obtain ⟨untracked, trackers, timestamp⟩ | tracks := publish_trackers plan
    · rw [trackers, timestamp]
      rw [untracked] at written
      refine tracked.kept.imp (fun ⟨unset, initially⟩ => ⟨fun other among => ?_, initially⟩)
        fun ⟨writer, amongWriter, wrote, isTrackers, greatest⟩ => ⟨writer, ?_, wrote, isTrackers,
          fun other among wroteOther => ?_⟩
      · obtain same | old := backward other among
        · rw [same, written]
        · exact unset other old
      · rw [calls]
        refine Lists.mem_set_of_ne found (fun same => ?_) amongWriter
        rw [same, unwritten] at wrote
        cases wrote
      · obtain same | old := backward other among
        · rw [same, written] at wroteOther
          cases wroteOther
        · exact greatest other old wroteOther
    · have isTrackers : call.request.isTrackers = true := by rw [tracks]; rfl
      refine .inr ⟨after, amongNext, by rw [written, isTrackers], by rw [request, tracks],
        fun other among wroteOther => ?_⟩
      obtain same | old := backward other among
      · rw [same]
      · rw [sequence]
        exact tracked.newest call member isTrackers (by rw [before]; rfl) other old wroteOther

theorem ordered_set (ordered : system.Ordered origin) (found : system.calls[place]? = some call)
    (calls : next.calls = system.calls.set place after)
    (counter : next.nextTrackerSequence = system.nextTrackerSequence)
    (latest : next.latestAdmittedTrackerSequence = system.latestAdmittedTrackerSequence)
    (live : next.live = system.live)
    (kept : after.sequence = call.sequence ∧ after.request = call.request)
    (waits : call.request.isTrackers = true → call.phase = .called → after.phase = .called)
    (admitted : after.admittedTrackers = call.admittedTrackers)
    (wrote : after.wroteTrackers = call.wroteTrackers)
    (late : after.phase = .finished .superseded →
      ∃ other ∈ system.calls, other.admittedTrackers = true ∧ after.sequence < other.sequence)
    (fresh : call.request.isTrackers = true → after.phase.writing = true →
      call.phase.writing = true ∨ system.latestAdmittedTrackerSequence ≤ call.sequence) :
    next.Ordered origin := by
  refine ⟨numbered_set ordered.numbered found calls counter kept.1 kept.2 waits,
    admitted_set ordered.admitted found calls latest admitted (fun _ => kept.1) late,
    tracked_set ordered.tracked found calls live wrote (fun _ => kept) ?_⟩
  intro trackers writing other among wroteOther
  rw [kept.2] at trackers
  rw [kept.1]
  obtain already | above := fresh trackers writing
  · exact ordered.tracked.newest call (List.mem_of_getElem? found) trackers already other among
      wroteOther
  · exact (ordered.admitted.bounded other among (Call.admitted_of_wrote wroteOther)).trans above

theorem untracked_wrote {call : Call} (untracked : call.request.isTrackers = false) :
    call.wroteTrackers = false ∧ call.admittedTrackers = false := by
  simp [Call.wroteTrackers, Call.admittedTrackers, untracked]

theorem ordered_untracked {phase : Phase} (ordered : system.Ordered origin)
    (found : system.calls[place]? = some call) (untracked : call.request.isTrackers = false)
    (calls : next.calls = system.calls.set place (call.inPhase phase))
    (counter : next.nextTrackerSequence = system.nextTrackerSequence)
    (latest : next.latestAdmittedTrackerSequence = system.latestAdmittedTrackerSequence)
    (live : next.live = system.live) (kept : phase ≠ .finished .superseded) :
    next.Ordered origin := by
  have before := untracked_wrote untracked
  have behind := @untracked_wrote (call.inPhase phase) untracked
  refine ordered_set ordered found calls counter latest live ⟨rfl, rfl⟩ ?_ ?_ ?_ ?_ ?_
  · intro trackers
    rw [untracked] at trackers
    cases trackers
  · rw [before.2, behind.2]
  · rw [before.1, behind.1]
  · exact fun late => absurd late kept
  · intro trackers
    rw [untracked] at trackers
    cases trackers

theorem ordered_onward {before phase : Phase} (ordered : system.Ordered origin)
    (found : system.calls[place]? = some call) (here : call.phase = before)
    (calls : next.calls = system.calls.set place (call.inPhase phase))
    (counter : next.nextTrackerSequence = system.nextTrackerSequence)
    (latest : next.latestAdmittedTrackerSequence = system.latestAdmittedTrackerSequence)
    (live : next.live = system.live) (uncalled : before ≠ .called)
    (admitted : (call.inPhase phase).admittedTrackers = (call.inPhase before).admittedTrackers)
    (wrote : (call.inPhase phase).wroteTrackers = (call.inPhase before).wroteTrackers)
    (late : phase = .finished .superseded →
      ∃ other ∈ system.calls, other.admittedTrackers = true ∧ call.sequence < other.sequence)
    (fresh : phase.writing = true →
      before.writing = true ∨ system.latestAdmittedTrackerSequence ≤ call.sequence) :
    next.Ordered origin := by
  have same : call.inPhase before = call := by
    rw [← here]
    rfl
  rw [same] at admitted wrote
  rw [← here] at uncalled fresh
  exact ordered_set ordered found calls counter latest live ⟨rfl, rfl⟩
    (fun _ called => absurd called uncalled) admitted wrote late fun _ writing => fresh writing

theorem moved_ordered {step : CallStep} (moved : Moved system place call step next)
    (found : system.calls[place]? = some call) (coherent : system.Coherent)
    (ordered : system.Ordered origin) : next.Ordered origin := by
  have staged := coherent.staged call (List.mem_of_getElem? found)
  have same : ∀ phase, (call.inPhase phase).sequence = call.sequence ∧
      (call.inPhase phase).request = call.request := fun _ => ⟨rfl, rfl⟩
  cases moved with
  | sequenced trackers phase =>
    refine ⟨numbered_sequenced ordered.numbered rfl rfl rfl,
      admitted_set ordered.admitted found rfl rfl ?_ (fun holds => ?_) (fun late => by cases late),
      tracked_set ordered.tracked found rfl rfl ?_ (fun wrote => ?_)
        fun _ writing => by cases writing⟩
    · simp [Call.admittedTrackers, phase]
    · simp [Call.admittedTrackers, phase] at holds
    · simp [Call.wroteTrackers, phase, Phase.shown]
    · simp [Call.wroteTrackers, phase, Phase.shown] at wrote
  | refused phase =>
    exact ordered_onward ordered found phase rfl rfl rfl rfl (by simp) rfl rfl
      (fun late => by cases late) (fun writing => by cases writing)
  | admitted trackers phase =>
    refine ⟨numbered_set ordered.numbered found rfl rfl rfl rfl fun _ called => ?_,
      admitted_admitted ordered.admitted found rfl rfl ?_ rfl (fun late => by cases late)
        (fun _ => ?_) trackers,
      tracked_set ordered.tracked found rfl rfl ?_ (fun wrote => ?_)
        fun _ writing => by cases writing⟩
    · rw [phase] at called
      cases called
    · simp [Call.admittedTrackers, phase]
    · simp [Call.admittedTrackers, Call.inPhase, trackers]
    · simp [Call.wroteTrackers, Call.inPhase, phase, Phase.shown]
    · simp [Call.wroteTrackers, phase, Phase.shown] at wrote
  | locked free phase =>
    refine ordered_set ordered found rfl rfl rfl rfl (same _) (fun trackers called => ?_) ?_ ?_
      (fun late => by cases late) (fun _ writing => by cases writing)
    · rw [trackers, called] at phase
      simp at phase
    · obtain ⟨untracked, phase⟩ | ⟨_, phase⟩ := phase <;>
        simp [Call.admittedTrackers, Call.inPhase, *]
    · obtain ⟨_, phase⟩ | ⟨_, phase⟩ := phase <;>
        simp [Call.wroteTrackers, Call.inPhase, phase, Phase.shown]
  | superseded trackers phase later =>
    refine ordered_onward ordered found phase rfl rfl rfl rfl (by simp) rfl rfl (fun _ => ?_)
      (fun writing => by cases writing)
    obtain none | ⟨other, among, holds, attains⟩ := ordered.admitted.latest
    · omega
    · exact ⟨other, among, holds, by rw [attains]; exact later⟩
  | checked trackers phase latest =>
    exact ordered_onward ordered found phase rfl rfl rfl rfl (by simp) rfl rfl
      (fun late => by cases late) (fun _ => .inr latest)
  | loaded phase =>
    refine ordered_set ordered found rfl rfl rfl rfl (same _) (fun _ called => ?_) ?_ ?_
      (fun late => by cases late) (fun trackers _ => ?_)
    · rw [called] at phase
      simp at phase
    · obtain ⟨untracked, phase⟩ | ⟨_, phase⟩ := phase <;>
        simp [Call.admittedTrackers, Call.inPhase, phase]
    · obtain ⟨_, phase⟩ | ⟨_, phase⟩ := phase <;>
        simp [Call.wroteTrackers, Call.inPhase, phase, Phase.shown]
    · obtain ⟨untracked, _⟩ | ⟨_, phase⟩ := phase
      · rw [untracked] at trackers
        cases trackers
      · rw [phase]
        exact .inl rfl
  | rejected current error phase untracked =>
    exact ordered_untracked ordered found untracked rfl rfl rfl rfl (by simp)
  | registered current disk publish phase plan =>
    exact ordered_onward ordered found phase rfl rfl rfl rfl (by simp) rfl rfl
      (fun late => by cases late) (fun _ => .inl rfl)
  | persisted disk publish phase =>
    exact ordered_onward ordered found phase rfl rfl rfl rfl (by simp) rfl rfl
      (fun late => by cases late) (fun _ => .inl rfl)
  | unpersisted disk publish phase =>
    exact ordered_onward ordered found phase rfl rfl rfl rfl (by simp) rfl rfl
      (fun late => by cases late) (fun writing => by cases writing)
  | replaced disk publish phase =>
    exact ordered_onward ordered found phase rfl rfl rfl rfl (by simp) rfl rfl
      (fun late => by cases late) (fun _ => .inl rfl)
  | published settings phase =>
    simp only [Staged, phase] at staged
    obtain ⟨⟨earlier, plan⟩, _⟩ := staged
    have behind : Coherent _ := moved_coherent (.published settings phase) found coherent
    refine ⟨numbered_set ordered.numbered found rfl rfl rfl rfl fun _ called => ?_,
      admitted_set ordered.admitted found rfl rfl ?_ (fun _ => rfl) (fun late => by cases late),
      tracked_published ordered.tracked found rfl (fun other among => ?_) rfl plan phase rfl rfl
        rfl⟩
    · rw [phase] at called
      cases called
    · simp [Call.admittedTrackers, Call.inPhase, phase]
    · -- The lock is with the call that publishes, so no other one is writing.
      rw [Bool.eq_false_iff]
      intro writing
      obtain ⟨spot, present⟩ := List.mem_iff_getElem?.mp among
      have elsewhere := (behind.holding spot other present).mp (Phase.holds_of_writing writing)
      have mine := (behind.holding place _ (List.getElem?_set_self
        (List.getElem?_eq_some_iff.mp found).1)).mp rfl
      cases elsewhere.symm.trans mine
      cases (List.getElem?_set_self (List.getElem?_eq_some_iff.mp found).1).symm.trans present
      cases writing
  | completed phase =>
    obtain phase | phase := phase
    · simp only [Staged, phase] at staged
      obtain ⟨⟨earlier, plan⟩, _⟩ := staged
      have untracked := untracked_of_planned plan
      exact ordered_untracked ordered found untracked rfl rfl rfl rfl (by simp)
    · exact ordered_onward ordered found phase rfl rfl rfl rfl (by simp) rfl rfl
        (fun late => by cases late) (fun writing => by cases writing)
  | dropped untracked phase =>
    exact ordered_untracked ordered found untracked rfl rfl rfl rfl (by simp)
  | unlocked untracked phase =>
    exact ordered_untracked ordered found untracked rfl rfl rfl rfl (by simp)
  | abandoned =>
    exact ordered_set ordered found rfl rfl rfl rfl ⟨rfl, rfl⟩ (fun _ called => called) rfl rfl
      (fun late => ordered.admitted.superseded call (List.mem_of_getElem? found) late)
      (fun _ writing => .inl writing)

theorem step_ordered {action : Action} (coherent : system.Coherent)
    (ordered : system.Ordered origin) (taken : system.step action = some next) :
    next.Ordered origin := by
  cases action with
  | call request =>
    cases taken
    have among : ∀ call ∈ system.calls ++ [⟨request, 0, .called, false⟩],
        call ∈ system.calls ∨ call = ⟨request, 0, .called, false⟩ := fun call member =>
      (List.mem_append.mp member).imp_right List.mem_singleton.mp
    have unwritten : (⟨request, 0, .called, false⟩ : Call).wroteTrackers = false :=
      Bool.and_false _
    have unadmitted : (⟨request, 0, .called, false⟩ : Call).admittedTrackers = false :=
      Bool.and_false _
    have wrote : ∀ call ∈ system.calls ++ [⟨request, 0, .called, false⟩],
        call.wroteTrackers = true → call ∈ system.calls := by
      intro call member holds
      refine (among call member).resolve_right fun same => ?_
      rw [same, unwritten] at holds
      cases holds
    refine ⟨⟨fun call member => ?_, fun place other first second atFirst atSecond alike above => ?_,
      fun call member trackers => ?_⟩, ⟨fun call member holds => ?_, ?_, fun call member late => ?_⟩,
      ⟨fun call member trackers writing other amongOther holds => ?_, ?_⟩⟩
    · obtain earlier | rfl := among call member
      · exact ordered.numbered.bounded call earlier
      · exact Nat.zero_le _
    · obtain earlierFirst | ⟨_, rfl⟩ := Lists.getElem?_append_cases atFirst
      · obtain earlierSecond | ⟨_, rfl⟩ := Lists.getElem?_append_cases atSecond
        · exact ordered.numbered.apart place other first second earlierFirst earlierSecond alike
            above
        · exact absurd alike (Nat.ne_of_gt above)
      · exact absurd above (Nat.lt_irrefl 0)
    · obtain earlier | rfl := among call member
      · exact ordered.numbered.positive call earlier trackers
      · exact .inl rfl
    · obtain earlier | rfl := among call member
      · exact ordered.admitted.bounded call earlier holds
      · rw [unadmitted] at holds
        cases holds
    · exact ordered.admitted.latest.imp_right fun ⟨call, member, holds⟩ =>
        ⟨call, List.mem_append_left _ member, holds⟩
    · obtain earlier | rfl := among call member
      · obtain ⟨other, member, holds⟩ := ordered.admitted.superseded call earlier late
        exact ⟨other, List.mem_append_left _ member, holds⟩
      · cases late
    · obtain earlier | rfl := among call member
      · exact ordered.tracked.newest call earlier trackers writing other
          (wrote other amongOther holds) holds
      · cases writing
    · refine ordered.tracked.kept.imp (fun ⟨unset, initially⟩ => ⟨fun call member => ?_, initially⟩)
        fun ⟨writer, member, holds, isTrackers, greatest⟩ =>
          ⟨writer, List.mem_append_left _ member, holds, isTrackers, fun other amongOther writes =>
            greatest other (wrote other amongOther writes) writes⟩
      obtain earlier | rfl := among call member
      · exact unset call earlier
      · exact unwritten
  | act place step =>
    simp only [System.step] at taken
    split at taken
    · cases taken
    next call found => exact moved_ordered (act_moved taken) found coherent ordered
  | close =>
    cases taken
    exact ⟨⟨ordered.numbered.bounded, ordered.numbered.apart, ordered.numbered.positive⟩,
      ⟨ordered.admitted.bounded, ordered.admitted.latest, ordered.admitted.superseded⟩,
      ⟨ordered.tracked.newest, ordered.tracked.kept⟩⟩

theorem ordered_start (file : Option ServerSettings) (defaults : ServerSettings)
    (overrides : ProxyEnvironmentOverrides) :
    Ordered (start file defaults overrides).live (start file defaults overrides) := by
  refine ⟨⟨?_, ?_, ?_⟩, ⟨?_, .inl rfl, ?_⟩, ⟨?_, .inl ⟨?_, rfl, rfl⟩⟩⟩
  · exact fun call member => by cases member
  · exact fun place other first second present => by cases present
  all_goals exact fun call member => by cases member

theorem run_ordered {file : Option ServerSettings} {defaults : ServerSettings}
    {overrides : ProxyEnvironmentOverrides} {actions : List Action}
    (ran : Runs.run step (start file defaults overrides) actions = some system) :
    system.Ordered (start file defaults overrides).live := by
  have preserved : ∀ before action after,
      before.Coherent ∧ before.Ordered (start file defaults overrides).live →
      step before action = some after →
      after.Coherent ∧ after.Ordered (start file defaults overrides).live :=
    fun _ _ _ invariants taken => ⟨step_coherent invariants.1 taken,
      step_ordered invariants.1 invariants.2 taken⟩
  exact (Runs.invariant_of_run preserved
    ⟨coherent_start file defaults overrides, ordered_start file defaults overrides⟩ ran).2

end Steps

end System

end StreamServer.Settings
