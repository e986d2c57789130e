import StreamServer.Settings.Protection
import StreamServer.Shared.Runs

set_option autoImplicit false

namespace StreamServer.Settings

/-- A save that a later one supersedes returns `Ok` as a written one does. -/
inductive Outcome where
  | saved
  | superseded
  | failed (error : SettingsUpdateError)

def Outcome.answer : Outcome → Except SettingsUpdateError Unit
  | saved | superseded => .ok ()
  | failed error => .error error

inductive Phase where
  | called
  -- A tracker save has its sequence number.
  | sequenced
  -- It is registered and waits for the lock.
  | admitted
  | locked
  -- No later tracker save was admitted when it looked.
  | checked
  | loaded (current : ServerSettings)
  | persisting (disk : ServerSettings) (publish : Option ServerSettings)
  | persisted (disk : ServerSettings) (publish : Option ServerSettings)
  -- The raw settings are replaced, the live ones are still to be published.
  | replaced (publish : Option ServerSettings)
  | published
  | finished (outcome : Outcome)
  -- Its caller went away before it was registered.
  | dropped

structure Call where
  request : Request
  sequence : Nat
  phase : Phase
  -- Its caller does not wait for the answer any more.
  abandoned : Bool

def Call.inPhase (call : Call) (phase : Phase) : Call := { call with phase }

/-- The settings, the lock of the raw settings, the supervisor and the calls so far. -/
structure System where
  file : Option ServerSettings
  raw : ServerSettings
  live : ServerSettings
  holder : Option Nat
  closed : Bool
  nextTrackerSequence : Nat
  latestAdmittedTrackerSequence : Nat
  calls : List Call

inductive CallStep where
  | sequence
  | admitCall
  | lock
  | check
  | read
  | register
  | persist (succeeds : Bool)
  | replace
  | publish
  | complete
  | drop

inductive Action where
  | call (request : Request)
  | act (place : Nat) (step : CallStep)
  | close

def loadRawSettings (file : Option ServerSettings) (defaults : ServerSettings) : ServerSettings :=
  match file with
  | none => defaults
  | some settings =>
      { settings with
        cacheRoot := if settings.cacheRoot.isEmpty then defaults.cacheRoot else settings.cacheRoot
        btMaxConnections :=
          if settings.btMaxConnections = 0 ∨
              settings.btMaxConnections ≥ legacyUnlimitedBtMaxConnections then
            defaultBtMaxConnections
          else settings.btMaxConnections }

namespace System

/-- The settings as the server starts: the overrides reach the live settings only. -/
def start (file : Option ServerSettings) (defaults : ServerSettings)
    (overrides : ProxyEnvironmentOverrides) : System where
  file
  raw := loadRawSettings file defaults
  live := overrides.applyTo (loadRawSettings file defaults)
  holder := none
  closed := false
  nextTrackerSequence := 0
  latestAdmittedTrackerSequence := 0
  calls := []

def setCall (system : System) (place : Nat) (call : Call) : System :=
  { system with calls := system.calls.set place call }

def released (system : System) : System := { system with holder := none }

def finish (system : System) (place : Nat) (call : Call) (outcome : Outcome) : System :=
  system.released.setCall place (call.inPhase (.finished outcome))

-- `register_transaction`, reached with the plan of an update or a save; a tracker save is
-- registered long before.
def register (system : System) (place : Nat) (call : Call) (current : ServerSettings) : System :=
  match call.request.planned system.raw current with
  | .error error => system.finish place call (.failed error)
  | .ok (disk, publish) =>
      if system.closed ∧ ¬call.request.isTrackers then
        system.finish place call (.failed (.persistence .coordinatorClosed))
      else system.setCall place (call.inPhase (.persisting disk publish))

def act (system : System) (place : Nat) (call : Call) : CallStep → Option System
  | .sequence =>
      match call.request, call.phase with
      | .trackers _ _, .called =>
          let sequence := system.nextTrackerSequence + 1
          some ({ system with nextTrackerSequence := sequence }.setCall place
            { call with sequence, phase := .sequenced })
      | _, _ => none
  | .admitCall =>
      match call.request.isTrackers, call.phase with
      | true, .sequenced =>
          if system.closed then
            some (system.setCall place
              (call.inPhase (.finished (.failed (.persistence .coordinatorClosed)))))
          else
            some ({ system with
              latestAdmittedTrackerSequence :=
                max system.latestAdmittedTrackerSequence call.sequence }.setCall place
              (call.inPhase .admitted))
      | _, _ => none
  | .lock =>
      match system.holder, call.request.isTrackers, call.phase with
      | none, false, .called | none, true, .admitted =>
          some ({ system with holder := some place }.setCall place (call.inPhase .locked))
      | _, _, _ => none
  | .check =>
      match call.request.isTrackers, call.phase with
      | true, .locked =>
          if call.sequence < system.latestAdmittedTrackerSequence then
            some (system.finish place call .superseded)
          else some (system.setCall place (call.inPhase .checked))
      | _, _ => none
  | .read =>
      match call.request.isTrackers, call.phase with
      | false, .locked | true, .checked =>
          some (system.setCall place (call.inPhase (.loaded system.live)))
      | _, _ => none
  | .register =>
      match call.phase with
      | .loaded current => some (system.register place call current)
      | _ => none
  | .persist succeeds =>
      match call.phase with
      | .persisting disk publish =>
          if succeeds then
            some ({ system with file := some disk }.setCall place
              (call.inPhase (.persisted disk publish)))
          else some (system.finish place call (.failed (.persistence .persistence)))
      | _ => none
  | .replace =>
      match call.phase with
      | .persisted disk publish =>
          some ({ system with raw := disk }.setCall place (call.inPhase (.replaced publish)))
      | _ => none
  | .publish =>
      match call.phase with
      | .replaced (some settings) =>
          some ({ system with live := settings }.setCall place (call.inPhase .published))
      | _ => none
  | .complete =>
      match call.phase with
      | .replaced none | .published => some (system.finish place call .saved)
      | _ => none
  | .drop =>
      match call.request.isTrackers, call.phase with
      | false, .called => some (system.setCall place (call.inPhase .dropped))
      | false, .locked => some (system.released.setCall place (call.inPhase .dropped))
      -- The two awaits before a registration are over, and the task goes on by itself.
      | _, .admitted | _, .persisting _ _ | _, .persisted _ _ | _, .replaced _ | _, .published
      | true, .locked | true, .checked | true, .loaded _ =>
          some (system.setCall place { call with abandoned := true })
      | _, _ => none

def step (system : System) : Action → Option System
  | .call request => some { system with calls := system.calls ++ [⟨request, 0, .called, false⟩] }
  | .act place step =>
      match system.calls[place]? with
      | none => none
      | some call => system.act place call step
  | .close => some { system with closed := true }

end System

inductive Moved (system : System) (place : Nat) (call : Call) : CallStep → System → Prop where
  | sequenced (trackers : call.request.isTrackers = true) (phase : call.phase = .called) :
      Moved system place call .sequence
        ({ system with nextTrackerSequence := system.nextTrackerSequence + 1 }.setCall place
          { call with sequence := system.nextTrackerSequence + 1, phase := .sequenced })
  | refused (phase : call.phase = .sequenced) :
      Moved system place call .admitCall (system.setCall place
        (call.inPhase (.finished (.failed (.persistence .coordinatorClosed)))))
  | admitted (trackers : call.request.isTrackers = true) (phase : call.phase = .sequenced) :
      Moved system place call .admitCall
        ({ system with
          latestAdmittedTrackerSequence :=
            max system.latestAdmittedTrackerSequence call.sequence }.setCall place
          (call.inPhase .admitted))
  | locked (free : system.holder = none)
      (phase : call.request.isTrackers = false ∧ call.phase = .called ∨
        call.request.isTrackers = true ∧ call.phase = .admitted) :
      Moved system place call .lock
        ({ system with holder := some place }.setCall place (call.inPhase .locked))
  | superseded (trackers : call.request.isTrackers = true) (phase : call.phase = .locked)
      (later : call.sequence < system.latestAdmittedTrackerSequence) :
      Moved system place call .check (system.finish place call .superseded)
  | checked (trackers : call.request.isTrackers = true) (phase : call.phase = .locked)
      (latest : system.latestAdmittedTrackerSequence ≤ call.sequence) :
      Moved system place call .check (system.setCall place (call.inPhase .checked))
  | loaded (phase : call.request.isTrackers = false ∧ call.phase = .locked ∨
        call.request.isTrackers = true ∧ call.phase = .checked) :
      Moved system place call .read (system.setCall place (call.inPhase (.loaded system.live)))
  | rejected (current : ServerSettings) (error : SettingsUpdateError)
      (phase : call.phase = .loaded current)
      (untracked : call.request.isTrackers = false) :
      Moved system place call .register (system.finish place call (.failed error))
  | registered (current disk : ServerSettings) (publish : Option ServerSettings)
      (phase : call.phase = .loaded current)
      (plan : call.request.planned system.raw current = .ok (disk, publish)) :
      Moved system place call .register
        (system.setCall place (call.inPhase (.persisting disk publish)))
  | persisted (disk : ServerSettings) (publish : Option ServerSettings)
      (phase : call.phase = .persisting disk publish) :
      Moved system place call (.persist true)
        ({ system with file := some disk }.setCall place (call.inPhase (.persisted disk publish)))
  | unpersisted (disk : ServerSettings) (publish : Option ServerSettings)
      (phase : call.phase = .persisting disk publish) :
      Moved system place call (.persist false)
        (system.finish place call (.failed (.persistence .persistence)))
  | replaced (disk : ServerSettings) (publish : Option ServerSettings)
      (phase : call.phase = .persisted disk publish) :
      Moved system place call .replace
        ({ system with raw := disk }.setCall place (call.inPhase (.replaced publish)))
  | published (settings : ServerSettings) (phase : call.phase = .replaced (some settings)) :
      Moved system place call .publish
        ({ system with live := settings }.setCall place (call.inPhase .published))
  | completed (phase : call.phase = .replaced none ∨ call.phase = .published) :
      Moved system place call .complete (system.finish place call .saved)
  | dropped (untracked : call.request.isTrackers = false) (phase : call.phase = .called) :
      Moved system place call .drop (system.setCall place (call.inPhase .dropped))
  | unlocked (untracked : call.request.isTrackers = false) (phase : call.phase = .locked) :
      Moved system place call .drop (system.released.setCall place (call.inPhase .dropped))
  | abandoned :
      Moved system place call .drop (system.setCall place { call with abandoned := true })

theorem Request.planned_of_trackers {request : Request} (trackers : request.isTrackers = true)
    (raw live : ServerSettings) : ∃ plan, request.planned raw live = .ok plan := by
  cases request with
  | trackers list timestamp => exact ⟨_, rfl⟩
  | update payload authority => cases trackers
  | save => cases trackers

theorem System.act_moved {system next : System} {place : Nat} {call : Call} {step : CallStep}
    (taken : system.act place call step = some next) : Moved system place call step next := by
  cases step with
  | sequence =>
    simp only [act] at taken
    split at taken
    next isTrackers phase =>
      cases taken
      exact .sequenced (by rw [isTrackers]; rfl) phase
    · cases taken
  | admitCall =>
    simp only [act] at taken
    split at taken
    next trackers phase =>
      split at taken <;> cases taken
      · exact .refused phase
      · exact .admitted trackers phase
    · cases taken
  | lock =>
    simp only [act] at taken
    split at taken
    next free untracked phase =>
      cases taken
      exact .locked free (.inl ⟨untracked, phase⟩)
    next free trackers phase =>
      cases taken
      exact .locked free (.inr ⟨trackers, phase⟩)
    · cases taken
  | check =>
    simp only [act] at taken
    split at taken
    next trackers phase =>
      split at taken <;> cases taken
      next later => exact .superseded trackers phase later
      next latest => exact .checked trackers phase (Nat.le_of_not_lt latest)
    · cases taken
  | read =>
    simp only [act] at taken
    split at taken
    next untracked phase =>
      cases taken
      exact .loaded (.inl ⟨untracked, phase⟩)
    next trackers phase =>
      cases taken
      exact .loaded (.inr ⟨trackers, phase⟩)
    · cases taken
  | register =>
    simp only [act] at taken
    split at taken
    next current phase =>
      cases taken
      simp only [register]
      split
      next error planned =>
        refine .rejected current error phase ?_
        cases trackers : call.request.isTrackers with
        | false => rfl
        | true =>
          obtain ⟨plan, ok⟩ := Request.planned_of_trackers trackers system.raw current
          rw [ok] at planned
          cases planned
      next disk publish planned =>
        split
        next refused => exact .rejected current _ phase (Bool.eq_false_iff.mpr refused.2)
        · exact .registered current disk publish phase planned
    · cases taken
  | persist succeeds =>
    simp only [act] at taken
    split at taken
    next disk publish phase =>
      cases succeeds <;> cases taken
      · exact .unpersisted disk publish phase
      · exact .persisted disk publish phase
    · cases taken
  | replace =>
    simp only [act] at taken
    split at taken
    next disk publish phase =>
      cases taken
      exact .replaced disk publish phase
    · cases taken
  | publish =>
    simp only [act] at taken
    split at taken
    next settings phase =>
      cases taken
      exact .published settings phase
    · cases taken
  | complete =>
    simp only [act] at taken
    split at taken
    next phase =>
      cases taken
      exact .completed (.inl phase)
    next phase =>
      cases taken
      exact .completed (.inr phase)
    · cases taken
  | drop =>
    simp only [act] at taken
    split at taken
    next untracked phase =>
      cases taken
      exact .dropped untracked phase
    next untracked phase =>
      cases taken
      exact .unlocked untracked phase
    all_goals first
      | cases taken
        exact .abandoned
      | cases taken

def Phase.holds : Phase → Bool
  | .locked | .checked | .loaded _ | .persisting _ _ | .persisted _ _ | .replaced _ | .published =>
      true
  | _ => false

def Phase.committed : Phase → Bool
  | .persisted _ _ | .replaced _ | .published | .finished .saved => true
  | _ => false

def Phase.shown : Phase → Bool
  | .published | .finished .saved => true
  | _ => false

def Call.running (call : Call) : Bool :=
  match call.phase with
  | .admitted | .persisting _ _ | .persisted _ _ | .replaced _ | .published => true
  | .locked | .checked | .loaded _ => call.request.isTrackers
  | _ => false

def Call.admittedTrackers (call : Call) : Bool :=
  call.request.isTrackers &&
    match call.phase with
    | .called | .sequenced | .dropped | .finished (.failed (.persistence .coordinatorClosed)) =>
        false
    | _ => true

def Call.wroteTrackers (call : Call) : Bool := call.request.isTrackers && call.phase.shown

end StreamServer.Settings
