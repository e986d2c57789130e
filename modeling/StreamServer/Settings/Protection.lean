import StreamServer.Settings.Payload

set_option autoImplicit false

namespace StreamServer.Settings

inductive SettingsMutationAuthority where
  | trustedLocal
  | httpAuthorized
  | untrusted
  deriving DecidableEq

inductive TransactionError where
  | coordinatorClosed
  | persistence
  deriving DecidableEq

/-- A save that fails gives the error that is the `source` of an update's. -/
inductive SettingsUpdateError where
  | forbidden
  | invalid (reason : String)
  | persistence (source : TransactionError)
  deriving DecidableEq

def SettingsUpdateError.message : SettingsUpdateError → String
  | forbidden => "protected setting requires local authorization"
  | invalid reason => "invalid settings payload: " ++ reason
  | persistence _ => "settings persistence failed"

inductive ProtectedField where
  | allowPrivateNetworkSources
  | allowInvalidProxyTlsCertificates
  deriving DecidableEq

def ProtectedField.key : ProtectedField → String
  | allowPrivateNetworkSources => "allowPrivateNetworkSources"
  | allowInvalidProxyTlsCertificates => "allowInvalidProxyTlsCertificates"

namespace ServerSettings

def protectedValue (settings : ServerSettings) : ProtectedField → Bool
  | .allowPrivateNetworkSources => settings.allowPrivateNetworkSources
  | .allowInvalidProxyTlsCertificates => settings.allowInvalidProxyTlsCertificates

def withProtected (settings : ServerSettings) (value : ProtectedField → Bool) : ServerSettings :=
  { settings with
    allowPrivateNetworkSources := value .allowPrivateNetworkSources
    allowInvalidProxyTlsCertificates := value .allowInvalidProxyTlsCertificates }

def withTrackers (settings : ServerSettings) (trackers : List String) (timestamp : Int64) :
    ServerSettings :=
  { settings with cachedTrackers := trackers, trackersLastUpdated := timestamp }

def Agrees (left right : ServerSettings) : Prop :=
  ∀ value, left.withProtected value = right.withProtected value

@[simp] theorem withProtected_self (settings : ServerSettings) :
    settings.withProtected settings.protectedValue = settings := rfl

@[simp] theorem protectedValue_withProtected (settings : ServerSettings)
    (value : ProtectedField → Bool) : (settings.withProtected value).protectedValue = value := by
  funext field
  cases field <;> rfl

@[simp] theorem withProtected_withProtected (settings : ServerSettings)
    (first second : ProtectedField → Bool) :
    (settings.withProtected first).withProtected second = settings.withProtected second := rfl

@[simp] theorem protectedValue_withTrackers (settings : ServerSettings) (trackers : List String)
    (timestamp : Int64) :
    (settings.withTrackers trackers timestamp).protectedValue = settings.protectedValue := by
  funext field
  cases field <;> rfl

@[simp] theorem protectedValue_updated (settings : ServerSettings) (object : Object) :
    (settings.updated object).protectedValue = settings.protectedValue := by
  funext field
  cases field <;> rfl

theorem withProtected_agrees (settings : ServerSettings) (value : ProtectedField → Bool) :
    (settings.withProtected value).Agrees settings := fun _ => rfl

end ServerSettings

structure ProxyEnvironmentOverrides where
  allowPrivateNetworkSources : Option Bool
  allowInvalidProxyTlsCertificates : Option Bool

def ProxyEnvironmentOverrides.value (overrides : ProxyEnvironmentOverrides) :
    ProtectedField → Option Bool
  | .allowPrivateNetworkSources => overrides.allowPrivateNetworkSources
  | .allowInvalidProxyTlsCertificates => overrides.allowInvalidProxyTlsCertificates

def ProxyEnvironmentOverrides.applyTo (overrides : ProxyEnvironmentOverrides)
    (settings : ServerSettings) : ServerSettings :=
  settings.withProtected fun field =>
    (overrides.value field).getD (settings.protectedValue field)

structure PreparedSettingsUpdate where
  next : ServerSettings
  changed : ProtectedField → Bool

/-- One turn of the loop over the protected keys: the value the field takes. -/
def prepareProtected (current : ServerSettings) (object : Object)
    (authority : SettingsMutationAuthority) (field : ProtectedField) :
    Except SettingsUpdateError Bool :=
  match object.lookup field.key with
  | none => .ok (current.protectedValue field)
  | some value =>
      match value.asBool with
      | none => .error (.invalid "protected values must be boolean")
      | some value =>
          if value ≠ current.protectedValue field ∧ authority = .untrusted then .error .forbidden
          else .ok value

def prepareSettingsUpdate (current : ServerSettings) (payload : Value)
    (authority : SettingsMutationAuthority) : Except SettingsUpdateError PreparedSettingsUpdate :=
  match payload.asObject with
  | none => .error (.invalid "expected a JSON object")
  | some object =>
      match prepareProtected current object authority .allowPrivateNetworkSources with
      | .error error => .error error
      | .ok privateSources =>
          match prepareProtected current object authority .allowInvalidProxyTlsCertificates with
          | .error error => .error error
          | .ok invalidCertificates =>
              .ok {
                next := { current with
                  allowPrivateNetworkSources := privateSources
                  allowInvalidProxyTlsCertificates := invalidCertificates }
                changed := fun
                  | .allowPrivateNetworkSources =>
                      privateSources != current.allowPrivateNetworkSources
                  | .allowInvalidProxyTlsCertificates =>
                      invalidCertificates != current.allowInvalidProxyTlsCertificates }

def PreparedSettingsUpdate.diskCandidate (prepared : PreparedSettingsUpdate)
    (live raw : ServerSettings) : ServerSettings :=
  live.withProtected fun field =>
    if prepared.changed field then live.protectedValue field else raw.protectedValue field

def preserveRawProtectedSettings (live raw : ServerSettings) : ServerSettings :=
  live.withProtected raw.protectedValue

def updateSettings (raw live : ServerSettings) (payload : Value)
    (authority : SettingsMutationAuthority) :
    Except SettingsUpdateError (ServerSettings × ServerSettings) :=
  match prepareSettingsUpdate live payload authority with
  | .error error => .error error
  | .ok prepared =>
      let settings := live.withProtected prepared.next.protectedValue
      let settings := (payload.asObject).elim settings settings.updated
      .ok (prepared.diskCandidate settings raw, settings)

inductive Request where
  | update (payload : Value) (authority : SettingsMutationAuthority)
  | save
  | trackers (trackers : List String) (timestamp : Int64)

def Request.isTrackers : Request → Bool
  | trackers _ _ => true
  | _ => false

/-- The image for the disk, and the live settings that a transaction publishes after it. -/
def Request.planned (raw live : ServerSettings) :
    Request → Except SettingsUpdateError (ServerSettings × Option ServerSettings)
  | .update payload authority =>
      (updateSettings raw live payload authority).map fun (disk, settings) => (disk, some settings)
  | .save => .ok (preserveRawProtectedSettings live raw, none)
  | .trackers list timestamp =>
      let next := live.withTrackers list timestamp
      .ok (preserveRawProtectedSettings next raw, some next)

def Request.Orders (request : Request) (field : ProtectedField) (value : Bool) : Prop :=
  ∃ payload authority object, request = .update payload authority ∧ authority ≠ .untrusted ∧
    payload.asObject = some object ∧ object.lookup field.key = some (.bool value)

def Request.Grants (request : Request) (live : ServerSettings) (field : ProtectedField)
    (value : Bool) : Prop :=
  request.Orders field value ∧ value ≠ live.protectedValue field

section Plans

variable {raw live disk settings : ServerSettings} {payload : Value} {object : Object}
  {authority : SettingsMutationAuthority} {field : ProtectedField} {value : Bool}
  {request : Request} {publish : Option ServerSettings}

theorem prepareProtected_ok
    (prepared : prepareProtected live object authority field = .ok value) :
    value = live.protectedValue field ∨
      authority ≠ .untrusted ∧ object.lookup field.key = some (.bool value) ∧
        value ≠ live.protectedValue field := by
  unfold prepareProtected at prepared
  split at prepared
  · cases prepared
    exact .inl rfl
  next given present =>
    cases isFlag : given.asBool with
    | none => rw [isFlag] at prepared; cases prepared
    | some flag =>
      simp only [isFlag] at prepared
      split at prepared
      · cases prepared
      next admitted =>
        cases prepared
        by_cases changed : value = live.protectedValue field
        · exact .inl changed
        · refine .inr ⟨fun untrusted => admitted ⟨changed, untrusted⟩, ?_, changed⟩
          cases given <;> cases isFlag
          exact present

theorem prepareSettingsUpdate_ok {prepared : PreparedSettingsUpdate}
    (done : prepareSettingsUpdate live payload authority = .ok prepared) :
    ∃ object, payload.asObject = some object ∧ ∀ field,
      prepareProtected live object authority field = .ok (prepared.next.protectedValue field) ∧
      prepared.changed field =
        (prepared.next.protectedValue field != live.protectedValue field) := by
  unfold prepareSettingsUpdate at done
  split at done
  · cases done
  next object isObject =>
    split at done
    · cases done
    next privateSources first =>
      split at done
      · cases done
      next invalidCertificates second =>
        cases done
        refine ⟨object, isObject, fun field => ?_⟩
        cases field with
        | allowPrivateNetworkSources => exact ⟨first, rfl⟩
        | allowInvalidProxyTlsCertificates => exact ⟨second, rfl⟩

theorem updateSettings_ok (done : updateSettings raw live payload authority = .ok (disk, settings)) :
    ∃ object, payload.asObject = some object ∧
      settings = (live.withProtected settings.protectedValue).updated object ∧
      disk.Agrees settings ∧ ∀ field,
        (settings.protectedValue field = live.protectedValue field ∧
          disk.protectedValue field = raw.protectedValue field) ∨
        (Request.update payload authority).Grants live field (settings.protectedValue field) ∧
          disk.protectedValue field = settings.protectedValue field := by
  unfold updateSettings at done
  split at done
  · cases done
  next prepared preparing =>
    obtain ⟨object, isObject, protections⟩ := prepareSettingsUpdate_ok preparing
    simp only [isObject, Option.elim_some, Except.ok.injEq, Prod.mk.injEq] at done
    obtain ⟨rfl, rfl⟩ := done
    refine ⟨object, isObject, by simp, ServerSettings.withProtected_agrees _ _, fun field => ?_⟩
    obtain ⟨prepare, changed⟩ := protections field
    simp only [PreparedSettingsUpdate.diskCandidate, ServerSettings.protectedValue_updated,
      ServerSettings.protectedValue_withProtected, changed]
    rcases prepareProtected_ok prepare with same | ⟨trusted, present, differs⟩
    · exact .inl ⟨same, by simp [same]⟩
    · exact .inr ⟨⟨⟨payload, authority, object, rfl, trusted, isObject, present⟩, differs⟩,
        by simp [differs]⟩

theorem planned_update (plan : (Request.update payload authority).planned raw live =
      .ok (disk, publish)) :
    ∃ settings, publish = some settings ∧
      updateSettings raw live payload authority = .ok (disk, settings) := by
  simp only [Request.planned] at plan
  cases computed : updateSettings raw live payload authority with
  | error error => rw [computed] at plan; cases plan
  | ok pair =>
    rw [computed] at plan
    cases plan
    exact ⟨_, rfl, rfl⟩

theorem planned_agrees (plan : request.planned raw live = .ok (disk, publish)) :
    disk.Agrees (publish.getD live) := by
  cases request with
  | update payload authority =>
    obtain ⟨settings, rfl, computed⟩ := planned_update plan
    exact (updateSettings_ok computed).choose_spec.2.2.1
  | save =>
    cases plan
    exact ServerSettings.withProtected_agrees live _
  | trackers list timestamp =>
    cases plan
    exact ServerSettings.withProtected_agrees _ _

theorem planned_protected (plan : request.planned raw live = .ok (disk, publish))
    (field : ProtectedField) :
    (disk.protectedValue field = raw.protectedValue field ∧
      (publish.getD live).protectedValue field = live.protectedValue field) ∨
    request.Grants live field (disk.protectedValue field) ∧
      (publish.getD live).protectedValue field = disk.protectedValue field := by
  cases request with
  | update payload authority =>
    obtain ⟨settings, rfl, computed⟩ := planned_update plan
    obtain ⟨object, _, _, _, protections⟩ := updateSettings_ok computed
    rcases protections field with ⟨same, kept⟩ | ⟨granted, written⟩
    · exact .inl ⟨kept, same⟩
    · exact .inr ⟨by rw [written]; exact granted, written.symm⟩
  | save =>
    cases plan
    exact .inl ⟨by simp [preserveRawProtectedSettings], rfl⟩
  | trackers list timestamp =>
    cases plan
    exact .inl ⟨by simp [preserveRawProtectedSettings], by simp⟩

theorem untracked_of_planned (plan : request.planned raw live = .ok (disk, none)) :
    request.isTrackers = false := by
  cases request with
  | update payload authority => rfl
  | save => rfl
  | trackers list timestamp => cases plan

end Plans

end StreamServer.Settings
