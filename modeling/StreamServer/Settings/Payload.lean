import Mathlib.Data.List.Basic

set_option autoImplicit false

namespace StreamServer.Settings

/-- The bits of an `f64`. -/
abbrev F64 := UInt64

/-- A JSON value. A number is kept as its two readings, `as_u64` and `as_f64`. -/
inductive Value where
  | null
  | bool (value : Bool)
  | number (asU64 : Option UInt64) (asF64 : F64)
  | string (text : String)
  | array (items : List Value)
  | object (entries : List (String × Value))

abbrev Object := List (String × Value)

namespace Value

def isNull : Value → Bool
  | null => true
  | _ => false

def asBool : Value → Option Bool
  | bool value => some value
  | _ => none

def asU64 : Value → Option UInt64
  | number reading _ => reading
  | _ => none

def asF64 : Value → Option F64
  | number _ reading => some reading
  | _ => none

def asStr : Value → Option String
  | string text => some text
  | _ => none

def asObject : Value → Option Object
  | object entries => some entries
  | _ => none

end Value

def isWhitespace (char : Char) : Bool :=
  let code := char.toNat
  (9 ≤ code && code ≤ 13) || code == 0x20 || code == 0x85 || code == 0xA0 || code == 0x1680 ||
    (0x2000 ≤ code && code ≤ 0x200A) || code == 0x2028 || code == 0x2029 || code == 0x202F ||
    code == 0x205F || code == 0x3000

def trim (text : String) : String :=
  String.ofList (((text.toList.dropWhile isWhitespace).reverse.dropWhile isWhitespace).reverse)

def eqIgnoreAsciiCase (left right : String) : Bool :=
  left.toList.map Char.toLower == right.toList.map Char.toLower

def defaultBtMaxConnections : UInt64 := 800

def legacyUnlimitedBtMaxConnections : UInt64 := 65535

inductive TorrentEncryptionMode where
  | allow
  | require
  | disable
  deriving DecidableEq

inductive TorrentProxyType where
  | none
  | socks4
  | socks5
  | socks5Password
  | http
  | httpPassword
  deriving DecidableEq

inductive UpdateChannel where
  | stable
  | prerelease
  deriving DecidableEq

structure ServerSettings where
  appPath : String
  serverVersion : String
  cacheRoot : String
  cacheSize : F64
  proxyStreamsEnabled : Bool
  allowPrivateNetworkSources : Bool
  allowInvalidProxyTlsCertificates : Bool
  btMaxConnections : UInt64
  btHandshakeTimeout : UInt64
  btRequestTimeout : UInt64
  btDownloadSpeedSoftLimit : F64
  btDownloadSpeedHardLimit : F64
  btMinPeersForStable : UInt64
  btEnableDht : Bool
  btEnablePex : Bool
  btEnableLsd : Bool
  btEncryptionMode : TorrentEncryptionMode
  btAnonymousMode : Bool
  btAllowMultipleConnectionsPerIp : Bool
  btListenInterfaces : String
  btOutgoingInterfaces : String
  btOutgoingPort : UInt16
  btNumOutgoingPorts : UInt16
  btProxyType : TorrentProxyType
  btProxyHost : String
  btProxyPort : UInt16
  btProxyUsername : String
  btProxyPassword : String
  btProxyHostnames : Bool
  btProxyPeerConnections : Bool
  btProxyTrackerConnections : Bool
  btProxySendHostInConnect : Bool
  btValidateHttpsTrackers : Bool
  btSsrfMitigation : Bool
  remoteHttps : Option String
  transcodeProfile : Option String
  autoUpdateEnabled : Bool
  updateChannel : UpdateChannel
  updateCheckIntervalHours : UInt64
  cachedTrackers : List String
  trackersLastUpdated : Int64
  trackersSourceUrl : String
  seedingEnabled : Bool
  deriving DecidableEq

def parseTorrentEncryptionMode (value : Value) : Option TorrentEncryptionMode :=
  match value.asU64 with
  | some code =>
      match code.toNat with
      | 0 => some .allow
      | 1 => some .require
      | 2 => some .disable
      | _ => none
  | none =>
      value.asStr.bind fun text =>
        let raw := trim text
        if eqIgnoreAsciiCase raw "allow" || eqIgnoreAsciiCase raw "allowEncryption" ||
            eqIgnoreAsciiCase raw "enabled" then some .allow
        else if eqIgnoreAsciiCase raw "require" || eqIgnoreAsciiCase raw "requireEncryption" ||
            eqIgnoreAsciiCase raw "forced" then some .require
        else if eqIgnoreAsciiCase raw "disable" || eqIgnoreAsciiCase raw "disableEncryption" ||
            eqIgnoreAsciiCase raw "disabled" then some .disable
        else none

def parseTorrentProxyType (value : Value) : Option TorrentProxyType :=
  match value.asU64 with
  | some code =>
      match code.toNat with
      | 0 => some .none
      | 1 => some .socks4
      | 2 => some .socks5
      | 3 => some .socks5Password
      | 4 => some .http
      | 5 => some .httpPassword
      | _ => none
  | none =>
      value.asStr.bind fun text =>
        let raw := trim text
        if eqIgnoreAsciiCase raw "none" || eqIgnoreAsciiCase raw "disabled" then some .none
        else if eqIgnoreAsciiCase raw "socks4" then some .socks4
        else if eqIgnoreAsciiCase raw "socks5" then some .socks5
        else if eqIgnoreAsciiCase raw "socks5Password" ||
            eqIgnoreAsciiCase raw "socks5_password" || eqIgnoreAsciiCase raw "socks5_pw" then
          some .socks5Password
        else if eqIgnoreAsciiCase raw "http" then some .http
        else if eqIgnoreAsciiCase raw "httpPassword" || eqIgnoreAsciiCase raw "http_password" ||
            eqIgnoreAsciiCase raw "http_pw" then some .httpPassword
        else none

def valueAsU16 (value : Value) : Option UInt16 :=
  value.asU64.bind fun number =>
    if number.toNat < UInt16.size then some number.toUInt16 else none

section Fields

variable (object : Object) (key : String)

def updateBoolSetting (target : Bool) : Bool :=
  ((object.lookup key).bind Value.asBool).getD target

def updateU16Setting (target : UInt16) : UInt16 :=
  ((object.lookup key).bind valueAsU16).getD target

def updateU64Setting (target : UInt64) : UInt64 :=
  ((object.lookup key).bind Value.asU64).getD target

def updateF64Setting (target : F64) : F64 :=
  ((object.lookup key).bind Value.asF64).getD target

def updateStringSetting (target : String) (trimmed allowEmpty : Bool) : String :=
  match (object.lookup key).bind Value.asStr with
  | none => target
  | some text =>
      let text := if trimmed then trim text else text
      if allowEmpty || !text.isEmpty then text else target

def updateOptionalText (target : Option String) : Option String :=
  match object.lookup key with
  | none => target
  | some value => if value.isNull then none else value.asStr.or target

end Fields

def updateCacheSize (object : Object) (target : F64) : F64 :=
  match object.lookup "cacheSize" with
  | none => target
  | some value => if value.isNull then 0 else value.asF64.getD target

def updateBtMaxConnections (object : Object) (target : UInt64) : UInt64 :=
  match (object.lookup "btMaxConnections").bind Value.asU64 with
  | none => target
  | some number =>
      if number = 0 ∨ number ≥ legacyUnlimitedBtMaxConnections then defaultBtMaxConnections
      else number

def updateUpdateChannel (object : Object) (target : UpdateChannel) : UpdateChannel :=
  match (object.lookup "updateChannel").bind Value.asStr with
  | none => target
  | some text => if eqIgnoreAsciiCase text "prerelease" then .prerelease else .stable

def ServerSettings.updated (settings : ServerSettings) (object : Object) : ServerSettings :=
  { settings with
    transcodeProfile := updateOptionalText object "transcodeProfile" settings.transcodeProfile
    cacheSize := updateCacheSize object settings.cacheSize
    cacheRoot := updateStringSetting object "cacheRoot" settings.cacheRoot false true
    proxyStreamsEnabled :=
      updateBoolSetting object "proxyStreamsEnabled" settings.proxyStreamsEnabled
    btMaxConnections := updateBtMaxConnections object settings.btMaxConnections
    btHandshakeTimeout := updateU64Setting object "btHandshakeTimeout" settings.btHandshakeTimeout
    btRequestTimeout := updateU64Setting object "btRequestTimeout" settings.btRequestTimeout
    btDownloadSpeedSoftLimit :=
      updateF64Setting object "btDownloadSpeedSoftLimit" settings.btDownloadSpeedSoftLimit
    btDownloadSpeedHardLimit :=
      updateF64Setting object "btDownloadSpeedHardLimit" settings.btDownloadSpeedHardLimit
    btMinPeersForStable :=
      updateU64Setting object "btMinPeersForStable" settings.btMinPeersForStable
    btEnableDht := updateBoolSetting object "btEnableDht" settings.btEnableDht
    btEnablePex := updateBoolSetting object "btEnablePex" settings.btEnablePex
    btEnableLsd := updateBoolSetting object "btEnableLsd" settings.btEnableLsd
    btEncryptionMode :=
      ((object.lookup "btEncryptionMode").bind parseTorrentEncryptionMode).getD
        settings.btEncryptionMode
    btAnonymousMode := updateBoolSetting object "btAnonymousMode" settings.btAnonymousMode
    btAllowMultipleConnectionsPerIp :=
      updateBoolSetting object "btAllowMultipleConnectionsPerIp"
        settings.btAllowMultipleConnectionsPerIp
    btListenInterfaces :=
      updateStringSetting object "btListenInterfaces" settings.btListenInterfaces true false
    btOutgoingInterfaces :=
      updateStringSetting object "btOutgoingInterfaces" settings.btOutgoingInterfaces true true
    btOutgoingPort := updateU16Setting object "btOutgoingPort" settings.btOutgoingPort
    btNumOutgoingPorts :=
      updateU16Setting object "btNumOutgoingPorts" settings.btNumOutgoingPorts
    btProxyType :=
      ((object.lookup "btProxyType").bind parseTorrentProxyType).getD settings.btProxyType
    btProxyHost := updateStringSetting object "btProxyHost" settings.btProxyHost true true
    btProxyPort := updateU16Setting object "btProxyPort" settings.btProxyPort
    btProxyUsername :=
      updateStringSetting object "btProxyUsername" settings.btProxyUsername false true
    btProxyPassword :=
      updateStringSetting object "btProxyPassword" settings.btProxyPassword false true
    btProxyHostnames := updateBoolSetting object "btProxyHostnames" settings.btProxyHostnames
    btProxyPeerConnections :=
      updateBoolSetting object "btProxyPeerConnections" settings.btProxyPeerConnections
    btProxyTrackerConnections :=
      updateBoolSetting object "btProxyTrackerConnections" settings.btProxyTrackerConnections
    btProxySendHostInConnect :=
      updateBoolSetting object "btProxySendHostInConnect" settings.btProxySendHostInConnect
    btValidateHttpsTrackers :=
      updateBoolSetting object "btValidateHttpsTrackers" settings.btValidateHttpsTrackers
    btSsrfMitigation := updateBoolSetting object "btSsrfMitigation" settings.btSsrfMitigation
    remoteHttps := updateOptionalText object "remoteHttps" settings.remoteHttps
    autoUpdateEnabled := updateBoolSetting object "autoUpdateEnabled" settings.autoUpdateEnabled
    updateChannel := updateUpdateChannel object settings.updateChannel
    updateCheckIntervalHours :=
      ((object.lookup "updateCheckIntervalHours").bind Value.asU64).elim
        settings.updateCheckIntervalHours fun hours => max hours 1
    seedingEnabled := updateBoolSetting object "seedingEnabled" settings.seedingEnabled }

def plainSettings : ServerSettings where
  appPath := "/usr/bin/stremio-server"
  serverVersion := "1.0.0"
  cacheRoot := "/tmp/stremio-cache"
  cacheSize := 0
  proxyStreamsEnabled := false
  allowPrivateNetworkSources := false
  allowInvalidProxyTlsCertificates := false
  btMaxConnections := 800
  btHandshakeTimeout := 20000
  btRequestTimeout := 10000
  btDownloadSpeedSoftLimit := 0
  btDownloadSpeedHardLimit := 0
  btMinPeersForStable := 5
  btEnableDht := true
  btEnablePex := true
  btEnableLsd := true
  btEncryptionMode := .allow
  btAnonymousMode := false
  btAllowMultipleConnectionsPerIp := false
  btListenInterfaces := "0.0.0.0:6881"
  btOutgoingInterfaces := ""
  btOutgoingPort := 0
  btNumOutgoingPorts := 0
  btProxyType := .none
  btProxyHost := ""
  btProxyPort := 0
  btProxyUsername := ""
  btProxyPassword := ""
  btProxyHostnames := true
  btProxyPeerConnections := false
  btProxyTrackerConnections := true
  btProxySendHostInConnect := false
  btValidateHttpsTrackers := true
  btSsrfMitigation := true
  remoteHttps := none
  transcodeProfile := none
  autoUpdateEnabled := true
  updateChannel := .stable
  updateCheckIntervalHours := 6
  cachedTrackers := []
  trackersLastUpdated := 0
  trackersSourceUrl := "https://example.com/trackers.txt"
  seedingEnabled := true

end StreamServer.Settings
