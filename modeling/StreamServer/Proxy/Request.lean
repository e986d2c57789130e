import StreamServer.Shared.ByteText
import StreamServer.Shared.HttpCrate
import StreamServer.Shared.UrlCrate

set_option autoImplicit false

namespace StreamServer.Proxy

open ByteText

inductive ProxyError where
  | invalidRequest
  | blocked
  | capacity
  | upstream
  | cancelled
deriving DecidableEq, Repr

def percent : UInt8 := 37

def isAsciiHexdigit (byte : UInt8) : Bool :=
  isAsciiDigit byte || 97 ≤ byte && byte ≤ 102 || 65 ≤ byte && byte ≤ 70

def hexValue (byte : UInt8) : Option UInt8 :=
  if isAsciiDigit byte then some (byte - 48)
  else if 97 ≤ byte && byte ≤ 102 then some (byte - 97 + 10)
  else if 65 ≤ byte && byte ≤ 70 then some (byte - 65 + 10)
  else none

def percentEncodingValid : Bytes → Bool
  | [] => true
  | byte :: rest =>
      if byte = percent then
        match rest with
        | high :: low :: rest =>
            isAsciiHexdigit high && isAsciiHexdigit low && percentEncodingValid rest
        | _ => false
      else percentEncodingValid rest

def validatePercentEncoding (value : Bytes) : Except ProxyError Unit :=
  if percentEncodingValid value then .ok () else .error .invalidRequest

/-- The bytes that are decoded, before they are read as UTF-8. -/
def percentDecodeBytes (plusAsSpace : Bool) : Bytes → Option Bytes
  | [] => some []
  | byte :: rest =>
      if byte = percent then
        match rest with
        | high :: low :: rest =>
            match hexValue high, hexValue low, percentDecodeBytes plusAsSpace rest with
            | some high, some low, some decoded => some ((high <<< 4 ||| low) :: decoded)
            | _, _, _ => none
        | _ => none
      else if byte = 43 ∧ plusAsSpace then (percentDecodeBytes plusAsSpace rest).map (32 :: ·)
      else (percentDecodeBytes plusAsSpace rest).map (byte :: ·)

def strictPercentDecode (value : Bytes) (plusAsSpace : Bool) : Except ProxyError Bytes :=
  match percentDecodeBytes plusAsSpace value with
  | some decoded => if IsUtf8 decoded then .ok decoded else .error .invalidRequest
  | none => .error .invalidRequest

def percentEncodingSafe (byte : UInt8) : Bool :=
  isAsciiAlphanumeric byte || byte == 45 || byte == 46 || byte == 95 || byte == 126

def hexDigits : Bytes := utf8 "0123456789ABCDEF"

def percentEncodeByte (byte : UInt8) : Bytes :=
  if percentEncodingSafe byte then [byte]
  else [percent, hexDigits.getD (byte >>> 4).toNat 0, hexDigits.getD (byte &&& 0x0f).toNat 0]

def percentEncoded (value : Bytes) : Bytes := value.flatMap percentEncodeByte

def percentEncodedLength (value : Bytes) : Nat :=
  (value.map fun byte => if percentEncodingSafe byte then 1 else 3).sum

theorem hexDigits_decode (byte : UInt8) :
    hexValue (hexDigits.getD (byte >>> 4).toNat 0) = some (byte >>> 4) ∧
      hexValue (hexDigits.getD (byte &&& 0x0f).toNat 0) = some (byte &&& 0x0f) ∧
      (byte >>> 4) <<< 4 ||| (byte &&& 0x0f) = byte := by
  revert byte
  apply forall_byte
  decide +kernel

theorem percentEncodeByte_plain (byte : UInt8) :
    ∀ written ∈ percentEncodeByte byte, percentEncodingSafe written = true ∨ written = percent := by
  -- The check runs through the written bytes, not through every byte that could be written.
  have checked : ∀ byte, ((percentEncodeByte byte).all fun written =>
      percentEncodingSafe written || written == percent) = true := by
    apply forall_byte
    decide +kernel
  intro written member
  simpa using List.all_eq_true.mp (checked byte) written member

theorem percentEncodingSafe_plain (byte : UInt8) (safe : percentEncodingSafe byte = true) :
    byte ≠ percent ∧ byte ≠ 43 := by
  constructor
  · rintro rfl
    cases safe
  · rintro rfl
    cases safe

theorem percentDecodeBytes_encodeByte (plusAsSpace : Bool) (byte : UInt8) (rest : Bytes) :
    percentDecodeBytes plusAsSpace (percentEncodeByte byte ++ rest) =
      (percentDecodeBytes plusAsSpace rest).map (byte :: ·) := by
  unfold percentEncodeByte
  split
  next safe =>
    obtain ⟨notPercent, notPlus⟩ := percentEncodingSafe_plain byte safe
    rw [List.singleton_append, percentDecodeBytes.eq_def]
    simp [notPercent, notPlus]
  next =>
    obtain ⟨high, low, joined⟩ := hexDigits_decode byte
    simp only [List.cons_append, List.nil_append, percentDecodeBytes, if_true, high, low]
    cases percentDecodeBytes plusAsSpace rest with
    | none => rfl
    | some decoded => simp [joined]

theorem percentDecodeBytes_encoded (plusAsSpace : Bool) (value : Bytes) :
    percentDecodeBytes plusAsSpace (percentEncoded value) = some value := by
  unfold percentEncoded
  induction value with
  | nil => rfl
  | cons byte rest ih => rw [List.flatMap_cons, percentDecodeBytes_encodeByte, ih, Option.map_some]

theorem strictPercentDecode_encoded (plusAsSpace : Bool) {value : Bytes} (valid : IsUtf8 value) :
    strictPercentDecode (percentEncoded value) plusAsSpace = .ok value := by
  simp [strictPercentDecode, percentDecodeBytes_encoded, valid]

theorem mem_percentEncoded {value : Bytes} {byte : UInt8} (member : byte ∈ percentEncoded value) :
    percentEncodingSafe byte = true ∨ byte = percent := by
  obtain ⟨encoded, -, written⟩ := List.mem_flatMap.mp member
  exact percentEncodeByte_plain encoded byte written

theorem notMem_percentEncoded {byte : UInt8} (reserved : percentEncodingSafe byte = false)
    (notPercent : byte ≠ percent) (value : Bytes) : byte ∉ percentEncoded value := by
  intro member
  rcases mem_percentEncoded member with safe | same
  · rw [reserved] at safe
    cases safe
  · exact notPercent same

def maxProxyInput : Nat := 64 * 1024
def maxTargetUrl : Nat := 16 * 1024
def maxCustomOptions : Nat := 64
def maxHeaderPair : Nat := 8 * 1024

def rawCanonicalPathKey : Bytes := utf8 "x-stream-path"
def rawCanonicalPathOption : Bytes := utf8 "&x-stream-path=raw"

structure ParsedProxyRequest (Url : Type) where
  target : Url
  requestHeaders : HeaderMap
  responseHeaders : HeaderMap
deriving DecidableEq, Repr

def validateProxyTarget (crate : UrlCrate) (target : crate.Url) : Except ProxyError crate.Url :=
  if !crate.isHttp target || (crate.host target).isNone then .error .invalidRequest
  else
    let target := crate.clearFragment target
    if maxTargetUrl < (crate.asStr target).length then .error .invalidRequest else .ok target

def isBlank (byte : UInt8) : Bool := byte == 32 || byte == 9

def isCustomNameByte (byte : UInt8) : Bool := isAsciiAlphanumeric byte || byte == 45

def parseCustomHeader (http : HttpCrate) (value : Bytes) : Except ProxyError (Bytes × Bytes) :=
  match splitOnce 58 value with
  | none => .error .invalidRequest
  | some (name, value) =>
      let name := trimMatches isBlank name
      let value := trimMatches isBlank value
      if name = [] ∨ ¬ name.all isCustomNameByte then .error .invalidRequest
      else if maxHeaderPair < name.length + value.length + 1 then .error .invalidRequest
      else
        match http.headerNameFromBytes name, http.headerValueFromStr value with
        | some name, some value => .ok (name, value)
        | _, _ => .error .invalidRequest

def proxyHopHeaderName : Bytes := utf8 "x-stream-server-proxy-hop"

def forbiddenRequestNames : List Bytes :=
  [utf8 "host", utf8 "connection", utf8 "keep-alive", utf8 "expect", utf8 "proxy-authenticate",
    utf8 "proxy-authorization", utf8 "te", utf8 "trailer", utf8 "transfer-encoding", utf8 "upgrade",
    utf8 "content-length", utf8 "forwarded", utf8 "via", utf8 "proxy-connection",
    utf8 "http2-settings", utf8 "x-real-ip", utf8 "x-host", proxyHopHeaderName]

def requestHeaderForbidden (name : Bytes) : Bool :=
  forbiddenRequestNames.contains name || startsWith (utf8 "x-forwarded-") name ||
    startsWith (utf8 "x-original-") name || startsWith (utf8 "x-rewrite-") name

def responseHeaderForbidden (name : Bytes) : Bool := name != utf8 "content-type"

structure ProxyOptions where
  target : Option Bytes
  requestHeaders : HeaderMap
  responseHeaders : HeaderMap
  optionCount : Nat
  rawCanonicalPath : Bool
deriving DecidableEq, Repr

def ProxyOptions.none : ProxyOptions := ⟨.none, [], [], 0, false⟩

/-- The options `h` and `r` differ in the names they refuse and in the map they fill. -/
def customOption (http : HttpCrate) (forbidden : Bytes → Bool) (options : ProxyOptions)
    (value : Bytes) : Except ProxyError (Bytes × Bytes) :=
  if maxCustomOptions < options.optionCount + 1 ∨ maxHeaderPair < value.length then
    .error .invalidRequest
  else
    match parseCustomHeader http value with
    | .error error => .error error
    | .ok (name, value) =>
        if forbidden name then .error .invalidRequest else .ok (name, value)

def applyDecoded (http : HttpCrate) (options : ProxyOptions) (key value : Bytes) :
    Except ProxyError ProxyOptions :=
  if key = utf8 "d" then
    if options.target.isSome then .error .invalidRequest
    else .ok { options with target := some value }
  else if key = utf8 "h" then
    (customOption http requestHeaderForbidden options value).map fun (name, value) =>
      { options with
        optionCount := options.optionCount + 1
        requestHeaders := options.requestHeaders.insert name value }
  else if key = utf8 "r" then
    (customOption http responseHeaderForbidden options value).map fun (name, value) =>
      { options with
        optionCount := options.optionCount + 1
        responseHeaders := options.responseHeaders.insert name value }
  else if key = rawCanonicalPathKey then
    if value ≠ utf8 "raw" ∨ options.rawCanonicalPath then .error .invalidRequest
    else .ok { options with rawCanonicalPath := true }
  else .ok options

def applyOption (http : HttpCrate) (options : ProxyOptions) (option : Bytes) :
    Except ProxyError ProxyOptions := do
  let (key, value) := (splitOnce 61 option).getD (option, [])
  let key ← strictPercentDecode key true
  let value ← strictPercentDecode value true
  applyDecoded http options key value

def parseOptions (http : HttpCrate) (encodedOptions : Bytes) : Except ProxyError ProxyOptions :=
  (encodedOptions.splitOn 38).foldlM (applyOption http) .none

def splitSuffix (rawSuffix : Bytes) : Option (Bytes × Option Bytes × Option Bytes) :=
  match rawSuffix with
  | [] => some ([], none, none)
  | first :: rest =>
      if first = 63 then some (rest, none, none)
      else if rest = [] ∧ first = 47 then some ([], none, none)
      else if first = 47 ∧ rest.head? = some 63 then some (rest.tail, none, none)
      else if first ≠ 47 then none
      else
        let (rawPath, upstreamQuery) := match splitOnce 63 rest with
          | some (path, query) => (path, some query)
          | none => (rest, none)
        let (options, tail) := (splitOnce 47 rawPath).getD (rawPath, [])
        some (options, some tail, upstreamQuery)

/-- A canonical path is used as it is, any other path is decoded first. -/
def decodePath (rawCanonicalPath : Bool) (pathTail : Bytes) (upstreamQuery : Option Bytes) :
    Except ProxyError Bytes :=
  if rawCanonicalPath then do
    validatePercentEncoding pathTail
    upstreamQuery.forM validatePercentEncoding
    return pathTail
  else strictPercentDecode pathTail false

def applyPath (crate : UrlCrate) (rawCanonicalPath : Bool) (target : crate.Url)
    (pathTail upstreamQuery : Option Bytes) : Except ProxyError crate.Url :=
  match pathTail with
  | none => .ok target
  | some pathTail => do
      let pathTail ← decodePath rawCanonicalPath pathTail upstreamQuery
      let target := crate.setPath target (if pathTail = [] then utf8 "/" else pathTail)
      return crate.setQuery target upstreamQuery

def buildRequest (crate : UrlCrate) (options : ProxyOptions) (pathTail upstreamQuery : Option Bytes) :
    Except ProxyError (ParsedProxyRequest crate.Url) :=
  if options.rawCanonicalPath && (pathTail.getD []).isEmpty then .error .invalidRequest
  else
    match options.target.bind crate.parse with
    | none => .error .invalidRequest
    | some target => do
        let target ← applyPath crate options.rawCanonicalPath target pathTail upstreamQuery
        let target ← validateProxyTarget crate target
        return ⟨target, options.requestHeaders, options.responseHeaders⟩

def parseProxySuffix (crate : UrlCrate) (http : HttpCrate) (rawSuffix : Bytes) :
    Except ProxyError (ParsedProxyRequest crate.Url) :=
  if maxProxyInput < rawSuffix.length then .error .invalidRequest
  else
    match splitSuffix rawSuffix with
    | none => .error .invalidRequest
    | some (encodedOptions, pathTail, upstreamQuery) => do
        let options ← parseOptions http encodedOptions
        buildRequest crate options pathTail upstreamQuery

end StreamServer.Proxy
