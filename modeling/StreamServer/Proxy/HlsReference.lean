import Mathlib.Data.List.Lex
import StreamServer.Proxy.Request
import StreamServer.Shared.Lists

set_option autoImplicit false

namespace StreamServer.Proxy

open ByteText SortDedup

def isVariableNameByte (byte : UInt8) : Bool := isAsciiAlphanumeric byte || byte == 95 || byte == 45

def variableLength : Bytes → Option Nat
  | brace :: dollar :: rest =>
      let name := rest.takeWhile isVariableNameByte
      if brace = 123 ∧ dollar = 36 ∧ name ≠ [] ∧ (rest.drop name.length).head? = some 125 then
        some (name.length + 3)
      else none
  | _ => none

-- `skip` counts the bytes of a variable that have been passed over already.
def variableRangesFrom (index skip : Nat) : Bytes → List (Nat × Nat)
  | [] => []
  | byte :: rest =>
      match skip, variableLength (byte :: rest) with
      | skip + 1, _ => variableRangesFrom (index + 1) skip rest
      | 0, some length => (index, index + length) :: variableRangesFrom (index + 1) (length - 1) rest
      | 0, none => variableRangesFrom (index + 1) 0 rest

def hlsVariableRanges (value : Bytes) : List (Nat × Nat) := variableRangesFrom 0 0 value

def validUrlScheme (value : Bytes) : Bool :=
  match value with
  | [] => false
  | first :: rest => isAsciiAlphabetic first &&
      rest.all fun byte => isAsciiAlphanumeric byte || byte == 43 || byte == 45 || byte == 46

def schemeColonOf (reference : Bytes) : Option Nat :=
  ((reference.take (maxTargetUrl + 1)).findIdx? fun byte =>
    byte == 58 || byte == 47 || byte == 63 || byte == 35).filter fun index =>
      reference[index]? == some 58

def authorityRange (reference : Bytes) (schemeColon : Option Nat) : Option (Nat × Nat) :=
  let start :=
    if startsWith (utf8 "//") reference then some 2
    else schemeColon.bind fun colon =>
      if startsWith (utf8 "//") (reference.drop (colon + 1)) then some (colon + 3) else none
  start.map fun start =>
    (start, start + ((reference.drop start).takeWhile fun byte =>
      byte != 47 && byte != 63 && byte != 35).length)

structure HlsVariableReplacement where
  token : Bytes
  placeholder : Bytes
  removedWithFragment : Bool
deriving DecidableEq, Repr

structure HlsVariablePath where
  baseTarget : Bytes
  path : Bytes
  query : Option Bytes
deriving DecidableEq, Repr

structure ResolvedHlsReference where
  target : Bytes
  sameOrigin : Bool
  variablePath : Option HlsVariablePath
deriving DecidableEq, Repr

structure HlsPlaceholderGenerator where
  occupied : List Bytes
  next : Nat
deriving DecidableEq, Repr

namespace HlsPlaceholderGenerator

def digits : Bytes := utf8 "0123456789abcdefghijklmnopqrstuvwxyz"

def occupy (generator : HlsPlaceholderGenerator) (value : Bytes) : HlsPlaceholderGenerator :=
  { generator with
    occupied := generator.occupied ++
      ((windows 4 value).filter fun window => (window.take 1).map toAsciiLowercase == [120]).map
        fun window => window.map toAsciiLowercase }

def new (reference base : Bytes) : HlsPlaceholderGenerator :=
  ((⟨[], 0⟩ : HlsPlaceholderGenerator).occupy reference).occupy base

def candidate (number : Nat) : Bytes :=
  [120, digits.getD (number / (36 * 36) % 36) 0, digits.getD (number / 36 % 36) 0,
    digits.getD (number % 36) 0]

def search (generator : HlsPlaceholderGenerator) : Nat → Option (Bytes × HlsPlaceholderGenerator)
  | 0 => none
  | left + 1 =>
      let number := 36 ^ 3 - (left + 1)
      if candidate number ∈ generator.occupied then search generator left
      else some (candidate number, ⟨candidate number :: generator.occupied, number + 1⟩)

def nextPlaceholder (generator : HlsPlaceholderGenerator) :
    Option (Bytes × HlsPlaceholderGenerator) :=
  generator.search (36 ^ 3 - generator.next)

end HlsPlaceholderGenerator

/-- Allocation succeeds and gives no more than was asked for, so only lengths are compared. -/
def pushTarget (output value : Bytes) : Except ProxyError Bytes :=
  if maxTargetUrl < output.length + value.length then .error .upstream else .ok (output ++ value)

structure HlsSubstitution where
  substituted : Bytes
  replacements : List HlsVariableReplacement
  generator : HlsPlaceholderGenerator
deriving DecidableEq, Repr

def substituteFrom (reference : Bytes) (fragment : Option Nat) :
    List (Nat × Nat) → Nat → HlsSubstitution → Except ProxyError HlsSubstitution
  | [], copied, done => do
      let substituted ← pushTarget done.substituted (reference.drop copied)
      return { done with substituted }
  | (start, stop) :: rest, copied, done => do
      let substituted ← pushTarget done.substituted (slice reference copied start)
      let some (placeholder, generator) := done.generator.nextPlaceholder | throw .upstream
      let substituted ← pushTarget substituted placeholder
      let replacement : HlsVariableReplacement :=
        ⟨slice reference start stop, placeholder, fragment.any fun fragment => fragment < start⟩
      substituteFrom reference fragment rest stop
        ⟨substituted, done.replacements ++ [replacement], generator⟩

def substituteHlsVariables (reference : Bytes) (ranges : List (Nat × Nat))
    (generator : HlsPlaceholderGenerator) : Except ProxyError HlsSubstitution :=
  substituteFrom reference (reference.findIdx? (· == 35)) ranges 0 ⟨[], [], generator⟩

def resolveSubstitutedHlsReference (crate : UrlCrate) (baseUrl : crate.Url) (substituted : Bytes) :
    Except ProxyError (Option crate.Url) :=
  match crate.join baseUrl substituted with
  | none => .ok none
  | some absolute =>
      if !crate.isHttp absolute || (crate.host absolute).isNone then .ok none
      else
        match validateProxyTarget crate absolute with
        | .ok absolute => .ok (some absolute)
        | .error _ => .error .upstream

def hlsPlaceholdersAreSafe (crate : UrlCrate) (canonical : crate.Url)
    (replacements : List HlsVariableReplacement) : Bool :=
  let placeholders := replacements.map (·.placeholder)
  let found (placeholder : Bytes) := (windows 4 (crate.asStr canonical)).zipIdx.filter fun window =>
    window.1 == placeholder
  placeholders.all (·.length == 4) && decide placeholders.Nodup &&
    replacements.all fun replacement =>
      let total := found replacement.placeholder
      let inPathQuery := total.filter fun window =>
        crate.beforePath canonical ≤ window.2 && window.2 + 4 ≤ crate.afterQuery canonical
      if replacement.removedWithFragment then total.length == 0
      else total.length == 1 && inPathQuery.length == 1

-- A placeholder is ASCII, so it starts and ends where characters do: bytes are copied one by one.
def restoreFrom (replacements : List HlsVariableReplacement) :
    Nat → Bytes → Bytes → Except ProxyError Bytes
  | _, [], restored => .ok restored
  | skip + 1, _ :: rest, restored => restoreFrom replacements skip rest restored
  | 0, byte :: rest, restored =>
      match replacements.reverse.find? fun replacement =>
        replacement.placeholder == (byte :: rest).take 4 with
      | some replacement => do
          restoreFrom replacements 3 rest (← pushTarget restored replacement.token)
      | none => do restoreFrom replacements 0 rest (← pushTarget restored [byte])

def restoreHlsVariables (canonical : Bytes) (replacements : List HlsVariableReplacement) :
    Except ProxyError Bytes :=
  restoreFrom replacements 0 canonical []

def variablesAllowed (reference : Bytes) (schemeColon : Option Nat) : Bool :=
  let ranges := hlsVariableRanges reference
  !schemeColon.any (fun colon => ranges.any fun range => range.1 < colon) &&
    !(authorityRange reference schemeColon).any fun authority =>
      ranges.any fun range => range.1 < authority.2 && authority.1 < range.2

def otherScheme (reference : Bytes) (schemeColon : Option Nat) : Bool :=
  schemeColon.any fun colon =>
    let scheme := reference.take colon
    validUrlScheme scheme && !eqIgnoreAsciiCase scheme (utf8 "http") &&
      !eqIgnoreAsciiCase scheme (utf8 "https")

def resolvePlaceholders (crate : UrlCrate) (reference : Bytes) (baseUrl : crate.Url) :
    Except ProxyError (Option (crate.Url × List HlsVariableReplacement)) := do
  let ranges := hlsVariableRanges reference
  let first ← substituteHlsVariables reference ranges
    (.new reference (crate.asStr baseUrl))
  let some absolute ← resolveSubstitutedHlsReference crate baseUrl first.substituted
    | return none
  if hlsPlaceholdersAreSafe crate absolute first.replacements then
    return some (absolute, first.replacements)
  -- Once more, with placeholders that the URL does not happen to contain.
  let retry ← substituteHlsVariables reference ranges
    (first.generator.occupy (crate.asStr absolute))
  let some absolute ← resolveSubstitutedHlsReference crate baseUrl retry.substituted
    | return none
  if hlsPlaceholdersAreSafe crate absolute retry.replacements then
    return some (absolute, retry.replacements)
  return none

def variablePathOf (crate : UrlCrate) (absolute : crate.Url)
    (replacements : List HlsVariableReplacement) : Except ProxyError (Option HlsVariablePath) := do
  let path ← restoreHlsVariables (crate.path absolute) replacements
  let query ← (crate.query absolute).mapM (restoreHlsVariables · replacements)
  if !percentEncodingValid path || query.any (fun query => !percentEncodingValid query) then
    return none
  let base := crate.setQuery (crate.setPath absolute (utf8 "/")) none
  return some ⟨crate.asStr base, path, query⟩

def describeReference (crate : UrlCrate) (baseUrl absolute : crate.Url)
    (replacements : List HlsVariableReplacement) :
    Except ProxyError (Option ResolvedHlsReference) := do
  let sameOrigin := crate.sameOrigin baseUrl absolute
  let target ← restoreHlsVariables (crate.asStr absolute) replacements
  if replacements.any fun replacement => !replacement.removedWithFragment then
    let some variablePath ← variablePathOf crate absolute replacements | return none
    return some ⟨target, sameOrigin, some variablePath⟩
  return some ⟨target, sameOrigin, none⟩

def resolveHlsReference (crate : UrlCrate) (reference : Bytes) (baseUrl : crate.Url) :
    Except ProxyError (Option ResolvedHlsReference) := do
  let schemeColon := schemeColonOf reference
  if otherScheme reference schemeColon then return none
  if maxTargetUrl < reference.length then throw .upstream
  if !variablesAllowed reference schemeColon then return none
  let some (absolute, replacements) ← resolvePlaceholders crate reference baseUrl | return none
  describeReference crate baseUrl absolute replacements

def maxPlaylistOutput : Nat := 16 * 1024 * 1024

-- `kind` is `h` or `r`.
structure CustomOption where
  kind : UInt8
  name : Bytes
  value : Bytes
deriving DecidableEq, Repr

namespace CustomOption

def sortKey (option : CustomOption) : List (List Nat) :=
  [[option.kind.toNat], option.name.map UInt8.toNat, option.value.map UInt8.toNat]

def encodedLength (option : CustomOption) : Nat :=
  3 + percentEncodedLength option.name + 3 + percentEncodedLength option.value

def text (option : CustomOption) : Bytes :=
  [option.kind, 61] ++ (percentEncoded option.name ++ utf8 "%3A" ++ percentEncoded option.value)

end CustomOption

def headerOptions (kind : UInt8) (forbidden : Bytes → Bool) (headers : HeaderMap) :
    Except ProxyError (List CustomOption) :=
  (headers.filter fun entry => !forbidden entry.1).mapM fun (name, value) =>
    if ¬ IsUtf8 value then .error .upstream
    else if maxHeaderPair < name.length + value.length + 1 then .error .upstream
    else .ok ⟨kind, name, value⟩

def customOptions (sameOrigin : Bool) (requestHeaders responseHeaders : HeaderMap) :
    Except ProxyError (List CustomOption) :=
  if sameOrigin then do
    let request ← headerOptions 104 requestHeaderForbidden requestHeaders
    let response ← headerOptions 114 responseHeaderForbidden responseHeaders
    if maxCustomOptions < (request ++ response).length then .error .upstream
    else .ok (sortBy CustomOption.sortKey (request ++ response))
  else .ok []

def queryText : Option Bytes → Bytes
  | none => []
  | some query => 63 :: query

def pathText : Option HlsVariablePath → Bytes
  | none => []
  | some variablePath =>
      rawCanonicalPathOption ++ [47] ++ variablePath.path ++ queryText variablePath.query

def uriOpening (resolved : ResolvedHlsReference) : Bytes × Bytes :=
  match resolved.variablePath with
  | some variablePath => (utf8 "/d=", variablePath.baseTarget)
  | none => (utf8 "/?d=", resolved.target)

def variablePathValid (variablePath : Option HlsVariablePath) : Bool :=
  variablePath.all fun variablePath =>
    percentEncodingValid variablePath.path && variablePath.query.all percentEncodingValid

def uriSuffix (resolved : ResolvedHlsReference) (options : List CustomOption) : Bytes :=
  (uriOpening resolved).1 ++ percentEncoded (uriOpening resolved).2 ++
    options.flatMap (fun option => 38 :: option.text) ++ pathText resolved.variablePath

/-- The length is worked out before anything is written. -/
def suffixLength (resolved : ResolvedHlsReference) (options : List CustomOption) : Nat :=
  (uriOpening resolved).1.length + percentEncodedLength (uriOpening resolved).2 +
    (options.map CustomOption.encodedLength).sum + (pathText resolved.variablePath).length

def route : Bytes := utf8 "/proxy"

def pushProxyUri (output : Bytes) (resolved : ResolvedHlsReference)
    (requestHeaders responseHeaders : HeaderMap) : Except ProxyError Bytes := do
  let options ← customOptions resolved.sameOrigin requestHeaders responseHeaders
  let length := suffixLength resolved options
  if !variablePathValid resolved.variablePath then .error .upstream
  else if maxProxyInput < length then .error .upstream
  else if maxPlaylistOutput < output.length + (route.length + length) then .error .upstream
  else .ok (output ++ route ++ uriSuffix resolved options)

theorem percentEncoded_length (value : Bytes) :
    (percentEncoded value).length = percentEncodedLength value := by
  unfold percentEncoded percentEncodedLength
  induction value with
  | nil => rfl
  | cons byte rest ih =>
    rw [List.flatMap_cons, List.length_append, ih, List.map_cons, List.sum_cons]
    unfold percentEncodeByte
    split <;> rfl

theorem CustomOption.text_length (option : CustomOption) :
    option.text.length + 1 = option.encodedLength := by
  have colon : (utf8 "%3A").length = 3 := rfl
  simp only [text, encodedLength, List.length_append, List.length_cons, List.length_nil,
    percentEncoded_length, colon]
  omega

theorem uriSuffix_length (resolved : ResolvedHlsReference) (options : List CustomOption) :
    (uriSuffix resolved options).length = suffixLength resolved options := by
  have written : (options.flatMap fun option => 38 :: option.text).length =
      (options.map CustomOption.encodedLength).sum := by
    induction options with
    | nil => rfl
    | cons option rest ih =>
      rw [List.flatMap_cons, List.length_append, ih, List.map_cons, List.sum_cons,
        List.length_cons, option.text_length]
  simp only [uriSuffix, suffixLength, List.length_append, percentEncoded_length, written]

end StreamServer.Proxy
