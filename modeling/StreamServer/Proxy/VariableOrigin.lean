import StreamServer.Proxy.CustomOptions

set_option autoImplicit false

namespace StreamServer.Proxy

open ByteText Results

theorem pushProxyUri_ok {output emitted : Bytes} {resolved : ResolvedHlsReference}
    {requestHeaders responseHeaders : HeaderMap}
    (ok : pushProxyUri output resolved requestHeaders responseHeaders = .ok emitted) :
    ∃ options, customOptions resolved.sameOrigin requestHeaders responseHeaders = .ok options ∧
      (uriSuffix resolved options).length ≤ maxProxyInput ∧
      emitted = output ++ route ++ uriSuffix resolved options := by
  obtain ⟨options, chosen, ok⟩ := bind_ok ok
  simp only at ok
  split at ok
  next => cases ok
  next =>
  split at ok
  next => cases ok
  next short =>
  split at ok
  next => cases ok
  next =>
    cases ok
    rw [← uriSuffix_length] at short
    exact ⟨options, chosen, by omega, rfl⟩

theorem customOptions_handedOn {http : HttpCrate} (lawful : http.Lawful) {sameOrigin : Bool}
    {requestHeaders responseHeaders : HeaderMap} {options : List CustomOption}
    (requestAccepted : AcceptedHeaders http requestHeaderForbidden requestHeaders)
    (responseAccepted : AcceptedHeaders http responseHeaderForbidden responseHeaders)
    (ok : customOptions sameOrigin requestHeaders responseHeaders = .ok options) :
    HandedOn http (if sameOrigin then requestHeaders else [])
      (if sameOrigin then responseHeaders else []) options := by
  cases sameOrigin with
  | true => exact customOptions_ok lawful requestAccepted responseAccepted ok
  | false =>
    cases ok
    exact ⟨Nat.zero_le _, by simp, by simp [pairsOf], by simp [pairsOf]⟩

theorem handedOn_distinct (sameOrigin : Bool) {headers : HeaderMap} (distinct : headers.DistinctNames) :
    HeaderMap.DistinctNames (if sameOrigin then headers else []) := by
  cases sameOrigin with
  | true => exact distinct
  | false => exact List.nodup_nil

theorem uriSuffix_settled {resolved : ResolvedHlsReference} (settled : resolved.variablePath = none)
    (options : List CustomOption) :
    uriSuffix resolved options = 47 :: 63 :: optionsText resolved.target options := by
  rw [uriSuffix, uriOpening, settled]
  simp only [pathText, List.append_nil]
  rfl

theorem splitSuffix_query (query : Bytes) : splitSuffix (47 :: 63 :: query) = some (query, none, none) := by
  simp [splitSuffix]

theorem buildRequest_target {crate : UrlCrate} (lawful : crate.Lawful) {url absolute : crate.Url}
    (valid : validateProxyTarget crate url = .ok absolute) (requestHeaders responseHeaders : HeaderMap)
    (optionCount : Nat) :
    buildRequest crate
        ⟨some (crate.asStr absolute), requestHeaders, responseHeaders, optionCount, false⟩ none none =
      .ok ⟨absolute, requestHeaders, responseHeaders⟩ := by
  obtain ⟨web, hosted, short, rfl⟩ := validateProxyTarget_ok valid
  have origin := lawful.clearFragmentOrigin url
  have again : validateProxyTarget crate (crate.clearFragment url) =
      .ok (crate.clearFragment url) := by
    unfold validateProxyTarget
    have missing : (crate.host (crate.clearFragment url)).isNone = false := by
      rw [origin.host, Option.isNone_eq_false_iff]
      exact hosted
    rw [origin.isHttp, web, missing]
    simp [lawful.clearFragmentAgain, not_lt.mpr short]
  simp only [buildRequest, applyPath, Bool.false_and, Option.bind_some, lawful.parseSerialized]
  rw [if_neg (by simp)]
  simp only [bind, Except.bind, again]
  rfl

theorem parse_emitted_uri {crate : UrlCrate} (crateLawful : crate.Lawful) {http : HttpCrate}
    (httpLawful : http.Lawful) {reference output emitted : Bytes} {baseUrl : crate.Url}
    {resolved : ResolvedHlsReference} {requestHeaders responseHeaders : HeaderMap}
    (requestAccepted : AcceptedHeaders http requestHeaderForbidden requestHeaders)
    (responseAccepted : AcceptedHeaders http responseHeaderForbidden responseHeaders)
    (resolves : resolveHlsReference crate reference baseUrl = .ok (some resolved))
    (settled : resolved.variablePath = none)
    (pushed : pushProxyUri output resolved requestHeaders responseHeaders = .ok emitted) :
    ∃ suffix parsed substituted url, emitted = output ++ route ++ suffix ∧
      parseProxySuffix crate http suffix = .ok parsed ∧
      beforeFragment substituted = beforeFragment reference ∧
      crate.join baseUrl substituted = some url ∧ parsed.target = crate.clearFragment url ∧
      crate.asStr parsed.target = resolved.target ∧
      (crate.sameOrigin baseUrl parsed.target = true →
        parsed.requestHeaders.Perm requestHeaders ∧ parsed.responseHeaders.Perm responseHeaders) ∧
      (crate.sameOrigin baseUrl parsed.target = false →
        parsed.requestHeaders = [] ∧ parsed.responseHeaders = []) := by
  obtain ⟨absolute, replacements, found, described⟩ := resolveHlsReference_ok resolves
  obtain ⟨substitution, located⟩ := resolvePlaceholders_ok found
  obtain ⟨origin, restored, shape⟩ := describeReference_ok described
  obtain ⟨-, removed⟩ | ⟨variablePath, live, -⟩ := shape
  swap
  · rw [settled] at live
    cases live
  obtain ⟨url, joined, valid⟩ := resolveSubstituted_ok located.resolves
  have target := describeReference_target located removed restored
  obtain ⟨generator, substitutes⟩ := located.substitutes
  have unchanged := substituteHlsVariables_beforeFragment substitutes (located.replaces ▸ removed)
  obtain ⟨options, chosen, short, rfl⟩ := pushProxyUri_ok pushed
  have handed := customOptions_handedOn httpLawful requestAccepted responseAccepted chosen
  have suffix := uriSuffix_settled settled options
  rw [target] at suffix
  have parsed : parseProxySuffix crate http (uriSuffix resolved options) =
      .ok ⟨absolute, pairsOf 104 options, pairsOf 114 options⟩ := by
    unfold parseProxySuffix
    rw [if_neg (not_lt.mpr short), suffix, splitSuffix_query]
    simp only [parseOptions_written (crateLawful.serializedUtf8 absolute)
      (handedOn_distinct resolved.sameOrigin requestAccepted.distinct)
      (handedOn_distinct resolved.sameOrigin responseAccepted.distinct) handed]
    exact buildRequest_target crateLawful valid _ _ _
  refine ⟨_, _, _, url, rfl, parsed, unchanged, joined, (validateProxyTarget_ok valid).2.2.2,
    target.symm, ?_, ?_⟩
  · intro same
    rw [origin, same] at handed
    exact ⟨handed.request, handed.response⟩
  · intro different
    rw [origin, different] at handed
    exact ⟨List.perm_nil.mp handed.request, List.perm_nil.mp handed.response⟩

theorem parse_emitted_uri_of_example_host :
    ∃ suffix parsed substituted url,
      utf8 "/proxy/?d=http%3A%2F%2Fexample.com%2F&h=authorization%3ABearer%20x&r=content-type%3Avideo%2Fmp4" =
        [] ++ route ++ suffix ∧
      parseProxySuffix .exampleHost .ascii suffix = .ok parsed ∧
      beforeFragment substituted = beforeFragment (utf8 "http://example.com/") ∧
      UrlCrate.exampleHost.join () substituted = some url ∧
      parsed.target = UrlCrate.exampleHost.clearFragment url ∧
      UrlCrate.exampleHost.asStr parsed.target = utf8 "http://example.com/" ∧
      (UrlCrate.exampleHost.sameOrigin () parsed.target = true →
        parsed.requestHeaders.Perm [(utf8 "authorization", utf8 "Bearer x")] ∧
          parsed.responseHeaders.Perm [(utf8 "content-type", utf8 "video/mp4")]) ∧
      (UrlCrate.exampleHost.sameOrigin () parsed.target = false →
        parsed.requestHeaders = [] ∧ parsed.responseHeaders = []) := by
  have request : AcceptedHeaders .ascii requestHeaderForbidden
      [(utf8 "authorization", utf8 "Bearer x")] :=
    ⟨fun entry member => ⟨utf8 "authorization: Bearer x", by
      cases List.mem_singleton.mp member
      rfl⟩, by decide, by decide⟩
  have response : AcceptedHeaders .ascii responseHeaderForbidden
      [(utf8 "content-type", utf8 "video/mp4")] :=
    ⟨fun entry member => ⟨utf8 "Content-Type: video/mp4", by
      cases List.mem_singleton.mp member
      rfl⟩, by decide, by decide⟩
  have resolves : resolveHlsReference .exampleHost (utf8 "http://example.com/") () =
      .ok (some ⟨utf8 "http://example.com/", true, none⟩) := rfl
  exact parse_emitted_uri (UrlCrate.only_lawful (by decide) _ _ _ _) HttpCrate.ascii_lawful
    request response resolves rfl rfl

/-- What a player makes of a text once it knows the values; `skip` is as in `variableRangesFrom`. -/
def substituteValues (values : Bytes → Bytes) : Nat → Bytes → Bytes
  | _, [] => []
  | skip + 1, _ :: rest => substituteValues values skip rest
  | 0, byte :: rest =>
      match variableLength (byte :: rest) with
      | some length =>
          values (slice (byte :: rest) 2 (length - 1)) ++ substituteValues values (length - 1) rest
      | none => byte :: substituteValues values 0 rest

def resolvedUrl (crate : UrlCrate) (reference : Bytes) (baseUrl : crate.Url) : Option crate.Url :=
  match resolvePlaceholders crate reference baseUrl with
  | .ok (some (absolute, _)) => some absolute
  | _ => none

theorem substituteValues_append (values : Bytes → Bytes) {fixed : Bytes} (plain : 123 ∉ fixed)
    (rest : Bytes) : substituteValues values 0 (fixed ++ rest) = fixed ++ substituteValues values 0 rest := by
  induction fixed with
  | nil => rfl
  | cons byte more ih =>
    simp only [List.mem_cons, not_or] at plain
    have ordinary : variableLength (byte :: (more ++ rest)) = none := by
      cases more ++ rest with
      | nil => rfl
      | cons second others => simp [variableLength, Ne.symm plain.1]
    rw [List.cons_append, substituteValues, ordinary]
    simp only
    rw [ih plain.2, List.cons_append]

section Targets

variable {http : HttpCrate}

theorem OptionApplied.target_eq {options next : ProxyOptions} {text : Bytes}
    (given : options.target = some text) (applied : OptionApplied http options next) :
    next.target = some text := by
  cases applied with
  | target value unset =>
    rw [given] at unset
    cases unset
  | request | response | canonical | ignored => exact given

theorem parseOptions_target {target more : Bytes} {options : ProxyOptions} (valid : IsUtf8 target)
    (separated : more = [] ∨ ∃ rest, more = 38 :: rest)
    (ok : parseOptions http (targetOption target ++ more) = .ok options) :
    options.target = some target := by
  have first : ∃ rest, (targetOption target ++ more).splitOn 38 = targetOption target :: rest := by
    rcases separated with rfl | ⟨rest, rfl⟩
    · rw [List.append_nil, List.splitOn_eq_singleton (separator_ampersand.notMem_targetOption target)]
      exact ⟨[], rfl⟩
    · exact ⟨_, List.splitOn_append_cons_self_of_not_mem
        (separator_ampersand.notMem_targetOption target) rest⟩
  obtain ⟨rest, split⟩ := first
  unfold parseOptions at ok
  rw [split, List.foldlM_cons, applyOption_target http valid] at ok
  have given : ({ ProxyOptions.none with target := some target } : ProxyOptions).target = some target :=
    rfl
  exact foldlM_preserves (fun _ _ => OptionApplied.target_eq) given ok

theorem applyPath_origin {crate : UrlCrate} (lawful : crate.Lawful) {rawCanonicalPath : Bool}
    {target result : crate.Url} {pathTail upstreamQuery : Option Bytes}
    (ok : applyPath crate rawCanonicalPath target pathTail upstreamQuery = .ok result) :
    crate.OriginEq result target := by
  cases pathTail with
  | none =>
    cases ok
    exact .refl _
  | some pathTail =>
    obtain ⟨path, -, ok⟩ := bind_ok ok
    cases ok
    exact (lawful.setQueryOrigin _ _).trans (lawful.setPathOrigin _ _)

theorem parseProxySuffix_origin {crate : UrlCrate} (lawful : crate.Lawful) {suffix more : Bytes}
    {start : crate.Url} {pathTail upstreamQuery : Option Bytes}
    {parsed : ParsedProxyRequest crate.Url}
    (parts : splitSuffix suffix =
      some (targetOption (crate.asStr start) ++ more, pathTail, upstreamQuery))
    (separated : more = [] ∨ ∃ rest, more = 38 :: rest)
    (ok : parseProxySuffix crate http suffix = .ok parsed) : crate.OriginEq parsed.target start := by
  obtain ⟨_, _, _, options, found, optionsParsed, built⟩ := parseProxySuffix_ok ok
  rw [parts] at found
  cases found
  have given := parseOptions_target (lawful.serializedUtf8 start) separated optionsParsed
  obtain ⟨⟨text, target, pathed, chosen, read, applied, valid⟩, -, -⟩ := buildRequest_ok built
  rw [given] at chosen
  cases chosen
  rw [lawful.parseSerialized] at read
  cases read
  rw [(validateProxyTarget_ok valid).2.2.2]
  exact (lawful.clearFragmentOrigin _).trans (applyPath_origin lawful applied)

end Targets

theorem headerOptions_kind {kind : UInt8} {forbidden : Bytes → Bool} {headers : HeaderMap}
    {options : List CustomOption} (ok : headerOptions kind forbidden headers = .ok options) :
    ∀ option ∈ options, option.kind = kind := by
  unfold headerOptions at ok
  generalize headers.filter (fun entry => !forbidden entry.1) = allowed at ok
  induction allowed generalizing options with
  | nil =>
    cases ok
    simp
  | cons entry rest ih =>
    obtain ⟨name, value⟩ := entry
    rw [List.mapM_cons] at ok
    obtain ⟨first, checked, ok⟩ := bind_ok ok
    obtain ⟨others, mapped, ok⟩ := bind_ok ok
    cases ok
    simp only at checked
    split at checked
    next => cases checked
    next =>
      split at checked
      next => cases checked
      next =>
        cases checked
        simpa using ih mapped

theorem customOptions_kind {sameOrigin : Bool} {requestHeaders responseHeaders : HeaderMap}
    {options : List CustomOption}
    (ok : customOptions sameOrigin requestHeaders responseHeaders = .ok options) :
    ∀ option ∈ options, option.kind = 104 ∨ option.kind = 114 := by
  cases sameOrigin with
  | false =>
    cases ok
    simp
  | true =>
    obtain ⟨request, requested, ok⟩ := bind_ok ok
    obtain ⟨response, responded, ok⟩ := bind_ok ok
    split at ok
    next => cases ok
    next =>
      cases ok
      intro option member
      rw [SortDedup.mem_sortBy] at member
      rcases List.mem_append.mp member with member | member
      · exact .inl (headerOptions_kind requested option member)
      · exact .inr (headerOptions_kind responded option member)

theorem splitOnce_skip {separator : UInt8} {fixed : Bytes} (absent : separator ∉ fixed)
    (rest : Bytes) :
    splitOnce separator (fixed ++ rest) =
      (splitOnce separator rest).map fun parts => (fixed ++ parts.1, parts.2) := by
  induction fixed with
  | nil => simp
  | cons byte more ih =>
    simp only [List.mem_cons, not_or] at absent
    rw [List.cons_append, splitOnce, if_neg (Ne.symm absent.1), ih absent.2, Option.map_map]
    rfl

theorem splitSuffix_path {fixed : Bytes} (noQuery : 63 ∉ fixed) (noSlash : 47 ∉ fixed)
    (nonempty : fixed ≠ []) (tail : Bytes) :
    ∃ pathTail upstreamQuery,
      splitSuffix (47 :: fixed ++ 47 :: tail) = some (fixed, pathTail, upstreamQuery) := by
  have head : ¬ (fixed ++ 47 :: tail).head? = some 63 := by
    cases fixed with
    | nil => exact absurd rfl nonempty
    | cons byte more =>
      simp only [List.mem_cons, not_or] at noQuery
      simpa using Ne.symm noQuery.1
  have query : splitOnce 63 (fixed ++ 47 :: tail) =
      (splitOnce 63 tail).map fun parts => (fixed ++ 47 :: parts.1, parts.2) := by
    rw [splitOnce_skip noQuery, splitOnce, if_neg (by decide), Option.map_map]
    rfl
  rw [List.cons_append, splitSuffix, if_neg (by decide), if_neg (by simp), if_neg (fun h => head h.2),
    if_neg (by simp), query]
  cases splitOnce 63 tail with
  | none =>
    simp only [Option.map_none, splitOnce_append noSlash, Option.getD_some]
    exact ⟨_, _, rfl⟩
  | some parts =>
    simp only [Option.map_some, splitOnce_append noSlash, Option.getD_some]
    exact ⟨_, _, rfl⟩

theorem uriSuffix_live {resolved : ResolvedHlsReference} {variablePath : HlsVariablePath}
    (live : resolved.variablePath = some variablePath) (options : List CustomOption) :
    uriSuffix resolved options =
      47 :: (optionsText variablePath.baseTarget options ++ rawCanonicalPathOption) ++
        47 :: (variablePath.path ++ queryText variablePath.query) := by
  have opening : utf8 "/d=" = [47, 100, 61] := by decide
  simp [uriSuffix, uriOpening, live, pathText, optionsText, targetOption, opening]

theorem flatMap_separated (options : List CustomOption) (more : Bytes)
    (separated : more = [] ∨ ∃ rest, more = 38 :: rest) :
    (options.flatMap fun option => 38 :: option.text) ++ more = [] ∨
      ∃ rest, (options.flatMap fun option => 38 :: option.text) ++ more = 38 :: rest := by
  cases options with
  | nil => exact separated
  | cons option rest => exact .inr ⟨_, rfl⟩

theorem separator_brace : Separator 123 := ⟨by decide, by decide, by decide⟩
theorem separator_slash : Separator 47 := ⟨by decide, by decide, by decide⟩
theorem separator_query : Separator 63 := ⟨by decide, by decide, by decide⟩

/-- With these values put in, the emitted URI is refused or asks for the origin of `url`. -/
def KeepsOrigin (crate : UrlCrate) (values : Bytes → Bytes) (suffix : Bytes) (url : crate.Url) : Prop :=
  ∃ received, substituteValues values 0 (route ++ suffix) = route ++ received ∧
    ∀ http parsed, parseProxySuffix crate http received = .ok parsed →
      crate.OriginEq parsed.target url

section Emitted

variable {crate : UrlCrate} (lawful : crate.Lawful) {resolved : ResolvedHlsReference}
  {options : List CustomOption} (kinds : ∀ option ∈ options, option.kind = 104 ∨ option.kind = 114)
  (values : Bytes → Bytes)

include lawful kinds

-- Without live variables there is nothing to put a value in for.
theorem keepsOrigin_settled {absolute : crate.Url} (settled : resolved.variablePath = none)
    (target : resolved.target = crate.asStr absolute) :
    KeepsOrigin crate values (uriSuffix resolved options) absolute := by
  have suffix := uriSuffix_settled settled options
  rw [target] at suffix
  have plain : 123 ∉ route ++ uriSuffix resolved options := by
    have text := separator_brace.notMem_optionsText (by decide) (crate.asStr absolute) kinds
    have plainRoute : 123 ∉ route := by decide
    rw [suffix]
    simpa [plainRoute] using text
  have unchanged := substituteValues_append values plain []
  rw [List.append_nil, substituteValues, List.append_nil] at unchanged
  refine ⟨_, unchanged, ?_⟩
  intro http parsed ok
  have parts := splitSuffix_query (optionsText (crate.asStr absolute) options)
  rw [← suffix] at parts
  have separated := flatMap_separated options [] (.inl rfl)
  rw [List.append_nil] at separated
  exact parseProxySuffix_origin lawful parts separated ok

-- All that comes before the path is free of variables and ends at the slash written there.
theorem keepsOrigin_live {start : crate.Url} {variablePath : HlsVariablePath}
    (live : resolved.variablePath = some variablePath)
    (base : variablePath.baseTarget = crate.asStr start) :
    KeepsOrigin crate values (uriSuffix resolved options) start := by
  let fixed := optionsText (crate.asStr start) options ++ rawCanonicalPathOption
  let tail := variablePath.path ++ queryText variablePath.query
  have suffix := uriSuffix_live live options
  rw [base] at suffix
  have absent {byte : UInt8} (separator : Separator byte) (notAmpersand : byte ≠ 38)
      (raw : byte ∉ rawCanonicalPathOption) : byte ∉ fixed := by
    have text := separator.notMem_optionsText notAmpersand (crate.asStr start) kinds
    simp [fixed, text, raw]
  have noBrace := absent separator_brace (by decide) (by decide)
  have noQuery := absent separator_query (by decide) (by decide)
  have noSlash := absent separator_slash (by decide) (by decide)
  have plain : 123 ∉ route ++ 47 :: fixed ++ [47] := by
    have plainRoute : 123 ∉ route := by decide
    simp [plainRoute, noBrace]
  have unchanged := substituteValues_append values plain tail
  refine ⟨47 :: fixed ++ 47 :: substituteValues values 0 tail, ?_, ?_⟩
  · rw [suffix]
    simpa [fixed, tail] using unchanged
  · intro http parsed ok
    obtain ⟨pathTail, upstreamQuery, parts⟩ := splitSuffix_path noQuery noSlash
      (by simp [fixed, optionsText, targetOption]) (substituteValues values 0 tail)
    have separated := flatMap_separated options rawCanonicalPathOption (.inr ⟨_, rfl⟩)
    have whole : fixed = targetOption (crate.asStr start) ++
        ((options.flatMap fun option => 38 :: option.text) ++ rawCanonicalPathOption) := by
      simp [fixed, optionsText]
    have named : splitSuffix (47 :: fixed ++ 47 :: substituteValues values 0 tail) =
        some (targetOption (crate.asStr start) ++ _, pathTail, upstreamQuery) :=
      parts.trans (congrArg (fun text => some (text, pathTail, upstreamQuery)) whole)
    exact parseProxySuffix_origin lawful named separated ok

end Emitted

theorem variables_keep_origin {crate : UrlCrate} (lawful : crate.Lawful)
    {reference output emitted : Bytes} {baseUrl : crate.Url} {resolved : ResolvedHlsReference}
    {requestHeaders responseHeaders : HeaderMap}
    (resolves : resolveHlsReference crate reference baseUrl = .ok (some resolved))
    (pushed : pushProxyUri output resolved requestHeaders responseHeaders = .ok emitted)
    (values : Bytes → Bytes) :
    ∃ absolute suffix received, resolvedUrl crate reference baseUrl = some absolute ∧
      resolved.sameOrigin = crate.sameOrigin baseUrl absolute ∧
      emitted = output ++ route ++ suffix ∧
      substituteValues values 0 (route ++ suffix) = route ++ received ∧
      ∀ http parsed, parseProxySuffix crate http received = .ok parsed →
        crate.OriginEq parsed.target absolute := by
  obtain ⟨absolute, replacements, found, described⟩ := resolveHlsReference_ok resolves
  obtain ⟨substitution, located⟩ := resolvePlaceholders_ok found
  obtain ⟨granted, restored, shape⟩ := describeReference_ok described
  obtain ⟨options, chosen, -, rfl⟩ := pushProxyUri_ok pushed
  have kinds := customOptions_kind chosen
  have url : resolvedUrl crate reference baseUrl = some absolute := by rw [resolvedUrl, found]
  obtain ⟨settled, removed⟩ | ⟨variablePath, live, described⟩ := shape
  · have target := describeReference_target located removed restored
    obtain ⟨received, substituted, kept⟩ := keepsOrigin_settled lawful kinds values settled target
    exact ⟨absolute, _, received, url, granted, rfl, substituted, kept⟩
  · have base := variablePathOf_ok described
    obtain ⟨received, substituted, kept⟩ := keepsOrigin_live lawful kinds values live base
    refine ⟨absolute, _, received, url, granted, rfl, substituted, ?_⟩
    intro http parsed ok
    exact (kept http parsed ok).trans ((lawful.setQueryOrigin _ _).trans (lawful.setPathOrigin _ _))

def exampleFolder : UrlCrate :=
  .oneOrigin (utf8 "http://example.com") (.domain (utf8 "example.com"))

theorem variables_keep_origin_of_example_folder :
    ∃ absolute suffix received, resolvedUrl exampleFolder (utf8 "\x7b$A\x7d") .root = some absolute ∧
      true = exampleFolder.sameOrigin .root absolute ∧
      utf8 "/proxy/d=http%3A%2F%2Fexample.com%2F&x-stream-path=raw//\x7b$A\x7d" =
        [] ++ route ++ suffix ∧
      substituteValues (fun _ => utf8 "@elsewhere.example/?") 0 (route ++ suffix) = route ++ received ∧
      ∀ http parsed, parseProxySuffix exampleFolder http received = .ok parsed →
        exampleFolder.OriginEq parsed.target absolute := by
  have lawful : exampleFolder.Lawful := UrlCrate.oneOrigin_lawful (isUtf8_utf8 _) _
  have resolves : resolveHlsReference exampleFolder (utf8 "\x7b$A\x7d") .root =
      .ok (some ⟨utf8 "http://example.com/\x7b$A\x7d", true,
        some ⟨utf8 "http://example.com/", utf8 "/\x7b$A\x7d", none⟩⟩) := rfl
  have pushed : pushProxyUri [] ⟨utf8 "http://example.com/\x7b$A\x7d", true,
      some ⟨utf8 "http://example.com/", utf8 "/\x7b$A\x7d", none⟩⟩ [] [] =
        .ok (utf8 "/proxy/d=http%3A%2F%2Fexample.com%2F&x-stream-path=raw//\x7b$A\x7d") := rfl
  exact variables_keep_origin lawful resolves pushed _

end StreamServer.Proxy
