import StreamServer.Proxy.HlsReference
import StreamServer.Proxy.ReferenceFacts

set_option autoImplicit false

namespace StreamServer.Proxy

open ByteText Results SortDedup

structure AcceptedHeaders (http : HttpCrate) (forbidden : Bytes → Bool) (headers : HeaderMap) :
    Prop where
  parsed : ∀ entry ∈ headers, ∃ text, parseCustomHeader http text = .ok entry
  allowed : ∀ entry ∈ headers, forbidden entry.1 = false
  distinct : headers.DistinctNames

theorem acceptedHeaders_nil (http : HttpCrate) (forbidden : Bytes → Bool) :
    AcceptedHeaders http forbidden [] :=
  ⟨by simp, by simp, by simp [HeaderMap.DistinctNames]⟩

section Accepting

variable {http : HttpCrate} {forbidden : Bytes → Bool}

theorem customOption_ok {options : ProxyOptions} {value : Bytes} {entry : Bytes × Bytes}
    (ok : customOption http forbidden options value = .ok entry) :
    parseCustomHeader http value = .ok entry ∧ forbidden entry.1 = false := by
  unfold customOption at ok
  split at ok
  next => cases ok
  next =>
    split at ok
    next => cases ok
    next name text parsed =>
      split at ok
      next => cases ok
      next allowed =>
        cases ok
        exact ⟨parsed, by simpa using allowed⟩

theorem AcceptedHeaders.insert {headers : HeaderMap}
    (accepted : AcceptedHeaders http forbidden headers) {options : ProxyOptions} {value : Bytes}
    {entry : Bytes × Bytes} (ok : customOption http forbidden options value = .ok entry) :
    AcceptedHeaders http forbidden (headers.insert entry.1 entry.2) := by
  obtain ⟨parsed, allowed⟩ := customOption_ok ok
  refine ⟨?_, ?_, HeaderMap.insert_distinctNames accepted.distinct _ _⟩
  · intro other member
    rcases HeaderMap.mem_insert member with earlier | rfl
    · exact accepted.parsed other earlier
    · exact ⟨value, parsed⟩
  · intro other member
    rcases HeaderMap.mem_insert member with earlier | rfl
    · exact accepted.allowed other earlier
    · exact allowed

end Accepting

structure ProxyOptions.Accepted (http : HttpCrate) (options : ProxyOptions) : Prop where
  request : AcceptedHeaders http requestHeaderForbidden options.requestHeaders
  response : AcceptedHeaders http responseHeaderForbidden options.responseHeaders

inductive OptionApplied (http : HttpCrate) (options : ProxyOptions) : ProxyOptions → Prop where
  | target (value : Bytes) (unset : options.target = none) :
      OptionApplied http options { options with target := some value }
  | request {value : Bytes} {entry : Bytes × Bytes}
      (parsed : customOption http requestHeaderForbidden options value = .ok entry) :
      OptionApplied http options { options with
        optionCount := options.optionCount + 1
        requestHeaders := options.requestHeaders.insert entry.1 entry.2 }
  | response {value : Bytes} {entry : Bytes × Bytes}
      (parsed : customOption http responseHeaderForbidden options value = .ok entry) :
      OptionApplied http options { options with
        optionCount := options.optionCount + 1
        responseHeaders := options.responseHeaders.insert entry.1 entry.2 }
  | canonical : OptionApplied http options { options with rawCanonicalPath := true }
  | ignored : OptionApplied http options options

theorem applyDecoded_cases {http : HttpCrate} {options result : ProxyOptions} {key value : Bytes}
    (ok : applyDecoded http options key value = .ok result) : OptionApplied http options result := by
  unfold applyDecoded at ok
  split at ok
  next =>
    split at ok
    next => cases ok
    next unset =>
      cases ok
      exact .target value (by simpa using unset)
  next =>
  split at ok
  next =>
    cases parsed : customOption http requestHeaderForbidden options value with
    | error error =>
      rw [parsed] at ok
      cases ok
    | ok entry =>
      rw [parsed] at ok
      cases ok
      exact .request parsed
  next =>
  split at ok
  next =>
    cases parsed : customOption http responseHeaderForbidden options value with
    | error error =>
      rw [parsed] at ok
      cases ok
    | ok entry =>
      rw [parsed] at ok
      cases ok
      exact .response parsed
  next =>
  split at ok
  next =>
    split at ok
    next => cases ok
    next =>
      cases ok
      exact .canonical
  next =>
    cases ok
    exact .ignored

theorem foldlM_preserves {http : HttpCrate} {invariant : ProxyOptions → Prop}
    (preserved : ∀ options next, invariant options → OptionApplied http options next → invariant next)
    {texts : List Bytes} {options result : ProxyOptions} (initial : invariant options)
    (ok : texts.foldlM (applyOption http) options = .ok result) : invariant result := by
  induction texts generalizing options with
  | nil =>
    cases ok
    exact initial
  | cons text rest ih =>
    rw [List.foldlM_cons] at ok
    obtain ⟨next, applied, ok⟩ := bind_ok ok
    obtain ⟨key, -, applied⟩ := bind_ok applied
    obtain ⟨value, -, applied⟩ := bind_ok applied
    exact ih (preserved options next initial (applyDecoded_cases applied)) ok

theorem OptionApplied.accepted {http : HttpCrate} {options next : ProxyOptions}
    (accepted : options.Accepted http) (applied : OptionApplied http options next) :
    next.Accepted http := by
  cases applied with
  | request parsed => exact ⟨accepted.request.insert parsed, accepted.response⟩
  | response parsed => exact ⟨accepted.request, accepted.response.insert parsed⟩
  | target | canonical | ignored => exact ⟨accepted.request, accepted.response⟩

theorem buildRequest_ok {crate : UrlCrate} {options : ProxyOptions}
    {pathTail upstreamQuery : Option Bytes} {request : ParsedProxyRequest crate.Url}
    (ok : buildRequest crate options pathTail upstreamQuery = .ok request) :
    (∃ text target pathed, options.target = some text ∧ crate.parse text = some target ∧
      applyPath crate options.rawCanonicalPath target pathTail upstreamQuery = .ok pathed ∧
      validateProxyTarget crate pathed = .ok request.target) ∧
      request.requestHeaders = options.requestHeaders ∧
      request.responseHeaders = options.responseHeaders := by
  unfold buildRequest at ok
  split at ok
  next => cases ok
  next =>
  split at ok
  next => cases ok
  next target parsed =>
    obtain ⟨text, given, parsed⟩ := Option.bind_eq_some_iff.mp parsed
    obtain ⟨pathed, applied, ok⟩ := bind_ok ok
    obtain ⟨valid, validated, ok⟩ := bind_ok ok
    cases ok
    exact ⟨⟨text, target, pathed, given, parsed, applied, validated⟩, rfl, rfl⟩

theorem parseProxySuffix_ok {crate : UrlCrate} {http : HttpCrate} {rawSuffix : Bytes}
    {request : ParsedProxyRequest crate.Url}
    (ok : parseProxySuffix crate http rawSuffix = .ok request) :
    ∃ encodedOptions pathTail upstreamQuery options,
      splitSuffix rawSuffix = some (encodedOptions, pathTail, upstreamQuery) ∧
        parseOptions http encodedOptions = .ok options ∧
        buildRequest crate options pathTail upstreamQuery = .ok request := by
  unfold parseProxySuffix at ok
  split at ok
  next => cases ok
  next =>
  split at ok
  next => cases ok
  next encodedOptions pathTail upstreamQuery parts =>
    obtain ⟨options, parsed, ok⟩ := bind_ok ok
    exact ⟨encodedOptions, pathTail, upstreamQuery, options, parts, parsed, ok⟩

theorem parseProxySuffix_accepted {crate : UrlCrate} {http : HttpCrate} {rawSuffix : Bytes}
    {request : ParsedProxyRequest crate.Url}
    (ok : parseProxySuffix crate http rawSuffix = .ok request) :
    AcceptedHeaders http requestHeaderForbidden request.requestHeaders ∧
      AcceptedHeaders http responseHeaderForbidden request.responseHeaders := by
  obtain ⟨encodedOptions, pathTail, upstreamQuery, options, -, parsed, built⟩ :=
    parseProxySuffix_ok ok
  have initial : ProxyOptions.none.Accepted http :=
    ⟨acceptedHeaders_nil http _, acceptedHeaders_nil http _⟩
  have accepted := foldlM_preserves (fun _ _ => OptionApplied.accepted) initial parsed
  obtain ⟨-, request, response⟩ := buildRequest_ok built
  rw [request, response]
  exact ⟨accepted.request, accepted.response⟩

theorem toAsciiLowercase_name (byte : UInt8) (named : isCustomNameByte byte = true) :
    isCustomNameByte (toAsciiLowercase byte) = true ∧ toAsciiLowercase byte ≠ 58 ∧
      isBlank (toAsciiLowercase byte) = false ∧ toAsciiLowercase byte < 128 := by
  revert byte
  apply forall_byte
  decide +kernel

structure NormalName (name : Bytes) : Prop where
  nonempty : name ≠ []
  named : name.all isCustomNameByte = true
  unseparated : 58 ∉ name
  unblank : ∀ byte ∈ name, isBlank byte = false
  ascii : ∀ byte ∈ name, byte < 128

theorem normalName_lowercase {name : Bytes} (nonempty : name ≠ [])
    (named : name.all isCustomNameByte = true) : NormalName (name.map toAsciiLowercase) := by
  rw [List.all_eq_true] at named
  refine ⟨by simpa using nonempty, ?_, ?_, ?_, ?_⟩
  · rw [List.all_map, List.all_eq_true]
    exact fun byte member => (toAsciiLowercase_name byte (named byte member)).1
  · intro member
    obtain ⟨byte, member, same⟩ := List.mem_map.mp member
    exact (toAsciiLowercase_name byte (named byte member)).2.1 same
  · intro lower member
    obtain ⟨byte, original, rfl⟩ := List.mem_map.mp member
    exact (toAsciiLowercase_name byte (named byte original)).2.2.1
  · intro lower member
    obtain ⟨byte, original, rfl⟩ := List.mem_map.mp member
    exact (toAsciiLowercase_name byte (named byte original)).2.2.2

theorem parseCustomHeader_again {http : HttpCrate} (lawful : http.Lawful) {text : Bytes}
    {entry : Bytes × Bytes} (ok : parseCustomHeader http text = .ok entry) :
    NormalName entry.1 ∧ parseCustomHeader http (entry.1 ++ 58 :: entry.2) = .ok entry := by
  unfold parseCustomHeader at ok
  split at ok
  next => cases ok
  next rawName rawValue separated =>
  simp only at ok
  split at ok
  next => cases ok
  next named =>
  split at ok
  next => cases ok
  next short =>
  split at ok
  next name value converted kept =>
    cases ok
    rw [not_or, not_not] at named
    have lower := lawful.nameLowercase _ _ converted
    have normal : NormalName name := lower ▸ normalName_lowercase named.1 named.2
    have trimmed := lawful.valueText _ _ kept
    have sameLength : name.length = (trimMatches isBlank rawName).length := by
      rw [lower, List.length_map]
    refine ⟨normal, ?_⟩
    unfold parseCustomHeader
    rw [splitOnce_append normal.unseparated]
    simp only [trimMatches_of_forall normal.unblank]
    rw [trimmed, trimMatches_trimMatches, if_neg (by simp [normal.nonempty, normal.named]),
      if_neg (by omega), lawful.nameNormal _ _ converted, kept, trimmed]
  next => cases ok

theorem percentEncoded_pair (name value : Bytes) :
    percentEncoded name ++ utf8 "%3A" ++ percentEncoded value =
      percentEncoded (name ++ 58 :: value) := by
  have colon : percentEncodeByte 58 = utf8 "%3A" := by decide
  simp [percentEncoded, colon]

def ProxyOptions.add (options : ProxyOptions) (option : CustomOption) : ProxyOptions :=
  if option.kind = 104 then
    { options with
      optionCount := options.optionCount + 1
      requestHeaders := options.requestHeaders.insert option.name option.value }
  else
    { options with
      optionCount := options.optionCount + 1
      responseHeaders := options.responseHeaders.insert option.name option.value }

structure Readable (http : HttpCrate) (option : CustomOption) : Prop where
  valid : IsUtf8 (option.name ++ 58 :: option.value)
  short : (option.name ++ 58 :: option.value).length ≤ maxHeaderPair
  parsed : parseCustomHeader http (option.name ++ 58 :: option.value) =
    .ok (option.name, option.value)
  allowed : option.kind = 104 ∧ requestHeaderForbidden option.name = false ∨
    option.kind = 114 ∧ responseHeaderForbidden option.name = false

theorem Readable.kind_ne {http : HttpCrate} {option : CustomOption} (readable : Readable http option) :
    option.kind ≠ 61 ∧ option.kind ≠ 38 := by
  rcases readable.allowed with ⟨kind, -⟩ | ⟨kind, -⟩
  · rw [kind]
    decide
  · rw [kind]
    decide

theorem customOption_readable {http : HttpCrate} {option : CustomOption}
    (readable : Readable http option) {forbidden : Bytes → Bool}
    (allowed : forbidden option.name = false) {options : ProxyOptions}
    (room : options.optionCount + 1 ≤ maxCustomOptions) :
    customOption http forbidden options (option.name ++ 58 :: option.value) =
      .ok (option.name, option.value) := by
  have short := readable.short
  unfold customOption
  rw [if_neg (by omega), readable.parsed]
  simp [allowed]

theorem splitOnce_text {http : HttpCrate} {option : CustomOption} (readable : Readable http option) :
    splitOnce 61 option.text =
      some ([option.kind], percentEncoded (option.name ++ 58 :: option.value)) := by
  have absent : (61 : UInt8) ∉ [option.kind] := by simpa using readable.kind_ne.1.symm
  rw [CustomOption.text, percentEncoded_pair]
  exact splitOnce_append absent _

theorem applyOption_text {http : HttpCrate} {option : CustomOption}
    (readable : Readable http option) {options : ProxyOptions}
    (room : options.optionCount + 1 ≤ maxCustomOptions) :
    applyOption http options option.text = .ok (options.add option) := by
  have value := strictPercentDecode_encoded true readable.valid
  unfold applyOption
  rw [splitOnce_text readable]
  rcases readable.allowed with ⟨kind, allowed⟩ | ⟨kind, allowed⟩
  · have key : strictPercentDecode [option.kind] true = .ok (utf8 "h") := by
      rw [kind]
      decide
    have parsed := customOption_readable readable allowed room
    calc _ = applyDecoded http options (utf8 "h") (option.name ++ 58 :: option.value) := by
          simp only [Option.getD_some, key, value]
          rfl
      _ = .ok (options.add option) := by
          rw [applyDecoded, if_neg (by decide), if_pos rfl, parsed, ProxyOptions.add, if_pos kind]
          rfl
  · have key : strictPercentDecode [option.kind] true = .ok (utf8 "r") := by
      rw [kind]
      decide
    have parsed := customOption_readable readable allowed room
    calc _ = applyDecoded http options (utf8 "r") (option.name ++ 58 :: option.value) := by
          simp only [Option.getD_some, key, value]
          rfl
      _ = .ok (options.add option) := by
          rw [applyDecoded, if_neg (by decide), if_neg (by decide), if_pos rfl, parsed,
            ProxyOptions.add, if_neg (by rw [kind]; decide)]
          rfl

theorem foldlM_text {http : HttpCrate} (added : List CustomOption)
    (readable : ∀ option ∈ added, Readable http option) (options : ProxyOptions)
    (room : options.optionCount + added.length ≤ maxCustomOptions) :
    (added.map CustomOption.text).foldlM (applyOption http) options =
      .ok (added.foldl ProxyOptions.add options) := by
  induction added generalizing options with
  | nil => rfl
  | cons option rest ih =>
    rw [List.length_cons] at room
    have counted : (options.add option).optionCount = options.optionCount + 1 := by
      unfold ProxyOptions.add
      split <;> rfl
    rw [List.map_cons, List.foldlM_cons,
      applyOption_text (readable option List.mem_cons_self) (by omega)]
    exact ih (fun other member => readable other (List.mem_cons_of_mem _ member)) _ (by omega)

def pairsOf (kind : UInt8) (options : List CustomOption) : HeaderMap :=
  (options.filter fun option => option.kind == kind).map fun option => (option.name, option.value)

theorem foldl_add_headers (added : List CustomOption) (options : ProxyOptions)
    (kinds : ∀ option ∈ added, option.kind = 104 ∨ option.kind = 114)
    (request : (options.requestHeaders ++ pairsOf 104 added).DistinctNames)
    (response : (options.responseHeaders ++ pairsOf 114 added).DistinctNames) :
    added.foldl ProxyOptions.add options =
      { options with
        optionCount := options.optionCount + added.length
        requestHeaders := options.requestHeaders ++ pairsOf 104 added
        responseHeaders := options.responseHeaders ++ pairsOf 114 added } := by
  induction added generalizing options with
  | nil => simp [pairsOf]
  | cons option rest ih =>
    rw [List.foldl_cons]
    have later := fun other member => kinds other (List.mem_cons_of_mem option member)
    rcases kinds option List.mem_cons_self with kind | kind
    · have own : pairsOf 104 (option :: rest) = (option.name, option.value) :: pairsOf 104 rest := by
        simp [pairsOf, kind]
      have other : pairsOf 114 (option :: rest) = pairsOf 114 rest := by simp [pairsOf, kind]
      rw [own] at request
      rw [other] at response
      rw [ProxyOptions.add, if_pos kind, HeaderMap.insert_of_distinctNames request, own, other]
      rw [List.append_cons] at request
      have rested := ih
        { options with
          optionCount := options.optionCount + 1
          requestHeaders := options.requestHeaders ++ [(option.name, option.value)] }
        later request response
      simpa [Nat.add_assoc, Nat.add_comm 1] using rested
    · have own : pairsOf 114 (option :: rest) = (option.name, option.value) :: pairsOf 114 rest := by
        simp [pairsOf, kind]
      have other : pairsOf 104 (option :: rest) = pairsOf 104 rest := by simp [pairsOf, kind]
      rw [own] at response
      rw [other] at request
      rw [ProxyOptions.add, if_neg (by rw [kind]; decide), HeaderMap.insert_of_distinctNames response,
        own, other]
      rw [List.append_cons] at response
      have rested := ih
        { options with
          optionCount := options.optionCount + 1
          responseHeaders := options.responseHeaders ++ [(option.name, option.value)] }
        later request response
      simpa [Nat.add_assoc, Nat.add_comm 1] using rested

theorem headerOptions_ok {http : HttpCrate} (lawful : http.Lawful) {kind : UInt8}
    {forbidden : Bytes → Bool} {headers : HeaderMap} {options : List CustomOption}
    (accepted : AcceptedHeaders http forbidden headers)
    (ok : headerOptions kind forbidden headers = .ok options) :
    options = headers.map (fun entry => ⟨kind, entry.1, entry.2⟩) ∧
      ∀ entry ∈ headers, IsUtf8 (entry.1 ++ 58 :: entry.2) ∧
        (entry.1 ++ 58 :: entry.2).length ≤ maxHeaderPair := by
  obtain ⟨parsed, allowed, -⟩ := accepted
  unfold headerOptions at ok
  rw [List.filter_eq_self.mpr (by simpa using allowed)] at ok
  clear allowed
  induction headers generalizing options with
  | nil =>
    cases ok
    exact ⟨rfl, by simp⟩
  | cons entry rest ih =>
    obtain ⟨name, value⟩ := entry
    rw [List.mapM_cons] at ok
    obtain ⟨first, checked, ok⟩ := bind_ok ok
    obtain ⟨others, mapped, ok⟩ := bind_ok ok
    cases ok
    obtain ⟨rfl, short⟩ :=
      ih mapped fun other member => parsed other (List.mem_cons_of_mem _ member)
    simp only at checked
    split at checked
    next => cases checked
    next valid =>
      split at checked
      next => cases checked
      next fits =>
        cases checked
        refine ⟨rfl, ?_⟩
        intro other member
        rcases List.mem_cons.mp member with rfl | member
        · obtain ⟨text, read⟩ := parsed (name, value) List.mem_cons_self
          have ascii := (parseCustomHeader_again lawful read).1.ascii
          have separated : IsUtf8 ([58] ++ value) :=
            isUtf8_append (isUtf8_singleton (by decide)) (not_not.mp valid)
          refine ⟨isUtf8_append (isUtf8_of_ascii ascii) separated, ?_⟩
          simp only [List.length_append, List.length_cons]
          omega
        · exact short other member

structure HandedOn (http : HttpCrate) (requestHeaders responseHeaders : HeaderMap)
    (options : List CustomOption) : Prop where
  few : options.length ≤ maxCustomOptions
  readable : ∀ option ∈ options, Readable http option
  request : (pairsOf 104 options).Perm requestHeaders
  response : (pairsOf 114 options).Perm responseHeaders

theorem customOptions_ok {http : HttpCrate} (lawful : http.Lawful)
    {requestHeaders responseHeaders : HeaderMap} {options : List CustomOption}
    (requestAccepted : AcceptedHeaders http requestHeaderForbidden requestHeaders)
    (responseAccepted : AcceptedHeaders http responseHeaderForbidden responseHeaders)
    (ok : customOptions true requestHeaders responseHeaders = .ok options) :
    HandedOn http requestHeaders responseHeaders options := by
  obtain ⟨request, requested, ok⟩ := bind_ok ok
  obtain ⟨response, responded, ok⟩ := bind_ok ok
  obtain ⟨rfl, requestShort⟩ := headerOptions_ok lawful requestAccepted requested
  obtain ⟨rfl, responseShort⟩ := headerOptions_ok lawful responseAccepted responded
  split at ok
  next => cases ok
  next few =>
    cases ok
    let unsorted := requestHeaders.map (fun entry => (⟨104, entry.1, entry.2⟩ : CustomOption)) ++
      responseHeaders.map (fun entry => ⟨114, entry.1, entry.2⟩)
    have sorted : (sortBy CustomOption.sortKey unsorted).Perm unsorted := List.perm_insertionSort _ _
    exact {
      few := by
        rw [sorted.length_eq]
        exact not_lt.mp few
      readable := by
        intro option member
        rcases List.mem_append.mp (sorted.mem_iff.mp member) with member | member
        · obtain ⟨entry, given, rfl⟩ := List.mem_map.mp member
          obtain ⟨text, read⟩ := requestAccepted.parsed entry given
          exact ⟨(requestShort entry given).1, (requestShort entry given).2,
            (parseCustomHeader_again lawful read).2, .inl ⟨rfl, requestAccepted.allowed entry given⟩⟩
        · obtain ⟨entry, given, rfl⟩ := List.mem_map.mp member
          obtain ⟨text, read⟩ := responseAccepted.parsed entry given
          exact ⟨(responseShort entry given).1, (responseShort entry given).2,
            (parseCustomHeader_again lawful read).2, .inr ⟨rfl, responseAccepted.allowed entry given⟩⟩
      request := by
        have same := (sorted.filter fun option => option.kind == 104).map fun option =>
          (option.name, option.value)
        simpa [pairsOf, unsorted, List.filter_map, Function.comp_def] using same
      response := by
        have same := (sorted.filter fun option => option.kind == 114).map fun option =>
          (option.name, option.value)
        simpa [pairsOf, unsorted, List.filter_map, Function.comp_def] using same }

theorem splitOn_flatMap {first : Bytes} {texts : List Bytes} (absent : 38 ∉ first)
    (others : ∀ text ∈ texts, 38 ∉ text) :
    (first ++ texts.flatMap (38 :: ·)).splitOn 38 = first :: texts := by
  induction texts generalizing first with
  | nil => simpa using List.splitOn_eq_singleton absent
  | cons text rest ih =>
    rw [List.flatMap_cons, List.cons_append, List.splitOn_append_cons_self_of_not_mem absent,
      ih (others text List.mem_cons_self) fun other member => others other (List.mem_cons_of_mem _ member)]

structure Separator (byte : UInt8) : Prop where
  reserved : percentEncodingSafe byte = false
  notPercent : byte ≠ percent
  notEquals : byte ≠ 61

theorem Separator.notMem_text {byte : UInt8} (separator : Separator byte) {option : CustomOption}
    (kind : option.kind = 104 ∨ option.kind = 114) : byte ∉ option.text := by
  rw [CustomOption.text, percentEncoded_pair]
  intro member
  rcases List.mem_append.mp member with opening | encoded
  · simp only [List.mem_cons, List.not_mem_nil, or_false] at opening
    have reserved := separator.reserved
    rcases opening with rfl | same
    · rcases kind with kind | kind
      · rw [kind] at reserved
        cases reserved
      · rw [kind] at reserved
        cases reserved
    · exact separator.notEquals same
  · exact notMem_percentEncoded separator.reserved separator.notPercent _ encoded

def targetOption (target : Bytes) : Bytes := [100, 61] ++ percentEncoded target

theorem Separator.notMem_targetOption {byte : UInt8} (separator : Separator byte) (target : Bytes) :
    byte ∉ targetOption target := by
  intro member
  rcases List.mem_append.mp member with opening | encoded
  · simp only [List.mem_cons, List.not_mem_nil, or_false] at opening
    rcases opening with rfl | same
    · cases separator.reserved
    · exact separator.notEquals same
  · exact notMem_percentEncoded separator.reserved separator.notPercent _ encoded

def optionsText (target : Bytes) (options : List CustomOption) : Bytes :=
  targetOption target ++ options.flatMap fun option => 38 :: option.text

theorem Separator.notMem_optionsText {byte : UInt8} (separator : Separator byte)
    (notAmpersand : byte ≠ 38) (target : Bytes) {options : List CustomOption}
    (kinds : ∀ option ∈ options, option.kind = 104 ∨ option.kind = 114) :
    byte ∉ optionsText target options := by
  intro member
  rcases List.mem_append.mp member with member | member
  · exact separator.notMem_targetOption target member
  · obtain ⟨option, given, written⟩ := List.mem_flatMap.mp member
    rcases List.mem_cons.mp written with same | written
    · exact notAmpersand same
    · exact separator.notMem_text (kinds option given) written

theorem separator_ampersand : Separator 38 := ⟨by decide, by decide, by decide⟩

theorem applyOption_target (http : HttpCrate) {target : Bytes} (valid : IsUtf8 target) :
    applyOption http .none (targetOption target) =
      .ok { ProxyOptions.none with target := some target } := by
  have plain : (61 : UInt8) ∉ [100] := by decide
  have separated : splitOnce 61 (targetOption target) = some ([100], percentEncoded target) :=
    splitOnce_append plain _
  have key : strictPercentDecode [100] true = .ok (utf8 "d") := by decide
  unfold applyOption
  rw [separated]
  simp only [Option.getD_some, key, strictPercentDecode_encoded true valid]
  rfl

theorem parseOptions_written {http : HttpCrate} {target : Bytes} (valid : IsUtf8 target)
    {requestHeaders responseHeaders : HeaderMap} {options : List CustomOption}
    (requestDistinct : requestHeaders.DistinctNames)
    (responseDistinct : responseHeaders.DistinctNames)
    (handed : HandedOn http requestHeaders responseHeaders options) :
    parseOptions http (optionsText target options) =
      .ok ⟨some target, pairsOf 104 options, pairsOf 114 options, options.length, false⟩ := by
  have texts : options.flatMap (fun option => 38 :: option.text) =
      (options.map CustomOption.text).flatMap (38 :: ·) := by
    rw [List.flatMap_map]
  have kinds : ∀ option ∈ options, option.kind = 104 ∨ option.kind = 114 := fun option member =>
    (handed.readable option member).allowed.imp And.left And.left
  have unseparated : ∀ text ∈ options.map CustomOption.text, 38 ∉ text := by
    intro text member
    obtain ⟨option, given, rfl⟩ := List.mem_map.mp member
    exact separator_ampersand.notMem_text (kinds option given)
  have requestNames : (pairsOf 104 options).DistinctNames :=
    (handed.request.map Prod.fst).nodup_iff.mpr requestDistinct
  have responseNames : (pairsOf 114 options).DistinctNames :=
    (handed.response.map Prod.fst).nodup_iff.mpr responseDistinct
  unfold parseOptions optionsText
  rw [texts, splitOn_flatMap (separator_ampersand.notMem_targetOption target) unseparated, List.foldlM_cons,
    applyOption_target http valid]
  have folded := foldlM_text options handed.readable
    { ProxyOptions.none with target := some target } (by simpa [ProxyOptions.none] using handed.few)
  rw [foldl_add_headers options _ kinds (by simpa [ProxyOptions.none] using requestNames)
    (by simpa [ProxyOptions.none] using responseNames)] at folded
  simp only [ProxyOptions.none, List.nil_append, Nat.zero_add] at folded
  exact folded

end StreamServer.Proxy
