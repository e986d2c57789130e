import Mathlib.Data.List.TakeWhile
import StreamServer.Proxy.HlsReference
import StreamServer.Shared.Fallible

set_option autoImplicit false

namespace StreamServer.Proxy

open ByteText Results

theorem pushTarget_ok {output value result : Bytes} (ok : pushTarget output value = .ok result) :
    result = output ++ value := by
  unfold pushTarget at ok
  split at ok
  next => cases ok
  next =>
    cases ok
    rfl

theorem validateProxyTarget_ok {crate : UrlCrate} {target result : crate.Url}
    (ok : validateProxyTarget crate target = .ok result) :
    crate.isHttp target = true ∧ (crate.host target).isSome = true ∧
      (crate.asStr (crate.clearFragment target)).length ≤ maxTargetUrl ∧
      result = crate.clearFragment target := by
  unfold validateProxyTarget at ok
  split at ok
  next => cases ok
  next web =>
    simp only at ok
    split at ok
    next => cases ok
    next short =>
      cases ok
      rw [Bool.or_eq_true, not_or] at web
      refine ⟨by simpa using web.1, ?_, by omega, rfl⟩
      simpa [Option.isSome_iff_ne_none] using web.2

theorem resolveSubstituted_ok {crate : UrlCrate} {baseUrl absolute : crate.Url} {substituted : Bytes}
    (ok : resolveSubstitutedHlsReference crate baseUrl substituted = .ok (some absolute)) :
    ∃ url, crate.join baseUrl substituted = some url ∧
      validateProxyTarget crate url = .ok absolute := by
  unfold resolveSubstitutedHlsReference at ok
  split at ok
  next => cases ok
  next url joined =>
    split at ok
    next => cases ok
    next =>
      split at ok
      next valid =>
        cases ok
        exact ⟨url, joined, valid⟩
      next => cases ok

structure Located (crate : UrlCrate) (reference : Bytes) (baseUrl absolute : crate.Url)
    (replacements : List HlsVariableReplacement) (substitution : HlsSubstitution) : Prop where
  substitutes : ∃ generator,
    substituteHlsVariables reference (hlsVariableRanges reference) generator = .ok substitution
  resolves : resolveSubstitutedHlsReference crate baseUrl substitution.substituted = .ok (some absolute)
  safe : hlsPlaceholdersAreSafe crate absolute replacements = true
  replaces : replacements = substitution.replacements

theorem resolvePlaceholders_cases {crate : UrlCrate} {reference : Bytes} {baseUrl absolute : crate.Url}
    {replacements : List HlsVariableReplacement}
    (ok : resolvePlaceholders crate reference baseUrl = .ok (some (absolute, replacements))) :
    ∃ generator substitution,
      (generator = .new reference (crate.asStr baseUrl) ∨
        ∃ (first : HlsSubstitution) (url : crate.Url),
          substituteHlsVariables reference (hlsVariableRanges reference)
            (.new reference (crate.asStr baseUrl)) = .ok first ∧
          generator = first.generator.occupy (crate.asStr url)) ∧
      substituteHlsVariables reference (hlsVariableRanges reference) generator = .ok substitution ∧
      Located crate reference baseUrl absolute replacements substitution := by
  unfold resolvePlaceholders at ok
  obtain ⟨first, substituted, ok⟩ := bind_ok ok
  obtain ⟨resolved, located, ok⟩ := bind_ok ok
  cases resolved with
  | none => cases ok
  | some absolute' =>
    simp only at ok
    split at ok
    next safe =>
      cases ok
      exact ⟨_, first, .inl rfl, substituted, ⟨_, substituted⟩, located, safe, rfl⟩
    next =>
      obtain ⟨retry, again, ok⟩ := bind_ok ok
      obtain ⟨resolved, located, ok⟩ := bind_ok ok
      cases resolved with
      | none => cases ok
      | some absolute'' =>
        simp only at ok
        split at ok
        next safe =>
          cases ok
          exact ⟨_, retry, .inr ⟨first, absolute', substituted, rfl⟩, again, ⟨_, again⟩, located, safe,
            rfl⟩
        next => cases ok

theorem resolvePlaceholders_ok {crate : UrlCrate} {reference : Bytes} {baseUrl absolute : crate.Url}
    {replacements : List HlsVariableReplacement}
    (ok : resolvePlaceholders crate reference baseUrl = .ok (some (absolute, replacements))) :
    ∃ substitution, Located crate reference baseUrl absolute replacements substitution := by
  obtain ⟨_, substitution, _, _, located⟩ := resolvePlaceholders_cases ok
  exact ⟨substitution, located⟩

theorem resolveHlsReference_ok {crate : UrlCrate} {reference : Bytes} {baseUrl : crate.Url}
    {resolved : ResolvedHlsReference}
    (ok : resolveHlsReference crate reference baseUrl = .ok (some resolved)) :
    ∃ absolute replacements,
      resolvePlaceholders crate reference baseUrl = .ok (some (absolute, replacements)) ∧
        describeReference crate baseUrl absolute replacements = .ok (some resolved) := by
  unfold resolveHlsReference at ok
  simp only at ok
  split at ok
  next => cases ok
  next =>
  split at ok
  next => cases ok
  next =>
  split at ok
  next => cases ok
  next =>
  obtain ⟨located, found, ok⟩ := bind_ok ok
  cases located with
  | none => cases ok
  | some pair =>
    obtain ⟨absolute, replacements⟩ := pair
    exact ⟨absolute, replacements, found, ok⟩

theorem describeReference_ok {crate : UrlCrate} {baseUrl absolute : crate.Url}
    {replacements : List HlsVariableReplacement} {resolved : ResolvedHlsReference}
    (ok : describeReference crate baseUrl absolute replacements = .ok (some resolved)) :
    resolved.sameOrigin = crate.sameOrigin baseUrl absolute ∧
      restoreHlsVariables (crate.asStr absolute) replacements = .ok resolved.target ∧
      (resolved.variablePath = none ∧
          (∀ replacement ∈ replacements, replacement.removedWithFragment = true) ∨
        ∃ variablePath, resolved.variablePath = some variablePath ∧
          variablePathOf crate absolute replacements = .ok (some variablePath)) := by
  unfold describeReference at ok
  obtain ⟨target, restored, ok⟩ := bind_ok ok
  split at ok
  next =>
    obtain ⟨found, described, ok⟩ := bind_ok ok
    cases found with
    | none => cases ok
    | some variablePath =>
      cases ok
      exact ⟨rfl, restored, .inr ⟨variablePath, rfl, described⟩⟩
  next removed =>
    cases ok
    exact ⟨rfl, restored, .inl ⟨rfl, by simpa using removed⟩⟩

theorem variablePathOf_ok {crate : UrlCrate} {absolute : crate.Url}
    {replacements : List HlsVariableReplacement} {variablePath : HlsVariablePath}
    (ok : variablePathOf crate absolute replacements = .ok (some variablePath)) :
    variablePath.baseTarget =
      crate.asStr (crate.setQuery (crate.setPath absolute (utf8 "/")) none) := by
  unfold variablePathOf at ok
  obtain ⟨path, -, ok⟩ := bind_ok ok
  obtain ⟨query, -, ok⟩ := bind_ok ok
  split at ok
  next => cases ok
  next =>
    cases ok
    rfl

theorem mem_windows_take (size : Nat) (byte : UInt8) (rest : Bytes) (fits : size ≤ rest.length + 1) :
    (byte :: rest).take size ∈ windows size (byte :: rest) := by
  unfold windows
  rw [if_pos fits]
  exact List.mem_cons_self

theorem mem_windows_tail {size : Nat} {byte : UInt8} {rest window : Bytes}
    (member : window ∈ windows size rest) : window ∈ windows size (byte :: rest) := by
  have fits : size ≤ rest.length + 1 := by
    cases rest with
    | nil => cases member
    | cons next more =>
      unfold windows at member
      split at member
      next fits =>
        rw [List.length_cons]
        omega
      next => cases member
  unfold windows
  rw [if_pos fits]
  exact List.mem_cons_of_mem _ member

theorem restoreFrom_absent {replacements : List HlsVariableReplacement}
    (sized : ∀ replacement ∈ replacements, replacement.placeholder.length = 4) {text : Bytes}
    (absent : ∀ replacement ∈ replacements, replacement.placeholder ∉ windows 4 text)
    {restored result : Bytes} (ok : restoreFrom replacements 0 text restored = .ok result) :
    result = restored ++ text := by
  induction text generalizing restored with
  | nil =>
    cases ok
    rw [List.append_nil]
  | cons byte rest ih =>
    unfold restoreFrom at ok
    split at ok
    next replacement found =>
      have member := List.mem_reverse.mp (List.mem_of_find?_eq_some found)
      have same : replacement.placeholder = (byte :: rest).take 4 := by
        simpa using List.find?_some found
      have length := sized replacement member
      rw [same, List.length_take, List.length_cons] at length
      have window := mem_windows_take 4 byte rest (by omega)
      rw [← same] at window
      exact absurd window (absent replacement member)
    next =>
      obtain ⟨pushed, push, ok⟩ := bind_ok ok
      rw [pushTarget_ok push] at ok
      have shorter := ih (fun replacement member present =>
        absent replacement member (mem_windows_tail present)) ok
      rw [shorter, List.append_assoc, List.singleton_append]

theorem safe_removed {crate : UrlCrate} {canonical : crate.Url}
    {replacements : List HlsVariableReplacement}
    (safe : hlsPlaceholdersAreSafe crate canonical replacements = true)
    (removed : ∀ replacement ∈ replacements, replacement.removedWithFragment = true) :
    (∀ replacement ∈ replacements, replacement.placeholder.length = 4) ∧
      ∀ replacement ∈ replacements,
        replacement.placeholder ∉ windows 4 (crate.asStr canonical) := by
  unfold hlsPlaceholdersAreSafe at safe
  simp only [Bool.and_eq_true, List.all_eq_true, List.mem_map, forall_exists_index, and_imp,
    forall_apply_eq_imp_iff₂, beq_iff_eq] at safe
  obtain ⟨⟨sized, -⟩, counted⟩ := safe
  refine ⟨sized, ?_⟩
  intro replacement member present
  have count := counted replacement member
  rw [if_pos (removed replacement member), beq_iff_eq, List.length_eq_zero_iff] at count
  obtain ⟨index, bounded, same⟩ := List.mem_iff_getElem.mp present
  have found : (replacement.placeholder, index) ∈ (windows 4 (crate.asStr canonical)).zipIdx := by
    rw [List.mk_mem_zipIdx_iff_getElem?, List.getElem?_eq_getElem bounded, same]
  have kept : (replacement.placeholder, index) ∈
      (windows 4 (crate.asStr canonical)).zipIdx.filter fun window =>
        window.1 == replacement.placeholder :=
    List.mem_filter.mpr ⟨found, beq_self_eq_true replacement.placeholder⟩
  rw [count] at kept
  cases kept

theorem describeReference_target {crate : UrlCrate} {reference : Bytes} {baseUrl absolute : crate.Url}
    {replacements : List HlsVariableReplacement} {substitution : HlsSubstitution} {target : Bytes}
    (located : Located crate reference baseUrl absolute replacements substitution)
    (removed : ∀ replacement ∈ replacements, replacement.removedWithFragment = true)
    (restored : restoreHlsVariables (crate.asStr absolute) replacements = .ok target) :
    target = crate.asStr absolute := by
  obtain ⟨sized, absent⟩ := safe_removed located.safe removed
  simpa using restoreFrom_absent sized absent restored

def beforeFragment (reference : Bytes) : Bytes := reference.takeWhile (· != 35)

theorem beforeFragment_append {text : Bytes} (fragment : 35 ∈ text) (more : Bytes) :
    beforeFragment (text ++ more) = beforeFragment text := by
  unfold beforeFragment
  rw [List.takeWhile_append, if_neg]
  intro whole
  have same := (List.takeWhile_prefix _).eq_of_length whole
  have plain := List.takeWhile_eq_self_iff.mp same 35 fragment
  simp at plain

theorem mem_take_of_findIdx? {reference : Bytes} {start : Nat}
    (first : (reference.findIdx? (· == 35)).any (fun fragment => fragment < start) = true) :
    35 ∈ reference.take start := by
  cases found : reference.findIdx? (· == 35) with
  | none =>
    rw [found] at first
    cases first
  | some fragment =>
    rw [found] at first
    obtain ⟨bounded, hash, -⟩ := List.findIdx?_eq_some_iff_getElem.mp found
    have before : fragment < start := by simpa using first
    rw [beq_iff_eq] at hash
    rw [← hash]
    exact List.mem_take_iff_getElem.mpr ⟨fragment, by omega, rfl⟩

theorem substituteFrom_extends {reference : Bytes} {fragment : Option Nat}
    {ranges : List (Nat × Nat)} {copied : Nat} {done result : HlsSubstitution}
    (ok : substituteFrom reference fragment ranges copied done = .ok result) :
    (∃ more, result.substituted = done.substituted ++ more) ∧
      ∃ later, result.replacements = done.replacements ++ later := by
  induction ranges generalizing copied done with
  | nil =>
    unfold substituteFrom at ok
    obtain ⟨substituted, pushed, ok⟩ := bind_ok ok
    cases ok
    exact ⟨⟨_, pushTarget_ok pushed⟩, [], by rw [List.append_nil]⟩
  | cons range rest ih =>
    obtain ⟨start, stop⟩ := range
    unfold substituteFrom at ok
    obtain ⟨copiedText, pushed, ok⟩ := bind_ok ok
    split at ok
    next placeholder generator _ =>
      obtain ⟨substituted, placed, ok⟩ := bind_ok ok
      obtain ⟨⟨more, extended⟩, later, replaced⟩ := ih ok
      rw [extended, replaced, pushTarget_ok placed, pushTarget_ok pushed]
      simp only [List.append_assoc]
      exact ⟨⟨_, rfl⟩, _, rfl⟩
    next => cases ok

theorem substituteHlsVariables_beforeFragment {reference : Bytes} {ranges : List (Nat × Nat)}
    {generator : HlsPlaceholderGenerator} {result : HlsSubstitution}
    (ok : substituteHlsVariables reference ranges generator = .ok result)
    (removed : ∀ replacement ∈ result.replacements, replacement.removedWithFragment = true) :
    beforeFragment result.substituted = beforeFragment reference := by
  unfold substituteHlsVariables at ok
  cases ranges with
  | nil =>
    unfold substituteFrom at ok
    obtain ⟨substituted, pushed, ok⟩ := bind_ok ok
    cases ok
    rw [pushTarget_ok pushed]
    rfl
  | cons range rest =>
    obtain ⟨start, stop⟩ := range
    unfold substituteFrom at ok
    obtain ⟨copiedText, pushed, ok⟩ := bind_ok ok
    split at ok
    next placeholder generator _ =>
      obtain ⟨substituted, placed, ok⟩ := bind_ok ok
      obtain ⟨⟨more, extended⟩, later, replaced⟩ := substituteFrom_extends ok
      have first : (reference.findIdx? (· == 35)).any (fun fragment => fragment < start) = true := by
        refine removed ⟨slice reference start stop, placeholder, _⟩ ?_
        rw [replaced]
        exact List.mem_append_left later (List.mem_singleton_self _)
      rw [extended, pushTarget_ok placed, pushTarget_ok pushed]
      simp only [List.nil_append, slice, List.drop_zero, List.append_assoc]
      have fragment := mem_take_of_findIdx? first
      rw [beforeFragment_append fragment]
      conv_rhs => rw [← List.take_append_drop start reference]
      rw [beforeFragment_append fragment]
    next => cases ok

end StreamServer.Proxy
