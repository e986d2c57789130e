import Mathlib.Data.List.Nodup
import StreamServer.Proxy.ReferenceFacts
import StreamServer.Shared.Splices

set_option autoImplicit false

namespace StreamServer.Proxy

open ByteText Results Splices

section Restoring

variable {replacements : List HlsVariableReplacement} {restored result : Bytes}

theorem restoreFrom_plain {text rest : Bytes}
    (plain : ∀ before after, text = before ++ after → after ≠ [] → ∀ replacement ∈ replacements,
      ¬ replacement.placeholder <+: after ++ rest)
    (ok : restoreFrom replacements 0 (text ++ rest) restored = .ok result) :
    restoreFrom replacements 0 rest (restored ++ text) = .ok result := by
  induction text generalizing restored with
  | nil => simpa using ok
  | cons byte text ih =>
    rw [List.cons_append, restoreFrom] at ok
    split at ok
    next replacement found =>
      have member := List.mem_reverse.mp (List.mem_of_find?_eq_some found)
      have same : replacement.placeholder = (byte :: (text ++ rest)).take 4 := by
        simpa using List.find?_some found
      refine absurd ?_ (plain [] (byte :: text) rfl (List.cons_ne_nil _ _) replacement member)
      rw [same]
      exact List.take_prefix ..
    next =>
      obtain ⟨pushed, push, ok⟩ := bind_ok ok
      rw [pushTarget_ok push] at ok
      have later := ih (fun before after split => plain (byte :: before) after (by rw [split]; rfl)) ok
      rwa [List.append_assoc, List.singleton_append] at later

theorem restoreFrom_placeholder
    (distinct : (replacements.map HlsVariableReplacement.placeholder).Nodup)
    {replacement : HlsVariableReplacement} (member : replacement ∈ replacements)
    (sized : replacement.placeholder.length = 4) {rest : Bytes}
    (ok : restoreFrom replacements 0 (replacement.placeholder ++ rest) restored = .ok result) :
    restoreFrom replacements 0 rest (restored ++ replacement.token) = .ok result := by
  match bytes : replacement.placeholder, sized with
  | [first, second, third, fourth], _ =>
    rw [bytes] at ok
    simp only [List.cons_append, List.nil_append] at ok
    rw [restoreFrom] at ok
    split at ok
    next other found =>
      have otherMember := List.mem_reverse.mp (List.mem_of_find?_eq_some found)
      have same : other.placeholder = [first, second, third, fourth] := by
        simpa using List.find?_some found
      have equal : other = replacement :=
        List.inj_on_of_nodup_map distinct otherMember member (same.trans bytes.symm)
      subst equal
      obtain ⟨pushed, push, ok⟩ := bind_ok ok
      rw [pushTarget_ok push] at ok
      exact ok
    next missing =>
      have unseen := List.find?_eq_none.mp missing replacement (List.mem_reverse.mpr member)
      simp [bytes] at unseen

theorem restoreFrom_splice (sized : ∀ replacement ∈ replacements, replacement.placeholder.length = 4)
    (distinct : (replacements.map HlsVariableReplacement.placeholder).Nodup)
    {placed : List HlsVariableReplacement} (known : ∀ replacement ∈ placed, replacement ∈ replacements)
    {first : Bytes} {texts : List Bytes} (sameLength : texts.length = placed.length)
    (counted : ∀ replacement ∈ replacements,
      occurrences replacement.placeholder (splice first (placed.map (·.placeholder)) texts) ≤
        (placed.map (·.placeholder)).count replacement.placeholder)
    (ok : restoreFrom replacements 0 (splice first (placed.map (·.placeholder)) texts) restored =
      .ok result) : result = restored ++ splice first (placed.map (·.token)) texts := by
  have nonempty : ∀ replacement ∈ replacements, replacement.placeholder ≠ [] := by
    intro replacement member empty
    have length := sized replacement member
    rw [empty] at length
    cases length
  induction placed generalizing first texts restored with
  | nil =>
    have plain : restoreFrom replacements 0 [] (restored ++ first) = .ok result := by
      refine restoreFrom_plain ?_ (by simpa [splice] using ok)
      intro before after split some replacement member
      exact not_prefix_of_le (by simpa [splice, occurrences] using counted replacement member)
        split some
    rw [restoreFrom] at plain
    cases plain
    rfl
  | cons placedFirst placed ih =>
    cases texts with
    | nil => cases sameLength
    | cons text texts =>
      simp only [List.map_cons, splice] at ok counted ⊢
      have lengths : texts.length = (placed.map (·.placeholder)).length := by
        rw [List.length_map]
        exact Nat.succ.inj sameLength
      have plain := restoreFrom_plain (fun before after split some replacement member => by
        have marks := count_add_le_splice (nonempty replacement member) []
          (placedFirst.placeholder :: placed.map (·.placeholder)) (text :: texts)
          (congrArg Nat.succ lengths)
        refine not_prefix_of_le ((counted replacement member).trans ?_) split some
        rw [splice, List.nil_append] at marks
        omega) ok
      have member := known placedFirst List.mem_cons_self
      have replaced := restoreFrom_placeholder distinct member (sized placedFirst member) plain
      have later := ih (fun other inside => known other (List.mem_cons_of_mem _ inside))
        (Nat.succ.inj sameLength) (fun replacement inside => ?_) replaced
      · rw [later]
        simp only [List.append_assoc]
      · have total := counted replacement inside
        have split := occurrences_add_le replacement.placeholder first
          (placedFirst.placeholder ++ splice text (placed.map (·.placeholder)) texts)
        have splitMark := occurrences_add_le replacement.placeholder placedFirst.placeholder
          (splice text (placed.map (·.placeholder)) texts)
        rw [List.count_cons] at total
        by_cases same : placedFirst.placeholder = replacement.placeholder
        · have one : 0 < occurrences replacement.placeholder placedFirst.placeholder :=
            (occurrences_pos_iff (nonempty replacement inside)).mpr (same ▸ List.infix_refl _)
          rw [if_pos (beq_iff_eq.mpr same)] at total
          omega
        · rw [if_neg (by simpa using same)] at total
          omega

end Restoring

section Counting

variable {crate : UrlCrate} {placeholder : Bytes}

theorem count_windows (sized : placeholder.length = 4) (text : Bytes) :
    (windows 4 text).count placeholder = occurrences placeholder text := by
  induction text with
  | nil => rfl
  | cons byte rest ih =>
    rw [windows, occurrences]
    split
    next =>
      have starts : (byte :: rest).take 4 = placeholder ↔ placeholder <+: byte :: rest := by
        rw [List.prefix_iff_eq_take, sized, eq_comm]
      simp only [List.count_cons, ih, beq_iff_eq, starts]
      omega
    next short =>
      have none : occurrences placeholder (byte :: rest) = 0 := by
        refine Nat.eq_zero_of_not_pos fun some => short ?_
        have nonempty : placeholder ≠ [] := by
          rintro rfl
          cases sized
        have fits := ((occurrences_pos_iff nonempty).mp some).length_le
        rwa [sized, List.length_cons] at fits
      rw [← occurrences, none]
      rfl

theorem safe_counts {canonical : crate.Url} {replacements : List HlsVariableReplacement}
    (safe : hlsPlaceholdersAreSafe crate canonical replacements = true) :
    (∀ replacement ∈ replacements, replacement.placeholder.length = 4) ∧
      (replacements.map HlsVariableReplacement.placeholder).Nodup ∧
      ∀ replacement ∈ replacements, occurrences replacement.placeholder (crate.asStr canonical) =
        if replacement.removedWithFragment then 0 else 1 := by
  unfold hlsPlaceholdersAreSafe at safe
  simp only [Bool.and_eq_true, List.all_eq_true, List.mem_map, forall_exists_index, and_imp,
    forall_apply_eq_imp_iff₂, beq_iff_eq, decide_eq_true_eq] at safe
  obtain ⟨⟨sized, distinct⟩, counted⟩ := safe
  refine ⟨sized, distinct, fun replacement member => ?_⟩
  have total : ((windows 4 (crate.asStr canonical)).zipIdx.filter fun window =>
      window.1 == replacement.placeholder).length =
        occurrences replacement.placeholder (crate.asStr canonical) := by
    rw [← count_windows (sized replacement member), ← List.countP_eq_length_filter,
      List.count_eq_countP]
    conv_rhs => rw [← List.zipIdx_map_fst 0 (windows 4 (crate.asStr canonical)), List.countP_map]
    rfl
  have count := counted replacement member
  split at count
  next => rw [if_pos ‹_›, ← total, beq_iff_eq.mp count]
  next =>
    rw [Bool.and_eq_true, beq_iff_eq] at count
    rw [if_neg ‹_›, ← total, count.1]

end Counting

section Generator

variable {generator later : HlsPlaceholderGenerator} {placeholder : Bytes}

theorem search_some {left : Nat} (found : generator.search left = some (placeholder, later)) :
    (∃ number, placeholder = HlsPlaceholderGenerator.candidate number) ∧
      placeholder ∉ generator.occupied ∧ later.occupied = placeholder :: generator.occupied := by
  induction left with
  | zero => cases found
  | succ left ih =>
    change (if HlsPlaceholderGenerator.candidate (36 ^ 3 - (left + 1)) ∈ generator.occupied then
        generator.search left
      else some (HlsPlaceholderGenerator.candidate (36 ^ 3 - (left + 1)),
        ⟨HlsPlaceholderGenerator.candidate (36 ^ 3 - (left + 1)) :: generator.occupied,
          36 ^ 3 - (left + 1) + 1⟩)) = _ at found
    split at found
    next => exact ih found
    next free =>
      cases found
      exact ⟨⟨_, rfl⟩, free, rfl⟩

theorem digits_plain : ∀ place < 36, let byte := HlsPlaceholderGenerator.digits.getD place 0
    byte ≠ 123 ∧ byte ≠ 125 ∧ toAsciiLowercase byte = byte := by
  decide +kernel

theorem candidate_plain (number : Nat) :
    123 ∉ HlsPlaceholderGenerator.candidate number ∧ 125 ∉ HlsPlaceholderGenerator.candidate number ∧
      (HlsPlaceholderGenerator.candidate number).map toAsciiLowercase =
        HlsPlaceholderGenerator.candidate number ∧
      ((HlsPlaceholderGenerator.candidate number).take 1).map toAsciiLowercase = [120] := by
  have first := digits_plain (number / (36 * 36) % 36) (Nat.mod_lt _ (by decide))
  have second := digits_plain (number / 36 % 36) (Nat.mod_lt _ (by decide))
  have third := digits_plain (number % 36) (Nat.mod_lt _ (by decide))
  have letter : toAsciiLowercase 120 = 120 := by decide
  simp only at first second third
  unfold HlsPlaceholderGenerator.candidate
  simp only [List.mem_cons, List.not_mem_nil, or_false, not_or, List.map_cons, List.map_nil,
    List.take_succ_cons, List.take_zero, letter, first.2.2, second.2.2, third.2.2]
  exact ⟨⟨by decide, first.1.symm, second.1.symm, third.1.symm⟩,
    ⟨by decide, first.2.1.symm, second.2.1.symm, third.2.1.symm⟩, trivial, trivial⟩

theorem occupied_of_part (generator : HlsPlaceholderGenerator) {value : Bytes} {number : Nat}
    (inside : HlsPlaceholderGenerator.candidate number <:+: value) :
    HlsPlaceholderGenerator.candidate number ∈ (generator.occupy value).occupied := by
  obtain ⟨_, _, small, initial⟩ := candidate_plain number
  have window : HlsPlaceholderGenerator.candidate number ∈ windows 4 value := by
    have nonempty : HlsPlaceholderGenerator.candidate number ≠ [] := List.cons_ne_nil _ _
    rw [← List.count_pos_iff, count_windows rfl]
    exact (occurrences_pos_iff nonempty).mpr inside
  refine List.mem_append_right _ (List.mem_map.mpr ⟨_, List.mem_filter.mpr ⟨window, ?_⟩, small⟩)
  rw [initial]
  rfl

end Generator

section Tokens

theorem variableLength_some {text : Bytes} {length : Nat} (found : variableLength text = some length) :
    ∃ inner, text.take length = 123 :: (inner ++ [125]) := by
  match text, found with
  | brace :: dollar :: rest, found =>
    simp only [variableLength] at found
    split at found
    next shape =>
      cases found
      obtain ⟨rfl, rfl, -, closes⟩ := shape
      refine ⟨36 :: rest.takeWhile isVariableNameByte, ?_⟩
      have name : rest.take (rest.takeWhile isVariableNameByte).length =
          rest.takeWhile isVariableNameByte :=
        (List.prefix_iff_eq_take.mp (List.takeWhile_prefix _)).symm
      rw [List.head?_drop] at closes
      rw [List.take_succ_cons, List.take_succ_cons, List.take_add_one, name, closes]
      rfl
    next => cases found

theorem mem_variableRangesFrom {text : Bytes} {index skip : Nat} {range : Nat × Nat}
    (member : range ∈ variableRangesFrom index skip text) :
    ∃ before after length, text = before ++ after ∧ variableLength after = some length ∧
      range = (index + before.length, index + before.length + length) := by
  induction text generalizing index skip with
  | nil =>
    cases skip <;> cases member
  | cons byte rest ih =>
    have later : ∀ {skip}, range ∈ variableRangesFrom (index + 1) skip rest →
        ∃ before after length, byte :: rest = before ++ after ∧ variableLength after = some length ∧
          range = (index + before.length, index + before.length + length) := by
      intro skip inside
      obtain ⟨before, after, length, rfl, found, rfl⟩ := ih inside
      refine ⟨byte :: before, after, length, rfl, found, ?_⟩
      rw [List.length_cons, Nat.add_assoc index 1, Nat.add_comm 1]
    cases skip with
    | succ skip => exact later member
    | zero =>
      cases found : variableLength (byte :: rest) with
      | some length =>
        simp only [variableRangesFrom, found, List.mem_cons] at member
        obtain rfl | member := member
        · exact ⟨[], byte :: rest, length, rfl, found, rfl⟩
        · exact later member
      | none =>
        simp only [variableRangesFrom, found] at member
        exact later member

theorem token_enclosed {reference : Bytes} {range : Nat × Nat}
    (member : range ∈ hlsVariableRanges reference) :
    slice reference range.1 range.2 <:+: reference ∧
      ∃ inner, slice reference range.1 range.2 = 123 :: (inner ++ [125]) := by
  obtain ⟨before, after, length, rfl, found, rfl⟩ := mem_variableRangesFrom member
  simp only [Nat.zero_add]
  constructor
  · exact (List.drop_suffix ..).isInfix.trans (List.take_prefix ..).isInfix
  · obtain ⟨inner, token⟩ := variableLength_some found
    refine ⟨inner, ?_⟩
    rw [slice, List.drop_take, List.drop_left, Nat.add_sub_cancel_left, token]

end Tokens

section Texts

def textsFrom (reference : Bytes) : List (Nat × Nat) → Nat → Bytes × List Bytes
  | [], copied => (reference.drop copied, [])
  | (start, stop) :: rest, copied =>
      let later := textsFrom reference rest stop
      (slice reference copied start, later.1 :: later.2)

/-- The reference with a name for each of its variables. -/
def named (reference : Bytes) (names : List Bytes) : Bytes :=
  let texts := textsFrom reference (hlsVariableRanges reference) 0
  splice texts.1 names texts.2

def precedesFragment (reference : Bytes) (range : Nat × Nat) : Bool :=
  !(reference.findIdx? (· == 35)).any fun fragment => fragment < range.1

def outsideFragment (reference : Bytes) (items : List Bytes) : List Bytes :=
  (((hlsVariableRanges reference).zip items).filter fun pair => precedesFragment reference pair.1).map
    Prod.snd

def variableTokens (reference : Bytes) : List Bytes :=
  (hlsVariableRanges reference).map fun range => slice reference range.1 range.2

def IsPlaceholder (name : Bytes) : Prop := ∃ number, name = HlsPlaceholderGenerator.candidate number

-- What URL resolution makes of the text around the variables before the fragment, whatever
-- placeholders stand for them: every one of them is kept, and no text has the look of a variable.
structure Canonical (crate : UrlCrate) (reference : Bytes) (baseUrl : crate.Url) (first : Bytes)
    (texts : List Bytes) : Prop where
  sameLength : texts.length = (outsideFragment reference (variableTokens reference)).length
  resolves : ∀ names, names.length = (hlsVariableRanges reference).length →
    (∀ name ∈ names, IsPlaceholder name) →
    ∃ url, crate.join baseUrl (named reference names) = some url ∧
      crate.asStr (crate.clearFragment url) = splice first (outsideFragment reference names) texts
  once : ∀ token ∈ outsideFragment reference (variableTokens reference), ∀ text ∈ first :: texts,
    ¬ token <:+: text

def KeepsVariables (crate : UrlCrate) (reference : Bytes) (baseUrl : crate.Url) : Prop :=
  ∃ first texts, Canonical crate reference baseUrl first texts

structure RestoredExactly (crate : UrlCrate) (reference : Bytes) (baseUrl : crate.Url) (target : Bytes) :
    Prop where
  canonical : ∃ first texts, Canonical crate reference baseUrl first texts ∧
    target = splice first (outsideFragment reference (variableTokens reference)) texts
  clean : ∃ absolute replacements,
    resolvePlaceholders crate reference baseUrl = .ok (some (absolute, replacements)) ∧
      ∀ replacement ∈ replacements, ¬ replacement.placeholder <:+: target

end Texts

section Substitution

variable {reference : Bytes}

theorem substituteFrom_splice {fragment : Option Nat} {ranges : List (Nat × Nat)} {copied : Nat}
    {done result : HlsSubstitution}
    (ok : substituteFrom reference fragment ranges copied done = .ok result) :
    ∃ names, names.length = ranges.length ∧
      (∀ name ∈ names, IsPlaceholder name ∧ name ∉ done.generator.occupied) ∧
      result.substituted = done.substituted ++
        splice (textsFrom reference ranges copied).1 names (textsFrom reference ranges copied).2 ∧
      (result.replacements = done.replacements ++ (ranges.zip names).map fun pair =>
        ⟨slice reference pair.1.1 pair.1.2, pair.2, fragment.any fun fragment => fragment < pair.1.1⟩) ∧
      ∀ name ∈ done.generator.occupied, name ∈ result.generator.occupied := by
  induction ranges generalizing copied done with
  | nil =>
    unfold substituteFrom at ok
    obtain ⟨substituted, pushed, ok⟩ := bind_ok ok
    cases ok
    exact ⟨[], rfl, by simp, pushTarget_ok pushed, by simp, fun _ used => used⟩
  | cons range rest ih =>
    obtain ⟨start, stop⟩ := range
    unfold substituteFrom at ok
    obtain ⟨copiedText, pushed, ok⟩ := bind_ok ok
    split at ok
    next placeholder generator found =>
      obtain ⟨substituted, placed, ok⟩ := bind_ok ok
      obtain ⟨names, length, fresh, text, replaced, kept⟩ := ih ok
      obtain ⟨isPlaceholder, free, occupied⟩ := search_some found
      refine ⟨placeholder :: names, by rw [List.length_cons, length, List.length_cons], ?_, ?_, ?_,
        fun name used => kept name (occupied ▸ List.mem_cons_of_mem _ used)⟩
      · intro name member
        obtain rfl | member := List.mem_cons.mp member
        · exact ⟨isPlaceholder, free⟩
        · obtain ⟨isName, unused⟩ := fresh name member
          exact ⟨isName, fun used => unused (occupied ▸ List.mem_cons_of_mem _ used)⟩
      · rw [text, pushTarget_ok placed, pushTarget_ok pushed]
        simp only [textsFrom, splice, List.append_assoc]
      · rw [replaced]
        simp only [List.zip_cons_cons, List.map_cons, List.append_assoc, List.cons_append,
          List.nil_append]
    next => cases ok

theorem occupy_keeps (generator : HlsPlaceholderGenerator) (value : Bytes) {name : Bytes}
    (used : name ∈ generator.occupied) : name ∈ (generator.occupy value).occupied :=
  List.mem_append_left _ used

theorem new_avoids {base : Bytes} {number : Nat}
    (inside : HlsPlaceholderGenerator.candidate number <:+: reference) :
    HlsPlaceholderGenerator.candidate number ∈ (HlsPlaceholderGenerator.new reference base).occupied :=
  occupy_keeps _ base (occupied_of_part ⟨[], 0⟩ inside)

theorem resolvePlaceholders_names {crate : UrlCrate} {baseUrl absolute : crate.Url}
    {replacements : List HlsVariableReplacement}
    (ok : resolvePlaceholders crate reference baseUrl = .ok (some (absolute, replacements))) :
    ∃ names, names.length = (hlsVariableRanges reference).length ∧
      (∀ name ∈ names, IsPlaceholder name ∧ ¬ name <:+: reference) ∧
      resolveSubstitutedHlsReference crate baseUrl (named reference names) = .ok (some absolute) ∧
      hlsPlaceholdersAreSafe crate absolute replacements = true ∧
      replacements = ((hlsVariableRanges reference).zip names).map fun pair =>
        ⟨slice reference pair.1.1 pair.1.2, pair.2, !precedesFragment reference pair.1⟩ := by
  obtain ⟨generator, substitution, origin, substitutes, located⟩ := resolvePlaceholders_cases ok
  have avoids : ∀ name ∈ (HlsPlaceholderGenerator.new reference (crate.asStr baseUrl)).occupied,
      name ∈ generator.occupied := by
    intro name used
    obtain rfl | ⟨first, url, earlier, rfl⟩ := origin
    · exact used
    · obtain ⟨_, _, _, _, _, kept⟩ := substituteFrom_splice earlier
      exact occupy_keeps _ _ (kept name used)
  obtain ⟨names, length, fresh, text, replaced, _⟩ := substituteFrom_splice substitutes
  refine ⟨names, length, ?_, ?_, located.safe, ?_⟩
  · intro name member
    obtain ⟨⟨number, rfl⟩, free⟩ := fresh name member
    exact ⟨⟨number, rfl⟩, fun inside => free (avoids _ (new_avoids inside))⟩
  · have resolves := located.resolves
    rwa [text, List.nil_append] at resolves
  · rw [located.replaces, replaced, List.nil_append]
    refine List.map_congr_left fun pair _ => ?_
    rw [precedesFragment, Bool.not_not]

end Substitution

section Guarantee

variable {crate : UrlCrate} {reference : Bytes} {baseUrl : crate.Url} {names : List Bytes}

theorem filter_zip_map {A B C : Type} (kept : A → Bool) (made : A → C) (left : List A) (right : List B)
    (sameLength : right.length = left.length) :
    ((left.zip right).filter fun pair => kept pair.1).map (fun pair => made pair.1) =
      ((left.zip (left.map made)).filter fun pair => kept pair.1).map Prod.snd := by
  induction left generalizing right with
  | nil => rfl
  | cons head left ih =>
    cases right with
    | nil => cases sameLength
    | cons other right =>
      have rest := ih right (Nat.succ.inj sameLength)
      simp only [List.zip_cons_cons, List.map_cons, List.filter_cons]
      split
      next => rw [List.map_cons, List.map_cons, rest]
      next => exact rest

theorem placed_eq {replacements : List HlsVariableReplacement}
    (length : names.length = (hlsVariableRanges reference).length)
    (replaces : replacements = ((hlsVariableRanges reference).zip names).map fun pair =>
      ⟨slice reference pair.1.1 pair.1.2, pair.2, !precedesFragment reference pair.1⟩) :
    (replacements.filter (!·.removedWithFragment)).map (·.placeholder) = outsideFragment reference names ∧
      (replacements.filter (!·.removedWithFragment)).map (·.token) =
        outsideFragment reference (variableTokens reference) := by
  have tokens := filter_zip_map (precedesFragment reference)
    (fun range => slice reference range.1 range.2) (hlsVariableRanges reference) names length
  rw [replaces, List.filter_map, List.map_map, List.map_map]
  simp only [Function.comp_def, Bool.not_not]
  exact ⟨rfl, tokens⟩

theorem mem_outsideFragment_tokens {token : Bytes}
    (member : token ∈ outsideFragment reference (variableTokens reference)) :
    token <:+: reference ∧ ∃ inner, token = 123 :: (inner ++ [125]) := by
  obtain ⟨pair, inside, rfl⟩ := List.mem_map.mp member
  obtain ⟨range, listed, same⟩ := List.mem_map.mp (List.of_mem_zip (List.mem_of_mem_filter inside)).2
  rw [← same]
  exact token_enclosed listed

theorem restoredExactly_of_keeps {resolved : ResolvedHlsReference}
    (ok : resolveHlsReference crate reference baseUrl = .ok (some resolved)) {first : Bytes}
    {texts : List Bytes} (canonical : Canonical crate reference baseUrl first texts) :
    RestoredExactly crate reference baseUrl resolved.target := by
  obtain ⟨absolute, replacements, located, described⟩ := resolveHlsReference_ok ok
  obtain ⟨_, restored, _⟩ := describeReference_ok described
  obtain ⟨names, length, fresh, resolves, safe, replaces⟩ := resolvePlaceholders_names located
  obtain ⟨placeholders, tokens⟩ := placed_eq length replaces
  obtain ⟨sized, distinct, counts⟩ := safe_counts safe
  -- The URL is the canonical text with the placeholders between.
  have serialized : crate.asStr absolute = splice first (outsideFragment reference names) texts := by
    obtain ⟨url, joined, valid⟩ := resolveSubstituted_ok resolves
    obtain ⟨other, again, text⟩ := canonical.resolves names length fun name member => (fresh name member).1
    cases joined.symm.trans again
    rw [(validateProxyTarget_ok valid).2.2.2, text]
  have counted : ∀ replacement ∈ replacements,
      occurrences replacement.placeholder (crate.asStr absolute) ≤
        (outsideFragment reference names).count replacement.placeholder := by
    intro replacement member
    rw [counts replacement member]
    split
    next => exact Nat.zero_le _
    next kept =>
      rw [← placeholders]
      refine List.count_pos_iff.mpr (List.mem_map.mpr ⟨replacement, List.mem_filter.mpr ⟨member, ?_⟩, rfl⟩)
      simpa using kept
  have sameLength : texts.length = (replacements.filter (!·.removedWithFragment)).length := by
    rw [canonical.sameLength, ← tokens, List.length_map]
  have target : resolved.target =
      splice first (outsideFragment reference (variableTokens reference)) texts := by
    unfold restoreHlsVariables at restored
    rw [serialized, ← placeholders] at restored counted
    rw [← tokens]
    exact restoreFrom_splice sized distinct (fun _ member => List.mem_of_mem_filter member) sameLength
      counted restored
  refine ⟨⟨first, texts, canonical, target⟩, absolute, replacements, located, fun replacement member => ?_⟩
  have isName : replacement.placeholder ∈ names := by
    rw [replaces] at member
    obtain ⟨pair, inside, rfl⟩ := List.mem_map.mp member
    exact (List.of_mem_zip inside).2
  obtain ⟨⟨number, isCandidate⟩, unused⟩ := fresh _ isName
  obtain ⟨noOpening, noClosing, _⟩ := candidate_plain number
  have nonempty : replacement.placeholder ≠ [] := by
    rw [isCandidate]
    exact List.cons_ne_nil _ _
  have total := counted replacement member
  rw [serialized] at total
  have absent := not_infix_texts nonempty
    (by rw [sameLength, ← placeholders, List.length_map]) total
  rw [target]
  rw [isCandidate] at unused absent ⊢
  refine not_infix_splice noOpening noClosing (absent first List.mem_cons_self)
    (fun text inside => absent text (List.mem_cons_of_mem _ inside)) fun token inside => ?_
  obtain ⟨partOf, enclosed⟩ := mem_outsideFragment_tokens inside
  exact ⟨fun reached => unused (reached.trans partOf), enclosed⟩

theorem restoredExactly_iff {resolved : ResolvedHlsReference}
    (ok : resolveHlsReference crate reference baseUrl = .ok (some resolved)) :
    RestoredExactly crate reference baseUrl resolved.target ↔ KeepsVariables crate reference baseUrl := by
  constructor
  · rintro ⟨⟨first, texts, canonical, _⟩, _⟩
    exact ⟨first, texts, canonical⟩
  · rintro ⟨first, texts, canonical⟩
    exact restoredExactly_of_keeps ok canonical

end Guarantee

section Examples

/-- One folder, where one name before a parent segment is resolved as well. -/
def folder : UrlCrate where
  Url := Bytes
  parse bytes := some (bytes.drop 9)
  join _ reference := some (if reference.drop 4 = utf8 "/../x0\t00" then utf8 "x000" else reference)
  asStr leaf := utf8 "http://h/" ++ leaf
  scheme _ := utf8 "http"
  username _ := []
  password _ := none
  host _ := some (.domain (utf8 "h"))
  portOrKnownDefault _ := some 80
  path leaf := 47 :: leaf
  query _ := none
  beforePath _ := 8
  afterQuery leaf := leaf.length + 9
  clearFragment leaf := leaf
  clearUserInfo leaf := leaf
  setPath _ path := path.drop 1
  setQuery leaf _ := leaf

theorem folder_keeps : KeepsVariables folder (utf8 "\x7b$v\x7d.ts") [] := by
  refine ⟨utf8 "http://h/", [utf8 ".ts"], rfl, ?_, by decide +kernel⟩
  intro names length arePlaceholders
  obtain ⟨name, rfl⟩ := List.length_eq_one_iff.mp length
  obtain ⟨number, rfl⟩ := arePlaceholders name List.mem_cons_self
  exact ⟨_, rfl, rfl⟩

theorem restoredExactly_segment :
    RestoredExactly folder (utf8 "\x7b$v\x7d.ts") [] (utf8 "http://h/\x7b$v\x7d.ts") :=
  have resolves : resolveHlsReference folder (utf8 "\x7b$v\x7d.ts") [] =
      .ok (some ⟨utf8 "http://h/\x7b$v\x7d.ts", true,
        some ⟨utf8 "http://h/", utf8 "/\x7b$v\x7d.ts", none⟩⟩) := rfl
  (restoredExactly_iff resolves).mpr folder_keeps

-- The variable goes with its segment; what looks like its placeholder comes from the text.
theorem parent_segment_misplaces :
    ∃ resolved, resolveHlsReference folder (utf8 "\x7b$v\x7d/../x0\t00") [] = .ok (some resolved) ∧
      resolved.target = utf8 "http://h/\x7b$v\x7d" ∧
      ¬ RestoredExactly folder (utf8 "\x7b$v\x7d/../x0\t00") [] resolved.target := by
  refine ⟨⟨utf8 "http://h/\x7b$v\x7d", true, some ⟨utf8 "http://h/", utf8 "/\x7b$v\x7d", none⟩⟩, rfl,
    rfl, ?_⟩
  rintro ⟨⟨first, texts, canonical, _⟩, _⟩
  have one : ∀ number, first ++ (HlsPlaceholderGenerator.candidate number ++ texts.flatten) =
      utf8 "http://h/x000" := by
    intro number
    obtain ⟨url, joined, text⟩ := canonical.resolves [HlsPlaceholderGenerator.candidate number] rfl
      fun name member => ⟨number, List.mem_singleton.mp member⟩
    obtain ⟨only, rfl⟩ := List.length_eq_one_iff.mp canonical.sameLength
    cases joined
    rw [List.flatten_singleton]
    exact text.symm
  have same := List.append_cancel_left ((one 0).trans (one 1).symm)
  have different : HlsPlaceholderGenerator.candidate 0 ≠ HlsPlaceholderGenerator.candidate 1 := by
    decide +kernel
  exact different (List.append_inj_left same rfl)

end Examples

end StreamServer.Proxy
