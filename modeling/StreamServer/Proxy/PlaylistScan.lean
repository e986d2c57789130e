import StreamServer.Proxy.PlaylistRewrite

set_option autoImplicit false

namespace StreamServer.Proxy

open ByteText Loops PlaylistWriter Results

/-- What is written does not depend on what was written before, except that all of it has to fit. -/
structure Emits (cancelled : Nat → Bool)
    (write : PlaylistWriter → Except ProxyError PlaylistWriter) (text : Except ProxyError Bytes) :
    Prop where
  sound : ∀ writer final, writer.output.length ≤ maxPlaylistOutput → write writer = .ok final →
    ∃ emitted, text = .ok emitted ∧ final.output = writer.output ++ emitted ∧
      final.output.length ≤ maxPlaylistOutput
  complete : (∀ look, cancelled look = false) → ∀ writer emitted, text = .ok emitted →
    (writer.output ++ emitted).length ≤ maxPlaylistOutput →
      ∃ final, write writer = .ok final ∧ final.output = writer.output ++ emitted

def concat (first second : Except ProxyError Bytes) : Except ProxyError Bytes := do
  return (← first) ++ (← second)

@[simp] theorem concat_ok (first second : Bytes) :
    concat (.ok first) (.ok second) = .ok (first ++ second) := rfl

theorem concat_assoc (first second third : Except ProxyError Bytes) :
    concat (concat first second) third = concat first (concat second third) := by
  cases first with
  | error error => rfl
  | ok first =>
    cases second with
    | error error => rfl
    | ok second =>
      cases third with
      | error error => rfl
      | ok third => exact congrArg Except.ok (List.append_assoc first second third)

theorem concat_ok_concat (first second : Bytes) (third : Except ProxyError Bytes) :
    concat (.ok first) (concat (.ok second) third) = concat (.ok (first ++ second)) third := by
  rw [← concat_assoc, concat_ok]

section Writes

variable {cancelled : Nat → Bool} {first second : PlaylistWriter → Except ProxyError PlaylistWriter}
  {text more : Except ProxyError Bytes}

theorem emits_push (value : Bytes) : Emits cancelled (pushPlaylist value) (.ok value) where
  sound writer final _ ok := by
    unfold pushPlaylist at ok
    split at ok
    next => cases ok
    next fits =>
      cases ok
      refine ⟨value, rfl, rfl, ?_⟩
      rw [List.length_append]
      omega
  complete _ writer emitted same fits := by
    cases same
    rw [List.length_append] at fits
    exact ⟨_, if_neg (by omega), rfl⟩

theorem emits_check : Emits cancelled (check cancelled) (.ok []) where
  sound writer final fits ok := by
    unfold check at ok
    split at ok
    next => cases ok
    next =>
      cases ok
      exact ⟨[], rfl, (List.append_nil _).symm, fits⟩
  complete never writer emitted same _ := by
    cases same
    exact ⟨_, if_neg (by simp [never]), (List.append_nil _).symm⟩

theorem emits_nothing : Emits cancelled .ok (.ok []) where
  sound writer final fits ok := by
    cases ok
    exact ⟨[], rfl, (List.append_nil _).symm, fits⟩
  complete _ writer emitted same _ := by
    cases same
    exact ⟨_, rfl, (List.append_nil _).symm⟩

theorem Emits.bind (emits : Emits cancelled first text) (emitsMore : Emits cancelled second more) :
    Emits cancelled (fun writer => first writer >>= second) (concat text more) where
  sound writer final fits ok := by
    obtain ⟨middle, wrote, ok⟩ := bind_ok ok
    obtain ⟨before, rfl, same, fits⟩ := emits.sound writer middle fits wrote
    obtain ⟨after, rfl, same', fits⟩ := emitsMore.sound middle final fits ok
    exact ⟨before ++ after, rfl, by rw [same', same, List.append_assoc], fits⟩
  complete never writer emitted same fits := by
    obtain ⟨before, rfl, joined⟩ := bind_ok same
    obtain ⟨after, rfl, joined⟩ := bind_ok joined
    cases joined
    rw [← List.append_assoc] at fits
    have fitsBefore : (writer.output ++ before).length ≤ maxPlaylistOutput := by
      rw [List.length_append] at fits
      omega
    obtain ⟨middle, wrote, same⟩ := emits.complete never writer before rfl fitsBefore
    rw [← same] at fits
    obtain ⟨final, wroteMore, same'⟩ := emitsMore.complete never middle after rfl fits
    refine ⟨final, ?_, by rw [same', same, List.append_assoc]⟩
    rw [wrote]
    exact wroteMore

theorem Emits.of_result {A : Type} {result : Except ProxyError A}
    {write : A → PlaylistWriter → Except ProxyError PlaylistWriter} {text : A → Except ProxyError Bytes}
    (emits : ∀ value, Emits cancelled (write value) (text value)) :
    Emits cancelled (fun writer => result >>= fun value => write value writer) (result >>= text) where
  sound writer final fits ok := by
    obtain ⟨value, rfl, ok⟩ := bind_ok ok
    exact (emits value).sound writer final fits ok
  complete never writer emitted same fits := by
    obtain ⟨value, rfl, same⟩ := bind_ok same
    exact (emits value).complete never writer emitted same fits

end Writes

section References

variable {crate : UrlCrate} (context : PlaylistContext crate)

theorem pushProxyUri_eq (writer : PlaylistWriter) (resolved : ResolvedHlsReference)
    (requestHeaders responseHeaders : HeaderMap) :
    (pushProxyUri writer.output resolved requestHeaders responseHeaders).map
        (fun output => { writer with output }) =
      proxyUri resolved requestHeaders responseHeaders >>= fun uri => pushPlaylist uri writer := by
  unfold pushProxyUri proxyUri pushPlaylist
  cases customOptions resolved.sameOrigin requestHeaders responseHeaders with
  | error error => rfl
  | ok options =>
    simp only [bind, Except.bind]
    split
    next => rfl
    split
    next => rfl
    simp only [List.length_append, uriSuffix_length, List.append_assoc]
    split
    next => rfl
    next => rfl

theorem emits_pushReference (reference : Bytes) (resolved : Option ResolvedHlsReference) :
    Emits context.cancelled (pushReference context reference resolved)
      (match resolved with
      | none => .ok reference
      | some resolved => proxyUri resolved context.requestHeaders context.responseHeaders) := by
  cases resolved with
  | none => exact emits_push reference
  | some resolved =>
    have pushed : Emits context.cancelled
        (fun writer => proxyUri resolved context.requestHeaders context.responseHeaders >>= fun uri =>
          pushPlaylist uri writer)
        (proxyUri resolved context.requestHeaders context.responseHeaders >>= .ok) :=
      .of_result emits_push
    have same : (proxyUri resolved context.requestHeaders context.responseHeaders >>= .ok) =
        proxyUri resolved context.requestHeaders context.responseHeaders := by
      cases proxyUri resolved context.requestHeaders context.responseHeaders <;> rfl
    simp only [← pushProxyUri_eq, same] at pushed
    exact pushed

theorem concat_nothing (text : Except ProxyError Bytes) : concat (.ok []) text = text := by
  cases text <;> rfl

theorem emits_reference (reference : Bytes) :
    Emits context.cancelled (rewritePlaylistReference context reference)
      (referenceText context reference) := by
  rw [← concat_nothing (referenceText context reference)]
  exact emits_check.bind (.of_result (emits_pushReference context reference))

end References

section Shapes

variable {crate : UrlCrate} (context : PlaylistContext crate) {text blanks value after rest : Bytes}

theorem takeWhile_blanks (blank : blanks.all isBlank = true) (rest : Bytes) :
    (blanks ++ uriKey ++ rest).takeWhile isBlank = blanks := by
  rw [List.append_assoc, List.takeWhile_append_of_pos fun byte => List.all_eq_true.mp blank byte]
  have key : (uriKey ++ rest).takeWhile isBlank = [] := rfl
  rw [key, List.append_nil]

theorem startsWith_uriKey (blanks rest : Bytes) :
    startsWith uriKey ((blanks ++ uriKey ++ rest).drop blanks.length) = true := by
  rw [List.append_assoc, List.drop_left]
  exact List.isPrefixOf_iff_prefix.mpr (List.prefix_append _ _)

theorem drop_key (blanks rest : Bytes) : (blanks ++ uriKey ++ rest).drop (blanks.length + 5) = rest := by
  have length : blanks.length + 5 = (blanks ++ uriKey).length := by
    rw [List.length_append]
    rfl
  rw [length, List.drop_left]

theorem attributeText_other
    (differs : startsWith uriKey (text.drop (text.takeWhile isBlank).length) = false) :
    attributeText context text = .ok text := by
  unfold attributeText
  simp only [differs, Bool.false_eq_true, if_false]

theorem attributeText_unclosed (blank : blanks.all isBlank = true) (plain : quoteMark ∉ value) :
    attributeText context (blanks ++ uriKey ++ value) = .ok (blanks ++ uriKey ++ value) := by
  unfold attributeText
  simp only [takeWhile_blanks blank, startsWith_uriKey, if_true, drop_key,
    findIdx?_absent plain]

theorem attributeText_closed (blank : blanks.all isBlank = true) (plain : quoteMark ∉ value) :
    attributeText context (blanks ++ uriKey ++ (value ++ quoteMark :: after)) =
      concat (.ok (blanks ++ uriKey)) (concat (referenceText context value)
        (.ok (quoteMark :: after))) := by
  have length : blanks.length + 5 = (blanks ++ uriKey).length := by
    rw [List.length_append]
    rfl
  have quoted : slice (blanks ++ uriKey ++ (value ++ quoteMark :: after)) (blanks.length + 5)
      (blanks.length + 5 + value.length) = value := by
    unfold slice
    rw [length, List.drop_take, List.drop_left, Nat.add_sub_cancel_left, List.take_left]
  have behind : (blanks ++ uriKey ++ (value ++ quoteMark :: after)).drop
      (blanks.length + 5 + value.length) = quoteMark :: after := by
    rw [length, ← List.drop_drop, List.drop_left, List.drop_left]
  have before : (blanks ++ uriKey ++ (value ++ quoteMark :: after)).take (blanks.length + 5) =
      blanks ++ uriKey := by
    rw [length, List.take_left]
  unfold attributeText
  simp only [takeWhile_blanks blank, startsWith_uriKey, if_true, drop_key,
    findIdx?_separator plain, quoted, behind, before]
  cases referenceText context value with
  | error error => rfl
  | ok written => exact congrArg Except.ok (List.append_assoc _ _ _)

theorem mapM_ok_ne_nil {A B : Type} {each : A → Except ProxyError B} {values : List A}
    {results : List B} (some : values ≠ []) (mapped : values.mapM each = .ok results) :
    results ≠ [] := by
  obtain ⟨first, more, rfl⟩ := List.exists_cons_of_ne_nil some
  rw [List.mapM_cons] at mapped
  obtain ⟨result, -, mapped⟩ := bind_ok mapped
  obtain ⟨rest, -, mapped⟩ := bind_ok mapped
  cases mapped
  exact List.cons_ne_nil _ _

theorem attributesText_eq (text : Bytes) : attributesText context text =
    match unquotedComma false text with
    | none => attributeText context text
    | some offset => concat (attributeText context (text.take offset))
        (concat (.ok [comma]) (attributesText context (text.drop (offset + 1)))) := by
  unfold attributesText
  rw [attributes_eq]
  cases unquotedComma false text with
  | none =>
    simp only [List.mapM_cons, List.mapM_nil]
    cases attributeText context text with
    | error error => rfl
    | ok written => exact congrArg Except.ok List.intercalate_singleton
  | some offset =>
    simp only [List.mapM_cons]
    cases attributeText context (text.take offset) with
    | error error => rfl
    | ok written =>
      cases rewritten : (attributes false (text.drop (offset + 1))).mapM (attributeText context) with
      | error error => rfl
      | ok more =>
        have some := mapM_ok_ne_nil (attributes_ne_nil false _) rewritten
        exact congrArg Except.ok ((List.intercalate_cons_of_ne_nil some).trans
          (List.append_assoc _ _ _))

theorem unquotedComma_key (blank : blanks.all isBlank = true) (rest : Bytes) :
    unquotedComma false (blanks ++ uriKey ++ rest) =
      (unquotedComma true rest).map (· + (blanks ++ uriKey).length) := by
  have absent {byte : UInt8} (other : isBlank byte = false) : byte ∉ blanks := by
    intro member
    have inside := List.all_eq_true.mp blank byte member
    rw [other] at inside
    cases inside
  have opened : unquotedComma false (uriKey ++ rest) = (unquotedComma true rest).map (· + 5) := by
    change unquotedComma false ([85, 82, 73, 61] ++ quoteMark :: rest) = _
    rw [unquotedComma_quiet _ (by decide) (.inr (by decide)), unquotedComma, if_pos rfl,
      Option.map_map]
    rfl
  rw [List.append_assoc, unquotedComma_quiet _ (absent rfl) (.inr (absent rfl)), opened,
    Option.map_map, List.length_append]
  congr 1
  funext offset
  change offset + 5 + blanks.length = offset + (blanks.length + 5)
  omega

-- The comma that ends the attribute stands behind the closing quote.
theorem unquotedComma_closed (blank : blanks.all isBlank = true) (plain : quoteMark ∉ value)
    (after : Bytes) : unquotedComma false (blanks ++ uriKey ++ (value ++ quoteMark :: after)) =
      (unquotedComma false after).map
        (· + ((blanks ++ uriKey ++ value).length + 1)) := by
  rw [unquotedComma_key blank, unquotedComma_quiet _ plain (.inl rfl), unquotedComma, if_pos rfl,
    Option.map_map, Option.map_map]
  congr 1
  funext offset
  simp only [Function.comp_apply, List.length_append]
  omega

theorem unquotedComma_unclosed (blank : blanks.all isBlank = true) (plain : quoteMark ∉ value) :
    unquotedComma false (blanks ++ uriKey ++ value) = none := by
  have quiet := unquotedComma_quiet [] plain (.inl (rfl : true = true))
  rw [List.append_nil] at quiet
  rw [unquotedComma_key blank, quiet]
  rfl

end Shapes

section Tags

variable {crate : UrlCrate} (context : PlaylistContext crate) {line : Bytes}

def tagTail (line : Bytes) (scan : TagScan) : Except ProxyError PlaylistWriter := do
  let scan ← (tagLoop context line).run scan
  pushPlaylist (line.drop scan.copied) scan.writer

def afterTurn (line : Bytes) : Turn TagScan TagScan → Except ProxyError PlaylistWriter
  | .again next => tagTail context line next
  | .done scan => pushPlaylist (line.drop scan.copied) scan.writer

theorem tagTail_eq (scan : TagScan) :
    tagTail context line scan = tagTurn context line scan >>= afterTurn context line := by
  unfold tagTail
  rw [Loop.run_eq]
  change (tagTurn context line scan).bind _ >>= _ = _
  cases tagTurn context line scan with
  | error error => rfl
  | ok turn => cases turn <;> rfl

theorem drop_of_split {start : Nat} {pre post : Bytes} (split : line.drop start = pre ++ post) :
    line.drop (start + pre.length) = post := by
  rw [← List.drop_drop, split, List.drop_left]

theorem slice_of_split {copied start : Nat} (ordered : copied ≤ start) (inside : start ≤ line.length)
    {pre post : Bytes} (split : line.drop start = pre ++ post) :
    slice line copied (start + pre.length) = slice line copied start ++ pre := by
  unfold slice
  rw [List.take_add, split, List.take_left, List.drop_append_of_le_length]
  rw [List.length_take]
  omega

theorem slice_append_drop {copied start : Nat} (ordered : copied ≤ start)
    (inside : start ≤ line.length) : slice line copied start ++ line.drop start = line.drop copied := by
  unfold slice
  conv => rhs; rw [← List.take_append_drop start line]
  rw [List.drop_append_of_le_length]
  rw [List.length_take]
  omega

theorem slice_self (start : Nat) : slice line start start = [] :=
  List.drop_eq_nil_of_le (by rw [List.length_take]; omega)

/-- What the scan still writes from `attributeStart` on, with what it has not copied yet. -/
def tailText (line : Bytes) (copied start : Nat) : Except ProxyError Bytes :=
  concat (.ok (slice line copied start)) (attributesText context (line.drop start))

/-- The attributes behind `start`, once the text up to there has been scanned. -/
def nextText (line : Bytes) (copied start : Nat) : Except ProxyError Bytes :=
  match unquotedComma false (line.drop start) with
  | none => .ok (line.drop copied)
  | some offset => tailText context line copied (start + offset + 1)

theorem emits_next {copied start : Nat}
    (later : ∀ further, start < further → further ≤ line.length →
      Emits context.cancelled (fun writer => tagTail context line ⟨further, copied, writer⟩)
        (tailText context line copied further)) (attributeStart : Nat) :
    Emits context.cancelled
      (fun writer => afterTurn context line
        (nextAttribute line start ⟨attributeStart, copied, writer⟩))
      (nextText context line copied start) := by
  unfold nextAttribute nextText
  cases found : unquotedComma false (line.drop start) with
  | none => exact emits_push (line.drop copied)
  | some offset =>
    have bounded := unquotedComma_lt found
    rw [List.length_drop] at bounded
    exact later _ (by omega) (by omega)

section Shapes

variable {copied start : Nat} {blanks value after : Bytes} (inside : start < line.length)
  (ordered : copied ≤ start)

include inside

theorem tagTurn_other (differs : startsWith uriKey
      ((line.drop start).drop ((line.drop start).takeWhile isBlank).length) = false)
    (writer : PlaylistWriter) :
    tagTurn context line ⟨start, copied, writer⟩ =
      .ok (nextAttribute line start ⟨start, copied, writer⟩) := by
  rw [List.drop_drop] at differs
  simp only [tagTurn, Nat.not_le.mpr inside, if_false, differs, Bool.false_eq_true]

theorem tagTurn_unclosed (blank : blanks.all isBlank = true) (plain : quoteMark ∉ value)
    (split : line.drop start = blanks ++ uriKey ++ value) (writer : PlaylistWriter) :
    tagTurn context line ⟨start, copied, writer⟩ = .ok (.done ⟨start, copied, writer⟩) := by
  have keyed : startsWith uriKey (line.drop (start + blanks.length)) = true := by
    rw [← List.drop_drop, split]
    exact startsWith_uriKey blanks value
  have quoted : line.drop (start + blanks.length + 5) = value := by
    rw [Nat.add_assoc, ← List.drop_drop, split, drop_key]
  simp only [tagTurn, Nat.not_le.mpr inside, if_false, split, takeWhile_blanks blank, keyed, if_true,
    quoted, findIdx?_absent plain]

include ordered

theorem tagTurn_closed (blank : blanks.all isBlank = true) (plain : quoteMark ∉ value)
    (split : line.drop start = blanks ++ uriKey ++ (value ++ quoteMark :: after))
    (writer : PlaylistWriter) :
    tagTurn context line ⟨start, copied, writer⟩ = do
      let writer ← pushPlaylist (slice line copied start ++ (blanks ++ uriKey)) writer
      let writer ← rewritePlaylistReference context value writer
      return nextAttribute line (start + (blanks ++ uriKey ++ value).length + 1)
        ⟨start, start + (blanks ++ uriKey ++ value).length, writer⟩ := by
  have keyed : startsWith uriKey (line.drop (start + blanks.length)) = true := by
    rw [← List.drop_drop, split]
    exact startsWith_uriKey blanks _
  have key : start + blanks.length + 5 = start + (blanks ++ uriKey).length := by
    rw [List.length_append, ← Nat.add_assoc]
    rfl
  have valueEnd : start + (blanks ++ uriKey).length + value.length =
      start + (blanks ++ uriKey ++ value).length := by
    simp only [List.length_append]
    omega
  have rest : line.drop (start + (blanks ++ uriKey).length) = value ++ quoteMark :: after :=
    drop_of_split split
  have bounded := congrArg List.length rest
  simp only [List.length_drop, List.length_append, List.length_cons] at bounded
  have before : slice line copied (start + (blanks ++ uriKey).length) =
      slice line copied start ++ (blanks ++ uriKey) := slice_of_split ordered (Nat.le_of_lt inside) split
  have quoted : slice line (start + (blanks ++ uriKey).length)
      (start + (blanks ++ uriKey ++ value).length) = value := by
    rw [← valueEnd, slice_of_split (Nat.le_refl _) (by rw [List.length_append]; omega) rest,
      slice_self, List.nil_append]
  simp only [tagTurn, Nat.not_le.mpr inside, if_false, split, takeWhile_blanks blank, keyed, if_true,
    key, rest, findIdx?_separator plain, before, quoted, valueEnd]

end Shapes

theorem tailText_further {copied start offset : Nat} (ordered : copied ≤ start)
    (inside : start ≤ line.length)
    (found : unquotedComma false (line.drop start) = some offset) :
    concat (.ok (slice line copied start)) (concat (.ok ((line.drop start).take offset))
        (concat (.ok [comma]) (attributesText context ((line.drop start).drop (offset + 1))))) =
      tailText context line copied (start + offset + 1) := by
  have bounded := unquotedComma_lt found
  have split : line.drop start = ((line.drop start).take offset ++ [comma]) ++
      (line.drop start).drop (offset + 1) := by
    rw [List.append_assoc]
    exact unquotedComma_some found
  have length : ((line.drop start).take offset ++ [comma]).length = offset + 1 := by
    rw [List.length_append, List.length_take, Nat.min_eq_left (Nat.le_of_lt bounded)]
    rfl
  have copiedText := slice_of_split ordered inside split
  rw [length] at copiedText
  rw [concat_ok_concat, concat_ok_concat, List.append_assoc, ← copiedText, List.drop_drop,
    ← Nat.add_assoc]
  rfl

theorem tailText_plain {copied start : Nat} (ordered : copied ≤ start) (inside : start ≤ line.length)
    (plain : attributeText context (line.drop start) = .ok (line.drop start))
    (plainTake : ∀ offset, unquotedComma false (line.drop start) = some offset →
      attributeText context ((line.drop start).take offset) = .ok ((line.drop start).take offset)) :
    tailText context line copied start = nextText context line copied start := by
  unfold nextText
  cases found : unquotedComma false (line.drop start) with
  | none =>
    rw [tailText, attributesText_eq, found]
    simp only
    rw [plain, concat_ok, slice_append_drop ordered inside]
  | some offset =>
    rw [tailText, attributesText_eq, found]
    simp only
    rw [plainTake offset found, tailText_further context ordered inside found]

theorem plain_take {text : Bytes} {offset : Nat}
    (differs : startsWith uriKey (text.drop (text.takeWhile isBlank).length) = false)
    (found : unquotedComma false text = some offset) :
    attributeText context (text.take offset) = .ok (text.take offset) := by
  have split := unquotedComma_some found
  have keyed {blanks rest : Bytes} (blank : blanks.all isBlank = true)
      (same : text = blanks ++ uriKey ++ rest) : False := by
    rw [same, takeWhile_blanks blank, startsWith_uriKey] at differs
    cases differs
  cases uriView (text.take offset) with
  | closed blanks value after blank plain same =>
    rw [same, List.append_assoc] at split
    exact (keyed blank split).elim
  | unclosed blanks value blank plain same =>
    rw [same, List.append_assoc] at split
    exact (keyed blank split).elim
  | other differs => exact attributeText_other context differs

theorem tailText_closed (copied start : Nat) {blanks value after : Bytes} (blank : blanks.all isBlank = true) (plain : quoteMark ∉ value)
    (split : line.drop start = blanks ++ uriKey ++ (value ++ quoteMark :: after)) :
    tailText context line copied start =
      concat (.ok (slice line copied start ++ (blanks ++ uriKey))) (concat (referenceText context value)
        (nextText context line (start + (blanks ++ uriKey ++ value).length)
          (start + (blanks ++ uriKey ++ value).length + 1))) := by
  have whole : blanks ++ uriKey ++ (value ++ quoteMark :: after) =
      (blanks ++ uriKey ++ value ++ [quoteMark]) ++ after := by simp
  have length : (blanks ++ uriKey ++ value ++ [quoteMark]).length =
      (blanks ++ uriKey ++ value).length + 1 := by
    rw [List.length_append]
    rfl
  have quoted : line.drop (start + (blanks ++ uriKey ++ value).length) = quoteMark :: after :=
    drop_of_split (split.trans (List.append_assoc _ _ _).symm)
  have behind : line.drop (start + (blanks ++ uriKey ++ value).length + 1) = after := by
    rw [Nat.add_assoc, ← length]
    exact drop_of_split (split.trans whole)
  have bounded := congrArg List.length quoted
  rw [List.length_drop, List.length_cons] at bounded
  have mark : slice line (start + (blanks ++ uriKey ++ value).length)
      (start + (blanks ++ uriKey ++ value).length + 1) = [quoteMark] := by
    have single : line.drop (start + (blanks ++ uriKey ++ value).length) = [quoteMark] ++ after := quoted
    have copiedText := slice_of_split (Nat.le_refl _) (by omega) single
    rwa [slice_self, List.nil_append] at copiedText
  unfold nextText
  rw [tailText, split, attributesText_eq, unquotedComma_closed blank plain, behind]
  cases found : unquotedComma false after with
  | none =>
    simp only [Option.map_none]
    rw [attributeText_closed context blank plain, concat_ok_concat, quoted]
  | some offset =>
    simp only [Option.map_some]
    have taken : (blanks ++ uriKey ++ (value ++ quoteMark :: after)).take
        (offset + ((blanks ++ uriKey ++ value).length + 1)) =
          blanks ++ uriKey ++ (value ++ quoteMark :: after.take offset) := by
      rw [whole, ← length, Nat.add_comm, List.take_length_add_append]
      simp
    have dropped : (blanks ++ uriKey ++ (value ++ quoteMark :: after)).drop
        (offset + ((blanks ++ uriKey ++ value).length + 1) + 1) = after.drop (offset + 1) := by
      rw [whole, ← length, Nat.add_right_comm, Nat.add_comm, List.drop_length_add_append]
    have further : start + (blanks ++ uriKey ++ value).length ≤
        start + (blanks ++ uriKey ++ value).length + 1 := Nat.le_succ _
    have later := tailText_further context further (by omega) (behind ▸ found)
    rw [behind, mark] at later
    rw [taken, dropped, attributeText_closed context blank plain, ← later, concat_assoc, concat_assoc,
      concat_ok_concat, concat_ok_concat, concat_ok_concat, concat_ok_concat]
    rfl

theorem emits_tagTail (start : Nat) :
    ∀ copied, copied ≤ start → start ≤ line.length →
      Emits context.cancelled (fun writer => tagTail context line ⟨start, copied, writer⟩)
        (tailText context line copied start) := by
  induction measured : line.length - start using Nat.strongRecOn generalizing start with
  | ind size ih =>
    intro copied ordered inside
    have later (copied further : Nat) (past : start < further) (bounded : further ≤ line.length)
        (ordered : copied ≤ further) :=
      ih (line.length - further) (by omega) further rfl copied ordered bounded
    simp only [tagTail_eq]
    by_cases within : start < line.length
    case neg =>
      have settled (writer : PlaylistWriter) :
          tagTurn context line ⟨start, copied, writer⟩ = .ok (.done ⟨start, copied, writer⟩) :=
        if_pos (Nat.le_of_not_lt within)
      have empty : line.drop start = [] := List.drop_eq_nil_of_le (Nat.le_of_not_lt within)
      have plain : tailText context line copied start = nextText context line copied start :=
        tailText_plain context ordered inside (by rw [empty]; rfl) fun offset found => by
          rw [empty] at found
          cases found
      rw [plain, nextText, empty]
      simp only [settled]
      exact emits_push (line.drop copied)
    cases uriView (line.drop start) with
    | other differs =>
      have plain := tailText_plain context ordered inside (attributeText_other context differs)
        fun offset => plain_take context differs
      rw [plain]
      simp only [tagTurn_other context within differs]
      exact emits_next context (fun further past bounded =>
        later copied further past bounded (by omega)) start
    | unclosed blanks value blank plain split =>
      have closedNowhere := unquotedComma_unclosed blank plain
      rw [← split] at closedNowhere
      have plainText : attributeText context (line.drop start) = .ok (line.drop start) := by
        rw [split]
        exact attributeText_unclosed context blank plain
      have same := tailText_plain context ordered inside plainText fun offset found => by
        rw [closedNowhere] at found
        cases found
      rw [same, nextText, closedNowhere]
      simp only [tagTurn_unclosed context within blank plain split]
      exact emits_push (line.drop copied)
    | closed blanks value after blank plain split =>
      rw [tailText_closed context copied start blank plain split]
      simp only [tagTurn_closed context within ordered blank plain split, bind_assoc, pure_bind]
      refine (emits_push _).bind ((emits_reference context value).bind ?_)
      exact emits_next context (fun further past bounded =>
        later _ further (by omega) bounded (by omega)) start

theorem emits_tag (line : Bytes) :
    Emits context.cancelled (rewritePlaylistTag context line) (tagText context line) := by
  unfold tagText
  cases found : line.findIdx? (· = 58) with
  | none =>
    have same : rewritePlaylistTag context line = pushPlaylist line := by
      funext writer
      simp only [rewritePlaylistTag, found]
    rw [same]
    exact emits_push line
  | some colon =>
    have inside := (List.findIdx?_eq_some_iff_getElem.mp found).1
    have same : rewritePlaylistTag context line =
        fun writer => tagTail context line ⟨colon + 1, 0, writer⟩ := by
      funext writer
      simp only [rewritePlaylistTag, found, tagTail]
    have text : tailText context line 0 (colon + 1) = (do
        return line.take (colon + 1) ++ (← attributesText context (line.drop (colon + 1)))) := rfl
    rw [same]
    simp only [← text]
    exact emits_tagTail context (colon + 1) 0 (Nat.zero_le _) inside

theorem emits_line (line : Bytes) :
    Emits context.cancelled (rewriteLine context line) (contentText context line) := by
  unfold contentText
  have same : rewriteLine context line =
      if startsWith (utf8 "#EXT") line then rewritePlaylistTag context line
      else if startsWith (utf8 "#") line || line.all isBlank then pushPlaylist line
      else rewritePlaylistReference context line := by
    funext writer
    unfold rewriteLine
    split
    next => rfl
    split <;> rfl
  rw [same]
  split
  next => exact emits_tag context line
  split
  next => exact emits_push line
  next => exact emits_reference context line

end Tags

end StreamServer.Proxy
