import StreamServer.Proxy.PlaylistRewrite
import StreamServer.Proxy.PlaylistScan
import StreamServer.Proxy.VariableOrigin

set_option autoImplicit false

namespace StreamServer.Proxy

open ByteText Loops PlaylistWriter Results

structure Line where
  content : Bytes
  ending : Bytes

def Line.text (line : Line) : Bytes := line.content ++ line.ending

def leadingBreak (text : Bytes) : Option UInt8 := text.head?.filter isBreak

/-- How many bytes from the first break on end the line. -/
def endingLength : Bytes → Nat
  | [] => 0
  | first :: rest => if (leadingBreak rest).any (· ≠ first) then 2 else 1

def nextLine (text : Bytes) : Line :=
  let behind := text.dropWhile (!isBreak ·)
  ⟨text.takeWhile (!isBreak ·), behind.take (endingLength behind)⟩

theorem endingLength_cons (first : UInt8) (rest : Bytes) : endingLength (first :: rest) =
    if (leadingBreak rest).any (· ≠ first) then 2 else 1 := rfl

theorem endingLength_pos (first : UInt8) (rest : Bytes) : 0 < endingLength (first :: rest) := by
  rw [endingLength_cons]
  split <;> decide

theorem endingLength_le (text : Bytes) : endingLength text ≤ text.length := by
  cases text with
  | nil => exact Nat.le_refl _
  | cons first rest =>
    rw [endingLength_cons]
    cases rest with
    | nil => exact Nat.le_refl _
    | cons second rest =>
      simp only [List.length_cons]
      split <;> omega

theorem nextLine_split (text : Bytes) :
    text = (nextLine text).text ++ text.drop (nextLine text).text.length := by
  have whole : text = (nextLine text).text ++
      (text.dropWhile (!isBreak ·)).drop (endingLength (text.dropWhile (!isBreak ·))) := by
    rw [Line.text, nextLine, List.append_assoc, List.take_append_drop, List.takeWhile_append_dropWhile]
  have dropped := congrArg (List.drop (nextLine text).text.length) whole
  rw [List.drop_left] at dropped
  rw [dropped]
  exact whole

theorem nextLine_ne_nil {text : Bytes} (some : text ≠ []) : (nextLine text).text ≠ [] := by
  obtain ⟨first, rest, rfl⟩ := List.exists_cons_of_ne_nil some
  unfold Line.text nextLine
  cases breaks : isBreak first with
  | true =>
    have positive := endingLength_pos first rest
    simp only [List.takeWhile_cons, List.dropWhile_cons, breaks, Bool.not_true, Bool.false_eq_true,
      if_false, List.nil_append]
    obtain ⟨left, length⟩ := Nat.exists_eq_succ_of_ne_zero (Nat.ne_of_gt positive)
    rw [length]
    exact List.cons_ne_nil _ _
  | false => simp [breaks]

def lines (text : Bytes) : List Line :=
  if text = [] then [] else nextLine text :: lines (text.drop (nextLine text).text.length)
termination_by text.length
decreasing_by
  next some =>
    have positive := List.length_pos_iff.mpr (nextLine_ne_nil some)
    have whole := List.length_pos_iff.mpr some
    rw [List.length_drop]
    omega

theorem lines_nil : lines [] = [] := by
  rw [lines, if_pos rfl]

theorem lines_of_ne_nil {text : Bytes} (some : text ≠ []) :
    lines text = nextLine text :: lines (text.drop (nextLine text).text.length) := by
  rw [lines, if_neg some]

theorem drop_content (text : Bytes) :
    text.drop (nextLine text).content.length = text.dropWhile (!isBreak ·) :=
  drop_takeWhile _ text

theorem nextLine_ending_length (text : Bytes) :
    endingLength (text.dropWhile (!isBreak ·)) = (nextLine text).ending.length := by
  rw [nextLine, List.length_take, Nat.min_eq_left (endingLength_le _)]

section Body

variable {crate : UrlCrate} (context : PlaylistContext crate) {body : Bytes}

theorem findIdx?_isBreak (text : Bytes) :
    (text.findIdx? isBreak).getD text.length = (text.takeWhile (!isBreak ·)).length := by
  induction text with
  | nil => rfl
  | cons first rest ih =>
    rw [List.findIdx?_cons, List.takeWhile_cons]
    cases isBreak first with
    | true => rfl
    | false =>
      simp only [Bool.false_eq_true, if_false, Bool.not_false, if_true, List.length_cons, ← ih]
      cases rest.findIdx? isBreak <;> rfl

theorem endingStart_eq {position : Nat} (inside : position ≤ body.length) :
    endingStart body position = position + (nextLine (body.drop position)).content.length := by
  have found := findIdx?_isBreak (body.drop position)
  unfold endingStart nextLine
  rw [← found, List.length_drop]
  split
  next offset same => rw [same]; rfl
  next same =>
    rw [same]
    simp only [Option.getD_none]
    omega

theorem endingEnd_eq {start : Nat} (inside : start ≤ body.length) :
    endingEnd body start = start + endingLength (body.drop start) := by
  unfold endingEnd
  have first : body[start]? = (body.drop start)[0]? := by rw [List.getElem?_drop, Nat.add_zero]
  have second : body[start + 1]? = (body.drop start)[1]? := by rw [List.getElem?_drop]
  have length := List.length_drop (i := start) (l := body)
  rw [first, second]
  cases behind : body.drop start with
  | nil =>
    rw [behind, List.length_nil] at length
    rw [if_pos (by omega)]
    rfl
  | cons byte rest =>
    rw [behind, List.length_cons] at length
    rw [if_neg (by omega)]
    cases rest with
    | nil => rfl
    | cons next rest =>
      by_cases breaks : isBreak next = true
      · by_cases same : byte = next
        · simp [endingLength, leadingBreak, breaks, same]
        · simp [endingLength, leadingBreak, breaks, same, Ne.symm same]
      · simp [endingLength, leadingBreak, breaks]

def linesText : List Line → Except ProxyError Bytes
  | [] => .ok []
  | line :: rest =>
      concat (contentText context line.content) (concat (.ok line.ending) (linesText rest))

theorem lineLoop_run {position : Nat} (within : position < body.length) (writer : PlaylistWriter) :
    (lineLoop context body).run ⟨position, writer⟩ =
      writer.check context.cancelled >>= fun writer =>
        rewriteLine context (nextLine (body.drop position)).content writer >>= fun writer =>
          pushPlaylist (nextLine (body.drop position)).ending writer >>= fun writer =>
            (lineLoop context body).run
              ⟨position + (nextLine (body.drop position)).text.length, writer⟩ := by
  obtain ⟨line, named⟩ : ∃ line, line = nextLine (body.drop position) := ⟨_, rfl⟩
  rw [← named]
  have split : body.drop position = line.content ++
      (line.ending ++ (body.drop position).drop line.text.length) := by
    rw [← List.append_assoc, named]
    exact nextLine_split _
  have bounded := congrArg List.length split
  simp only [List.length_drop, List.length_append, Line.text] at bounded
  have start : endingStart body position = position + line.content.length := by
    rw [endingStart_eq (Nat.le_of_lt within), named]
  have behind : body.drop (position + line.content.length) =
      line.ending ++ (body.drop position).drop line.text.length := drop_of_split split
  have stop : endingEnd body (position + line.content.length) =
      position + line.content.length + line.ending.length := by
    rw [endingEnd_eq (by omega), ← List.drop_drop, named, drop_content, nextLine_ending_length]
  have content : slice body position (position + line.content.length) = line.content := by
    rw [slice_of_split (Nat.le_refl _) (Nat.le_of_lt within) split, slice_self, List.nil_append]
  have ending : slice body (position + line.content.length)
      (position + line.content.length + line.ending.length) = line.ending := by
    rw [slice_of_split (Nat.le_refl _) (by omega) behind, slice_self, List.nil_append]
  have taken : lineTurn context body ⟨position, writer⟩ =
      writer.check context.cancelled >>= fun writer =>
        rewriteLine context line.content writer >>= fun writer =>
          pushPlaylist line.ending writer >>= fun writer => pure
            (.again ⟨position + line.content.length + line.ending.length, writer⟩) := by
    unfold lineTurn
    rw [if_neg (Nat.not_le.mpr within)]
    simp only [start, stop, content, ending]
  rw [Loop.run_eq]
  change (lineTurn context body ⟨position, writer⟩ >>= _) = _
  simp only [taken, bind_assoc, pure_bind, Line.text, List.length_append, Nat.add_assoc]

theorem emits_lines (position : Nat) : position ≤ body.length →
    Emits context.cancelled (fun writer => (lineLoop context body).run ⟨position, writer⟩)
      (linesText context (lines (body.drop position))) := by
  induction measured : body.length - position using Nat.strongRecOn generalizing position with
  | ind size ih =>
    intro inside
    by_cases within : position < body.length
    case neg =>
      have settled (writer : PlaylistWriter) :
          (lineLoop context body).run ⟨position, writer⟩ = .ok writer :=
        Loop.run_done (if_pos (Nat.le_of_not_lt within))
      rw [List.drop_eq_nil_of_le (Nat.le_of_not_lt within), lines_nil]
      simp only [settled]
      exact emits_nothing
    have some : body.drop position ≠ [] := by
      rw [ne_eq, List.drop_eq_nil_iff]
      omega
    have positive : 0 < (nextLine (body.drop position)).text.length :=
      List.length_pos_iff.mpr (nextLine_ne_nil some)
    have bounded := congrArg List.length (nextLine_split (body.drop position))
    rw [List.length_append, List.length_drop] at bounded
    have rest := ih (body.length - (position + (nextLine (body.drop position)).text.length)) (by omega)
      (position + (nextLine (body.drop position)).text.length) rfl (by omega)
    rw [← List.drop_drop] at rest
    rw [lines_of_ne_nil some, linesText]
    simp only [lineLoop_run context within]
    rw [← concat_nothing (concat _ _)]
    exact emits_check.bind ((emits_line context _).bind ((emits_push _).bind rest))

end Body

def Unbroken (text : Bytes) : Prop := ∀ byte ∈ text, isBreak byte = false

@[simp] theorem unbroken_nil : Unbroken [] := by simp [Unbroken]

@[simp] theorem unbroken_cons (byte : UInt8) (text : Bytes) :
    Unbroken (byte :: text) ↔ isBreak byte = false ∧ Unbroken text := by
  simp [Unbroken]

@[simp] theorem unbroken_append (left right : Bytes) :
    Unbroken (left ++ right) ↔ Unbroken left ∧ Unbroken right := by
  simp only [Unbroken, List.mem_append, or_imp, forall_and]

theorem isBreak_iff (byte : UInt8) : isBreak byte = true ↔ byte = 13 ∨ byte = 10 := by
  simp [isBreak]

theorem unbroken_of_notMem {text : Bytes} (noReturn : 13 ∉ text) (noFeed : 10 ∉ text) :
    Unbroken text := by
  intro byte member
  by_contra breaks
  rcases (isBreak_iff byte).mp (by simpa using breaks) with rfl | rfl
  · exact noReturn member
  · exact noFeed member

theorem unbroken_printable {text : Bytes} (printable : ∀ byte ∈ text, 32 ≤ byte ∧ byte ≤ 126) :
    Unbroken text := by
  refine unbroken_of_notMem ?_ ?_
  · intro member
    exact absurd (printable 13 member).1 (by decide)
  · intro member
    exact absurd (printable 10 member).1 (by decide)

theorem Unbroken.slice {text : Bytes} (unbroken : Unbroken text) (start stop : Nat) :
    Unbroken (slice text start stop) :=
  fun byte member => unbroken byte (List.mem_of_mem_take (List.mem_of_mem_drop member))

section Variables

variable {reference : Bytes} {replacements : List HlsVariableReplacement}

theorem substituteFrom_unbroken {fragment : Option Nat} {ranges : List (Nat × Nat)} {copied : Nat}
    {done result : HlsSubstitution} (unbroken : Unbroken reference)
    (before : ∀ replacement ∈ done.replacements, Unbroken replacement.token)
    (ok : substituteFrom reference fragment ranges copied done = .ok result) :
    ∀ replacement ∈ result.replacements, Unbroken replacement.token := by
  induction ranges generalizing copied done with
  | nil =>
    unfold substituteFrom at ok
    obtain ⟨_, -, ok⟩ := bind_ok ok
    cases ok
    exact before
  | cons range rest ih =>
    obtain ⟨start, stop⟩ := range
    unfold substituteFrom at ok
    obtain ⟨_, -, ok⟩ := bind_ok ok
    split at ok
    next placeholder generator _ =>
      obtain ⟨substituted, -, ok⟩ := bind_ok ok
      refine ih ?_ ok
      intro replacement member
      rcases List.mem_append.mp member with earlier | last
      · exact before replacement earlier
      · rw [List.mem_singleton.mp last]
        exact unbroken.slice start stop
    next => cases ok

theorem restoreFrom_unbroken (tokens : ∀ replacement ∈ replacements, Unbroken replacement.token)
    {text restored result : Bytes} {skip : Nat} (textUnbroken : Unbroken text)
    (restoredUnbroken : Unbroken restored)
    (ok : restoreFrom replacements skip text restored = .ok result) : Unbroken result := by
  induction text generalizing skip restored with
  | nil =>
    cases skip with
    | zero => cases ok; exact restoredUnbroken
    | succ skip => cases ok; exact restoredUnbroken
  | cons byte rest ih =>
    rw [unbroken_cons] at textUnbroken
    cases skip with
    | succ skip => exact ih textUnbroken.2 restoredUnbroken ok
    | zero =>
      unfold restoreFrom at ok
      split at ok
      next replacement found =>
        have member := List.mem_reverse.mp (List.mem_of_find?_eq_some found)
        obtain ⟨pushed, push, ok⟩ := bind_ok ok
        rw [pushTarget_ok push] at ok
        exact ih textUnbroken.2
          ((unbroken_append _ _).mpr ⟨restoredUnbroken, tokens replacement member⟩) ok
      next =>
        obtain ⟨pushed, push, ok⟩ := bind_ok ok
        rw [pushTarget_ok push] at ok
        refine ih textUnbroken.2 ?_ ok
        simp [restoredUnbroken, textUnbroken.1]

theorem variablePathOf_restored {crate : UrlCrate} {absolute : crate.Url}
    {variablePath : HlsVariablePath}
    (ok : variablePathOf crate absolute replacements = .ok (some variablePath)) :
    restoreHlsVariables (crate.path absolute) replacements = .ok variablePath.path ∧
      (crate.query absolute).mapM (restoreHlsVariables · replacements) = .ok variablePath.query := by
  unfold variablePathOf at ok
  obtain ⟨path, pathRestored, ok⟩ := bind_ok ok
  obtain ⟨query, queryRestored, ok⟩ := bind_ok ok
  split at ok
  next => cases ok
  next =>
    cases ok
    exact ⟨pathRestored, queryRestored⟩

end Variables

section Texts

variable {crate : UrlCrate} {reference text : Bytes}

theorem variablePath_unbroken (printable : crate.Printable) {baseUrl : crate.Url}
    {resolved : ResolvedHlsReference} {variablePath : HlsVariablePath} (unbroken : Unbroken reference)
    (resolves : resolveHlsReference crate reference baseUrl = .ok (some resolved))
    (live : resolved.variablePath = some variablePath) :
    Unbroken variablePath.path ∧ Unbroken (queryText variablePath.query) := by
  obtain ⟨absolute, replacements, found, described⟩ := resolveHlsReference_ok resolves
  obtain ⟨substitution, located⟩ := resolvePlaceholders_ok found
  obtain ⟨-, -, shape⟩ := describeReference_ok described
  obtain ⟨generator, substitutes⟩ := located.substitutes
  have tokens : ∀ replacement ∈ replacements, Unbroken replacement.token := by
    rw [located.replaces]
    refine substituteFrom_unbroken unbroken ?_ substitutes
    intro replacement member
    cases member
  rcases shape with ⟨settled, -⟩ | ⟨variablePath', live', path⟩
  · rw [live] at settled
    cases settled
  · cases live.symm.trans live'
    obtain ⟨pathRestored, queryRestored⟩ := variablePathOf_restored path
    refine ⟨restoreFrom_unbroken tokens (unbroken_printable (printable.path absolute)) unbroken_nil
      pathRestored, ?_⟩
    cases given : crate.query absolute with
    | none =>
      rw [given] at queryRestored
      rw [← Except.ok.inj queryRestored]
      exact unbroken_nil
    | some query =>
      rw [given, Option.mapM_some] at queryRestored
      obtain ⟨restored, queryRestored, same⟩ := bind_ok queryRestored
      have written := restoreFrom_unbroken tokens
        (unbroken_printable (printable.query absolute query given)) unbroken_nil queryRestored
      rw [← Except.ok.inj same]
      exact (unbroken_cons _ _).mpr ⟨rfl, written⟩

theorem separator_return : Separator 13 := ⟨by decide, by decide, by decide⟩
theorem separator_feed : Separator 10 := ⟨by decide, by decide, by decide⟩

theorem optionsText_unbroken (target : Bytes) {options : List CustomOption}
    (kinds : ∀ option ∈ options, option.kind = 104 ∨ option.kind = 114) :
    Unbroken (optionsText target options) :=
  unbroken_of_notMem (separator_return.notMem_optionsText (by decide) target kinds)
    (separator_feed.notMem_optionsText (by decide) target kinds)

inductive ReferenceRewritten (context : PlaylistContext crate) (reference : Bytes) : Bytes → Prop where
  | kept (elsewhere : resolveHlsReference crate reference context.baseUrl = .ok none) :
      ReferenceRewritten context reference reference
  | proxied (resolved : ResolvedHlsReference) (options : List CustomOption)
      (resolves : resolveHlsReference crate reference context.baseUrl = .ok (some resolved))
      (chosen : customOptions resolved.sameOrigin context.requestHeaders context.responseHeaders =
        .ok options) :
      ReferenceRewritten context reference (route ++ uriSuffix resolved options)

variable {context : PlaylistContext crate}

theorem referenceText_ok (ok : referenceText context reference = .ok text) :
    ReferenceRewritten context reference text := by
  unfold referenceText at ok
  obtain ⟨resolved, resolves, ok⟩ := bind_ok ok
  cases resolved with
  | none =>
    cases ok
    exact .kept resolves
  | some resolved =>
    obtain ⟨options, chosen, ok⟩ := bind_ok ok
    split at ok
    next => cases ok
    split at ok
    next => cases ok
    cases ok
    exact .proxied resolved options resolves chosen

theorem ReferenceRewritten.unbroken (printable : crate.Printable) (unbroken : Unbroken reference)
    (rewritten : ReferenceRewritten context reference text) : Unbroken text := by
  cases rewritten with
  | kept => exact unbroken
  | proxied resolved options resolves chosen =>
    have routeUnbroken : Unbroken route := unbroken_of_notMem (by decide) (by decide)
    have rawUnbroken : Unbroken rawCanonicalPathOption := unbroken_of_notMem (by decide) (by decide)
    have kinds := customOptions_kind chosen
    refine (unbroken_append _ _).mpr ⟨routeUnbroken, ?_⟩
    cases live : resolved.variablePath with
    | none =>
      rw [uriSuffix_settled live]
      simp only [unbroken_cons]
      exact ⟨rfl, rfl, optionsText_unbroken _ kinds⟩
    | some variablePath =>
      obtain ⟨path, query⟩ := variablePath_unbroken printable unbroken resolves live
      rw [uriSuffix_live live]
      simp only [List.cons_append, unbroken_cons, unbroken_append]
      exact ⟨rfl, ⟨optionsText_unbroken _ kinds, rawUnbroken⟩, rfl, path, query⟩

theorem ReferenceRewritten.ne_nil (some : reference ≠ [])
    (rewritten : ReferenceRewritten context reference text) : text ≠ [] := by
  cases rewritten with
  | kept => exact some
  | proxied resolved options =>
    have opening : route = 47 :: utf8 "proxy" := rfl
    rw [opening]
    exact List.cons_ne_nil _ _

end Texts

end StreamServer.Proxy
