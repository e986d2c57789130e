import StreamServer.EngineFs.SubtitleCues
import StreamServer.EngineFs.Subtitles

set_option autoImplicit false

namespace StreamServer.EngineFs

open Patterns

section Numbers

theorem isDigit_of_mem_decimal {number : Nat} {character : Char}
    (member : character ∈ Nat.toDigits 10 number) : character.isDigit = true :=
  Nat.isDigit_of_mem_toDigits (by decide) (by decide) member

theorem mem_padded {width number : Nat} {character : Char} (member : character ∈ padded width number) :
    character.isDigit = true := by
  rw [padded, List.leftpad, List.mem_append] at member
  rcases member with filled | digit
  · rw [List.eq_of_mem_replicate filled]
    decide
  · exact isDigit_of_mem_decimal digit

theorem padded_length {width number : Nat} (positive : 0 < width) (small : number < 10 ^ width) :
    (padded width number).length = width := by
  have short := (Nat.length_toDigits_le_iff (by decide) positive).mpr small
  rw [padded, List.length_leftpad, Nat.max_eq_left short]

theorem parseU64_padded (width : Nat) {number : Nat} (fits : number < 2 ^ 64) :
    parseU64 (padded width number) = some number := by
  have value : Nat.ofDigitChars 10 (padded width number) 0 = number := by
    rw [padded, List.leftpad, Nat.ofDigitChars_append, Nat.ofDigitChars_replicate_zero, Nat.mul_zero,
      Nat.ofDigitChars_ten_toDigits]
  have unsigned : (padded width number).head? ≠ some '+' := by
    intro sign
    exact absurd (mem_padded (List.mem_of_head? sign)) (by decide)
  have some : padded width number ≠ [] := by
    rw [padded, List.leftpad]
    exact List.append_ne_nil_of_right_ne_nil _ Nat.toDigits_ne_nil
  have digits : (padded width number).all Char.isDigit = true :=
    List.all_eq_true.mpr fun _ member => mem_padded member
  rw [parseU64, if_neg unsigned, value, if_pos ⟨some, digits, fits⟩]

theorem padded_two {number : Nat} (small : number < 100) : ∃ tens ones,
    padded 2 number = [tens, ones] ∧ tens.isDigit = true ∧ ones.isDigit = true := by
  obtain ⟨tens, ones, shape⟩ := List.length_eq_two.mp (padded_length Nat.zero_lt_two small)
  have each : ∀ character ∈ padded 2 number, character.isDigit = true := fun _ => mem_padded
  rw [shape] at each
  simp only [List.forall_mem_cons] at each
  exact ⟨tens, ones, shape, each.1, each.2.1⟩

theorem padded_three {number : Nat} (small : number < 1000) : ∃ hundreds tens ones,
    padded 3 number = [hundreds, tens, ones] ∧ hundreds.isDigit = true ∧ tens.isDigit = true ∧
      ones.isDigit = true := by
  obtain ⟨hundreds, tens, ones, shape⟩ := List.length_eq_three.mp (padded_length (by decide) small)
  have each : ∀ character ∈ padded 3 number, character.isDigit = true := fun _ => mem_padded
  rw [shape] at each
  simp only [List.forall_mem_cons] at each
  exact ⟨hundreds, tens, ones, shape, each.1, each.2.1, each.2.2.1⟩

-- A third digit stands where the colon is looked for.
theorem padded_long {number : Nat} (large : 100 ≤ number) : ∃ first second third rest,
    padded 2 number = first :: second :: third :: rest ∧ first.isDigit = true ∧
      second.isDigit = true ∧ third.isDigit = true := by
  have long : ¬ (Nat.toDigits 10 number).length ≤ 2 := by
    rw [Nat.length_toDigits_le_iff (by decide) (by decide)]
    omega
  have shape : padded 2 number = Nat.toDigits 10 number := by
    rw [padded, List.leftpad, Nat.sub_eq_zero_of_le (Nat.le_of_not_le long), List.replicate_zero,
      List.nil_append]
  match found : Nat.toDigits 10 number, long with
  | first :: second :: third :: rest, _ =>
    have each : ∀ character ∈ [first, second, third], character.isDigit = true := by
      intro character member
      apply isDigit_of_mem_decimal
      rw [found]
      exact List.mem_append_left rest member
    simp only [List.forall_mem_cons] at each
    exact ⟨first, second, third, rest, shape.trans found, each.1, each.2.1, each.2.2.1⟩
  | [], long => exact absurd (by simp) long
  | [_], long => exact absurd (by simp) long
  | [_, _], long => exact absurd (by simp) long

end Numbers

section Stamps

variable (tables : DecimalDigits) {point first second third : Char} {rest : Text}

theorem run_stamp {hours mins secs millis : Nat} (hoursShort : hours < 100) (minsShort : mins < 100)
    (secsShort : secs < 100) (millisShort : millis < 1000) (point : Char) (rest : Text) :
    run (stampPattern tables point) (padded 2 hours ++ ':' :: (padded 2 mins ++ ':' :: (padded 2 secs ++
      point :: (padded 3 millis ++ rest)))) =
      [([padded 2 hours, padded 2 mins, padded 2 secs, padded 3 millis], rest)] := by
  obtain ⟨_, _, hoursShape, h₁, h₂⟩ := padded_two hoursShort
  obtain ⟨_, _, minsShape, m₁, m₂⟩ := padded_two minsShort
  obtain ⟨_, _, secsShape, s₁, s₂⟩ := padded_two secsShort
  obtain ⟨_, _, _, millisShape, f₁, f₂, f₃⟩ := padded_three millisShort
  rw [hoursShape, minsShape, secsShape, millisShape]
  simp [stampPattern, digits, Pattern.exactly, Pattern.literal, Pattern.sequence, run,
    tables.ascii _ h₁, tables.ascii _ h₂, tables.ascii _ m₁, tables.ascii _ m₂, tables.ascii _ s₁,
    tables.ascii _ s₂, tables.ascii _ f₁, tables.ascii _ f₂, tables.ascii _ f₃]
  rw [show rest.length + 1 + 1 + 1 - rest.length = 3 by omega]
  rfl

theorem run_stamp_long (notColon : third ≠ ':') :
    run (stampPattern tables point) (first :: second :: third :: rest) = [] := by
  simp [stampPattern, digits, Pattern.exactly, Pattern.literal, Pattern.sequence, run, notColon]

theorem isWhitespace_of_isDigit {character : Char} (digit : character.isDigit = true) :
    isWhitespace character = false := by
  rw [Char.isDigit, Bool.and_eq_true, decide_eq_true_iff, decide_eq_true_iff] at digit
  have low : 48 ≤ character.toNat := digit.1
  have high : character.toNat ≤ 57 := digit.2
  simp only [isWhitespace, Bool.or_eq_false_iff, Bool.and_eq_false_iff, decide_eq_false_iff_not,
    beq_eq_false_iff_ne]
  omega

def hundredHours : Nat := 100 * 3600000

def stampGroups (ms : Nat) : List Text :=
  [padded 2 (ms / 3600000), padded 2 (ms % 3600000 / 60000), padded 2 (ms % 60000 / 1000),
    padded 3 (ms % 1000)]

theorem run_formatVttTime (ms : Nat) (rest : Text) :
    run (stampPattern tables '.') (formatVttTime ms ++ rest) =
      if ms < hundredHours then [(stampGroups ms, rest)] else [] := by
  have shape : formatVttTime ms ++ rest = padded 2 (ms / 3600000) ++ ':' ::
      (padded 2 (ms % 3600000 / 60000) ++ ':' :: (padded 2 (ms % 60000 / 1000) ++
        '.' :: (padded 3 (ms % 1000) ++ rest))) := by
    simp [formatVttTime]
  rw [shape]
  unfold hundredHours
  split
  next short =>
    exact run_stamp tables (by omega) (by omega) (by omega) (by omega) '.' rest
  next long =>
    have many : 100 ≤ ms / 3600000 := by omega
    obtain ⟨_, _, third, _, digits, _, _, isDigit⟩ := padded_long many
    rw [digits]
    refine run_stamp_long tables ?_
    rintro rfl
    cases isDigit

theorem formatVttTime_head (ms : Nat) : ∃ first second rest,
    formatVttTime ms = first :: second :: rest ∧ first.isDigit = true ∧ second.isDigit = true := by
  by_cases short : ms / 3600000 < 100
  · obtain ⟨first, second, shape, digits⟩ := padded_two short
    exact ⟨first, second, _, by rw [formatVttTime, shape]; rfl, digits⟩
  · obtain ⟨first, second, _, _, shape, isFirst, isSecond, _⟩ := padded_long (Nat.le_of_not_lt short)
    exact ⟨first, second, _, by rw [formatVttTime, shape]; rfl, isFirst, isSecond⟩

theorem run_lastTime (ms : Nat) :
    run (.andThen (.many isWhitespace) (.andThen (stampPattern tables '.') .empty))
        (' ' :: formatVttTime ms) =
      if ms < hundredHours then [(stampGroups ms, [])] else [] := by
  obtain ⟨first, second, rest, shape, digit, notColon⟩ := formatVttTime_head ms
  have stamp := run_formatVttTime tables ms []
  rw [List.append_nil] at stamp
  have early : run (stampPattern tables '.') (' ' :: formatVttTime ms) = [] := by
    rw [shape]
    refine run_stamp_long tables ?_
    rintro rfl
    cases notColon
  have ways : run (.many isWhitespace) (' ' :: formatVttTime ms) =
      [([], formatVttTime ms), ([], ' ' :: formatVttTime ms)] := by
    rw [shape]
    exact run_many_one (by decide) (isWhitespace_of_isDigit digit)
  rw [run, ways, List.flatMap_cons, List.flatMap_singleton, run_andThen_none early, run, stamp]
  split <;> simp [run]

theorem run_arrow (pattern : Pattern Char) (rest : Text) :
    run (.andThen (.many isWhitespace) (.andThen (.literal "-->".toList) pattern))
      (" --> ".toList ++ rest) = run pattern (' ' :: rest) := by
  have ways : run (.many isWhitespace) (" --> ".toList ++ rest) =
      [([], "--> ".toList ++ rest), ([], " --> ".toList ++ rest)] :=
    run_many_one (by decide) (by decide)
  have here : run (.literal "-->".toList) ("--> ".toList ++ rest) = [([], ' ' :: rest)] := by
    simp [Pattern.literal, Pattern.sequence, run]
  have early : run (.literal "-->".toList) (" --> ".toList ++ rest) = [] := by
    simp [Pattern.literal, Pattern.sequence, run]
  rw [run, ways, List.flatMap_cons, List.flatMap_singleton, run_andThen_none early,
    run_andThen_one here]
  simp

theorem matchStart_times (startMs endMs : Nat) :
    matchStart (timestampPattern tables '.')
        (formatVttTime startMs ++ (" --> ".toList ++ formatVttTime endMs)) =
      if startMs < hundredHours ∧ endMs < hundredHours then
        some (stampGroups startMs ++ stampGroups endMs)
      else none := by
  obtain ⟨first, _, _, shape, digit, _⟩ := formatVttTime_head startMs
  have opening : run (.many isWhitespace)
      (formatVttTime startMs ++ (" --> ".toList ++ formatVttTime endMs)) =
        [([], formatVttTime startMs ++ (" --> ".toList ++ formatVttTime endMs))] := by
    rw [shape]
    exact run_many_none (isWhitespace_of_isDigit digit)
  have firstTime := run_formatVttTime tables startMs (" --> ".toList ++ formatVttTime endMs)
  have secondTime := run_lastTime tables endMs
  rw [matchStart, timestampPattern, Pattern.sequence, List.foldr_cons, run_andThen_one opening]
  by_cases startShort : startMs < hundredHours
  · rw [if_pos startShort] at firstTime
    rw [List.foldr_cons, run_andThen_one firstTime, List.foldr_cons, List.foldr_cons, run_arrow,
      List.foldr_cons, List.foldr_cons, List.foldr_nil, secondTime]
    by_cases endShort : endMs < hundredHours
    · rw [if_pos endShort, if_pos ⟨startShort, endShort⟩]
      rfl
    · rw [if_neg endShort, if_neg fun both => endShort both.2]
      rfl
  · rw [if_neg startShort] at firstTime
    rw [List.foldr_cons, run_andThen_none firstTime, if_neg fun both => startShort both.1]
    rfl

end Stamps

variable {tables : DecimalDigits} {block line text emitted lead : Text} {cue : SubtitleCue}
  {cues : List SubtitleCue} {number : Nat} {character : Char}

section Lines

theorem lines_single (some : line ≠ []) (newline : '\n' ∉ line) (noReturn : '\r' ∉ line) :
    lines line = [line] := by
  rw [lines_eq noReturn, List.splitOn_eq_singleton newline]
  simp [some]

theorem not_blank_join {left right : Text} (before : ¬ ['\n', '\n'] <:+: left)
    (after : ¬ ['\n', '\n'] <:+: right) (closed : left.getLast? ≠ some '\n')
    (opens : right.head? ≠ some '\n') : ¬ ['\n', '\n'] <:+: left ++ '\n' :: right := by
  induction left with
  | nil => exact not_blank_cons after fun _ => opens
  | cons first left ih =>
    rw [List.cons_append]
    have later : ¬ ['\n', '\n'] <:+: left :=
      fun blank => before (blank.trans (List.suffix_cons ..).isInfix)
    cases left with
    | nil =>
      refine not_blank_cons (not_blank_cons after fun _ => opens) ?_
      rintro rfl _
      exact closed rfl
    | cons second left =>
      rw [List.getLast?_cons_cons] at closed
      refine not_blank_cons (ih later closed) ?_
      rintro rfl opening
      cases opening
      exact before ⟨[], left, rfl⟩

theorem tight_closed (tight : Trimming.Tight isWhitespace text) :
    text.getLast? ≠ some '\n' := by
  intro last
  exact absurd (tight.last _ last) (by decide)

theorem tight_opens (tight : Trimming.Tight isWhitespace text) : text.head? ≠ some '\n' := by
  intro first
  exact absurd (tight.head _ first) (by decide)

theorem vttBlock_none (without : ∀ line ∈ lines block, contains line "-->".toList = false) :
    vttBlock tables block = none := by
  rw [vttBlock, List.findIdx?_eq_none_iff.mpr without]
  rfl

theorem vttBlock_lines (before : List Text) {after : List Text} (shape : lines block = before ++ line :: after)
    (without : ∀ other ∈ before, contains other "-->".toList = false)
    (arrow : contains line "-->".toList = true) :
    vttBlock tables block = (matchStart (timestampPattern tables '.') line).map fun groups =>
      (groups, trim (joinLines after)) := by
  have index : (before ++ line :: after).findIdx? (fun line => contains line "-->".toList) =
      some before.length := by
    rw [List.findIdx?_append, List.findIdx?_eq_none_iff.mpr without, List.findIdx?_cons, if_pos arrow]
    simp
  have rest : (before ++ line :: after).drop (before.length + 1) = after := by
    rw [← List.drop_drop]
    simp
  unfold vttBlock
  rw [shape]
  dsimp only
  rw [index, Option.bind_some, rest]
  simp

end Lines

section Headers

theorem mem_formatVttTime {ms : Nat} (member : character ∈ formatVttTime ms) :
    character.isDigit = true ∨ character = ':' ∨ character = '.' := by
  simp only [formatVttTime, List.mem_append, or_assoc] at member
  rcases member with digit | point | digit | point | digit | point | digit
  · exact .inl (mem_padded digit)
  · exact .inr (.inl (List.mem_singleton.mp point))
  · exact .inl (mem_padded digit)
  · exact .inr (.inl (List.mem_singleton.mp point))
  · exact .inl (mem_padded digit)
  · exact .inr (.inr (List.mem_singleton.mp point))
  · exact .inl (mem_padded digit)

def timesLine (cue : SubtitleCue) : Text :=
  formatVttTime cue.startMs ++ (" --> ".toList ++ formatVttTime cue.endMs)

theorem timesLine_avoids (outside : Char) (notDigit : outside.isDigit = false)
    (other : outside ∉ ":.-> ".toList) : outside ∉ timesLine cue := by
  have time (ms : Nat) : outside ∉ formatVttTime ms := by
    intro member
    rcases mem_formatVttTime member with digit | rfl | rfl
    · rw [notDigit] at digit
      cases digit
    · exact other (by decide)
    · exact other (by decide)
  have arrow : outside ∉ " --> ".toList := fun member =>
    other ((show " --> ".toList ⊆ ":.-> ".toList by decide) member)
  simp only [timesLine, List.mem_append, not_or]
  exact ⟨time cue.startMs, arrow, time cue.endMs⟩

theorem timesLine_arrow (cue : SubtitleCue) : contains (timesLine cue) "-->".toList = true :=
  decide_eq_true ⟨formatVttTime cue.startMs ++ [' '], ' ' :: formatVttTime cue.endMs, by
    simp [timesLine]⟩

theorem timesLine_ne_nil (cue : SubtitleCue) : timesLine cue ≠ [] := by
  intro none
  have arrow := timesLine_arrow cue
  rw [none] at arrow
  cases arrow

theorem toDigits_avoids (outside : Char) (notDigit : outside.isDigit = false) :
    outside ∉ Nat.toDigits 10 number := by
  intro member
  rw [isDigit_of_mem_decimal member] at notDigit
  cases notDigit

end Headers

section Cues

def emittedText (cue : SubtitleCue) : Text := applyVttStyling cue.text cue.style

def SubtitleCue.Short (cue : SubtitleCue) : Prop := cue.startMs < hundredHours ∧ cue.endMs < hundredHours

instance : DecidablePred SubtitleCue.Short := fun cue =>
  inferInstanceAs (Decidable (cue.startMs < hundredHours ∧ cue.endMs < hundredHours))

def readCue (cue : SubtitleCue) : Option (List Text × Text) :=
  if cue.Short then some (stampGroups cue.startMs ++ stampGroups cue.endMs, emittedText cue) else none

def below (emitted : Text) : Text := if emitted = [] then [] else '\n' :: emitted

def cueBlock (number : Nat) (cue : SubtitleCue) : Text :=
  Nat.toDigits 10 number ++ '\n' :: (timesLine cue ++ below (emittedText cue))

-- The blank line after a cue without a text is one line early.
theorem cueText_eq (number : Nat) (cue : SubtitleCue) : cueText number cue = cueBlock number cue ++
    '\n' :: '\n' :: if emittedText cue = [] then ['\n'] else [] := by
  unfold cueText cueBlock below
  change Nat.toDigits 10 number ++ _ ++ _ ++ _ ++ _ ++ _ ++ emittedText cue ++ _ = _
  split
  next empty => simp [empty, timesLine]
  next => simp [timesLine]

variable (whole : Whole (emittedText cue))
include whole

theorem below_noReturn : '\r' ∉ timesLine cue ++ below (emittedText cue) := by
  have times : '\r' ∉ timesLine cue := timesLine_avoids _ (by decide) (by decide)
  unfold below
  split
  next => simpa using times
  next => simp [times, whole.plain.noReturn]

theorem cueBlock_noReturn (number : Nat) : '\r' ∉ cueBlock number cue := by
  have digits : '\r' ∉ Nat.toDigits 10 number := toDigits_avoids _ (by decide)
  have rest := below_noReturn whole
  simp only [cueBlock, List.mem_append, List.mem_cons, not_or] at rest ⊢
  exact ⟨digits, by decide, rest⟩

theorem lines_below : lines (timesLine cue ++ below (emittedText cue)) =
    timesLine cue :: lines (emittedText cue) := by
  have newline : '\n' ∉ timesLine cue := timesLine_avoids _ (by decide) (by decide)
  have noReturn := below_noReturn whole
  unfold below at noReturn ⊢
  split
  next empty =>
    rw [if_pos empty, List.append_nil] at noReturn
    rw [empty, List.append_nil, lines_single (timesLine_ne_nil cue) newline noReturn]
    rfl
  next some =>
    rw [if_neg some] at noReturn
    exact lines_cons newline noReturn

theorem lines_cueBlock (number : Nat) : lines (cueBlock number cue) =
    Nat.toDigits 10 number :: timesLine cue :: lines (emittedText cue) := by
  have noReturn := cueBlock_noReturn whole number
  unfold cueBlock at noReturn ⊢
  rw [lines_cons (toDigits_avoids _ (by decide)) noReturn, lines_below whole]

omit whole in
theorem matchStart_timesLine (tables : DecimalDigits) (cue : SubtitleCue) :
    matchStart (timestampPattern tables '.') (timesLine cue) =
      if cue.Short then some (stampGroups cue.startMs ++ stampGroups cue.endMs) else none :=
  matchStart_times tables cue.startMs cue.endMs

theorem read_cueBlock (tables : DecimalDigits) :
    ((matchStart (timestampPattern tables '.') (timesLine cue)).map fun groups =>
      (groups, trim (joinLines (lines (emittedText cue))))) = readCue cue := by
  rw [matchStart_timesLine, joinLines_lines whole.plain.noReturn (tight_closed whole.tight), trim,
    Trimming.trim_of_tight whole.tight, readCue]
  split <;> rfl

omit whole in
theorem digits_arrow : contains (Nat.toDigits 10 number) "-->".toList = false :=
  decide_eq_false fun inside => toDigits_avoids '-' (by decide) (inside.subset (by decide))

-- An empty line that the cue before has left does not change what the block says.
theorem vttBlock_cueBlock (tables : DecimalDigits) (number : Nat) (isLead : lead = [] ∨ lead = ['\n']) :
    vttBlock tables (lead ++ cueBlock number cue) = readCue cue := by
  rw [← read_cueBlock whole tables]
  rcases isLead with rfl | rfl
  · exact vttBlock_lines [Nat.toDigits 10 number] (lines_cueBlock whole number)
      (by simpa using digits_arrow) (timesLine_arrow cue)
  · refine vttBlock_lines [[], Nat.toDigits 10 number] ?_
      (by simpa using ⟨by decide, digits_arrow⟩) (timesLine_arrow cue)
    have noReturn : '\r' ∉ [] ++ '\n' :: cueBlock number cue := by
      simpa using cueBlock_noReturn whole number
    have shape := lines_cons (List.not_mem_nil) noReturn
    rw [lines_cueBlock whole number] at shape
    exact shape

omit whole in
theorem timesLine_head (cue : SubtitleCue) (rest : Text) :
    (timesLine cue ++ rest).head? ≠ some '\n' := by
  obtain ⟨first, _, _, shape, digit, _⟩ := formatVttTime_head cue.startMs
  rw [timesLine, shape]
  rintro ⟨⟩
  cases digit

omit whole in
theorem cueBlock_head (number : Nat) (cue : SubtitleCue) : (cueBlock number cue).head? ≠ some '\n' := by
  obtain ⟨first, rest, shape⟩ := List.exists_cons_of_ne_nil (Nat.toDigits_ne_nil (n := number) (b := 10))
  rw [cueBlock, shape]
  rintro ⟨⟩
  exact toDigits_avoids _ (by decide) (shape ▸ List.mem_cons_self)

omit whole in
theorem not_blank_of_avoids (newline : '\n' ∉ text) : ¬ ['\n', '\n'] <:+: text :=
  fun blank => newline (blank.subset List.mem_cons_self)

theorem cueBlock_noBlankLine (number : Nat) : ¬ ['\n', '\n'] <:+: cueBlock number cue := by
  have digits : '\n' ∉ Nat.toDigits 10 number := toDigits_avoids _ (by decide)
  have times : '\n' ∉ timesLine cue := timesLine_avoids _ (by decide) (by decide)
  refine not_blank_join (not_blank_of_avoids digits) ?_
    (fun last => digits (List.mem_of_getLast? last)) (timesLine_head cue _)
  unfold below
  split
  next =>
    rw [List.append_nil]
    exact not_blank_of_avoids times
  next =>
    exact not_blank_join (not_blank_of_avoids times) whole.plain.noBlankLine
      (fun last => times (List.mem_of_getLast? last)) (tight_opens whole.tight)

theorem cueBlock_closed (number : Nat) : (cueBlock number cue).getLast? ≠ some '\n' := by
  have times : '\n' ∉ timesLine cue := timesLine_avoids _ (by decide) (by decide)
  obtain ⟨front, back, shape, nonempty, closed⟩ : ∃ front back, cueBlock number cue = front ++ back ∧
      back ≠ [] ∧ back.getLast? ≠ some '\n' := by
    unfold cueBlock below
    split
    next =>
      refine ⟨Nat.toDigits 10 number ++ ['\n'], timesLine cue, by simp, timesLine_ne_nil cue, ?_⟩
      exact fun last => times (List.mem_of_getLast? last)
    next some =>
      exact ⟨Nat.toDigits 10 number ++ '\n' :: (timesLine cue ++ ['\n']), emittedText cue, by simp, some,
        tight_closed whole.tight⟩
  rwa [shape, List.getLast?_append_of_ne_nil _ nonempty]

theorem splitBlocks_cueBlock (number : Nat) (isLead : lead = [] ∨ lead = ['\n']) (rest : Text) :
    splitBlocks (lead ++ cueBlock number cue ++ '\n' :: '\n' :: rest) =
      (lead ++ cueBlock number cue) :: splitBlocks rest := by
  have noBlankLine := cueBlock_noBlankLine whole number
  have closed := cueBlock_closed whole number
  rcases isLead with rfl | rfl
  · exact splitBlocks_append noBlankLine closed rest
  · refine splitBlocks_append (not_blank_cons noBlankLine fun _ => cueBlock_head number cue) ?_ rest
    have nonempty : cueBlock number cue ≠ [] := by simp [cueBlock]
    rwa [← List.singleton_append, List.getLast?_append_of_ne_nil _ nonempty]

omit whole in
theorem blocks_cueTexts (tables : DecimalDigits) {cues : List SubtitleCue}
    (whole : ∀ cue ∈ cues, Whole (emittedText cue)) (number : Nat) {lead : Text}
    (isLead : lead = [] ∨ lead = ['\n']) :
    (splitBlocks (lead ++ cueTexts number cues)).filterMap (vttBlock tables) =
      cues.filterMap readCue := by
  induction cues generalizing number lead with
  | nil =>
    have only : splitBlocks lead = [lead] := by rcases isLead with rfl | rfl <;> rfl
    have nothing : vttBlock tables lead = none := by
      apply vttBlock_none
      rcases isLead with rfl | rfl <;> decide
    rw [cueTexts, List.append_nil, only, List.filterMap_cons_none nothing]
    rfl
  | cons cue cues ih =>
    rw [List.forall_mem_cons] at whole
    obtain ⟨next, isNext, shape⟩ : ∃ next, (next = [] ∨ next = ['\n']) ∧
        cueText number cue = cueBlock number cue ++ '\n' :: '\n' :: next := by
      refine ⟨_, ?_, cueText_eq number cue⟩
      split
      next => exact .inr rfl
      next => exact .inl rfl
    have block := vttBlock_cueBlock whole.1 tables number isLead
    have later := ih whole.2 (number + 1) isNext
    have split := splitBlocks_cueBlock whole.1 number isLead (next ++ cueTexts (number + 1) cues)
    have joined : lead ++ cueTexts number (cue :: cues) = lead ++ cueBlock number cue ++
        '\n' :: '\n' :: (next ++ cueTexts (number + 1) cues) := by
      simp [cueTexts, shape]
    rw [joined, split, List.filterMap_cons, List.filterMap_cons, block, later]

end Cues

section Tracks

variable (tables : DecimalDigits) (track : ParsedSubtitle)

theorem toVtt_eq : track.toVtt = "WEBVTT".toList ++ '\n' :: '\n' :: cueTexts 1 track.cues := rfl

theorem webvtt_tight : Trimming.Tight isWhitespace "WEBVTT".toList :=
  ⟨fun _ first => by cases first; decide, fun _ last => by cases last; decide⟩

theorem detectFormat_toVtt : detectFormat tables track.toVtt = .vtt := by
  have starts : "WEBVTT".toList <+: trim track.toVtt := by
    rw [toVtt_eq]
    exact Trimming.prefix_trim webvtt_tight (by decide)
  exact if_pos starts

theorem writtenTime_stamp {ms : Nat} (short : ms < hundredHours) :
    writtenTime 1 (padded 2 (ms / 3600000)) (padded 2 (ms % 3600000 / 60000))
      (padded 2 (ms % 60000 / 1000)) (padded 3 (ms % 1000)) = ms := by
  unfold hundredHours at short
  rw [writtenTime, parseU64_padded 2 (by omega), parseU64_padded 2 (by omega),
    parseU64_padded 2 (by omega), parseU64_padded 3 (by omega)]
  simp only [Option.getD_some]
  omega

theorem writtenCue_stamps {startMs endMs : Nat} (startShort : startMs < hundredHours)
    (endShort : endMs < hundredHours) (styled : Text × Option CueStyle) :
    writtenCue 1 (stampGroups startMs ++ stampGroups endMs) styled =
      ⟨startMs, endMs, styled.1, styled.2⟩ := by
  have start := writtenTime_stamp startShort
  have finish := writtenTime_stamp endShort
  simp only [writtenCue, groupAt, stampGroups, List.cons_append, List.nil_append, List.getD_cons_zero,
    List.getD_cons_succ, start, finish]

theorem map_readCue (cues : List SubtitleCue) :
    ((cues.filterMap readCue).map fun found => writtenCue 1 found.1 (found.2, none)) =
      (cues.filter SubtitleCue.Short).map fun cue =>
        ⟨cue.startMs, cue.endMs, emittedText cue, none⟩ := by
  induction cues with
  | nil => rfl
  | cons cue cues ih =>
    by_cases short : cue.Short
    next =>
      have read : readCue cue = some (stampGroups cue.startMs ++ stampGroups cue.endMs, emittedText cue) :=
        if_pos short
      rw [List.filterMap_cons_some read, List.filter_cons_of_pos (by simpa using short), List.map_cons,
        List.map_cons, ih, writtenCue_stamps short.1 short.2]
    next =>
      have missed : readCue cue = none := if_neg short
      rw [List.filterMap_cons_none missed, List.filter_cons_of_neg (by simpa using short), ih]

variable {track}

theorem cueTexts_noReturn (whole : ∀ cue ∈ cues, Whole (emittedText cue)) (number : Nat) :
    '\r' ∉ cueTexts number cues := by
  induction cues generalizing number with
  | nil => exact List.not_mem_nil
  | cons cue cues ih =>
    rw [List.forall_mem_cons] at whole
    have block := cueBlock_noReturn whole.1 number
    have later := ih whole.2 (number + 1)
    rw [cueTexts, cueText_eq]
    split <;> simp [block, later]

theorem vttCues_toVtt (whole : ∀ cue ∈ track.cues, Whole (emittedText cue)) :
    vttCues tables track.toVtt = (track.cues.filter SubtitleCue.Short).map fun cue =>
      ⟨cue.startMs, cue.endMs, emittedText cue, none⟩ := by
  have noReturn : '\r' ∉ track.toVtt := by
    have cueTexts := cueTexts_noReturn whole 1
    rw [toVtt_eq]
    simp only [List.mem_append, List.mem_cons, not_or]
    exact ⟨by decide, by decide, by decide, cueTexts⟩
  have heading : vttBlock tables "WEBVTT".toList = none := vttBlock_none (by decide)
  have blocks := blocks_cueTexts tables whole 1 (.inl rfl)
  rw [List.nil_append] at blocks
  rw [vttCues, normalizeLines_plain noReturn, toVtt_eq,
    splitBlocks_append (not_blank_of_avoids (by decide)) (by decide), List.filterMap_cons_none heading,
    blocks]
  exact map_readCue _

end Tracks

def SubtitleCue.seen (cue : SubtitleCue) : Nat × Nat × Text := (cue.startMs, cue.endMs, cue.text)

def SubtitleCue.seenWithTags (cue : SubtitleCue) : Nat × Nat × Text :=
  (cue.startMs, cue.endMs, emittedText cue)

def ReadBack (shown : SubtitleCue → Nat × Nat × Text) (tables : DecimalDigits) (content : Text) : Prop :=
  ∃ track, ParsedSubtitle.parse tables content = .ok track ∧
    ∃ again, ParsedSubtitle.parse tables track.toVtt = .ok again ∧
      again.cues.map SubtitleCue.seen = track.cues.map shown

/-- The hours have two digits, and the first blank line is the one after the cue. -/
structure SubtitleCue.Kept (cue : SubtitleCue) : Prop where
  short : cue.Short
  whole : Whole (emittedText cue)

structure SubtitleCue.KeptAlone (cue : SubtitleCue) : Prop where
  short : cue.Short
  unstyled : cue.style = none
  whole : Whole cue.text

section Reading

variable {tables : DecimalDigits} {content : Text} {track : ParsedSubtitle} {cue : SubtitleCue}
  {shown : SubtitleCue → Nat × Nat × Text}

theorem parse_ok_iff : ParsedSubtitle.parse tables content = .ok track ↔
    (∀ cue ∈ writtenCues tables content, cue.FitsWord) ∧
      track = ⟨detectFormat tables content, writtenCues tables content⟩ := by
  rw [parse_eq]
  split
  next fits =>
    rw [Except.ok.injEq, eq_comm]
    exact (and_iff_right fits).symm
  next long =>
    exact iff_of_false (fun same => by cases same) fun both => long both.1

theorem SubtitleCue.Short.fitsWord (short : cue.Short) : cue.FitsWord := by
  have room : hundredHours < 2 ^ 64 := by decide
  exact ⟨short.1.trans room, short.2.trans room⟩

theorem writtenCues_toVtt (tables : DecimalDigits) (track : ParsedSubtitle) :
    writtenCues tables track.toVtt = vttCues tables track.toVtt := by
  rw [writtenCues, detectFormat_toVtt]

theorem readBack_of_kept (kept : ∀ cue ∈ writtenCues tables content, cue.Kept) :
    ReadBack SubtitleCue.seenWithTags tables content := by
  let track : ParsedSubtitle := ⟨detectFormat tables content, writtenCues tables content⟩
  have fits : ∀ cue ∈ writtenCues tables content, cue.FitsWord :=
    fun cue member => (kept cue member).short.fitsWord
  have whole : ∀ cue ∈ track.cues, Whole (emittedText cue) := fun cue member => (kept cue member).whole
  have allShort : track.cues.filter SubtitleCue.Short = track.cues :=
    List.filter_eq_self.mpr fun cue member => decide_eq_true (kept cue member).short
  have emitted := vttCues_toVtt tables whole
  rw [allShort] at emitted
  refine ⟨track, parse_ok_iff.mpr ⟨fits, rfl⟩, _, parse_ok_iff.mpr ⟨?_, rfl⟩, ?_⟩
  · rw [writtenCues_toVtt, emitted, List.forall_mem_map]
    exact fits
  · dsimp only
    rw [writtenCues_toVtt, emitted, List.map_map]
    rfl

theorem ReadBack.vttCues_eq (back : ReadBack shown tables content) : ∃ track : ParsedSubtitle,
    track.cues = writtenCues tables content ∧
      (vttCues tables track.toVtt).map SubtitleCue.seen = track.cues.map shown := by
  obtain ⟨track, parsed, again, reparsed, same⟩ := back
  obtain ⟨_, shape⟩ := parse_ok_iff.mp parsed
  obtain ⟨_, rfl⟩ := parse_ok_iff.mp reparsed
  dsimp only at same
  rw [writtenCues_toVtt] at same
  exact ⟨track, congrArg ParsedSubtitle.cues shape, same⟩

theorem ReadBack.whole (back : ReadBack shown tables content) :
    ∀ cue ∈ writtenCues tables content, Whole (shown cue).2.2 := by
  obtain ⟨track, cues, same⟩ := back.vttCues_eq
  intro cue member
  have seen : shown cue ∈ track.cues.map shown := List.mem_map_of_mem (cues ▸ member)
  rw [← same] at seen
  obtain ⟨other, inVtt, equal⟩ := List.mem_map.mp seen
  exact equal ▸ vttCues_whole inVtt

theorem ReadBack.short (back : ReadBack shown tables content)
    (whole : ∀ cue ∈ writtenCues tables content, Whole (emittedText cue)) :
    ∀ cue ∈ writtenCues tables content, cue.Short ∧ shown cue = cue.seenWithTags := by
  obtain ⟨track, cues, same⟩ := back.vttCues_eq
  rw [← cues] at whole ⊢
  rw [vttCues_toVtt tables whole] at same
  have lengths := congrArg List.length same
  simp only [List.length_map] at lengths
  have allShort := List.length_filter_eq_length_iff.mp lengths
  rw [List.filter_eq_self.mpr allShort, List.map_map, List.map_inj_left] at same
  intro cue member
  exact ⟨of_decide_eq_true (allShort cue member), (same cue member).symm⟩

end Reading

section Guarantees

variable (tables : DecimalDigits) (content : Text)

theorem readBack_alone_iff : ReadBack SubtitleCue.seen tables content ↔
    ∀ cue ∈ writtenCues tables content, cue.KeptAlone := by
  constructor
  · intro back cue member
    have emitted := back.short fun cue member =>
      applyVttStyling_whole (back.whole cue member) (writtenCues_sound member)
    obtain ⟨short, seen⟩ := emitted cue member
    have text : emittedText cue = cue.text := congrArg (fun shown => shown.2.2) seen.symm
    exact ⟨short, (applyVttStyling_eq_iff (writtenCues_sound member)).mp text, back.whole cue member⟩
  · intro alone
    have same : ∀ cue ∈ writtenCues tables content, emittedText cue = cue.text := by
      intro cue member
      rw [emittedText, (alone cue member).unstyled]
      rfl
    have kept : ∀ cue ∈ writtenCues tables content, cue.Kept := fun cue member =>
      ⟨(alone cue member).short, (same cue member).symm ▸ (alone cue member).whole⟩
    obtain ⟨track, parsed, again, reparsed, seen⟩ := readBack_of_kept kept
    refine ⟨track, parsed, again, reparsed, seen.trans (List.map_congr_left fun cue member => ?_)⟩
    obtain ⟨_, rfl⟩ := parse_ok_iff.mp parsed
    rw [SubtitleCue.seenWithTags, same cue member]
    rfl

def asciiDigits : DecimalDigits := ⟨Char.isDigit, fun _ digit => digit⟩

-- A style is written as tags, on purpose.
theorem bold_cue_differs :
    let content := "1\n00:00:01,000 --> 00:00:02,000\n<b>Hi</b>".toList
    detectFormat asciiDigits content = .srt ∧ ¬ ReadBack SubtitleCue.seen asciiDigits content := by
  refine ⟨by decide +kernel, ?_⟩
  rw [readBack_alone_iff]
  have written : writtenCues asciiDigits "1\n00:00:01,000 --> 00:00:02,000\n<b>Hi</b>".toList =
      [⟨1000, 2000, "Hi".toList, some ⟨none, true, false, false⟩⟩] := by decide +kernel
  rw [written, List.forall_mem_singleton]
  intro alone
  cases alone.unstyled

theorem cuesReadBack_iff : ReadBack SubtitleCue.seenWithTags tables content ↔
    ∀ cue ∈ writtenCues tables content, cue.Kept :=
  ⟨fun back cue member => ⟨(back.short back.whole cue member).1, back.whole cue member⟩, readBack_of_kept⟩

end Guarantees

end StreamServer.EngineFs
