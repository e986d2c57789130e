import StreamServer.EngineFs.SubtitleText

set_option autoImplicit false

namespace StreamServer.EngineFs

open Patterns

section Written

variable (unit : Nat) (groups : List Text) (styled : Text × Option CueStyle)

def writtenTime (hours mins secs fraction : Text) : Nat :=
  (parseU64 hours).getD 0 * 3600000 + (parseU64 mins).getD 0 * 60000 + (parseU64 secs).getD 0 * 1000 +
    (parseU64 fraction).getD 0 * unit

def writtenCue : SubtitleCue where
  startMs :=
    writtenTime unit (groupAt groups 0) (groupAt groups 1) (groupAt groups 2) (groupAt groups 3)
  endMs := writtenTime unit (groupAt groups 4) (groupAt groups 5) (groupAt groups 6) (groupAt groups 7)
  text := styled.1
  style := styled.2

def srtCues (tables : DecimalDigits) (content : Text) : List SubtitleCue :=
  ((splitBlocks (normalizeLines content)).filterMap (srtBlock tables)).map fun found =>
    writtenCue 1 found.1 (parseSrtStyling found.2)

def vttCues (tables : DecimalDigits) (content : Text) : List SubtitleCue :=
  ((splitBlocks (normalizeLines content)).filterMap (vttBlock tables)).map fun found =>
    writtenCue 1 found.1 (found.2, none)

def assCues (tables : DecimalDigits) (content : Text) : List SubtitleCue :=
  (allMatches (dialoguePattern tables) content.length content).map fun groups =>
    writtenCue 10 groups (parseAssStyling (groups.getD 8 []))

def writtenCues (tables : DecimalDigits) (content : Text) : List SubtitleCue :=
  match detectFormat tables content with
  | .srt => srtCues tables content
  | .ass => assCues tables content
  | .vtt => vttCues tables content
  | .unknown => srtCues tables content

def SubtitleCue.FitsWord (cue : SubtitleCue) : Prop := cue.startMs < 2 ^ 64 ∧ cue.endMs < 2 ^ 64

instance : DecidablePred SubtitleCue.FitsWord := fun cue =>
  inferInstanceAs (Decidable (cue.startMs < 2 ^ 64 ∧ cue.endMs < 2 ^ 64))

def bounded (limit number : Nat) : Checked Nat :=
  if number < limit then .ok number else .error .overflow

-- No part is longer than the sum, so only the sum matters.
theorem bounded_add (limit first second : Nat) :
    (bounded limit first >>= fun left => bounded limit second >>= fun right =>
      bounded limit (left + right)) = bounded limit (first + second) := by
  unfold bounded
  by_cases firstFits : first < limit
  next =>
    by_cases secondFits : second < limit
    next => rw [if_pos firstFits, if_pos secondFits, Checked.ok_bind, Checked.ok_bind]
    next =>
      rw [if_pos firstFits, if_neg secondFits, Checked.ok_bind, Checked.error_bind, if_neg (by omega)]
  next =>
    rw [if_neg firstFits, Checked.error_bind, if_neg (by omega)]

theorem timeOf_eq (hours mins secs fraction : Text) : timeOf unit hours mins secs fraction =
    bounded (2 ^ 64) (writtenTime unit hours mins secs fraction) := by
  rw [writtenTime, ← bounded_add, ← bounded_add, ← bounded_add]
  simp only [bind_assoc]
  rfl

theorem cue_eq : (do
      let startMs ← timeOf unit (groupAt groups 0) (groupAt groups 1) (groupAt groups 2) (groupAt groups 3)
      let endMs ← timeOf unit (groupAt groups 4) (groupAt groups 5) (groupAt groups 6) (groupAt groups 7)
      return ⟨startMs, endMs, styled.1, styled.2⟩ : Checked SubtitleCue) =
    if (writtenCue unit groups styled).FitsWord then .ok (writtenCue unit groups styled)
    else .error .overflow := by
  have start : timeOf unit (groupAt groups 0) (groupAt groups 1) (groupAt groups 2) (groupAt groups 3) =
      bounded (2 ^ 64) (writtenCue unit groups styled).startMs := timeOf_eq ..
  have finish : timeOf unit (groupAt groups 4) (groupAt groups 5) (groupAt groups 6) (groupAt groups 7) =
      bounded (2 ^ 64) (writtenCue unit groups styled).endMs := timeOf_eq ..
  rw [start, finish, bounded, bounded]
  by_cases startFits : (writtenCue unit groups styled).startMs < 2 ^ 64
  next =>
    by_cases endFits : (writtenCue unit groups styled).endMs < 2 ^ 64
    next =>
      rw [if_pos startFits, if_pos endFits, if_pos ⟨startFits, endFits⟩]
      rfl
    next =>
      rw [if_pos startFits, if_neg endFits, if_neg fun both => endFits both.2]
      rfl
  next =>
    rw [if_neg startFits, Checked.error_bind, if_neg fun both => startFits both.1]

theorem srtCue_eq (text : Text) : srtCue groups text =
    if (writtenCue 1 groups (parseSrtStyling text)).FitsWord then
      .ok (writtenCue 1 groups (parseSrtStyling text))
    else .error .overflow := cue_eq 1 groups (parseSrtStyling text)

theorem vttCue_eq (text : Text) : vttCue groups text =
    if (writtenCue 1 groups (text, none)).FitsWord then .ok (writtenCue 1 groups (text, none))
    else .error .overflow := cue_eq 1 groups (text, none)

theorem assCue_eq : assCue groups =
    if (writtenCue 10 groups (parseAssStyling (groups.getD 8 []))).FitsWord then
      .ok (writtenCue 10 groups (parseAssStyling (groups.getD 8 [])))
    else .error .overflow := cue_eq 10 groups (parseAssStyling (groups.getD 8 []))

theorem mapM_written {A : Type} {read : A → Checked SubtitleCue} (written : A → SubtitleCue)
    (each : ∀ item, read item =
      if (written item).FitsWord then .ok (written item) else .error .overflow) (items : List A) :
    items.mapM read =
      if ∀ cue ∈ items.map written, cue.FitsWord then .ok (items.map written) else .error .overflow := by
  induction items with
  | nil => rfl
  | cons item items ih =>
    rw [List.mapM_cons, each, ih, List.map_cons]
    simp only [List.forall_mem_cons]
    by_cases fits : (written item).FitsWord
    next =>
      by_cases others : ∀ cue ∈ items.map written, cue.FitsWord
      next =>
        rw [if_pos fits, if_pos others, if_pos ⟨fits, others⟩]
        rfl
      next =>
        rw [if_pos fits, if_neg others, if_neg fun both => others both.2]
        rfl
    next =>
      rw [if_neg fits, Checked.error_bind, if_neg fun both => fits both.1]

variable (tables : DecimalDigits) (content : Text)

theorem parseSrt_eq : parseSrt tables content =
    if ∀ cue ∈ srtCues tables content, cue.FitsWord then .ok (srtCues tables content)
    else .error .overflow := by
  unfold parseSrt srtCues
  refine mapM_written (fun found : List Text × Text => writtenCue 1 found.1 (parseSrtStyling found.2)) ?_ _
  intro found
  exact srtCue_eq found.1 found.2

theorem parseVtt_eq : parseVtt tables content =
    if ∀ cue ∈ vttCues tables content, cue.FitsWord then .ok (vttCues tables content)
    else .error .overflow := by
  unfold parseVtt vttCues
  refine mapM_written (fun found : List Text × Text => writtenCue 1 found.1 (found.2, none)) ?_ _
  intro found
  exact vttCue_eq found.1 found.2

theorem parseAss_eq : parseAss tables content =
    if ∀ cue ∈ assCues tables content, cue.FitsWord then .ok (assCues tables content)
    else .error .overflow :=
  mapM_written (fun groups => writtenCue 10 groups (parseAssStyling (groups.getD 8 []))) assCue_eq _

theorem parse_eq : ParsedSubtitle.parse tables content =
    if ∀ cue ∈ writtenCues tables content, cue.FitsWord then
      .ok ⟨detectFormat tables content, writtenCues tables content⟩
    else .error .overflow := by
  unfold ParsedSubtitle.parse writtenCues
  rw [parseSrt_eq, parseVtt_eq, parseAss_eq]
  cases detectFormat tables content with
  | srt =>
    dsimp only
    split <;> rfl
  | ass =>
    dsimp only
    split <;> rfl
  | vtt =>
    dsimp only
    split <;> rfl
  | unknown =>
    dsimp only
    split <;> rfl

end Written

variable {tables : DecimalDigits} {content text block line : Text} {cue : SubtitleCue}
  {groups : List Text}

structure Whole (text : Text) : Prop where
  tight : Trimming.Tight isWhitespace text
  plain : Plain text

section Texts

theorem infix_trim (text : Text) : trim text <:+: text := by
  obtain ⟨leading, trailing, same, _⟩ := Trimming.trim_between isWhitespace text
  exact ⟨leading, trailing, same.symm⟩

theorem joinLines_rest_plain (plain : Plain block) (before : List Text) {after : List Text}
    (shape : lines block = before ++ after) : Plain (trim (joinLines after)) := by
  refine plain.part ((infix_trim _).trans ?_)
  have inside : after <:+: block.splitOn '\n' :=
    (List.suffix_append before after).isInfix.trans (shape ▸ lines_prefix plain.noReturn).isInfix
  have joined := joinLines_part inside
  rwa [joinLines_splitOn] at joined

theorem srtBlock_plain (plain : Plain block) (found : srtBlock tables block = some (groups, text)) :
    Plain text := by
  unfold srtBlock at found
  split at found
  next first timestampLine rest shape =>
    obtain ⟨_, _, same⟩ := Option.map_eq_some_iff.mp found
    cases same
    exact joinLines_rest_plain plain [first, timestampLine] shape
  next => cases found

theorem vttBlock_whole (plain : Plain block) (found : vttBlock tables block = some (groups, text)) :
    Whole text := by
  unfold vttBlock at found
  obtain ⟨index, _, found⟩ := Option.bind_eq_some_iff.mp found
  obtain ⟨_, _, same⟩ := Option.map_eq_some_iff.mp found
  cases same
  exact ⟨Trimming.trim_tight .., joinLines_rest_plain plain _ (List.take_append_drop (index + 1) _).symm⟩

theorem blocks_plain (member : block ∈ splitBlocks (normalizeLines content)) : Plain block :=
  splitBlocks_plain (normalizeLines_noReturn content) member

theorem vttCues_whole (member : cue ∈ vttCues tables content) : Whole cue.text := by
  obtain ⟨found, given, rfl⟩ := List.mem_map.mp member
  obtain ⟨block, inContent, read⟩ := List.mem_filterMap.mp given
  exact vttBlock_whole (blocks_plain inContent) read

end Texts

section Styles

structure CueStyle.Sound (style : CueStyle) : Prop where
  color : ∀ color ∈ style.color, Plain color
  marks : style.bold ∨ style.italic ∨ style.underline ∨ style.color.isSome

theorem CueStyle.ifAny_sound {style shown : CueStyle} (plain : ∀ color ∈ style.color, Plain color)
    (some : style.ifAny = some shown) : shown.Sound := by
  unfold CueStyle.ifAny at some
  split at some
  next marks =>
    cases some
    simp only [Bool.or_eq_true, or_assoc] at marks
    exact ⟨plain, marks⟩
  next => cases some

theorem plain_of_mem (allowed : Char → Prop) (newline : ¬ allowed '\n') (noReturn : ¬ allowed '\r')
    (each : ∀ character ∈ text, allowed character) : Plain text := by
  refine ⟨fun blank => newline (each _ (blank.subset List.mem_cons_self)), fun member => ?_⟩
  exact noReturn (each _ member)

theorem zero_plain : Plain "0".toList := by
  refine plain_of_mem (fun character => character = '0') (by decide) (by decide) ?_
  simp

theorem groupAt_mem_or (groups : List Text) (index : Nat) :
    groupAt groups index ∈ groups ∨ groupAt groups index = "0".toList := by
  unfold groupAt
  rw [List.getD_eq_getElem?_getD]
  cases found : groups[index]? with
  | none => exact .inr rfl
  | some group => exact .inl (List.mem_of_getElem? found)

theorem parseSrtStyling_sound (plain : Plain text) {style : CueStyle}
    (some : (parseSrtStyling text).2 = some style) : style.Sound := by
  refine CueStyle.ifAny_sound (fun color member => ?_) some
  obtain ⟨⟨_, groups, _⟩, found, rfl⟩ := Option.map_eq_some_iff.mp member
  rcases groupAt_mem_or groups 0 with group | zero
  · exact plain.part (find_parts found _ group)
  · rw [zero]
    exact zero_plain

theorem assColorPattern_groups : assColorPattern.GroupsWithin fun character =>
    isHexDigit character = true := by
  simp [assColorPattern, Pattern.sequence, Pattern.literal, Pattern.exactly, Pattern.GroupsWithin,
    Pattern.Within]

theorem assColor_plain {bgr : Text} (digits : ∀ character ∈ bgr, isHexDigit character = true) :
    Plain (assColor bgr) := by
  refine plain_of_mem (fun character => character = '#' ∨ isHexDigit character = true)
    (by decide) (by decide) ?_
  have part : ∀ {inner : Text}, inner ⊆ bgr → ∀ character ∈ inner,
      character = '#' ∨ isHexDigit character = true :=
    fun within character member => .inr (digits character (within member))
  have middle (count : Nat) : (bgr.drop count).take 2 ⊆ bgr := fun _ member =>
    List.mem_of_mem_drop (List.mem_of_mem_take member)
  simp only [assColor, List.forall_mem_append]
  exact ⟨⟨⟨by simp, part (middle 4)⟩, part (middle 2)⟩, part (List.take_subset ..)⟩

theorem parseAssStyling_sound {style : CueStyle}
    (some : (parseAssStyling text).2 = some style) : style.Sound := by
  refine CueStyle.ifAny_sound (fun color member => ?_) some
  obtain ⟨⟨_, groups, _⟩, found, read⟩ := Option.bind_eq_some_iff.mp member
  dsimp only at read
  split at read
  next =>
    cases read
    apply assColor_plain
    rcases groupAt_mem_or groups 0 with group | zero
    · exact find_groups_within assColorPattern_groups found _ group
    · rw [zero]
      simp [isHexDigit]
  next => cases read

theorem srtCues_sound (member : cue ∈ srtCues tables content) : ∀ style ∈ cue.style, style.Sound := by
  obtain ⟨found, given, rfl⟩ := List.mem_map.mp member
  obtain ⟨block, inContent, read⟩ := List.mem_filterMap.mp given
  exact fun style styled => parseSrtStyling_sound (srtBlock_plain (blocks_plain inContent) read) styled

theorem writtenCues_sound (member : cue ∈ writtenCues tables content) :
    ∀ style ∈ cue.style, style.Sound := by
  unfold writtenCues at member
  split at member
  next => exact srtCues_sound member
  next =>
    obtain ⟨groups, _, rfl⟩ := List.mem_map.mp member
    exact fun style styled => parseAssStyling_sound styled
  next =>
    obtain ⟨found, _, rfl⟩ := List.mem_map.mp member
    exact fun style styled => by cases styled
  next => exact srtCues_sound member

end Styles

section Tags

variable {style : Option CueStyle}

def Tag (mark : Text) : Prop := Plain mark ∧ ∃ inner, mark = '<' :: (inner ++ ['>'])

theorem Plain.cut {left right : Text} (before : Plain left) (cut : Char) (after : Plain right)
    (notNewline : '\n' ≠ cut) (notReturn : '\r' ≠ cut) : Plain (left ++ cut :: right) := by
  constructor
  · rw [Splices.infix_cut_iff (by simpa using notNewline.symm), not_or]
    exact ⟨before.noBlankLine, after.noBlankLine⟩
  · simp [before.noReturn, after.noReturn, notReturn]

theorem Tag.tight {mark : Text} (tag : Tag mark) : Trimming.Tight isWhitespace mark ∧ mark ≠ [] := by
  obtain ⟨_, inner, rfl⟩ := tag
  refine ⟨⟨?_, ?_⟩, List.cons_ne_nil _ _⟩
  · rintro _ ⟨⟩
    decide
  · intro item last
    rw [← List.cons_append, List.getLast?_concat] at last
    cases last
    decide

theorem Tag.around {opening closing : Text} (opens : Tag opening) (plain : Plain text)
    (closes : Tag closing) : Whole (opening ++ text ++ closing) := by
  refine ⟨Trimming.tight_between opens.tight.1 opens.tight.2 text closes.tight.1 closes.tight.2, ?_⟩
  obtain ⟨opensPlain, inner, rfl⟩ := opens
  obtain ⟨closesPlain, other, rfl⟩ := closes
  have front : Plain ('<' :: inner) := opensPlain.part (List.prefix_append _ _).isInfix
  have back : Plain (other ++ ['>']) := closesPlain.part (List.suffix_cons ..).isInfix
  have whole := front.cut '>' (plain.cut '<' back (by decide) (by decide)) (by decide) (by decide)
  simpa using whole

theorem plain_short {mark : Text} (newline : '\n' ∉ mark) (noReturn : '\r' ∉ mark) : Plain mark :=
  ⟨fun blank => newline (blank.subset List.mem_cons_self), noReturn⟩

theorem colorTag {color : Text} (plain : Plain color) :
    Tag ("<c.".toList ++ color.dropWhile (fun character => character = '#') ++ ">".toList) := by
  have name := plain.part (List.dropWhile_suffix fun character => character = '#').isInfix
  have opening : Plain "<c".toList := plain_short (by decide) (by decide)
  have nothing : Plain [] := plain_short (by decide) (by decide)
  refine ⟨?_, 'c' :: '.' :: color.dropWhile (fun character => character = '#'), rfl⟩
  have whole := opening.cut '.' (name.cut '>' nothing (by decide) (by decide)) (by decide) (by decide)
  simpa using whole

theorem Whole.lettered (whole : Whole text) (letter : Char) (newline : '\n' ≠ letter)
    (noReturn : '\r' ≠ letter) (marked : Bool) :
    Whole (if marked then ['<', letter, '>'] ++ text ++ ['<', '/', letter, '>'] else text) := by
  split
  next =>
    have opening : Plain ['<', letter, '>'] := plain_short (by simp [newline]) (by simp [noReturn])
    have closing : Plain ['<', '/', letter, '>'] := plain_short (by simp [newline]) (by simp [noReturn])
    exact Tag.around ⟨opening, [letter], rfl⟩ whole.plain ⟨closing, ['/', letter], rfl⟩
  next => exact whole

theorem applyVttStyling_whole (whole : Whole text) (sound : ∀ shown ∈ style, shown.Sound) :
    Whole (applyVttStyling text style) := by
  cases style with
  | none => exact whole
  | some style =>
    have bold := whole.lettered 'b' (by decide) (by decide) style.bold
    have italic := bold.lettered 'i' (by decide) (by decide) style.italic
    have underline := italic.lettered 'u' (by decide) (by decide) style.underline
    unfold applyVttStyling
    dsimp only
    split
    next color given =>
      have closing : Tag "</c>".toList := ⟨plain_short (by decide) (by decide), "/c".toList, rfl⟩
      exact Tag.around (colorTag ((sound style rfl).color color given)) underline.plain closing
    next => exact underline

theorem length_lt_applyVttStyling (text : Text) {shown : CueStyle} (sound : shown.Sound) :
    text.length < (applyVttStyling text (some shown)).length := by
  obtain ⟨color, bold, italic, underline⟩ := shown
  have marks := sound.marks
  cases color <;> cases bold <;> cases italic <;> cases underline <;>
    simp [applyVttStyling] at marks ⊢ <;> omega

theorem applyVttStyling_eq_iff (sound : ∀ shown ∈ style, shown.Sound) :
    applyVttStyling text style = text ↔ style = none := by
  cases style with
  | none => simp [applyVttStyling]
  | some shown =>
    have longer := length_lt_applyVttStyling text (sound shown rfl)
    refine iff_of_false (fun same => ?_) (Option.some_ne_none _)
    rw [same] at longer
    exact Nat.lt_irrefl _ longer

end Tags

end StreamServer.EngineFs
