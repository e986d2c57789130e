import Mathlib.Data.List.Forall2
import StreamServer.Proxy.PlaylistLines

set_option autoImplicit false

namespace StreamServer.Proxy

open ByteText Results List

variable {crate : UrlCrate} {context : PlaylistContext crate}

section Tags

def quotedUri (blanks value after : Bytes) : Bytes :=
  blanks ++ uriKey ++ (value ++ quoteMark :: after)

/-- Only the value of a quoted URI is rewritten. -/
inductive AttributeRewritten (context : PlaylistContext crate) (text : Bytes) : Bytes → Prop where
  | value (blanks value after written : Bytes) (blank : blanks.all isBlank = true)
      (plain : quoteMark ∉ value) (same : text = quotedUri blanks value after)
      (rewritten : ReferenceRewritten context value written) :
      AttributeRewritten context text (quotedUri blanks written after)
  | other (differs : ∀ blanks value after, blanks.all isBlank = true → quoteMark ∉ value →
      text ≠ quotedUri blanks value after) : AttributeRewritten context text text

inductive TagRewritten (context : PlaylistContext crate) (line : Bytes) : Bytes → Prop where
  | bare (plain : 58 ∉ line) : TagRewritten context line line
  | listed (name text : Bytes) (written : List Bytes) (plain : 58 ∉ name)
      (same : line = name ++ 58 :: text)
      (rewritten : Forall₂ (AttributeRewritten context) (attributes false text) written) :
      TagRewritten context line (name ++ 58 :: [comma].intercalate written)

def ContentRewritten (context : PlaylistContext crate) (content written : Bytes) : Prop :=
  if startsWith (utf8 "#EXT") content then TagRewritten context content written
  else if startsWith (utf8 "#") content || content.all isBlank then written = content
  else ReferenceRewritten context content written

structure LineRewritten (context : PlaylistContext crate) (line written : Line) : Prop where
  content : ContentRewritten context line.content written.content
  ending : written.ending = line.ending

theorem attributeText_ok {text written : Bytes} (ok : attributeText context text = .ok written) :
    AttributeRewritten context text written := by
  cases uriView text with
  | closed blanks value after blank plain same =>
    rw [same, attributeText_closed context blank plain] at ok
    obtain ⟨opening, opened, ok⟩ := bind_ok ok
    cases opened
    obtain ⟨rest, behind, ok⟩ := bind_ok ok
    cases ok
    obtain ⟨reference, rewritten, behind⟩ := bind_ok behind
    cases behind
    exact .value blanks value after reference blank plain same (referenceText_ok rewritten)
  | unclosed blanks value blank plain same =>
    rw [same, attributeText_unclosed context blank plain, ← same] at ok
    cases ok
    refine .other fun blanks' value' after blank' _ other => ?_
    -- The blanks are the same, so the quote would stand in the value.
    have blanksSame := congrArg (List.takeWhile isBlank) (same.symm.trans other)
    rw [takeWhile_blanks blank, quotedUri, takeWhile_blanks blank'] at blanksSame
    subst blanksSame
    have values := List.append_cancel_left (same.symm.trans other)
    exact plain (values ▸ List.mem_append_right _ List.mem_cons_self)
  | other differs =>
    rw [attributeText_other context differs] at ok
    cases ok
    refine .other fun blanks value after blank _ same => ?_
    rw [same, quotedUri, takeWhile_blanks blank, startsWith_uriKey] at differs
    cases differs

theorem forall₂_of_mapM {A B E : Type} {each : A → Except E B} {values : List A} {results : List B}
    (mapped : values.mapM each = .ok results) :
    Forall₂ (fun value result => each value = .ok result) values results := by
  induction values generalizing results with
  | nil =>
    cases mapped
    exact .nil
  | cons value rest ih =>
    rw [List.mapM_cons] at mapped
    obtain ⟨result, first, mapped⟩ := bind_ok mapped
    obtain ⟨more, others, mapped⟩ := bind_ok mapped
    cases mapped
    exact .cons first (ih others)

theorem exists_of_forall₂ {A B : Type} {related : A → B → Prop} {values : List A} {results : List B}
    (all : Forall₂ related values results) {result : B} (member : result ∈ results) :
    ∃ value ∈ values, related value result := by
  induction all with
  | nil => cases member
  | cons first _ ih =>
    rcases List.mem_cons.mp member with rfl | member
    · exact ⟨_, List.mem_cons_self, first⟩
    · obtain ⟨value, given, held⟩ := ih member
      exact ⟨value, List.mem_cons_of_mem _ given, held⟩

theorem tagText_ok {line written : Bytes} (ok : tagText context line = .ok written) :
    TagRewritten context line written := by
  unfold tagText at ok
  split at ok
  next absent =>
    cases ok
    refine .bare fun member => ?_
    have other := List.findIdx?_eq_none_iff.mp absent 58 member
    cases other
  next colon found =>
    obtain ⟨texts, mapped, ok⟩ := bind_ok ok
    obtain ⟨results, rewritten, joined⟩ := bind_ok mapped
    cases joined
    cases ok
    obtain ⟨inside, isColon, first⟩ := List.findIdx?_eq_some_iff_getElem.mp found
    have isColon : (line)[colon] = 58 := by simpa using isColon
    have head : line.take (colon + 1) = line.take colon ++ [58] := by
      rw [List.take_succ_eq_append_getElem inside, isColon]
    have plain : 58 ∉ line.take colon := by
      intro member
      obtain ⟨index, before, same⟩ := List.mem_take_iff_getElem.mp member
      exact absurd same (by simpa using first index (by omega))
    have same : line = line.take colon ++ 58 :: line.drop (colon + 1) := by
      rw [← List.singleton_append, ← List.append_assoc, ← head, List.take_append_drop]
    rw [head, List.append_assoc, List.singleton_append]
    exact .listed _ _ _ plain same ((forall₂_of_mapM rewritten).imp fun _ _ => attributeText_ok)

theorem contentText_ok {content written : Bytes} (ok : contentText context content = .ok written) :
    ContentRewritten context content written := by
  unfold contentText at ok
  unfold ContentRewritten
  split at ok
  next tag =>
    rw [if_pos tag]
    exact tagText_ok ok
  next other =>
    rw [if_neg other]
    split at ok
    next same =>
      cases ok
      rw [if_pos same]
    next reference =>
      rw [if_neg reference]
      exact referenceText_ok ok

end Tags

section Unbroken

theorem unbroken_intercalate (texts : List Bytes) :
    Unbroken ([comma].intercalate texts) ↔ ∀ text ∈ texts, Unbroken text := by
  induction texts with
  | nil => simp
  | cons first rest ih =>
    cases rest with
    | nil => simp
    | cons second rest =>
      rw [List.intercalate_cons_of_ne_nil (List.cons_ne_nil _ _), List.forall_mem_cons, ← ih]
      have separator : Unbroken [comma] := by
        rw [unbroken_cons]
        exact ⟨rfl, unbroken_nil⟩
      simp only [unbroken_append, separator, and_true]

theorem intercalate_attributes (quoted : Bool) (text : Bytes) :
    [comma].intercalate (attributes quoted text) = text := by
  induction measured : text.length using Nat.strongRecOn generalizing quoted text with
  | ind length ih =>
    rw [attributes_eq]
    split
    next => exact List.intercalate_singleton
    next offset found =>
      have shorter := unquotedComma_lt found
      have rest := ih (text.drop (offset + 1)).length (by rw [List.length_drop]; omega) false _ rfl
      rw [List.intercalate_cons_of_ne_nil (attributes_ne_nil _ _), rest, List.append_assoc]
      exact (unquotedComma_some found).symm

variable (printable : crate.Printable)

include printable

theorem AttributeRewritten.unbroken {text written : Bytes} (unbroken : Unbroken text)
    (rewritten : AttributeRewritten context text written) : Unbroken written := by
  cases rewritten with
  | value blanks value after written blank plain same rewritten =>
    rw [same] at unbroken
    simp only [quotedUri, unbroken_append] at unbroken ⊢
    exact ⟨unbroken.1, rewritten.unbroken printable unbroken.2.1, unbroken.2.2⟩
  | other => exact unbroken

theorem TagRewritten.unbroken {line written : Bytes} (unbroken : Unbroken line)
    (rewritten : TagRewritten context line written) : Unbroken written := by
  cases rewritten with
  | bare => exact unbroken
  | listed name text written plain same rewritten =>
    rw [same] at unbroken
    simp only [unbroken_append, unbroken_cons] at unbroken ⊢
    obtain ⟨nameUnbroken, colon, textUnbroken⟩ := unbroken
    refine ⟨nameUnbroken, colon, (unbroken_intercalate _).mpr ?_⟩
    rw [← intercalate_attributes false text, unbroken_intercalate] at textUnbroken
    intro result member
    obtain ⟨source, given, became⟩ := exists_of_forall₂ rewritten member
    exact became.unbroken printable (textUnbroken source given)

theorem ContentRewritten.unbroken {content written : Bytes} (unbroken : Unbroken content)
    (rewritten : ContentRewritten context content written) : Unbroken written := by
  unfold ContentRewritten at rewritten
  split at rewritten
  next => exact TagRewritten.unbroken printable unbroken rewritten
  split at rewritten
  next =>
    rw [rewritten]
    exact unbroken
  next => exact rewritten.unbroken printable unbroken

end Unbroken

theorem ContentRewritten.eq_nil_iff {content written : Bytes}
    (rewritten : ContentRewritten context content written) : written = [] ↔ content = [] := by
  unfold ContentRewritten at rewritten
  split at rewritten
  next tag =>
    cases rewritten with
    | bare => rfl
    | listed name text written plain same => simp [same]
  split at rewritten
  next => rw [rewritten]
  next reference =>
    have some : content ≠ [] := by
      rintro rfl
      exact reference rfl
    have wrote := ReferenceRewritten.ne_nil some rewritten
    simp [some, wrote]

section Lines

theorem leadingBreak_append (pre : Bytes) {first second : Bytes}
    (same : leadingBreak first = leadingBreak second) :
    leadingBreak (pre ++ first) = leadingBreak (pre ++ second) := by
  cases pre with
  | nil => exact same
  | cons byte rest => rfl

theorem endingLength_append {pre first second : Bytes} (some : pre ≠ [])
    (same : leadingBreak first = leadingBreak second) :
    endingLength (pre ++ first) = endingLength (pre ++ second) := by
  obtain ⟨byte, rest, rfl⟩ := List.exists_cons_of_ne_nil some
  rw [List.cons_append, List.cons_append, endingLength_cons, endingLength_cons,
    leadingBreak_append rest same]

theorem leadingBreak_content {content : Bytes} (unbroken : Unbroken content) (behind : Bytes) :
    leadingBreak (content ++ behind) = if content = [] then leadingBreak behind else none := by
  cases content with
  | nil => rfl
  | cons byte rest =>
    rw [unbroken_cons] at unbroken
    simp [leadingBreak, unbroken.1]

theorem nextLine_append {content behind : Bytes} (unbroken : Unbroken content)
    (breaks : ∀ byte ∈ behind.head?, isBreak byte = true) :
    nextLine (content ++ behind) = ⟨content, behind.take (endingLength behind)⟩ := by
  have quiet : ∀ byte ∈ content, (!isBreak byte) = true := by
    intro byte member
    rw [unbroken byte member, Bool.not_false]
  have stops : behind.takeWhile (!isBreak ·) = [] ∧ behind.dropWhile (!isBreak ·) = behind := by
    cases behind with
    | nil => exact ⟨rfl, rfl⟩
    | cons first rest => simp [breaks first rfl]
  unfold nextLine
  simp only [List.takeWhile_append_of_pos quiet, List.dropWhile_append_of_pos quiet, stops,
    List.append_nil]

theorem nextLine_unbroken (text : Bytes) : Unbroken (nextLine text).content := by
  intro byte member
  simpa using List.mem_takeWhile_imp member

theorem nextLine_breaks (text : Bytes) : ∀ byte ∈ (nextLine text).ending.head?, isBreak byte = true := by
  intro byte first
  have opening := List.head?_dropWhile_not (!isBreak ·) text
  cases behind : text.dropWhile (!isBreak ·) with
  | nil =>
    rw [nextLine, behind] at first
    cases first
  | cons breaking rest =>
    rw [behind] at opening
    obtain ⟨left, length⟩ := Nat.exists_eq_succ_of_ne_zero
      (Nat.ne_of_gt (endingLength_pos breaking rest))
    rw [nextLine, behind, length] at first
    cases first
    simpa using opening

theorem nextLine_last {text : Bytes} (last : (nextLine text).ending = []) :
    text.drop (nextLine text).text.length = [] := by
  have length := nextLine_ending_length text
  rw [Line.text, last, List.append_nil, drop_content]
  rw [last, List.length_nil] at length
  cases behind : text.dropWhile (!isBreak ·) with
  | nil => rfl
  | cons first rest =>
    rw [behind] at length
    exact absurd length (Nat.ne_of_gt (endingLength_pos first rest))

theorem nextLine_append_rest (text : Bytes) : text = (nextLine text).content ++
    ((nextLine text).ending ++ text.drop (nextLine text).text.length) := by
  rw [← List.append_assoc]
  exact nextLine_split text

theorem leadingBreak_line (text : Bytes) :
    leadingBreak text = if (nextLine text).content = [] then
      leadingBreak ((nextLine text).ending ++ text.drop (nextLine text).text.length) else none := by
  have leading := leadingBreak_content (nextLine_unbroken text)
    ((nextLine text).ending ++ text.drop (nextLine text).text.length)
  rwa [← nextLine_append_rest] at leading

theorem endingLength_ending (text : Bytes) :
    endingLength ((nextLine text).ending ++ text.drop (nextLine text).text.length) =
      (nextLine text).ending.length := by
  have behind := congrArg (List.drop (nextLine text).content.length) (nextLine_append_rest text)
  rw [drop_content, List.drop_left] at behind
  rw [← behind, nextLine_ending_length]

theorem nextLine_rewritten {text written more : Bytes} (unbroken : Unbroken written)
    (last : (nextLine text).ending = [] → more = [])
    (leading : leadingBreak more = leadingBreak (text.drop (nextLine text).text.length)) :
    nextLine (written ++ ((nextLine text).ending ++ more)) = ⟨written, (nextLine text).ending⟩ := by
  have breaks : ∀ byte ∈ ((nextLine text).ending ++ more).head?, isBreak byte = true := by
    have original := nextLine_breaks text
    cases ending : (nextLine text).ending with
    | nil =>
      rw [last ending]
      simp
    | cons first others =>
      rw [ending] at original
      exact original
  have ended : ((nextLine text).ending ++ more).take
      (endingLength ((nextLine text).ending ++ more)) = (nextLine text).ending := by
    by_cases none : (nextLine text).ending = []
    · rw [none, last none]
      rfl
    · rw [endingLength_append none leading, endingLength_ending, List.take_left]
  rw [nextLine_append unbroken breaks, ended]

theorem lines_rewritten (printable : crate.Printable) {text output : Bytes}
    (ok : linesText context (lines text) = .ok output) :
    leadingBreak output = leadingBreak text ∧
      Forall₂ (LineRewritten context) (lines text) (lines output) := by
  induction text using lines.induct generalizing output with
  | case1 =>
    rw [lines_nil] at ok ⊢
    cases ok
    rw [lines_nil]
    exact ⟨rfl, .nil⟩
  | case2 text some ih =>
    rw [lines_of_ne_nil some, linesText] at ok
    obtain ⟨written, content, ok⟩ := bind_ok ok
    obtain ⟨behind, behindOk, ok⟩ := bind_ok ok
    cases ok
    obtain ⟨ending, same, behindOk⟩ := bind_ok behindOk
    cases same
    obtain ⟨more, rest, behindOk⟩ := bind_ok behindOk
    cases behindOk
    have rewritten := contentText_ok content
    have unbroken := rewritten.unbroken printable (nextLine_unbroken text)
    obtain ⟨leading, others⟩ := ih rest
    have last : (nextLine text).ending = [] → more = [] := by
      intro ended
      rw [nextLine_last ended, lines_nil] at rest
      cases rest
      rfl
    have next := nextLine_rewritten unbroken last leading
    have someWritten : written ++ ((nextLine text).ending ++ more) ≠ [] := by
      intro nothing
      rw [List.append_eq_nil_iff, List.append_eq_nil_iff, rewritten.eq_nil_iff] at nothing
      refine nextLine_ne_nil some ?_
      rw [Line.text, nothing.1, nothing.2.1, List.append_nil]
    constructor
    · rw [leadingBreak_content unbroken, leadingBreak_line text, leadingBreak_append _ leading]
      simp only [rewritten.eq_nil_iff]
    · have further : (written ++ ((nextLine text).ending ++ more)).drop
          (Line.text ⟨written, (nextLine text).ending⟩).length = more := by
        rw [Line.text, ← List.append_assoc, List.drop_left]
      rw [lines_of_ne_nil some, lines_of_ne_nil someWritten, next, further]
      exact .cons ⟨rewritten, rfl⟩ others

theorem rewritePlaylist_sound {body output : Bytes} (ok : rewritePlaylist context body = .ok output) :
    linesText context (lines body) = .ok output ∧ output.length ≤ maxPlaylistOutput := by
  unfold rewritePlaylist at ok
  obtain ⟨writer, wrote, ok⟩ := bind_ok ok
  obtain ⟨emitted, same, final, fits⟩ :=
    (emits_lines context 0 (Nat.zero_le body.length)).sound _ writer (Nat.zero_le _) wrote
  rw [List.drop_zero] at same
  rw [List.nil_append] at final
  split at ok
  next empty =>
    cases ok
    rw [empty, lines_nil]
    exact ⟨rfl, Nat.zero_le _⟩
  next =>
    cases ok
    rw [final] at fits ⊢
    exact ⟨same, fits⟩

theorem rewritePlaylist_complete {body output : Bytes}
    (never : ∀ look, context.cancelled look = false)
    (same : linesText context (lines body) = .ok output) (fits : output.length ≤ maxPlaylistOutput) :
    rewritePlaylist context body = .ok output := by
  rw [← List.drop_zero (l := body)] at same
  obtain ⟨writer, wrote, final⟩ := (emits_lines context 0 (Nat.zero_le body.length)).complete never
    ⟨[], 0⟩ output same fits
  have finished : rewritePlaylist context body = if body = [] then .ok [] else .ok writer.output := by
    unfold rewritePlaylist
    rw [wrote]
    rfl
  rw [finished, final]
  split
  next empty =>
    rw [List.drop_zero, empty, lines_nil] at same
    exact same
  next => rfl

theorem rewritePlaylist_guarantees (printable : crate.Printable) (context : PlaylistContext crate)
    (body : Bytes) :
    (∀ output, rewritePlaylist context body = .ok output →
      Forall₂ (LineRewritten context) (lines body) (lines output) ∧
        output.length ≤ maxPlaylistOutput) ∧
      ((∀ look, context.cancelled look = false) → ∀ output,
        rewritePlaylist context body = .ok output ↔
          linesText context (lines body) = .ok output ∧ output.length ≤ maxPlaylistOutput) := by
  refine ⟨fun output ok => ?_, fun never output => ⟨rewritePlaylist_sound, fun fits => ?_⟩⟩
  · obtain ⟨written, fits⟩ := rewritePlaylist_sound ok
    exact ⟨(lines_rewritten printable written).2, fits⟩
  · exact rewritePlaylist_complete never fits.1 fits.2

def folderPlaylist : PlaylistContext exampleFolder := ⟨.root, [], [], fun _ => false⟩

def folderBody : Bytes := utf8 "#EXTM3U\r\n#EXT-X-KEY:METHOD=AES-128,URI=\"x000\"\n\nx000"

def folderOutput : Bytes :=
  utf8 ("#EXTM3U\r\n#EXT-X-KEY:METHOD=AES-128,URI=\"/proxy/?d=http%3A%2F%2Fexample.com%2Fx000\"\n\n" ++
    "/proxy/?d=http%3A%2F%2Fexample.com%2Fx000")

theorem folder_playlist_keeps_its_lines :
    Forall₂ (LineRewritten folderPlaylist) (lines folderBody) (lines folderOutput) := by
  have printable : exampleFolder.Printable := UrlCrate.oneOrigin_printable _ _
  have rewritten : rewritePlaylist folderPlaylist folderBody = .ok folderOutput := by decide +kernel
  exact ((rewritePlaylist_guarantees printable folderPlaylist folderBody).1 _ rewritten).1

end Lines

end StreamServer.Proxy
