import StreamServer.EngineFs.Subtitles
import StreamServer.Shared.Splices

set_option autoImplicit false

namespace StreamServer.EngineFs

variable {text rest block line pattern replacement : Text}

structure Plain (text : Text) : Prop where
  noBlankLine : ¬ ['\n', '\n'] <:+: text
  noReturn : '\r' ∉ text

theorem Plain.part (plain : Plain text) {part : Text} (inside : part <:+: text) : Plain part :=
  ⟨fun blank => plain.noBlankLine (blank.trans inside), fun member => plain.noReturn (inside.subset member)⟩

section Replacing

theorem replaceFrom_absent {first : Char} {others : Text} (absent : first ∉ text) :
    replaceFrom (first :: others) replacement 0 text = text := by
  induction text with
  | nil => rfl
  | cons character rest ih =>
    rw [List.mem_cons, not_or] at absent
    rw [replaceFrom, if_neg, ih absent.2]
    rintro ⟨after, same⟩
    cases same
    exact absent.1 rfl

theorem normalizeLines_plain (noReturn : '\r' ∉ text) : normalizeLines text = text := by
  have first : replace text "\r\n".toList "\n".toList = text := replaceFrom_absent noReturn
  unfold normalizeLines
  rw [first]
  exact replaceFrom_absent noReturn

theorem normalizeLines_noReturn (content : Text) : '\r' ∉ normalizeLines content := by
  have removed : ∀ text : Text, '\r' ∉ replaceFrom ['\r'] ['\n'] 0 text := by
    intro text
    induction text with
    | nil => exact List.not_mem_nil
    | cons character rest ih =>
      rw [replaceFrom]
      split
      next => simpa using ih
      next other =>
        have different : '\r' ≠ character := by
          rintro rfl
          exact other ⟨rest, rfl⟩
        simpa [different] using ih
  exact removed _

end Replacing

section Blocks

theorem splitBlocks_cons {first second : Char} (apart : ¬ (first = '\n' ∧ second = '\n')) :
    ∃ block blocks, splitBlocks (second :: rest) = block :: blocks ∧
      splitBlocks (first :: second :: rest) = (first :: block) :: blocks := by
  rw [splitBlocks, if_neg apart]
  cases found : splitBlocks (second :: rest) with
  | nil =>
    exfalso
    cases rest with
    | nil => cases found
    | cons third rest =>
      rw [splitBlocks] at found
      split at found
      next => cases found
      next => split at found <;> cases found
  | cons block blocks => exact ⟨block, blocks, rfl, rfl⟩

theorem splitBlocks_append (noBlankLine : ¬ ['\n', '\n'] <:+: text)
    (closed : text.getLast? ≠ some '\n') (rest : Text) :
    splitBlocks (text ++ '\n' :: '\n' :: rest) = text :: splitBlocks rest := by
  induction text with
  | nil => rw [List.nil_append, splitBlocks, if_pos ⟨rfl, rfl⟩]
  | cons first text ih =>
    have later : splitBlocks (text ++ '\n' :: '\n' :: rest) = text :: splitBlocks rest := by
      refine ih (fun blank => noBlankLine (blank.trans (List.suffix_cons ..).isInfix)) ?_
      intro last
      rw [List.getLast?_cons, last] at closed
      exact closed rfl
    obtain ⟨second, more, shape, apart⟩ : ∃ second more, text ++ '\n' :: '\n' :: rest = second :: more ∧
        ¬ (first = '\n' ∧ second = '\n') := by
      cases text with
      | nil =>
        refine ⟨'\n', '\n' :: rest, rfl, fun both => ?_⟩
        rw [both.1] at closed
        exact closed rfl
      | cons second text =>
        refine ⟨second, _, rfl, ?_⟩
        rintro ⟨rfl, rfl⟩
        exact noBlankLine ⟨[], text, rfl⟩
    obtain ⟨block, blocks, split, joined⟩ := splitBlocks_cons apart
    rw [List.cons_append, shape, joined]
    rw [← shape, later] at split
    cases split
    rfl

theorem not_blank_of_length (short : text.length < 2) : ¬ ['\n', '\n'] <:+: text := by
  intro blank
  have fits := blank.length_le
  simp only [List.length_cons, List.length_nil] at fits
  omega

theorem not_blank_cons {character : Char} (noBlankLine : ¬ ['\n', '\n'] <:+: block)
    (apart : character = '\n' → block.head? ≠ some '\n') :
    ¬ ['\n', '\n'] <:+: character :: block := by
  rw [List.infix_cons_iff, not_or]
  refine ⟨?_, noBlankLine⟩
  rintro ⟨after, same⟩
  cases same
  exact apart rfl rfl

theorem splitBlocks_shape (text : Text) : ∃ block blocks, splitBlocks text = block :: blocks ∧
    block <+: text ∧ ∀ part ∈ block :: blocks, part <:+: text ∧ ¬ ['\n', '\n'] <:+: part := by
  induction text using splitBlocks.induct with
  | case1 => exact ⟨[], [], rfl, List.prefix_rfl, by simp⟩
  | case2 character =>
    refine ⟨[character], [], rfl, List.prefix_rfl, ?_⟩
    rw [List.forall_mem_singleton]
    exact ⟨List.infix_rfl, not_blank_of_length (Nat.lt_succ_self 1)⟩
  | case3 first second rest both ih =>
    obtain ⟨block, blocks, split, _, parts⟩ := ih
    refine ⟨[], block :: blocks, ?_, List.nil_prefix, ?_⟩
    · rw [splitBlocks, if_pos both, split]
    · rw [List.forall_mem_cons]
      refine ⟨⟨List.nil_infix, not_blank_of_length Nat.zero_lt_two⟩, fun part member => ?_⟩
      obtain ⟨inside, noBlankLine⟩ := parts part member
      exact ⟨inside.trans ((List.suffix_cons ..).trans (List.suffix_cons ..)).isInfix, noBlankLine⟩
  | case4 first second rest apart none ih =>
    obtain ⟨block, blocks, split, _, _⟩ := ih
    rw [none] at split
    cases split
  | case5 first second rest apart block blocks split ih =>
    obtain ⟨_, _, again, leading, parts⟩ := ih
    rw [split] at again
    cases again
    refine ⟨first :: block, blocks, ?_, ?_, ?_⟩
    · rw [splitBlocks, if_neg apart, split]
    · exact (List.prefix_cons_inj first).mpr leading
    · rw [List.forall_mem_cons] at parts ⊢
      refine ⟨⟨((List.prefix_cons_inj first).mpr leading).isInfix, ?_⟩, fun part member => ?_⟩
      · refine not_blank_cons parts.1.2 fun isNewline opens => apart ⟨isNewline, ?_⟩
        obtain ⟨after, joined⟩ := leading
        obtain ⟨_, shape⟩ := List.head?_eq_some_iff.mp opens
        rw [shape] at joined
        cases joined
        rfl
      · obtain ⟨inside, noBlankLine⟩ := parts.2 part member
        exact ⟨inside.trans (List.suffix_cons ..).isInfix, noBlankLine⟩

theorem splitBlocks_plain (noReturn : '\r' ∉ text) (member : block ∈ splitBlocks text) : Plain block := by
  obtain ⟨first, others, split, _, parts⟩ := splitBlocks_shape text
  obtain ⟨inside, noBlankLine⟩ := parts block (split ▸ member)
  exact ⟨noBlankLine, fun held => noReturn (inside.subset held)⟩

end Blocks

section Lines

theorem stripReturn_plain (noReturn : '\r' ∉ line) : stripReturn line = line := by
  unfold stripReturn
  rw [if_neg]
  intro last
  exact noReturn (List.mem_of_getLast? last)

theorem map_stripReturn {parts : List Text} (noReturn : ∀ part ∈ parts, '\r' ∉ part) :
    parts.map stripReturn = parts := by
  rw [List.map_congr_left fun part member => stripReturn_plain (noReturn part member), List.map_id']

theorem intercalate_suffix (separator : Text) (before parts : List Text) :
    separator.intercalate parts <:+ separator.intercalate (before ++ parts) := by
  induction before with
  | nil => exact List.suffix_rfl
  | cons first before ih =>
    refine ih.trans ?_
    by_cases empty : before ++ parts = []
    · rw [empty]
      exact List.nil_suffix
    · rw [List.cons_append, List.intercalate_cons_of_ne_nil empty]
      exact List.suffix_append ..

theorem intercalate_front (separator : Text) (parts after : List Text) :
    separator.intercalate parts <+: separator.intercalate (parts ++ after) := by
  induction parts with
  | nil => exact List.nil_prefix
  | cons first parts ih =>
    cases parts with
    | nil =>
      cases after with
      | nil => exact List.prefix_rfl
      | cons next after =>
        rw [List.singleton_append, List.intercalate_singleton, List.intercalate_cons_cons,
          List.append_assoc]
        exact List.prefix_append ..
    | cons second parts =>
      rw [List.cons_append, List.cons_append, List.intercalate_cons_cons, List.intercalate_cons_cons]
      exact (List.prefix_append_right_inj _).mpr ih

theorem intercalate_concat (separator last : Text) {parts : List Text} (nonempty : parts ≠ []) :
    separator.intercalate (parts ++ [last]) = separator.intercalate parts ++ separator ++ last := by
  induction parts with
  | nil => exact absurd rfl nonempty
  | cons first parts ih =>
    cases parts with
    | nil => rw [List.singleton_append, List.intercalate_cons_cons, List.intercalate_singleton,
        List.intercalate_singleton]
    | cons second parts =>
      have rest := ih (List.cons_ne_nil _ _)
      rw [List.cons_append, List.cons_append, List.intercalate_cons_cons, List.intercalate_cons_cons]
      rw [List.cons_append] at rest
      rw [rest]
      simp only [List.append_assoc]

theorem joinLines_part {parts all : List Text} (inside : parts <:+: all) :
    joinLines parts <:+: joinLines all := by
  obtain ⟨before, after, rfl⟩ := inside
  exact (intercalate_suffix _ before parts).isInfix.trans (intercalate_front _ _ after).isInfix

theorem joinLines_splitOn (text : Text) : joinLines (text.splitOn '\n') = text :=
  List.intercalate_splitOn '\n'

theorem infix_of_mem_splitOn {part : Text} (member : part ∈ text.splitOn '\n') : part <:+: text := by
  obtain ⟨before, after, split⟩ := List.append_of_mem member
  have single : [part] <:+: text.splitOn '\n' := ⟨before, after, by rw [split]; simp⟩
  have inside := joinLines_part single
  rwa [joinLines_splitOn, joinLines, List.intercalate_singleton] at inside

theorem lines_eq (noReturn : '\r' ∉ text) : lines text =
    if (text.splitOn '\n').getLast?.getD [] = [] then (text.splitOn '\n').dropLast
    else text.splitOn '\n' := by
  have plainParts : (text.splitOn '\n').dropLast.map stripReturn = (text.splitOn '\n').dropLast :=
    map_stripReturn fun part member held =>
      noReturn ((infix_of_mem_splitOn (List.mem_of_mem_dropLast member)).subset held)
  unfold lines
  simp only [plainParts]
  split
  next => rw [List.append_nil]
  next some =>
    cases last : (text.splitOn '\n').getLast? with
    | none => exact absurd (List.getLast?_eq_none_iff.mp last) (List.splitOn_ne_nil _ _)
    | some line =>
      obtain ⟨before, split⟩ := List.getLast?_eq_some_iff.mp last
      rw [split]
      simp

theorem lines_prefix (noReturn : '\r' ∉ text) : lines text <+: text.splitOn '\n' := by
  rw [lines_eq noReturn]
  split
  next => exact List.dropLast_prefix _
  next => exact List.prefix_rfl

theorem lines_cons (first : '\n' ∉ line) (noReturn : '\r' ∉ line ++ '\n' :: rest) :
    lines (line ++ '\n' :: rest) = line :: lines rest := by
  have restPlain : '\r' ∉ rest := fun held => noReturn (by simp [held])
  rw [lines_eq noReturn, lines_eq restPlain, List.splitOn_append_cons_self_of_not_mem first]
  obtain ⟨part, parts, split⟩ := List.exists_cons_of_ne_nil (List.splitOn_ne_nil '\n' rest)
  rw [split, List.getLast?_cons_cons, List.dropLast_cons_cons]
  split <;> rfl

theorem joinLines_lines (noReturn : '\r' ∉ text) (closed : text.getLast? ≠ some '\n') :
    joinLines (lines text) = text := by
  rw [lines_eq noReturn]
  split
  next empty =>
    cases last : (text.splitOn '\n').getLast? with
    | none => exact absurd (List.getLast?_eq_none_iff.mp last) (List.splitOn_ne_nil _ _)
    | some line =>
      rw [last, Option.getD_some] at empty
      subst empty
      obtain ⟨before, split⟩ := List.getLast?_eq_some_iff.mp last
      have whole := joinLines_splitOn text
      rw [split] at whole
      rw [split, List.dropLast_concat]
      by_cases none : before = []
      · rw [none] at whole ⊢
        exact whole
      · rw [joinLines, intercalate_concat _ _ none, List.append_nil] at whole
        rw [← whole, List.getLast?_concat] at closed
        exact absurd rfl closed
  next => exact joinLines_splitOn text

end Lines

end StreamServer.EngineFs
