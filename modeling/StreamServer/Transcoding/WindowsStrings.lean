import Mathlib.Data.List.Lex
import StreamServer.Shared.Lists

set_option autoImplicit false

namespace StreamServer.Transcoding.WindowsStrings

/-- Texts in UTF-16, as the system takes them. -/
abbrev Wide := List UInt16

def tab : UInt16 := 9
def space : UInt16 := 32
def quote : UInt16 := 34
def equals : UInt16 := 61
def backslash : UInt16 := 92

def stringLimit : Nat := 32767

def withinLimit (text : Wide) : Option Wide := if stringLimit < text.length then none else some text

theorem withinLimit_some {text kept : Wide} (within : withinLimit text = some kept) :
    kept = text ∧ text.length ≤ stringLimit := by
  unfold withinLimit at within
  split at within
  next => cases within
  next fits => exact ⟨(Option.some.inj within).symm, not_lt.mp fits⟩

section Rendering

def needsQuotes (argument : Wide) : Bool :=
  argument.isEmpty || argument.any fun unit => unit == space || unit == tab || unit == quote

/-- The backslashes read last are still to be written: what follows them decides how often. -/
def quoteUnits (backslashes : Nat) : Wide → Wide
  | [] => List.replicate (backslashes * 2) backslash
  | unit :: rest =>
      if unit = backslash then quoteUnits (backslashes + 1) rest
      else if unit = quote then
        List.replicate (backslashes * 2 + 1) backslash ++ unit :: quoteUnits 0 rest
      else List.replicate backslashes backslash ++ unit :: quoteUnits 0 rest

def quoteWindowsArgument (argument : Wide) : Wide :=
  if needsQuotes argument then quote :: (quoteUnits 0 argument ++ [quote]) else argument

def buildCommandLine (executable : Wide) (args : List Wide) : Option Wide :=
  if (executable :: args).any fun argument => argument.contains 0 then none
  else
    withinLimit (quoteWindowsArgument executable ++
      (args.flatMap fun argument => space :: quoteWindowsArgument argument) ++ [0])

end Rendering

section Reading

-- Where a C program stands in its command line. A quotation mark right after a quoted part that has
-- been `closed` stands for itself.
inductive Mode where
  | between
  | plain
  | quoted
  | closed
deriving DecidableEq, Repr

def Mode.within : Mode → Mode
  | .quoted => .quoted
  | .between | .plain | .closed => .plain

def isBlank (unit : UInt16) : Bool := unit == space || unit == tab

-- The arguments behind the name of the program, by the documented rules of the C runtime:
-- backslashes are themselves unless a quotation mark follows them, where each pair of them is one
-- and an odd one makes the mark part of the argument.
def readArguments : Mode → (slashes : Nat) → (taken : Wide) → Wide → List Wide
  | .between, _, _, [] => []
  | _, slashes, taken, [] => [taken ++ List.replicate slashes backslash]
  | mode, slashes, taken, unit :: rest =>
      if unit = backslash then readArguments mode.within (slashes + 1) taken rest
      else if unit = quote then
        let taken := taken ++ List.replicate (slashes / 2) backslash
        if slashes % 2 = 1 then readArguments mode.within 0 (taken ++ [quote]) rest
        else
          match mode with
          | .quoted => readArguments .closed 0 taken rest
          | .closed => readArguments .quoted 0 (taken ++ [quote]) rest
          | .between | .plain => readArguments .quoted 0 taken rest
      else if mode ≠ .quoted ∧ isBlank unit = true then
        if mode = .between then readArguments .between 0 [] rest
        else (taken ++ List.replicate slashes backslash) :: readArguments .between 0 [] rest
      else readArguments mode.within 0 (taken ++ List.replicate slashes backslash ++ [unit]) rest

/-- In the name of the program backslashes are nothing special. -/
def readProgram (quoted : Bool) (taken : Wide) : Wide → Wide × Wide
  | [] => (taken, [])
  | unit :: rest =>
      if unit = quote then readProgram (!quoted) taken rest
      else if !quoted && isBlank unit then (taken, unit :: rest)
      else readProgram quoted (taken ++ [unit]) rest

def readCommandLine (line : Wide) : List Wide :=
  let (program, rest) := readProgram false [] (line.takeWhile (· ≠ 0))
  program :: readArguments .between 0 [] rest

end Reading

section Arguments

variable {argument rest taken : Wide} {slashes backslashes : Nat} {mode : Mode}

theorem readArguments_backslashes (inside : mode = .plain ∨ mode = .quoted) (count : Nat) :
    readArguments mode slashes taken (List.replicate count backslash ++ rest) =
      readArguments mode (slashes + count) taken rest := by
  induction count generalizing slashes with
  | zero => rfl
  | succ count ih =>
    have same : mode.within = mode := by
      rcases inside with rfl | rfl <;> rfl
    rw [List.replicate_succ, List.cons_append, readArguments.eq_def]
    rcases inside with rfl | rfl
    · simp only [if_true, same]
      rw [ih, Nat.add_assoc, Nat.add_comm 1]
    · simp only [if_true, same]
      rw [ih, Nat.add_assoc, Nat.add_comm 1]

theorem readArguments_unit {unit : UInt16} (inside : mode = .plain ∨ mode = .quoted)
    (notSlash : unit ≠ backslash) (notMark : unit ≠ quote)
    (kept : mode = .quoted ∨ isBlank unit = false) :
    readArguments mode slashes taken (unit :: rest) =
      readArguments mode 0 (taken ++ List.replicate slashes backslash ++ [unit]) rest := by
  rw [readArguments.eq_def]
  rcases inside with rfl | rfl
  · have plain := kept.resolve_left (by decide)
    simp [notSlash, notMark, plain, Mode.within]
  · simp [notSlash, notMark, Mode.within]

theorem readArguments_escapedMark (count : Nat) :
    readArguments .quoted (count * 2 + 1) taken (quote :: rest) =
      readArguments .quoted 0 (taken ++ List.replicate count backslash ++ [quote]) rest := by
  have odd : (count * 2 + 1) % 2 = 1 := by omega
  have half : (count * 2 + 1) / 2 = count := by omega
  rw [readArguments.eq_def]
  simp only [odd, half, if_true, Mode.within]
  rw [if_neg (by decide)]

theorem readArguments_closingMark (count : Nat) :
    readArguments .quoted (count * 2) taken (quote :: rest) =
      readArguments .closed 0 (taken ++ List.replicate count backslash) rest := by
  have even : ¬ (count * 2) % 2 = 1 := by omega
  have half : count * 2 / 2 = count := by omega
  rw [readArguments.eq_def]
  simp only [even, half, if_true, if_false]
  rw [if_neg (by decide)]

theorem readArguments_quoteUnits :
    readArguments .quoted 0 taken (quoteUnits backslashes argument ++ quote :: rest) =
      readArguments .closed 0 (taken ++ List.replicate backslashes backslash ++ argument) rest := by
  induction argument generalizing backslashes taken with
  | nil =>
    rw [quoteUnits, readArguments_backslashes (.inr rfl), Nat.zero_add, readArguments_closingMark,
      List.append_nil]
  | cons unit argument ih =>
    unfold quoteUnits
    split
    next slash =>
      rw [ih, slash, List.replicate_succ']
      simp
    next notSlash =>
    split
    next mark =>
      rw [List.append_assoc, readArguments_backslashes (.inr rfl), Nat.zero_add, List.cons_append, mark,
        readArguments_escapedMark, ih]
      simp
    next notMark =>
      rw [List.append_assoc, readArguments_backslashes (.inr rfl), Nat.zero_add, List.cons_append,
        readArguments_unit (.inr rfl) notSlash notMark (.inl rfl), ih]
      simp

theorem readArguments_end (outside : mode = .plain ∨ mode = .closed) (others : List Wide)
    (behind : Wide)
    (next : behind = [] ∧ others = [] ∨ ∃ rest, behind = space :: rest ∧
      readArguments .between 0 [] behind = others) :
    readArguments mode slashes taken behind =
      (taken ++ List.replicate slashes backslash) :: others := by
  rcases next with ⟨rfl, rfl⟩ | ⟨rest, rfl, read⟩
  · rcases outside with rfl | rfl <;> rfl
  · have skipped : readArguments .between 0 [] (space :: rest) = readArguments .between 0 [] rest := rfl
    rw [skipped] at read
    rcases outside with rfl | rfl
    · exact congrArg _ read
    · exact congrArg _ read

theorem needsQuotes_eq_false : needsQuotes argument = false ↔
    argument ≠ [] ∧ ∀ unit ∈ argument, isBlank unit = false ∧ unit ≠ quote := by
  simp only [needsQuotes, isBlank, Bool.or_eq_false_iff, List.isEmpty_eq_false_iff, List.any_eq_false,
    Bool.or_eq_true, not_or, beq_iff_eq, beq_eq_false_iff_ne, ne_eq, and_assoc]

theorem readArguments_bare (bare : ∀ unit ∈ argument, isBlank unit = false ∧ unit ≠ quote)
    (others : List Wide) (behind : Wide)
    (next : behind = [] ∧ others = [] ∨ ∃ rest, behind = space :: rest ∧
      readArguments .between 0 [] behind = others) :
    readArguments .plain slashes taken (argument ++ behind) =
      (taken ++ List.replicate slashes backslash ++ argument) :: others := by
  induction argument generalizing slashes taken with
  | nil =>
    rw [List.append_nil]
    exact readArguments_end (.inl rfl) others behind next
  | cons unit argument ih =>
    obtain ⟨notBlank, notMark⟩ := bare unit List.mem_cons_self
    have later := fun other member => bare other (List.mem_cons_of_mem unit member)
    by_cases slash : unit = backslash
    · have counted : readArguments .plain slashes taken (unit :: (argument ++ behind)) =
          readArguments .plain (slashes + 1) taken (argument ++ behind) := by
        rw [readArguments.eq_def]
        exact if_pos slash
      rw [List.cons_append, counted, ih later, slash, List.replicate_succ']
      simp
    · rw [List.cons_append, readArguments_unit (.inl rfl) slash notMark (.inr notBlank), ih later]
      simp

theorem readArguments_rendered (argument : Wide) (others : List Wide) (behind : Wide)
    (next : behind = [] ∧ others = [] ∨ ∃ rest, behind = space :: rest ∧
      readArguments .between 0 [] behind = others) :
    readArguments .between 0 [] (quoteWindowsArgument argument ++ behind) = argument :: others := by
  unfold quoteWindowsArgument
  split
  next =>
    have opened : readArguments .between 0 [] (quote :: (quoteUnits 0 argument ++ quote :: behind)) =
        readArguments .quoted 0 [] (quoteUnits 0 argument ++ quote :: behind) := rfl
    rw [List.cons_append, List.append_assoc, List.singleton_append, opened, readArguments_quoteUnits,
      readArguments_end (.inr rfl) others behind next]
    simp
  next plain =>
    obtain ⟨nonempty, bare⟩ := needsQuotes_eq_false.mp (Bool.eq_false_iff.mpr plain)
    obtain ⟨first, rest, rfl⟩ := List.exists_cons_of_ne_nil nonempty
    obtain ⟨notBlank, notMark⟩ := bare first List.mem_cons_self
    have begins : readArguments .between 0 [] (first :: rest ++ behind) =
        readArguments .plain 0 [] (first :: rest ++ behind) := by
      rw [List.cons_append, readArguments.eq_def, readArguments.eq_def .plain]
      simp only [notMark, notBlank, Mode.within, if_false, Bool.false_eq_true, and_false]
    rw [begins, readArguments_bare bare others behind next]
    simp

theorem readArguments_args (args : List Wide) :
    readArguments .between 0 [] (args.flatMap fun argument => space :: quoteWindowsArgument argument) =
      args := by
  induction args with
  | nil => rfl
  | cons argument rest ih =>
    have skipped (behind : Wide) :
        readArguments .between 0 [] (space :: behind) = readArguments .between 0 [] behind := rfl
    rw [List.flatMap_cons, List.cons_append, skipped]
    apply readArguments_rendered
    cases rest with
    | nil => exact .inl ⟨rfl, rfl⟩
    | cons second rest => exact .inr ⟨_, rfl, ih⟩

end Arguments

section Programs

variable {executable : Wide}

theorem quoteUnits_unquoted (noMark : quote ∉ executable)
    (noSlash : executable.getLast? ≠ some backslash)
    (backslashes : Nat) (some : executable = [] → backslashes = 0) :
    quoteUnits backslashes executable = List.replicate backslashes backslash ++ executable := by
  induction executable generalizing backslashes with
  | nil =>
    rw [some rfl]
    rfl
  | cons unit rest ih =>
    have restMark : quote ∉ rest := fun member => noMark (List.mem_cons_of_mem unit member)
    have mark : unit ≠ quote := by
      rintro rfl
      exact noMark List.mem_cons_self
    by_cases last : rest = []
    · subst last
      have slash : unit ≠ backslash := by
        rintro rfl
        exact noSlash rfl
      simp [quoteUnits, slash, mark]
    · have restSlash : rest.getLast? ≠ Option.some backslash := by
        rwa [List.getLast?_cons_of_ne_nil last] at noSlash
      unfold quoteUnits
      split
      next slash =>
        rw [ih restMark restSlash _ (fun empty => absurd empty last), slash, List.replicate_succ']
        simp
      next =>
        rw [ih restMark restSlash 0 (fun empty => absurd empty last)]
        rfl

theorem readProgram_plain {quoted : Bool} {taken behind : Wide} (noMark : quote ∉ executable)
    (blanks : quoted = true ∨ ∀ unit ∈ executable, isBlank unit = false) :
    readProgram quoted taken (executable ++ behind) =
      readProgram quoted (taken ++ executable) behind := by
  induction executable generalizing taken with
  | nil => simp
  | cons unit rest ih =>
    have restMark : quote ∉ rest := fun member => noMark (List.mem_cons_of_mem unit member)
    have mark : unit ≠ quote := by
      rintro rfl
      exact noMark List.mem_cons_self
    have restBlanks : quoted = true ∨ ∀ unit ∈ rest, isBlank unit = false :=
      blanks.imp_right fun each other member => each other (List.mem_cons_of_mem unit member)
    have kept : (!quoted && isBlank unit) = false := by
      rcases blanks with rfl | each
      · rfl
      · rw [each unit List.mem_cons_self, Bool.and_false]
    rw [List.cons_append, readProgram, if_neg mark, kept, if_neg Bool.false_ne_true,
      ih restMark restBlanks]
    simp

theorem readProgram_rendered (noMark : quote ∉ executable)
    (noSlash : executable.getLast? ≠ some backslash) {behind : Wide}
    (next : behind = [] ∨ ∃ rest, behind = space :: rest) :
    readProgram false [] (quoteWindowsArgument executable ++ behind) = (executable, behind) := by
  have stops (taken : Wide) : readProgram false taken behind = (taken, behind) := by
    rcases next with rfl | ⟨rest, rfl⟩ <;> rfl
  unfold quoteWindowsArgument
  split
  next =>
    have opens (text : Wide) : readProgram false [] (quote :: text) = readProgram true [] text := rfl
    have closes (taken text : Wide) :
        readProgram true taken (quote :: text) = readProgram false taken text := rfl
    rw [List.cons_append, opens, quoteUnits_unquoted noMark noSlash 0 (fun _ => rfl),
      List.replicate_zero, List.nil_append, List.append_assoc, List.singleton_append,
      readProgram_plain noMark (.inl rfl), closes, List.nil_append, stops]
  next plain =>
    obtain ⟨-, bare⟩ := needsQuotes_eq_false.mp (Bool.eq_false_iff.mpr plain)
    rw [readProgram_plain noMark (.inr fun unit member => (bare unit member).1), List.nil_append, stops]

end Programs

section CommandLines

variable {executable : Wide} {args : List Wide} {line : Wide}

theorem quoteUnits_nonzero {argument : Wide} (plain : 0 ∉ argument) (backslashes : Nat) :
    0 ∉ quoteUnits backslashes argument := by
  induction argument generalizing backslashes with
  | nil =>
    intro member
    cases (List.mem_replicate.mp member).2
  | cons unit rest ih =>
    obtain ⟨first, others⟩ := not_or.mp (List.mem_cons.not.mp plain)
    have slashes (count : Nat) : 0 ∉ List.replicate count backslash := by
      intro member
      cases (List.mem_replicate.mp member).2
    unfold quoteUnits
    split
    next => exact ih others _
    next =>
    split
    next => simp [slashes, first, ih others]
    next => simp [slashes, first, ih others]

theorem quoteWindowsArgument_nonzero {argument : Wide} (plain : 0 ∉ argument) :
    0 ∉ quoteWindowsArgument argument := by
  unfold quoteWindowsArgument
  split
  next =>
    have inner := quoteUnits_nonzero plain 0
    simp [inner, quote]
  next => exact plain

theorem buildCommandLine_some (built : buildCommandLine executable args = some line) :
    (∀ argument ∈ executable :: args, 0 ∉ argument) ∧ line.length ≤ stringLimit ∧
      line = quoteWindowsArgument executable ++
        (args.flatMap fun argument => space :: quoteWindowsArgument argument) ++ [0] := by
  unfold buildCommandLine at built
  split at built
  next => cases built
  next plain =>
    obtain ⟨rfl, fits⟩ := withinLimit_some built
    refine ⟨?_, fits, rfl⟩
    intro argument member zero
    apply plain
    rw [List.any_eq_true]
    exact ⟨argument, member, List.contains_iff_mem.mpr zero⟩

theorem commandLine_read (noMark : quote ∉ executable)
    (noSlash : executable.getLast? ≠ some backslash)
    (built : buildCommandLine executable args = some line) :
    readCommandLine line = executable :: args ∧ line.count 0 = 1 ∧ line.getLast? = some 0 := by
  obtain ⟨plain, -, whole⟩ := buildCommandLine_some built
  have nonzero : 0 ∉ quoteWindowsArgument executable ++
      args.flatMap fun argument => space :: quoteWindowsArgument argument := by
    rw [List.mem_append, not_or, List.mem_flatMap]
    refine ⟨quoteWindowsArgument_nonzero (plain executable List.mem_cons_self), ?_⟩
    rintro ⟨argument, member, inside⟩
    rcases List.mem_cons.mp inside with blank | inside
    · cases blank
    · exact quoteWindowsArgument_nonzero (plain argument (List.mem_cons_of_mem _ member)) inside
  have text : line.takeWhile (· ≠ 0) = quoteWindowsArgument executable ++
      args.flatMap fun argument => space :: quoteWindowsArgument argument := by
    rw [whole, List.takeWhile_append_of_pos]
    · simp
    · intro unit member
      rw [decide_eq_true_eq]
      rintro rfl
      exact nonzero member
  refine ⟨?_, ?_, ?_⟩
  · have behind : (args.flatMap fun argument => space :: quoteWindowsArgument argument) = [] ∨
        ∃ rest, (args.flatMap fun argument => space :: quoteWindowsArgument argument) = space :: rest := by
      cases args with
      | nil => exact .inl rfl
      | cons first rest => exact .inr ⟨_, rfl⟩
    rw [readCommandLine, text, readProgram_rendered noMark noSlash behind]
    exact congrArg _ (readArguments_args args)
  · rw [whole, List.count_append, List.count_eq_zero_of_not_mem nonzero]
    rfl
  · rw [whole, List.getLast?_concat]

def wide (text : String) : Wide := text.toList.map fun unit => .ofNat unit.toNat

def ffmpeg : Wide := wide "C:\\Program Files\\ffmpeg.exe"

def awkward : List Wide :=
  [wide "", wide "a b", wide "say \"hi\"", wide "C:\\dir\\", wide "C:\\two words\\", wide "\\\"",
    wide "plain"]

theorem commandLine_read_awkward : ∃ line, buildCommandLine ffmpeg awkward = some line ∧
    readCommandLine line = ffmpeg :: awkward := by
  have built : (buildCommandLine ffmpeg awkward).isSome = true := by decide +kernel
  obtain ⟨line, made⟩ := Option.isSome_iff_exists.mp built
  exact ⟨line, made, (commandLine_read (by decide) (by decide) made).1⟩

end CommandLines

section Environment

-- `upper` is the system's table of upper-case letters, by which names are compared.
def ordinal (upper : UInt16 → UInt16) (name : Wide) : List Nat :=
  name.map fun unit => (upper unit).toNat

def repeats (upper : UInt16 → UInt16) : List (Wide × Wide) → Bool
  | first :: second :: rest =>
      ordinal upper first.1 == ordinal upper second.1 || repeats upper (second :: rest)
  | _ => false

def entryText (entry : Wide × Wide) : Wide := entry.1 ++ equals :: (entry.2 ++ [0])

def buildEnvironmentBlock (upper : UInt16 → UInt16) (environment : List (Wide × Wide)) : Option Wide :=
  if environment.any fun entry =>
      entry.1.isEmpty || entry.1.contains equals || entry.1.contains 0 || entry.2.contains 0 then none
  else
    let entries := SortDedup.sortBy (fun entry => ordinal upper entry.1) environment
    if repeats upper entries then none
    else withinLimit (entries.flatMap entryText ++ 0 :: (if environment.isEmpty then [0] else []))

-- A program finds texts that end in a zero, the last of them empty, and cuts each at its first sign.
def readEnvironment : (name value : Wide) → (named : Bool) → Wide → List (Wide × Wide)
  | _, _, _, [] => []
  | name, value, named, unit :: rest =>
      if unit = 0 then
        if name = [] then [] else (name, value) :: readEnvironment [] [] false rest
      else if named then readEnvironment name (value ++ [unit]) true rest
      else if unit = equals ∧ name ≠ [] then readEnvironment name [] true rest
      else readEnvironment (name ++ [unit]) [] false rest

structure Plain (entry : Wide × Wide) : Prop where
  named : entry.1 ≠ []
  unsigned : equals ∉ entry.1
  name : 0 ∉ entry.1
  value : 0 ∉ entry.2

theorem readEnvironment_value {name value more : Wide} (named : name ≠ []) (plain : 0 ∉ more)
    (rest : Wide) :
    readEnvironment name value true (more ++ 0 :: rest) =
      (name, value ++ more) :: readEnvironment [] [] false rest := by
  induction more generalizing value with
  | nil => simp [readEnvironment, named]
  | cons unit more ih =>
    obtain ⟨first, others⟩ := not_or.mp (List.mem_cons.not.mp plain)
    rw [List.cons_append, readEnvironment, if_neg (Ne.symm first), if_pos rfl, ih others]
    simp

theorem readEnvironment_name {name more : Wide} (named : name ++ more ≠ []) (plain : 0 ∉ more)
    (unsigned : equals ∉ more) (rest : Wide) :
    readEnvironment name [] false (more ++ equals :: rest) =
      readEnvironment (name ++ more) [] true rest := by
  induction more generalizing name with
  | nil =>
    rw [List.append_nil] at named ⊢
    simp [readEnvironment, named, equals]
  | cons unit more ih =>
    obtain ⟨first, others⟩ := not_or.mp (List.mem_cons.not.mp plain)
    obtain ⟨notSign, othersUnsigned⟩ := not_or.mp (List.mem_cons.not.mp unsigned)
    have cut : ¬ (unit = equals ∧ name ≠ []) := fun both => notSign both.1.symm
    rw [List.cons_append, readEnvironment, if_neg (Ne.symm first), if_neg Bool.false_ne_true, if_neg cut,
      ih (by simp) others othersUnsigned]
    simp

theorem readEnvironment_entries {entries : List (Wide × Wide)} (plain : ∀ entry ∈ entries, Plain entry)
    (rest : Wide) :
    readEnvironment [] [] false (entries.flatMap entryText ++ 0 :: rest) = entries := by
  induction entries with
  | nil => rfl
  | cons entry entries ih =>
    have first := plain entry List.mem_cons_self
    have named : [] ++ entry.1 ≠ [] := first.named
    rw [List.flatMap_cons, entryText, List.append_assoc, List.append_assoc, List.cons_append,
      List.append_assoc, readEnvironment_name named first.name first.unsigned, List.nil_append,
      List.singleton_append, readEnvironment_value first.named first.value,
      ih fun other member => plain other (List.mem_cons_of_mem entry member)]
    simp

theorem ordinal_increasing {upper : UInt16 → UInt16} {entries : List (Wide × Wide)}
    (sorted : entries.Pairwise fun left right => ordinal upper left.1 ≤ ordinal upper right.1)
    (unrepeated : repeats upper entries = false) :
    entries.Pairwise fun left right => ordinal upper left.1 < ordinal upper right.1 := by
  induction entries with
  | nil => exact List.Pairwise.nil
  | cons first rest ih =>
    cases rest with
    | nil => exact List.pairwise_singleton _ _
    | cons second rest =>
      rw [repeats, Bool.or_eq_false_iff, beq_eq_false_iff_ne] at unrepeated
      obtain ⟨below, later⟩ := List.pairwise_cons.mp sorted
      have increasing := ih later unrepeated.2
      refine List.pairwise_cons.mpr ⟨?_, increasing⟩
      -- The neighbour is above, and everything else is above the neighbour.
      have next : ordinal upper first.1 < ordinal upper second.1 :=
        lt_of_le_of_ne (below second List.mem_cons_self) unrepeated.1
      intro other member
      rcases List.mem_cons.mp member with rfl | member
      · exact next
      · exact next.trans ((List.pairwise_cons.mp increasing).1 other member)

theorem find?_ordinal {upper : UInt16 → UInt16} {entries : List (Wide × Wide)}
    (increasing : entries.Pairwise fun left right => ordinal upper left.1 < ordinal upper right.1)
    {entry : Wide × Wide} (member : entry ∈ entries) {name : Wide}
    (same : ordinal upper name = ordinal upper entry.1) :
    entries.find? (fun other => ordinal upper other.1 = ordinal upper name) = some entry := by
  induction entries with
  | nil => cases member
  | cons first rest ih =>
    obtain ⟨below, later⟩ := List.pairwise_cons.mp increasing
    rcases List.mem_cons.mp member with rfl | member
    · simp [same]
    · have other : ¬ ordinal upper first.1 = ordinal upper name := by
        rw [same]
        exact (below entry member).ne
      rw [List.find?_cons_of_neg (by simpa using other)]
      exact ih later member

structure FoundAgain (upper : UInt16 → UInt16) (environment found : List (Wide × Wide)) : Prop where
  same : found.Perm environment
  increasing : found.Pairwise fun left right => ordinal upper left.1 < ordinal upper right.1
  lookups : ∀ name value spelt, (name, value) ∈ environment →
    ordinal upper spelt = ordinal upper name →
      found.find? (fun entry => ordinal upper entry.1 = ordinal upper spelt) = some (name, value)

theorem environmentBlock_read {upper : UInt16 → UInt16} {environment : List (Wide × Wide)}
    {block : Wide}
    (built : buildEnvironmentBlock upper environment = some block) :
    FoundAgain upper environment (readEnvironment [] [] false block) ∧ block.length ≤ stringLimit := by
  unfold buildEnvironmentBlock at built
  split at built
  next => cases built
  next allowed =>
  simp only at built
  split at built
  next => cases built
  next unrepeated =>
  obtain ⟨rfl, fits⟩ := withinLimit_some built
  let entries := SortDedup.sortBy (fun entry : Wide × Wide => ordinal upper entry.1) environment
  have perm : entries.Perm environment := List.perm_insertionSort _ _
  have plain : ∀ entry ∈ entries, Plain entry := by
    intro entry member
    have given := perm.mem_iff.mp member
    rw [List.any_eq_true, not_exists] at allowed
    have kept := not_and.mp (allowed entry) given
    simp only [Bool.or_eq_true, not_or, List.isEmpty_iff, List.contains_iff_mem] at kept
    exact ⟨kept.1.1.1, kept.1.1.2, kept.1.2, kept.2⟩
  have increasing := ordinal_increasing (SortDedup.sortBy_pairwise _ environment)
    (Bool.eq_false_iff.mpr unrepeated)
  refine ⟨?_, fits⟩
  rw [readEnvironment_entries plain]
  refine ⟨perm, increasing, ?_⟩
  intro name value spelt given same
  exact find?_ordinal increasing (perm.mem_iff.mpr given) same

def asciiUpper (unit : UInt16) : UInt16 := if 97 ≤ unit ∧ unit ≤ 122 then unit - 32 else unit

def systemEntries : List (Wide × Wide) :=
  [(wide "SystemRoot", wide "C:\\Windows"), (wide "Path", wide "C:\\a;C:\\b=c"), (wide "lang", wide "")]

theorem environmentBlock_read_systemEntries : ∃ block,
    buildEnvironmentBlock asciiUpper systemEntries = some block ∧
      FoundAgain asciiUpper systemEntries (readEnvironment [] [] false block) := by
  have built : (buildEnvironmentBlock asciiUpper systemEntries).isSome = true := by decide +kernel
  obtain ⟨block, made⟩ := Option.isSome_iff_exists.mp built
  exact ⟨block, made, (environmentBlock_read made).1⟩

end Environment

end StreamServer.Transcoding.WindowsStrings
