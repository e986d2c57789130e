import StreamServer.Shared.ByteText

set_option autoImplicit false

namespace StreamServer.Archives

open ByteText

section Decoder

def startMarker : Bytes := utf8 "=ybegin"

def partMarker : Bytes := utf8 "=ypart"

def endMarker : Bytes := utf8 "=yend"

def decodeData : Bytes → Bytes
  | [] => []
  | byte :: rest =>
      if byte = 61 ∧ startsWith endMarker (byte :: rest) then []
      else if byte = 61 then
        match rest with
        | [] => []
        | escaped :: rest => (escaped - 64 - 42) :: decodeData rest
      else if byte = 13 ∨ byte = 10 then decodeData rest
      else (byte - 42) :: decodeData rest

def skipLine (input : Bytes) : Bytes :=
  match input.findIdx? (· = 10) with
  | some position => input.drop (position + 1)
  | none => input

-- `decode_yenc` has no error path.
def decodeYenc (input : Bytes) : Bytes :=
  let startIdx := ((windows startMarker.length input).findIdx? (· = startMarker)).getD 0
  let afterHeader := skipLine (input.drop startIdx)
  let data := if startsWith partMarker afterHeader then skipLine afterHeader else afterHeader
  decodeData data

end Decoder

section Encoder

/-- An encoder escapes the critical bytes and may escape a dot, a tab or a space. -/
def mustEscape (encoded : UInt8) : Bool :=
  encoded == 0 || encoded == 10 || encoded == 13 || encoded == 61

def mayEscape (encoded : UInt8) : Bool := encoded == 46 || encoded == 9 || encoded == 32

def encodeByte (willing : Bool) (byte : UInt8) : Bytes :=
  let encoded := byte + 42
  if mustEscape encoded || (willing && mayEscape encoded) then [61, encoded + 64] else [encoded]

/-- A line ends when it has reached the line length; an escaped byte is never cut in two. -/
def encodeLines (lineLength : Nat) (willing : Nat → Bool) : Nat → Bytes → Bytes → List Bytes
  | _, line, [] => if line = [] then [] else [line]
  | index, line, byte :: rest =>
      let longer := line ++ encodeByte (willing index) byte
      if lineLength ≤ longer.length then longer :: encodeLines lineLength willing (index + 1) [] rest
      else encodeLines lineLength willing (index + 1) longer rest

def crlf : Bytes := [13, 10]

inductive LineEnding where
  | crlf
  | lf
deriving DecidableEq, Repr

def LineEnding.bytes : LineEnding → Bytes
  | .crlf => Archives.crlf
  | .lf => [10]

structure Article where
  header : Bytes
  part : Option Bytes
  trailer : Bytes
  lineLength : Nat
  willing : Nat → Bool
  data : Bytes
  headerLine : (10 : UInt8) ∉ header
  partLine : ∀ text ∈ part, (10 : UInt8) ∉ text
  trailerLine : (10 : UInt8) ∉ trailer

namespace Article

def dataLines (article : Article) : List Bytes :=
  encodeLines article.lineLength article.willing 0 [] article.data

def lines (article : Article) : List Bytes :=
  (startMarker ++ article.header) ::
    ((article.part.map (partMarker ++ ·)).toList ++
      (article.dataLines ++ [endMarker ++ article.trailer]))

def text (article : Article) : Bytes := article.lines.flatMap (· ++ crlf)

def textWith (article : Article) (ending : LineEnding) : Bytes :=
  article.lines.flatMap (· ++ ending.bytes)

end Article

end Encoder

section RoundTrip

theorem encodeByte_cases (willing : Bool) (byte : UInt8) :
    (encodeByte willing byte = [61, byte + 42 + 64] ∧ byte + 42 + 64 ≠ 121 ∧ byte + 42 + 64 ≠ 10) ∨
    (encodeByte willing byte = [byte + 42] ∧ byte + 42 ≠ 61 ∧ byte + 42 ≠ 13 ∧ byte + 42 ≠ 10) := by
  revert byte
  apply forall_byte
  cases willing <;> decide +kernel

theorem decodeData_escape {escaped : UInt8} (rest : Bytes) (notKeyword : escaped ≠ 121) :
    decodeData (61 :: escaped :: rest) = (escaped - 64 - 42) :: decodeData rest := by
  have noMarker : ¬ (startsWith endMarker (61 :: escaped :: rest) = true) := by
    simp only [startsWith, endMarker, List.isPrefixOf_iff_prefix]
    rintro ⟨tail, joined⟩
    have second := congrArg (fun bytes : Bytes => bytes[1]?) joined
    exact notKeyword (Option.some.inj second.symm)
  rw [decodeData.eq_def]
  simp only
  rw [if_neg (fun both => noMarker both.2), if_pos True.intro]

theorem decodeData_plain {byte : UInt8} (rest : Bytes) (notEscape : byte ≠ 61) (notCr : byte ≠ 13)
    (notLf : byte ≠ 10) : decodeData (byte :: rest) = (byte - 42) :: decodeData rest := by
  rw [decodeData.eq_def]
  simp only
  rw [if_neg (fun both => notEscape both.1), if_neg notEscape, if_neg (by simp [notCr, notLf])]

theorem decodeData_encodeByte (willing : Bool) (byte : UInt8) (rest : Bytes) :
    decodeData (encodeByte willing byte ++ rest) = byte :: decodeData rest := by
  obtain ⟨written, notKeyword, _⟩ | ⟨written, notEscape, notCr, notLf⟩ :=
    encodeByte_cases willing byte
  · rw [written, List.cons_append, List.singleton_append, decodeData_escape rest notKeyword]
    congr 1
    simp
  · rw [written, List.singleton_append, decodeData_plain rest notEscape notCr notLf]
    congr 1
    exact UInt8.add_sub_cancel byte 42

theorem decodeData_newline {byte : UInt8} (rest : Bytes) (newline : byte = 13 ∨ byte = 10) :
    decodeData (byte :: rest) = decodeData rest := by
  have notEscape : byte ≠ 61 := by
    rintro rfl
    simp at newline
  rw [decodeData.eq_def]
  simp only
  rw [if_neg (fun both => notEscape both.1), if_neg notEscape, if_pos newline]

theorem decodeData_ending (ending : LineEnding) (rest : Bytes) :
    decodeData (ending.bytes ++ rest) = decodeData rest := by
  cases ending with
  | crlf => exact (decodeData_newline (10 :: rest) (.inl rfl)).trans (decodeData_newline rest (.inr rfl))
  | lf => exact decodeData_newline rest (.inr rfl)

-- The bytes already written to the current line decode first.
theorem decodeData_encodeLines (lineLength : Nat) (willing : Nat → Bool) (ending : LineEnding)
    (index : Nat) {line written : Bytes} (data rest : Bytes)
    (current : ∀ more, decodeData (line ++ more) = written ++ decodeData more) :
    decodeData ((encodeLines lineLength willing index line data).flatMap (· ++ ending.bytes) ++ rest) =
      written ++ data ++ decodeData rest := by
  induction data generalizing index line written with
  | nil =>
    unfold encodeLines
    split
    next empty =>
      subst empty
      simpa using current rest
    next => simp [current, decodeData_ending]
  | cons byte data ih =>
    have longer : ∀ more, decodeData (line ++ encodeByte (willing index) byte ++ more) =
        written ++ [byte] ++ decodeData more := by
      intro more
      rw [List.append_assoc, current, decodeData_encodeByte]
      simp
    unfold encodeLines
    simp only
    split
    next =>
      have nothing : ∀ more, decodeData ([] ++ more) = [] ++ decodeData more := fun more => rfl
      have fresh := ih (index + 1) nothing
      rw [List.flatMap_cons, List.append_assoc, List.append_assoc, longer, decodeData_ending, fresh]
      simp
    next =>
      rw [ih (index + 1) longer]
      simp

theorem encodeByte_ne_nil (willing : Bool) (byte : UInt8) : encodeByte willing byte ≠ [] := by
  obtain ⟨written, _⟩ | ⟨written, _⟩ := encodeByte_cases willing byte <;> simp [written]

theorem encodeLines_opening (lineLength : Nat) (willing : Nat → Bool) (ending : LineEnding)
    (index : Nat) {line : Bytes} (nonempty : line ≠ []) (data : Bytes) :
    ∃ more, (encodeLines lineLength willing index line data).flatMap (· ++ ending.bytes) =
      line ++ more := by
  induction data generalizing index line with
  | nil => exact ⟨ending.bytes, by simp [encodeLines, nonempty]⟩
  | cons byte data ih =>
    unfold encodeLines
    simp only
    split
    next =>
      rw [List.flatMap_cons, List.append_assoc, List.append_assoc]
      exact ⟨_, rfl⟩
    next =>
      have longer : line ++ encodeByte (willing index) byte ≠ [] := by simp [nonempty]
      obtain ⟨more, opened⟩ := ih (index + 1) longer
      exact ⟨_, opened.trans (List.append_assoc _ _ _)⟩

theorem not_startsWith_part {bytes rest : Bytes} (willing : Bool) (byte : UInt8)
    (opened : bytes = encodeByte willing byte ++ rest) :
    startsWith partMarker bytes = false := by
  rw [Bool.eq_false_iff]
  intro starts
  obtain ⟨tail, joined⟩ := List.isPrefixOf_iff_prefix.mp starts
  rw [opened] at joined
  obtain ⟨written, notKeyword, _⟩ | ⟨written, notEscape, _⟩ := encodeByte_cases willing byte
  · rw [written] at joined
    have second := congrArg (fun bytes : Bytes => bytes[1]?) joined
    exact notKeyword (Option.some.inj second.symm)
  · rw [written] at joined
    have first := congrArg (fun bytes : Bytes => bytes[0]?) joined
    exact notEscape (Option.some.inj first.symm)

theorem LineEnding.split (ending : LineEnding) :
    ∃ before, ending.bytes = before ++ [10] ∧ (10 : UInt8) ∉ before := by
  cases ending with
  | crlf => exact ⟨[13], rfl, by decide⟩
  | lf => exact ⟨[], rfl, by decide⟩

theorem skipLine_append {line : Bytes} (ending : LineEnding) (oneLine : (10 : UInt8) ∉ line)
    (rest : Bytes) : skipLine (line ++ ending.bytes ++ rest) = rest := by
  obtain ⟨before, ends, oneEnd⟩ := ending.split
  have split : line ++ ending.bytes ++ rest = (line ++ before) ++ 10 :: rest := by simp [ends]
  have found := findIdx?_separator (List.not_mem_append oneLine oneEnd) rest
  rw [skipLine, split, found]
  simp only
  rw [← List.drop_drop, List.drop_left]
  rfl

namespace Article

def body (article : Article) (ending : LineEnding) : Bytes :=
  article.dataLines.flatMap (· ++ ending.bytes) ++ (endMarker ++ article.trailer ++ ending.bytes)

theorem decodeData_body (article : Article) (ending : LineEnding) :
    decodeData (article.body ending) = article.data := by
  have nothing : ∀ more, decodeData ([] ++ more) = [] ++ decodeData more := fun more => rfl
  unfold body dataLines
  rw [decodeData_encodeLines _ _ _ _ _ _ nothing]
  have ended : decodeData (endMarker ++ article.trailer ++ ending.bytes) = [] := by
    rw [List.append_assoc]
    show decodeData (61 :: (utf8 "yend" ++ (article.trailer ++ ending.bytes))) = []
    rw [decodeData.eq_def]
    exact if_pos ⟨rfl, List.isPrefixOf_iff_prefix.mpr ⟨_, rfl⟩⟩
  rw [ended]
  simp

theorem noPart_of_body (article : Article) (ending : LineEnding) :
    startsWith partMarker (article.body ending) = false := by
  unfold body dataLines
  cases whole : article.data with
  | nil =>
    rw [Bool.eq_false_iff]
    intro starts
    obtain ⟨tail, joined⟩ := List.isPrefixOf_iff_prefix.mp starts
    have third := congrArg (fun bytes : Bytes => bytes[2]?) joined
    cases third
  | cons byte data =>
    unfold encodeLines
    simp only [List.nil_append]
    split
    next =>
      rw [List.flatMap_cons, List.append_assoc, List.append_assoc]
      exact not_startsWith_part _ byte rfl
    next =>
      obtain ⟨more, opened⟩ := encodeLines_opening article.lineLength article.willing ending (0 + 1)
        (encodeByte_ne_nil (article.willing 0) byte) data
      rw [opened, List.append_assoc]
      exact not_startsWith_part _ byte rfl

theorem decodeYenc_textWith (article : Article) (ending : LineEnding) :
    decodeYenc (article.textWith ending) = decodeData (article.body ending) := by
  have written : article.textWith ending = startMarker ++ article.header ++ ending.bytes ++
      ((article.part.map (partMarker ++ ·)).toList.flatMap (· ++ ending.bytes) ++
        article.body ending) := by
    simp [textWith, lines, body, List.flatMap_append]
  have atStart : (windows startMarker.length (article.textWith ending)).findIdx? (· = startMarker) =
      some 0 := by
    refine (windows_findIdx?_eq_some_iff (by decide)).mpr ⟨?_, fun earlier before => by omega⟩
    rw [written]
    simp [OccursAt]
  have headerLine : (10 : UInt8) ∉ startMarker ++ article.header :=
    List.not_mem_append (by decide) article.headerLine
  unfold decodeYenc
  rw [atStart]
  simp only [Option.getD_some, List.drop_zero]
  rw [written, skipLine_append ending headerLine]
  cases part : article.part with
  | none =>
    simp only [Option.map_none, Option.toList_none, List.flatMap_nil, List.nil_append]
    rw [article.noPart_of_body, if_neg (by decide)]
  | some text =>
    have partLine : (10 : UInt8) ∉ partMarker ++ text :=
      List.not_mem_append (by decide) (article.partLine text part)
    simp only [Option.map_some, Option.toList_some, List.flatMap_singleton]
    have starts : startsWith partMarker (partMarker ++ text ++ ending.bytes ++ article.body ending) =
        true := by
      rw [List.append_assoc, List.append_assoc]
      exact List.isPrefixOf_iff_prefix.mpr ⟨_, rfl⟩
    rw [starts, if_pos rfl, skipLine_append ending partLine]

theorem decodeYenc_text (article : Article) : decodeYenc article.text = article.data :=
  (article.decodeYenc_textWith .crlf).trans (article.decodeData_body .crlf)

theorem decodeYenc_undoes (article : Article) (ending : LineEnding) :
    decodeYenc (article.textWith ending) = article.data :=
  (article.decodeYenc_textWith ending).trans (article.decodeData_body ending)

end Article

end RoundTrip

end StreamServer.Archives
