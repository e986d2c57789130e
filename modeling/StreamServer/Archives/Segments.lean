import StreamServer.Archives.Nntp

set_option autoImplicit false

namespace StreamServer.Archives

open ByteText

section Response

theorem whitespace_without_digit {trailing : Bytes} (member : trailing ∈ Client.whitespace) :
    (50 : UInt8) ∉ trailing := by
  have checked : ∀ trailing ∈ Client.whitespace, (50 : UInt8) ∉ trailing := by decide
  exact checked trailing member

theorem trimEndLoop_append (fuel : Nat) (text : Bytes) :
    ∃ trailing, text = Client.trimEndLoop fuel text ++ trailing ∧ (50 : UInt8) ∉ trailing := by
  induction fuel generalizing text with
  | zero => exact ⟨[], by simp [Client.trimEndLoop], by simp⟩
  | succ fuel ih =>
    unfold Client.trimEndLoop
    split
    next trailing found =>
      have ends : trailing.isSuffixOf text = true :=
        List.find?_some (p := fun trailing : Bytes => trailing.isSuffixOf text) found
      obtain ⟨kept, joined⟩ := List.isSuffixOf_iff_suffix.mp ends
      have cut : text.take (text.length - trailing.length) = kept := by
        rw [← joined]
        simp
      obtain ⟨further, same, withoutDigit⟩ := ih kept
      rw [cut]
      refine ⟨further ++ trailing, ?_, List.not_mem_append withoutDigit
        (whitespace_without_digit (List.mem_of_find?_eq_some found))⟩
      rw [← List.append_assoc, ← same, joined]
    next => exact ⟨[], by simp, by simp⟩

theorem startsWith_trimEnd (text : Bytes) :
    startsWith (utf8 "222") (Client.trimEnd text) = startsWith (utf8 "222") text := by
  obtain ⟨trailing, same, withoutDigit⟩ := trimEndLoop_append text.length text
  rw [Bool.eq_iff_iff]
  unfold startsWith
  rw [List.isPrefixOf_iff_prefix, List.isPrefixOf_iff_prefix]
  constructor
  · intro kept
    rw [same]
    exact kept.trans (List.prefix_append _ _)
  · intro starts
    have kept : Client.trimEnd text <+: text := ⟨trailing, same.symm⟩
    obtain inside | ⟨more, joined⟩ := List.prefix_or_prefix_of_prefix starts kept
    · exact inside
    · -- The status digits cannot lie in the part that is cut off.
      have cut : more <+: trailing := by
        rw [same, show utf8 "222" = _ from joined.symm] at starts
        exact (List.prefix_append_right_inj _).mp starts
      cases more with
      | nil => exact ⟨[], by rw [← joined]; simp⟩
      | cons digit more =>
        have isDigit : digit ∈ utf8 "222" := by
          rw [← joined]
          simp
        have two : digit = 50 := by
          have allTwo : ∀ digit ∈ utf8 "222", digit = 50 := by decide +kernel
          exact allTwo digit isDigit
        subst two
        exact absurd (cut.subset (by simp)) withoutDigit

end Response

section Transfer

def stuff (line : Bytes) : Bytes := if line.head? = some 46 then 46 :: line else line

def served (status : Bytes) (article : Article) : Bytes :=
  utf8 "222" ++ status ++ crlf ++
    (article.lines.flatMap (fun line => stuff line ++ crlf) ++ Client.terminator)

theorem stuff_cases (line : Bytes) :
    (∃ rest, line = 46 :: rest ∧ stuff line = 46 :: 46 :: rest) ∨
      (line.head? ≠ some 46 ∧ stuff line = line) := by
  by_cases dotted : line.head? = some 46
  · cases line with
    | nil => cases dotted
    | cons first rest =>
      cases dotted
      exact .inl ⟨rest, rfl, rfl⟩
  · exact .inr ⟨dotted, if_neg dotted⟩

theorem unstuff_stuff (line : Bytes) : Client.unstuff (stuff line ++ crlf) = line ++ crlf := by
  obtain ⟨rest, rfl, stuffed⟩ | ⟨notDotted, stuffed⟩ := stuff_cases line
  · have starts : startsWith (utf8 "..") (46 :: 46 :: rest ++ crlf) = true :=
      List.isPrefixOf_iff_prefix.mpr ⟨rest ++ crlf, rfl⟩
    rw [stuffed, Client.unstuff, if_pos starts]
    rfl
  · rw [stuffed, Client.unstuff, if_neg]
    intro starts
    obtain ⟨tail, joined⟩ := List.isPrefixOf_iff_prefix.mp starts
    have first := congrArg List.head? joined
    cases line with
    | nil => cases first
    | cons byte rest => exact notDotted first.symm

theorem stuff_ne_terminator (line : Bytes) : stuff line ++ crlf ≠ Client.terminator := by
  obtain ⟨rest, rfl, stuffed⟩ | ⟨notDotted, stuffed⟩ := stuff_cases line
  · rw [stuffed]
    intro same
    have second := congrArg (fun bytes : Bytes => bytes[1]?) same
    cases second
  · rw [stuffed]
    intro same
    have first := congrArg List.head? same
    cases line with
    | nil => cases first
    | cons byte rest => exact notDotted first

theorem not_mem_stuff {line : Bytes} (oneLine : (10 : UInt8) ∉ line) : (10 : UInt8) ∉ stuff line := by
  unfold stuff
  split
  next => simpa using oneLine
  next => exact oneLine

theorem not_mem_encodeByte (willing : Bool) (byte : UInt8) :
    (10 : UInt8) ∉ encodeByte willing byte := by
  obtain ⟨written, _, notLf⟩ | ⟨written, _, _, notLf⟩ := encodeByte_cases willing byte
  · simp [written, Ne.symm notLf]
  · simp [written, Ne.symm notLf]

theorem not_mem_encodeLines (lineLength : Nat) (willing : Nat → Bool) (index : Nat) {line : Bytes}
    (data : Bytes) (current : (10 : UInt8) ∉ line) :
    ∀ other ∈ encodeLines lineLength willing index line data, (10 : UInt8) ∉ other := by
  induction data generalizing index line with
  | nil =>
    unfold encodeLines
    split
    next => simp
    next => simpa using current
  | cons byte data ih =>
    have longer := List.not_mem_append current (not_mem_encodeByte (willing index) byte)
    unfold encodeLines
    simp only
    split
    next =>
      intro other member
      obtain rfl | later := List.mem_cons.mp member
      · exact longer
      · exact ih (index + 1) (by simp) other later
    next => exact ih (index + 1) longer

theorem Article.not_mem_lines (article : Article) :
    ∀ line ∈ article.lines, (10 : UInt8) ∉ line := by
  intro line member
  simp only [lines, List.mem_cons, List.mem_append, Option.mem_toList, Option.map_eq_some_iff,
    List.not_mem_nil, or_false] at member
  obtain rfl | ⟨text, isPart, rfl⟩ | isData | rfl := member
  · exact List.not_mem_append (by decide) article.headerLine
  · exact List.not_mem_append (by decide) (article.partLine text isPart)
  · exact not_mem_encodeLines _ _ _ _ (by simp) line isData
  · exact List.not_mem_append (by decide) article.trailerLine

def Article.wireLines (article : Article) : List Bytes :=
  article.lines.map fun line => stuff line ++ [13]

theorem served_eq (status : Bytes) (article : Article) :
    served status article = utf8 "222" ++ status ++ [13] ++
      10 :: (article.wireLines.flatMap (· ++ [10]) ++ Client.terminator) := by
  simp [served, Article.wireLines, crlf, List.flatMap_map]

theorem Article.not_mem_wireLines (article : Article) :
    ∀ line ∈ article.wireLines, (10 : UInt8) ∉ line := by
  intro line member
  obtain ⟨plain, isLine, rfl⟩ := List.mem_map.mp member
  exact List.not_mem_append (not_mem_stuff (article.not_mem_lines plain isLine)) (by decide)

theorem Article.wireLines_ne_terminator (article : Article) :
    ∀ line ∈ article.wireLines, line ++ [10] ≠ Client.terminator := by
  intro line member
  obtain ⟨plain, _, rfl⟩ := List.mem_map.mp member
  simpa [crlf] using stuff_ne_terminator plain

theorem Article.unstuff_wireLines (article : Article) :
    article.wireLines.flatMap (fun line => Client.unstuff (line ++ [10])) = article.text := by
  unfold wireLines text
  rw [List.flatMap_map]
  congr 1
  funext line
  simpa [crlf] using unstuff_stuff line

theorem splitLines_lines {lines : List Bytes} (oneLine : ∀ line ∈ lines, (10 : UInt8) ∉ line)
    (rest : Bytes) :
    splitLines (lines.flatMap (· ++ [10]) ++ rest) = lines.map (· ++ [10]) ++ splitLines rest := by
  induction lines with
  | nil => rfl
  | cons line lines ih =>
    have split : (line :: lines).flatMap (· ++ [10]) ++ rest =
        line ++ 10 :: (lines.flatMap (· ++ [10]) ++ rest) := by simp
    rw [split, splitLines_line (oneLine line (by simp)),
      ih fun other member => oneLine other (by simp [member])]
    rfl

theorem line_unique {line other rest further : Bytes} (oneLine : (10 : UInt8) ∉ line)
    (otherLine : (10 : UInt8) ∉ other) (same : line ++ 10 :: rest = other ++ 10 :: further) :
    line = other ∧ rest = further := by
  have lines := congrArg splitLines same
  rw [splitLines_line oneLine, splitLines_line otherLine] at lines
  have sameLine : line = other := List.append_cancel_right (List.cons.inj lines).1
  subst sameLine
  exact ⟨rfl, (List.cons.inj (List.append_cancel_left same)).2⟩

theorem length_le_flatMap (lines : List Bytes) :
    lines.length ≤ (lines.flatMap (· ++ [10])).length := by
  induction lines with
  | nil => simp
  | cons line lines ih =>
    simp only [List.flatMap_cons, List.length_cons, List.length_append]
    omega

theorem terminator_not_mem_cut {lines : List Bytes} (oneLine : ∀ line ∈ lines, (10 : UInt8) ∉ line)
    (goesOn : ∀ line ∈ lines, line ++ [10] ≠ Client.terminator) {received missing : Bytes}
    (cut : received ++ missing = lines.flatMap (· ++ [10]) ++ Client.terminator)
    (incomplete : missing ≠ []) : Client.terminator ∉ splitLines received := by
  induction lines generalizing received with
  | nil =>
    obtain rfl | ⟨nonempty, unfinished⟩ | ⟨first, rest, firstLine, rfl⟩ := line_cases received
    · simp [splitLines]
    · rw [splitLines_last unfinished nonempty, List.mem_singleton]
      rintro rfl
      exact unfinished (by decide)
    · have joined : first ++ 10 :: (rest ++ missing) = [46, 13] ++ 10 :: [] := by
        rw [← List.cons_append, ← List.append_assoc]
        exact cut
      have none := (line_unique firstLine (by decide) joined).2
      exact absurd (List.append_eq_nil_iff.mp none).2 incomplete
  | cons line lines ih =>
    obtain rfl | ⟨nonempty, unfinished⟩ | ⟨first, rest, firstLine, rfl⟩ := line_cases received
    · simp [splitLines]
    · rw [splitLines_last unfinished nonempty, List.mem_singleton]
      rintro rfl
      exact unfinished (by decide)
    · have joined : first ++ 10 :: (rest ++ missing) =
          line ++ 10 :: (lines.flatMap (· ++ [10]) ++ Client.terminator) := by simpa using cut
      obtain ⟨rfl, further⟩ := line_unique firstLine (oneLine line (by simp)) joined
      rw [splitLines_line firstLine, List.mem_cons, not_or]
      exact ⟨Ne.symm (goesOn first (by simp)),
        ih (fun other member => oneLine other (by simp [member]))
          (fun other member => goesOn other (by simp [member])) further⟩

end Transfer

section Fetch

variable {client : Client} {messageId : Bytes}

def afterCommand (client : Client) (messageId : Bytes) : Client :=
  { client with outgoing :=
      client.outgoing ++ (utf8 "BODY " ++ Client.bracketed messageId) ++ crlf }

theorem fetchBody_eq (writable : client.writable = true) :
    client.fetchBody messageId =
      match (afterCommand client messageId).readLine with
      | .error failure => .error failure
      | .ok (line, reader) =>
          if startsWith (utf8 "222") line then
            Client.bodyLoop (reader.incoming.length + 1) reader []
          else .error (.message (utf8 "Failed to fetch body for " ++ Client.bracketed messageId ++
            utf8 ": " ++ Client.trimEnd line)) := by
  have sent : client.sendCommand (utf8 "BODY " ++ Client.bracketed messageId) =
      .ok (afterCommand client messageId) := if_pos writable
  unfold Client.fetchBody
  simp only [sent]
  show (Client.readResponse _ >>= _) = _
  unfold Client.readResponse
  cases (afterCommand client messageId).readLine with
  | error failure => rfl
  | ok received =>
    show (if startsWith (utf8 "222") (Client.trimEnd received.1) = true then _ else _) = _
    rw [startsWith_trimEnd]

theorem fetchBody_served (writable : client.writable = true) {status : Bytes}
    (statusLine : (10 : UInt8) ∉ status) {article : Article} {later : Bytes}
    (incoming : client.incoming = served status article ++ later) :
    client.fetchBody messageId = if ∀ line ∈ splitLines (served status article), IsUtf8 line then
      .ok (article.text, { afterCommand client messageId with incoming := later })
      else .error .io := by
  have firstLine : (10 : UInt8) ∉ utf8 "222" ++ status ++ [13] :=
    List.not_mem_append (List.not_mem_append (by decide) statusLine) (by decide)
  have dotLines : splitLines Client.terminator = [Client.terminator] := by decide +kernel
  have dotValid : IsUtf8 Client.terminator := by decide +kernel
  have split : (afterCommand client messageId).incoming = utf8 "222" ++ status ++ [13] ++
      10 :: (article.wireLines.flatMap (· ++ [10]) ++ (Client.terminator ++ later)) := by
    show client.incoming = _
    rw [incoming, served_eq]
    simp
  rw [fetchBody_eq writable, readLine_line firstLine split, served_eq, splitLines_line firstLine,
    splitLines_lines article.not_mem_wireLines, dotLines]
  by_cases valid : IsUtf8 (utf8 "222" ++ status ++ [13] ++ [10])
  · have starts : startsWith (utf8 "222") (utf8 "222" ++ status ++ [13] ++ [10]) = true := by
      refine List.isPrefixOf_iff_prefix.mpr ⟨status ++ [13] ++ [10], ?_⟩
      simp
    have enough : article.wireLines.length <
        (article.wireLines.flatMap (· ++ [10]) ++ (Client.terminator ++ later)).length + 1 := by
      have short := length_le_flatMap article.wireLines
      rw [List.length_append]
      omega
    rw [if_pos valid]
    simp only
    rw [if_pos starts, bodyLoop_terminated enough article.not_mem_wireLines
      article.wireLines_ne_terminator rfl, article.unstuff_wireLines]
    have sameLines : (∀ line ∈ article.wireLines, IsUtf8 (line ++ [10])) ↔
        ∀ line ∈ (utf8 "222" ++ status ++ [13] ++ [10]) ::
          (article.wireLines.map (· ++ [10]) ++ [Client.terminator]), IsUtf8 line := by
      rw [List.forall_mem_cons, List.forall_mem_append, List.forall_mem_map, List.forall_mem_singleton]
      exact ⟨fun each => ⟨valid, each, dotValid⟩, fun all => all.2.1⟩
    simp only [sameLines, List.nil_append]
  · rw [if_neg valid, if_neg]
    intro allValid
    exact valid (allValid _ List.mem_cons_self)

theorem fetchBody_cut (writable : client.writable = true) {status missing : Bytes}
    (statusLine : (10 : UInt8) ∉ status) {article : Article}
    (cut : client.incoming ++ missing = served status article) (incomplete : missing ≠ []) :
    (∃ result, client.fetchBody messageId = .ok result) ↔
      client.ending = .closed ∧ startsWith (utf8 "222") client.incoming = true ∧
        ∀ line ∈ splitLines client.incoming, IsUtf8 line := by
  have firstLine : (10 : UInt8) ∉ utf8 "222" ++ status ++ [13] :=
    List.not_mem_append (List.not_mem_append (by decide) statusLine) (by decide)
  rw [served_eq] at cut
  rw [fetchBody_eq writable]
  by_cases ended : (10 : UInt8) ∈ client.incoming
  · obtain ⟨line, rest, split, oneLine⟩ := List.eq_append_cons_of_mem ended
    rw [split, List.append_assoc, List.cons_append] at cut
    obtain ⟨rfl, body⟩ := line_unique oneLine firstLine cut
    have starts : startsWith (utf8 "222") (utf8 "222" ++ status ++ [13] ++ [10]) = true := by
      refine List.isPrefixOf_iff_prefix.mpr ⟨status ++ [13] ++ [10], ?_⟩
      simp
    have startsAll : startsWith (utf8 "222") client.incoming = true := by
      refine List.isPrefixOf_iff_prefix.mpr ⟨status ++ [13] ++ 10 :: rest, ?_⟩
      rw [split]
      simp
    have unterminated := terminator_not_mem_cut article.not_mem_wireLines
      article.wireLines_ne_terminator body incomplete
    have asked : (afterCommand client messageId).incoming = _ := split
    rw [readLine_line oneLine asked, startsAll, split, splitLines_line oneLine]
    by_cases valid : IsUtf8 (utf8 "222" ++ status ++ [13] ++ [10])
    · rw [if_pos valid]
      simp only
      rw [if_pos starts]
      refine (bodyLoop_unterminated (Nat.lt_succ_self rest.length) unterminated).trans ?_
      rw [List.forall_mem_cons]
      exact ⟨fun closed => ⟨closed.1, trivial, valid, closed.2⟩, fun all => ⟨all.1, all.2.2.2⟩⟩
    · rw [if_neg valid, List.forall_mem_cons]
      constructor
      · rintro ⟨result, failed⟩
        cases failed
      · intro all
        exact absurd all.2.2.1 valid
  · have shown : (afterCommand client messageId).incoming = client.incoming := rfl
    have sameEnding : (afterCommand client messageId).ending = client.ending := rfl
    have asked : (10 : UInt8) ∉ (afterCommand client messageId).incoming := ended
    rw [readLine_last asked, shown, sameEnding]
    by_cases starts : startsWith (utf8 "222") client.incoming = true
    · have nonempty : client.incoming ≠ [] := by
        intro empty
        rw [empty] at starts
        cases starts
      rw [splitLines_last ended nonempty]
      by_cases valid : client.ending = .closed ∧ IsUtf8 client.incoming
      · rw [if_pos valid]
        simp only
        rw [if_pos starts]
        refine (bodyLoop_unterminated (Nat.lt_succ_self 0) (by simp [splitLines])).trans ?_
        rw [List.forall_mem_singleton]
        exact ⟨fun closed => ⟨closed.1, starts, valid.2⟩, fun all => ⟨all.1, by simp [splitLines]⟩⟩
      · rw [if_neg valid]
        simp [starts, valid]
    · constructor
      · rintro ⟨result, done⟩
        split at done
        next => cases done
        next line reader received =>
          split at received
          next =>
            cases received
            rw [if_neg starts] at done
            cases done
          next => cases received
      · intro all
        exact absurd all.2.1 starts

theorem exists_error_iff {α : Type} {result : Except FetchError α} :
    (∃ failure, result = .error failure) ↔ ¬ ∃ value, result = .ok value := by
  cases result with
  | error failure => simp
  | ok value => simp

def Client.answered (client : Client) (answer : Bytes) : Client :=
  { client with incoming := answer, writable := true }

def fetchAndDecode (client : Client) (messageId : Bytes) : Except FetchError Bytes :=
  (client.fetchBody messageId).map fun (body, _) => decodeYenc body

theorem fetchBody_then_decodeYenc (client : Client) (messageId : Bytes) (article : Article)
    {status : Bytes} (statusLine : (10 : UInt8) ∉ status) :
    (∀ later, fetchAndDecode (client.answered (served status article ++ later)) messageId =
        .ok article.data ↔
      ∀ line ∈ splitLines (served status article), IsUtf8 line) ∧
    (∀ received missing, received ++ missing = served status article → missing ≠ [] →
      ((∃ failure, (client.answered received).fetchBody messageId = .error failure) ↔
        client.ending = .failed ∨ startsWith (utf8 "222") received = false ∨
          ∃ line ∈ splitLines received, ¬ IsUtf8 line)) := by
  refine ⟨?_, ?_⟩
  · intro later
    unfold fetchAndDecode
    have arriving : (client.answered (served status article ++ later)).incoming = _ := rfl
    rw [fetchBody_served rfl statusLine arriving]
    by_cases valid : ∀ line ∈ splitLines (served status article), IsUtf8 line
    · rw [if_pos valid]
      refine ⟨fun _ => valid, fun _ => ?_⟩
      show Except.ok (decodeYenc article.text) = _
      rw [article.decodeYenc_text]
    · rw [if_neg valid]
      refine ⟨fun failed => ?_, fun all => absurd all valid⟩
      cases failed
  · intro received missing cut incomplete
    have arriving : (client.answered received).incoming ++ missing = served status article := cut
    rw [exists_error_iff, fetchBody_cut rfl statusLine arriving incomplete]
    simp only [Client.answered]
    cases client.ending with
    | failed => simp
    | closed =>
      simp only [true_and, not_and, not_forall, reduceCtorEq, false_or, exists_prop]
      by_cases starts : startsWith (utf8 "222") received = true
      · simp [starts]
      · simp [starts]

def emptyClient (ending : Ending) : Client := ⟨[], ending, [], true⟩

def smallArticle (data : Bytes) : Article where
  header := utf8 " line=128 size=1 name=a"
  part := none
  trailer := utf8 " size=1"
  lineLength := 128
  willing := fun _ => false
  data := data
  headerLine := by decide
  partLine := by simp
  trailerLine := by decide

theorem ascii_article_arrives :
    fetchAndDecode ((emptyClient .closed).answered (served (utf8 " 0 body") (smallArticle [7])))
      (utf8 "id") = .ok [7] := by
  have valid : ∀ line ∈ splitLines (served (utf8 " 0 body") (smallArticle [7])), IsUtf8 line := by
    decide +kernel
  have statusLine : (10 : UInt8) ∉ utf8 " 0 body" := by decide
  have arrives := ((fetchBody_then_decodeYenc (emptyClient .closed) (utf8 "id") (smallArticle [7])
    statusLine).1 []).mpr valid
  rw [List.append_nil] at arrives
  exact arrives

-- The encoded byte 0xC0 is not UTF-8, and a connection closed after the header passes for a body.
theorem segment_fails_or_is_cut_short :
    fetchAndDecode ((emptyClient .closed).answered (served (utf8 " 0 body") (smallArticle [150])))
      (utf8 "id") = .error .io ∧
    ∃ missing, missing ≠ [] ∧
      utf8 "222 0 body\r\n=ybegin" ++ missing = served (utf8 " 0 body") (smallArticle [7]) ∧
      (((emptyClient .closed).answered (utf8 "222 0 body\r\n=ybegin")).fetchBody (utf8 "id")).map
        Prod.fst = .ok (utf8 "=ybegin") :=
  ⟨by decide +kernel,
    utf8 " line=128 size=1 name=a\r\n1\r\n=yend size=1\r\n.\r\n", by decide +kernel, by decide +kernel,
    by decide +kernel⟩

end Fetch

end StreamServer.Archives
