import StreamServer.Archives.Yenc

set_option autoImplicit false

namespace StreamServer.Archives

open ByteText

inductive Ending where
  | closed
  | failed
deriving DecidableEq, Repr

structure Client where
  incoming : Bytes
  ending : Ending
  outgoing : Bytes
  writable : Bool
deriving DecidableEq, Repr

inductive FetchError where
  | io
  | message (text : Bytes)
deriving DecidableEq, Repr

namespace Client

-- `read_line` appends the bytes up to a line feed or the end of the stream to a `String`, so bytes
-- that are not UTF-8 are an error.
def readLine (client : Client) : Except FetchError (Bytes × Client) :=
  match client.incoming.findIdx? (· = 10) with
  | some position =>
      if IsUtf8 (client.incoming.take (position + 1)) then
        .ok (client.incoming.take (position + 1),
          { client with incoming := client.incoming.drop (position + 1) })
      else .error .io
  | none =>
      match client.ending with
      | .failed => .error .io
      | .closed =>
          if IsUtf8 client.incoming then .ok (client.incoming, { client with incoming := [] })
          else .error .io

def sendCommand (client : Client) (command : Bytes) : Except FetchError Client :=
  if client.writable then .ok { client with outgoing := client.outgoing ++ command ++ crlf }
  else .error .io

def whitespace : List Bytes :=
  [[9], [10], [11], [12], [13], [32], [0xC2, 0x85], [0xC2, 0xA0], [0xE1, 0x9A, 0x80],
    [0xE2, 0x80, 0x80], [0xE2, 0x80, 0x81], [0xE2, 0x80, 0x82], [0xE2, 0x80, 0x83],
    [0xE2, 0x80, 0x84], [0xE2, 0x80, 0x85], [0xE2, 0x80, 0x86], [0xE2, 0x80, 0x87],
    [0xE2, 0x80, 0x88], [0xE2, 0x80, 0x89], [0xE2, 0x80, 0x8A], [0xE2, 0x80, 0xA8],
    [0xE2, 0x80, 0xA9], [0xE2, 0x80, 0xAF], [0xE2, 0x81, 0x9F], [0xE3, 0x80, 0x80]]

def trimEndLoop : Nat → Bytes → Bytes
  | 0, text => text
  | fuel + 1, text =>
      match whitespace.find? (·.isSuffixOf text) with
      | some trailing => trimEndLoop fuel (text.take (text.length - trailing.length))
      | none => text

def trimEnd (text : Bytes) : Bytes := trimEndLoop text.length text

def readResponse (client : Client) : Except FetchError (Bytes × Client) := do
  let (line, client) ← client.readLine
  .ok (trimEnd line, client)

def terminator : Bytes := utf8 ".\r\n"

def unstuff (line : Bytes) : Bytes := if startsWith (utf8 "..") line then line.tail else line

def bodyLoop : Nat → Client → Bytes → Except FetchError (Bytes × Client)
  | 0, _, _ => .error .io
  | fuel + 1, client, body => do
      let (line, client) ← client.readLine
      if line = [] then .ok (body, client)
      else if line = terminator then .ok (body, client)
      else bodyLoop fuel client (body ++ unstuff line)

def bracketed (messageId : Bytes) : Bytes :=
  if startsWith (utf8 "<") messageId then messageId else utf8 "<" ++ messageId ++ utf8 ">"

def fetchBody (client : Client) (messageId : Bytes) : Except FetchError (Bytes × Client) := do
  let msgId := bracketed messageId
  let client ← client.sendCommand (utf8 "BODY " ++ msgId)
  let (response, client) ← client.readResponse
  if startsWith (utf8 "222") response then bodyLoop (client.incoming.length + 1) client []
  else .error (.message (utf8 "Failed to fetch body for " ++ msgId ++ utf8 ": " ++ response))

end Client

section Lines

def splitLines : Bytes → List Bytes
  | [] => []
  | byte :: rest =>
      if byte = 10 then [byte] :: splitLines rest
      else
        match splitLines rest with
        | [] => [[byte]]
        | line :: lines => (byte :: line) :: lines

theorem splitLines_line {line : Bytes} (oneLine : (10 : UInt8) ∉ line) (rest : Bytes) :
    splitLines (line ++ 10 :: rest) = (line ++ [10]) :: splitLines rest := by
  induction line with
  | nil => simp [splitLines]
  | cons byte line ih =>
    simp only [List.mem_cons, not_or] at oneLine
    simp [splitLines, Ne.symm oneLine.1, ih oneLine.2]

theorem splitLines_last {line : Bytes} (oneLine : (10 : UInt8) ∉ line) (nonempty : line ≠ []) :
    splitLines line = [line] := by
  induction line with
  | nil => exact absurd rfl nonempty
  | cons byte line ih =>
    simp only [List.mem_cons, not_or] at oneLine
    by_cases empty : line = []
    · subst empty
      simp [splitLines, Ne.symm oneLine.1]
    · simp [splitLines, Ne.symm oneLine.1, ih oneLine.2 empty]

theorem line_cases (text : Bytes) :
    text = [] ∨ (text ≠ [] ∧ (10 : UInt8) ∉ text) ∨
      ∃ line rest, (10 : UInt8) ∉ line ∧ text = line ++ 10 :: rest := by
  by_cases empty : text = []
  · exact .inl empty
  by_cases ended : (10 : UInt8) ∈ text
  · obtain ⟨line, rest, joined, oneLine⟩ := List.eq_append_cons_of_mem ended
    exact .inr (.inr ⟨line, rest, oneLine, joined⟩)
  · exact .inr (.inl ⟨empty, ended⟩)

end Lines

section Reading

variable {client : Client}

theorem readLine_line {line rest : Bytes} (oneLine : (10 : UInt8) ∉ line)
    (incoming : client.incoming = line ++ 10 :: rest) :
    client.readLine = if IsUtf8 (line ++ [10]) then
      .ok (line ++ [10], { client with incoming := rest }) else .error .io := by
  have split : line ++ 10 :: rest = (line ++ [10]) ++ rest := by simp
  have length : line.length + 1 = (line ++ [10]).length := by simp
  unfold Client.readLine
  rw [incoming, findIdx?_separator oneLine]
  simp only
  rw [length, split, List.take_left, List.drop_left]

theorem readLine_last (oneLine : (10 : UInt8) ∉ client.incoming) :
    client.readLine = if client.ending = .closed ∧ IsUtf8 client.incoming then
      .ok (client.incoming, { client with incoming := [] }) else .error .io := by
  unfold Client.readLine
  rw [findIdx?_absent oneLine]
  simp only
  cases client.ending with
  | failed => simp
  | closed => simp

theorem bodyLoop_line {line rest body : Bytes} {fuel : Nat} (oneLine : (10 : UInt8) ∉ line)
    (goesOn : line ++ [10] ≠ Client.terminator) (incoming : client.incoming = line ++ 10 :: rest) :
    Client.bodyLoop (fuel + 1) client body = if IsUtf8 (line ++ [10]) then
      Client.bodyLoop fuel { client with incoming := rest } (body ++ Client.unstuff (line ++ [10]))
      else .error .io := by
  rw [Client.bodyLoop, readLine_line oneLine incoming]
  split
  next =>
    show (if line ++ [10] = [] then _ else _) = _
    rw [if_neg (by simp), if_neg goesOn]
  next => rfl

theorem bodyLoop_terminated {lines : List Bytes} {later body : Bytes} {fuel : Nat}
    (enough : lines.length < fuel) (oneLine : ∀ line ∈ lines, (10 : UInt8) ∉ line)
    (goesOn : ∀ line ∈ lines, line ++ [10] ≠ Client.terminator)
    (incoming : client.incoming = lines.flatMap (· ++ [10]) ++ (Client.terminator ++ later)) :
    Client.bodyLoop fuel client body = if ∀ line ∈ lines, IsUtf8 (line ++ [10]) then
      .ok (body ++ lines.flatMap (fun line => Client.unstuff (line ++ [10])),
        { client with incoming := later })
      else .error .io := by
  induction lines generalizing client body fuel with
  | nil =>
    cases fuel with
    | zero => cases enough
    | succ fuel =>
      have oneDot : (10 : UInt8) ∉ ([46, 13] : Bytes) := by decide
      have split : client.incoming = [46, 13] ++ 10 :: later := incoming
      have valid : IsUtf8 (([46, 13] : Bytes) ++ [10]) := by decide +kernel
      rw [Client.bodyLoop, readLine_line oneDot split, if_pos valid, if_pos (by simp)]
      simp only [List.flatMap_nil, List.append_nil]
      rfl
  | cons line lines ih =>
    cases fuel with
    | zero => cases enough
    | succ fuel =>
      have split : client.incoming =
          line ++ 10 :: (lines.flatMap (· ++ [10]) ++ (Client.terminator ++ later)) := by
        rw [incoming]
        simp
      rw [bodyLoop_line (oneLine line (by simp)) (goesOn line (by simp)) split]
      by_cases valid : IsUtf8 (line ++ [10])
      · rw [if_pos valid, ih (by simpa using enough) (fun other member => oneLine other (by simp [member]))
          (fun other member => goesOn other (by simp [member])) rfl]
        simp [valid]
      · rw [if_neg valid, if_neg]
        intro allValid
        exact valid (allValid line (by simp))

theorem bodyLoop_unterminated {body : Bytes} {fuel : Nat} (enough : client.incoming.length < fuel)
    (unterminated : Client.terminator ∉ splitLines client.incoming) :
    (∃ result, Client.bodyLoop fuel client body = .ok result) ↔
      client.ending = .closed ∧ ∀ line ∈ splitLines client.incoming, IsUtf8 line := by
  induction fuel generalizing client body with
  | zero => cases enough
  | succ fuel ih =>
    obtain empty | ⟨nonempty, oneLine⟩ | ⟨line, rest, oneLine, split⟩ := line_cases client.incoming
    · rw [Client.bodyLoop, readLine_last (by simp [empty]), empty]
      by_cases closed : client.ending = .closed
      · rw [if_pos ⟨closed, ByteArray.isValidUTF8_empty⟩]
        simp [closed, splitLines, bind, Except.bind]
      · rw [if_neg (fun both => closed both.1)]
        simp [closed, bind, Except.bind]
    · rw [splitLines_last oneLine nonempty] at unterminated ⊢
      rw [Client.bodyLoop, readLine_last oneLine]
      by_cases valid : client.ending = .closed ∧ IsUtf8 client.incoming
      · rw [if_pos valid]
        have positive := List.length_pos_iff.mpr nonempty
        have enough : ({ client with incoming := [] } : Client).incoming.length < fuel := by
          show 0 < fuel
          omega
        have further := @ih { client with incoming := [] }
          (body ++ Client.unstuff client.incoming) enough (by simp [splitLines])
        have differs : client.incoming ≠ Client.terminator := by
          intro same
          exact unterminated (by simp [same])
        show (∃ result, (if client.incoming = [] then _ else _) = _) ↔ _
        rw [if_neg nonempty, if_neg differs]
        exact further.trans (by simp [valid, splitLines])
      · rw [if_neg valid]
        simp [bind, Except.bind]
        exact fun closed invalid => valid ⟨closed, invalid⟩
    · rw [split, splitLines_line oneLine] at unterminated ⊢
      simp only [List.mem_cons, not_or] at unterminated
      rw [bodyLoop_line oneLine (Ne.symm unterminated.1) split]
      by_cases valid : IsUtf8 (line ++ [10])
      · rw [if_pos valid]
        have enough : ({ client with incoming := rest } : Client).incoming.length < fuel := by
          rw [split] at enough
          simp only [List.length_append, List.length_cons] at enough
          show rest.length < fuel
          omega
        refine (ih enough unterminated.2).trans ?_
        simp [valid]
      · rw [if_neg valid]
        simp [valid]

end Reading

end StreamServer.Archives
