import StreamServer.Proxy.HlsReference
import StreamServer.Shared.Fallible
import StreamServer.Shared.Loops

set_option autoImplicit false

namespace StreamServer.Proxy

open ByteText Loops

-- What a playlist is rewritten with. `cancelled n` is what the `n`-th look at the two cancellation
-- tokens finds.
structure PlaylistContext (crate : UrlCrate) where
  baseUrl : crate.Url
  requestHeaders : HeaderMap
  responseHeaders : HeaderMap
  cancelled : Nat → Bool

structure PlaylistWriter where
  output : Bytes
  checks : Nat

namespace PlaylistWriter

def check (cancelled : Nat → Bool) (writer : PlaylistWriter) : Except ProxyError PlaylistWriter :=
  if cancelled writer.checks then .error .cancelled
  else .ok { writer with checks := writer.checks + 1 }

def pushPlaylist (value : Bytes) (writer : PlaylistWriter) : Except ProxyError PlaylistWriter :=
  if maxPlaylistOutput < writer.output.length + value.length then .error .upstream
  else .ok { writer with output := writer.output ++ value }

end PlaylistWriter

open PlaylistWriter

def quoteMark : UInt8 := 34

def comma : UInt8 := 44

def uriKey : Bytes := utf8 "URI=\""

def unquotedComma : (quoted : Bool) → Bytes → Option Nat
  | _, [] => none
  | quoted, byte :: rest =>
      if byte = quoteMark then (unquotedComma (!quoted) rest).map (· + 1)
      else if byte = comma ∧ quoted = false then some 0
      else (unquotedComma quoted rest).map (· + 1)

def isBreak (byte : UInt8) : Bool := byte == 13 || byte == 10

section Rewriting

variable {crate : UrlCrate} (context : PlaylistContext crate)

def pushReference (reference : Bytes) (resolved : Option ResolvedHlsReference)
    (writer : PlaylistWriter) : Except ProxyError PlaylistWriter :=
  match resolved with
  | none => pushPlaylist reference writer
  | some resolved =>
      (pushProxyUri writer.output resolved context.requestHeaders context.responseHeaders).map
        fun output => { writer with output }

def rewritePlaylistReference (reference : Bytes) (writer : PlaylistWriter) :
    Except ProxyError PlaylistWriter := do
  let writer ← writer.check context.cancelled
  let resolved ← resolveHlsReference crate reference context.baseUrl
  pushReference context reference resolved writer

structure TagScan where
  attributeStart : Nat
  copied : Nat
  writer : PlaylistWriter

def nextAttribute (line : Bytes) (scanStart : Nat) (scan : TagScan) : Turn TagScan TagScan :=
  match unquotedComma false (line.drop scanStart) with
  | none => .done scan
  | some offset => .again { scan with attributeStart := scanStart + offset + 1 }

def tagTurn (line : Bytes) (scan : TagScan) : Except ProxyError (Turn TagScan TagScan) :=
  if line.length ≤ scan.attributeStart then .ok (.done scan)
  else
    let keyStart := scan.attributeStart + ((line.drop scan.attributeStart).takeWhile isBlank).length
    if startsWith uriKey (line.drop keyStart) then
      let valueStart := keyStart + 5
      match (line.drop valueStart).findIdx? (· = quoteMark) with
      | none => .ok (.done scan)
      | some offset => do
        let valueEnd := valueStart + offset
        let writer ← pushPlaylist (slice line scan.copied valueStart) scan.writer
        let writer ← rewritePlaylistReference context (slice line valueStart valueEnd) writer
        return nextAttribute line (valueEnd + 1) ⟨scan.attributeStart, valueEnd, writer⟩
    else .ok (nextAttribute line scan.attributeStart scan)

theorem nextAttribute_again {line : Bytes} {scanStart : Nat} {scan next : TagScan}
    (taken : nextAttribute line scanStart scan = .again next) : scanStart < next.attributeStart := by
  unfold nextAttribute at taken
  split at taken
  next => cases taken
  next =>
    cases taken
    simp only
    omega

def tagLoop (line : Bytes) : Loop ProxyError TagScan TagScan where
  turn := tagTurn context line
  size scan := line.length - scan.attributeStart
  lowers scan next taken := by
    unfold tagTurn at taken
    split at taken
    next => cases taken
    next inside =>
      simp only at taken
      split at taken
      next =>
        split at taken
        next => cases taken
        next =>
          obtain ⟨_, -, taken⟩ := Results.bind_ok taken
          obtain ⟨_, -, taken⟩ := Results.bind_ok taken
          have further := nextAttribute_again (Except.ok.inj taken)
          omega
      next =>
        have further := nextAttribute_again (Except.ok.inj taken)
        omega

def rewritePlaylistTag (line : Bytes) (writer : PlaylistWriter) :
    Except ProxyError PlaylistWriter :=
  match line.findIdx? (· = 58) with
  | none => pushPlaylist line writer
  | some colon => do
    let scan ← (tagLoop context line).run ⟨colon + 1, 0, writer⟩
    pushPlaylist (line.drop scan.copied) scan.writer

def rewriteLine (line : Bytes) (writer : PlaylistWriter) : Except ProxyError PlaylistWriter :=
  if startsWith (utf8 "#EXT") line then rewritePlaylistTag context line writer
  else if startsWith (utf8 "#") line || line.all isBlank then pushPlaylist line writer
  else rewritePlaylistReference context line writer

structure LineScan where
  position : Nat
  writer : PlaylistWriter

def endingStart (body : Bytes) (position : Nat) : Nat :=
  match (body.drop position).findIdx? isBreak with
  | some offset => position + offset
  | none => body.length

/-- Two different bytes of CR and LF end one line, in either order. -/
def endingEnd (body : Bytes) (endingStart : Nat) : Nat :=
  if endingStart = body.length then endingStart
  else if body[endingStart + 1]?.any fun next => body[endingStart]? != some next && isBreak next then
    endingStart + 2
  else endingStart + 1

def lineTurn (body : Bytes) (scan : LineScan) : Except ProxyError (Turn LineScan PlaylistWriter) :=
  if body.length ≤ scan.position then .ok (.done scan.writer)
  else do
    let writer ← scan.writer.check context.cancelled
    let start := endingStart body scan.position
    let stop := endingEnd body start
    let writer ← rewriteLine context (slice body scan.position start) writer
    let writer ← pushPlaylist (slice body start stop) writer
    return .again ⟨stop, writer⟩

theorem endingStart_le (body : Bytes) {position : Nat} (inside : position ≤ body.length) :
    position ≤ endingStart body position ∧ endingStart body position ≤ body.length := by
  unfold endingStart
  split
  next offset found =>
    have bounded := (List.findIdx?_eq_some_iff_getElem.mp found).1
    rw [List.length_drop] at bounded
    omega
  next => omega

theorem lt_endingEnd {body : Bytes} {position : Nat} (inside : position < body.length) :
    position < endingEnd body (endingStart body position) := by
  have bounds := endingStart_le body (Nat.le_of_lt inside)
  unfold endingEnd
  split
  next => omega
  split <;> omega

def lineLoop (body : Bytes) : Loop ProxyError LineScan PlaylistWriter where
  turn := lineTurn context body
  size scan := body.length - scan.position
  lowers scan next taken := by
    unfold lineTurn at taken
    split at taken
    next => cases taken
    next inside =>
      obtain ⟨_, -, taken⟩ := Results.bind_ok taken
      obtain ⟨_, -, taken⟩ := Results.bind_ok taken
      obtain ⟨_, -, taken⟩ := Results.bind_ok taken
      cases taken
      have further := lt_endingEnd (Nat.lt_of_not_le inside)
      simp only
      omega

def rewritePlaylist (body : Bytes) : Except ProxyError Bytes := do
  let writer ← (lineLoop context body).run ⟨0, ⟨[], 0⟩⟩
  if body = [] then return [] else return writer.output

end Rewriting

section Attributes

theorem unquotedComma_quiet {pre : Bytes} (post : Bytes) {quoted : Bool} (noQuote : quoteMark ∉ pre)
    (noComma : quoted = true ∨ comma ∉ pre) :
    unquotedComma quoted (pre ++ post) = (unquotedComma quoted post).map (· + pre.length) := by
  induction pre with
  | nil => simp
  | cons byte rest ih =>
    rw [List.mem_cons, not_or] at noQuote
    have quiet : ¬ (byte = comma ∧ quoted = false) := by
      rintro ⟨rfl, rfl⟩
      simp at noComma
    have further := ih noQuote.2 (noComma.imp_right fun absent member =>
      absent (List.mem_cons_of_mem _ member))
    rw [List.cons_append, unquotedComma, if_neg (Ne.symm noQuote.1), if_neg quiet, further,
      Option.map_map]
    rfl

/-- The attributes of a tag: what is between the commas outside quotes. -/
def attributes : (quoted : Bool) → Bytes → List Bytes
  | _, [] => [[]]
  | quoted, byte :: rest =>
      if byte = comma ∧ quoted = false then [] :: attributes false rest
      else
        match attributes (quoted ^^ byte == quoteMark) rest with
        | [] => [[byte]]
        | first :: more => (byte :: first) :: more

theorem attributes_ne_nil (quoted : Bool) (text : Bytes) : attributes quoted text ≠ [] := by
  cases text with
  | nil => simp [attributes]
  | cons byte rest =>
    unfold attributes
    split
    next => simp
    next => split <;> simp

theorem attributes_eq (quoted : Bool) (text : Bytes) : attributes quoted text =
    match unquotedComma quoted text with
    | none => [text]
    | some offset => text.take offset :: attributes false (text.drop (offset + 1)) := by
  induction text generalizing quoted with
  | nil => rfl
  | cons byte rest ih =>
    rw [attributes, unquotedComma]
    by_cases quote : byte = quoteMark
    · subst quote
      have other : ¬ (quoteMark = comma ∧ quoted = false) := fun both => absurd both.1 (by decide)
      rw [if_neg other, if_pos rfl, beq_self_eq_true, Bool.xor_true, ih (!quoted)]
      cases unquotedComma (!quoted) rest <;> rfl
    · rw [if_neg quote, beq_eq_false_iff_ne.mpr quote, Bool.xor_false]
      by_cases split : byte = comma ∧ quoted = false
      · rw [if_pos split, if_pos split]
        rfl
      · rw [if_neg split, if_neg split, ih quoted]
        cases unquotedComma quoted rest <;> rfl

theorem unquotedComma_some {quoted : Bool} {text : Bytes} {offset : Nat}
    (found : unquotedComma quoted text = some offset) :
    text = text.take offset ++ comma :: text.drop (offset + 1) := by
  induction text generalizing quoted offset with
  | nil => cases found
  | cons byte rest ih =>
    unfold unquotedComma at found
    split at found
    next =>
      obtain ⟨before, earlier, rfl⟩ := Option.map_eq_some_iff.mp found
      exact congrArg (byte :: ·) (ih earlier)
    split at found
    next both =>
      cases found
      rw [both.1]
      rfl
    next =>
      obtain ⟨before, earlier, rfl⟩ := Option.map_eq_some_iff.mp found
      exact congrArg (byte :: ·) (ih earlier)

theorem unquotedComma_lt {quoted : Bool} {text : Bytes} {offset : Nat}
    (found : unquotedComma quoted text = some offset) : offset < text.length := by
  have bounded := congrArg List.length (unquotedComma_some found)
  simp only [List.length_append, List.length_take, List.length_cons, List.length_drop] at bounded
  omega

end Attributes

section Text

variable {crate : UrlCrate} (context : PlaylistContext crate)

def proxyUri (resolved : ResolvedHlsReference) (requestHeaders responseHeaders : HeaderMap) :
    Except ProxyError Bytes := do
  let options ← customOptions resolved.sameOrigin requestHeaders responseHeaders
  if !variablePathValid resolved.variablePath then .error .upstream
  else if maxProxyInput < suffixLength resolved options then .error .upstream
  else .ok (route ++ uriSuffix resolved options)

/-- What stands in for a reference, whatever has been written before it. -/
def referenceText (reference : Bytes) : Except ProxyError Bytes := do
  let resolved ← resolveHlsReference crate reference context.baseUrl
  match resolved with
  | none => return reference
  | some resolved => proxyUri resolved context.requestHeaders context.responseHeaders

def attributeText (text : Bytes) : Except ProxyError Bytes :=
  let keyStart := (text.takeWhile isBlank).length
  if startsWith uriKey (text.drop keyStart) then
    match (text.drop (keyStart + 5)).findIdx? (· = quoteMark) with
    | none => .ok text
    | some offset => do
      let value ← referenceText context (slice text (keyStart + 5) (keyStart + 5 + offset))
      return text.take (keyStart + 5) ++ value ++ text.drop (keyStart + 5 + offset)
  else .ok text

def attributesText (text : Bytes) : Except ProxyError Bytes := do
  return [comma].intercalate (← (attributes false text).mapM (attributeText context))

def tagText (line : Bytes) : Except ProxyError Bytes :=
  match line.findIdx? (· = 58) with
  | none => .ok line
  | some colon => do return line.take (colon + 1) ++ (← attributesText context (line.drop (colon + 1)))

def contentText (line : Bytes) : Except ProxyError Bytes :=
  if startsWith (utf8 "#EXT") line then tagText context line
  else if startsWith (utf8 "#") line || line.all isBlank then .ok line
  else referenceText context line

end Text

/-- An attribute with a quoted URI, one whose quotes are not closed, or any other. -/
inductive UriView (text : Bytes) : Prop where
  | closed (blanks value after : Bytes) (blank : blanks.all isBlank = true)
      (plain : quoteMark ∉ value) (same : text = blanks ++ uriKey ++ (value ++ quoteMark :: after))
  | unclosed (blanks value : Bytes) (blank : blanks.all isBlank = true) (plain : quoteMark ∉ value)
      (same : text = blanks ++ uriKey ++ value)
  | other (differs : startsWith uriKey (text.drop (text.takeWhile isBlank).length) = false)

theorem drop_takeWhile (matching : UInt8 → Bool) (text : Bytes) :
    text.drop (text.takeWhile matching).length = text.dropWhile matching := by
  have split := congrArg (List.drop (text.takeWhile matching).length)
    (List.takeWhile_append_dropWhile (p := matching) (l := text))
  rwa [List.drop_left, eq_comm] at split

theorem uriView (text : Bytes) : UriView text := by
  by_cases keyed : startsWith uriKey (text.drop (text.takeWhile isBlank).length) = true
  case neg => exact .other (by simpa using keyed)
  obtain ⟨rest, opened⟩ := List.isPrefixOf_iff_prefix.mp keyed
  have blank : (text.takeWhile isBlank).all isBlank = true := List.all_takeWhile
  have whole : text = text.takeWhile isBlank ++ uriKey ++ rest := by
    rw [List.append_assoc, opened, drop_takeWhile, List.takeWhile_append_dropWhile]
  by_cases closed : quoteMark ∈ rest
  · obtain ⟨value, after, rfl, plain⟩ := List.eq_append_cons_of_mem closed
    exact .closed _ value after blank plain whole
  · exact .unclosed _ rest blank closed whole

end StreamServer.Proxy
