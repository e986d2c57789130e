import StreamServer.LocalAddon.Bencode
import StreamServer.LocalAddon.BencodeGrammar
import StreamServer.Shared.ByteText
import StreamServer.Shared.Numerals

set_option autoImplicit false

namespace StreamServer.LocalAddon

open ByteText Decimals Results

structure Sha1 where
  h0 : UInt32
  h1 : UInt32
  h2 : UInt32
  h3 : UInt32
  h4 : UInt32
deriving DecidableEq, Repr

namespace Sha1

def new : Sha1 := ⟨0x67452301, 0xEFCDAB89, 0x98BADCFE, 0x10325476, 0xC3D2E1F0⟩

def rotateLeft (word count : UInt32) : UInt32 := (word <<< count) ||| (word >>> (32 - count))

def u32FromBeBytes (bytes : Bytes) : UInt32 :=
  bytes.foldl (fun word byte => (word <<< 8) ||| byte.toUInt32) 0

def u32ToBeBytes (word : UInt32) : Bytes :=
  [(word >>> 24).toUInt8, (word >>> 16).toUInt8, (word >>> 8).toUInt8, word.toUInt8]

def u64ToBeBytes (word : UInt64) : Bytes :=
  u32ToBeBytes (word >>> 32).toUInt32 ++ u32ToBeBytes word.toUInt32

def asChunks (size : Nat) (data : Bytes) : List Bytes :=
  (List.range (data.length / size)).map fun index => (data.drop (size * index)).take size

def expandStep (w : List UInt32) (i : Nat) : List UInt32 :=
  let x := w.getD (i - 3) 0 ^^^ w.getD (i - 8) 0 ^^^ w.getD (i - 14) 0 ^^^ w.getD (i - 16) 0
  w.set i (rotateLeft x 1)

def schedule (chunk : Bytes) : List UInt32 :=
  let words := (asChunks 4 chunk).map u32FromBeBytes
  let w := words ++ List.replicate (80 - words.length) 0
  (List.range' 16 64).foldl expandStep w

def roundStep (vars : Sha1) (step : Nat × UInt32) : Sha1 :=
  let (i, word) := step
  let ⟨a, b, c, d, e⟩ := vars
  let (f, k) : UInt32 × UInt32 :=
    if i < 20 then ((b &&& c) ||| (~~~b &&& d), 0x5A827999)
    else if i < 40 then (b ^^^ c ^^^ d, 0x6ED9EBA1)
    else if i < 60 then ((b &&& c) ||| (b &&& d) ||| (c &&& d), 0x8F1BBCDC)
    else (b ^^^ c ^^^ d, 0xCA62C1D6)
  let temp := rotateLeft a 5 + f + e + k + word
  ⟨temp, a, rotateLeft b 30, c, d⟩

def processChunk (state : Sha1) (chunk : Bytes) : Sha1 :=
  let w := schedule chunk
  let vars := ((List.range w.length).zip w).foldl roundStep state
  ⟨state.h0 + vars.h0, state.h1 + vars.h1, state.h2 + vars.h2, state.h3 + vars.h3,
    state.h4 + vars.h4⟩

def update (state : Sha1) (data : Bytes) : Sha1 :=
  (asChunks 64 data).foldl processChunk state

end Sha1

-- The loop that appends zeros until eight bytes are missing to a whole chunk; it makes fewer
-- than 64 rounds.
def padZeros : Nat → Bytes → Bytes
  | 0, padded => padded
  | fuel + 1, padded =>
      if (padded.length + 8) % 64 ≠ 0 then padZeros fuel (padded ++ [0]) else padded

def sha1Padded (data : Bytes) : Bytes :=
  let lenBits := UInt64.ofNat data.length * 8
  padZeros 64 (data ++ [0x80]) ++ Sha1.u64ToBeBytes lenBits

def sha1Digest (data : Bytes) : Bytes :=
  let sha1 := Sha1.new.update (sha1Padded data)
  [sha1.h0, sha1.h1, sha1.h2, sha1.h3, sha1.h4].flatMap Sha1.u32ToBeBytes

def sha1Str (data : Bytes) : Bytes := Hex.encode (sha1Digest data)

example : sha1Str (utf8 "abc") = utf8 "a9993e364706816aba3e25717850c26c9cd0d89d" := by
  decide +kernel

structure TorrentFile where
  path : Bytes
  length : Nat
deriving DecidableEq, Repr

structure Torrent where
  infoHash : Bytes
  files : List TorrentFile
  name : Option Bytes
deriving DecidableEq, Repr

inductive TorrentFailure where
  | error (message : String)
  | panicked
  | outOfFuel
deriving DecidableEq, Repr

def infoKey : Bytes := utf8 "info"

def infoPattern : Bytes := utf8 "4:info"

/-- A slice of the input is its place: the offset where it starts and its length. -/
def extractInfoSpan (bytes : Bytes) : Except Failure (Nat × Nat) := do
  let position ← orError ((windows infoPattern.length bytes).findIdx? (· = infoPattern))
  let start := position + infoPattern.length
  let (_, length) ← parseBencode (bytes.drop start)
  .ok (start, length)

def extractInfoBytes (bytes : Bytes) : Except Failure Bytes := do
  let (start, length) ← extractInfoSpan bytes
  .ok (slice bytes start (start + length))

-- `map_err` and `ok_or` replace an error by their message and let a panic through.
def orMessage {α : Type} (message : String) : Except Failure α → Except TorrentFailure α
  | .ok value => .ok value
  | .error .error => .error (.error message)
  | .error .panicked => .error .panicked
  | .error .outOfFuel => .error .outOfFuel

theorem orMessage_ok {α : Type} {message : String} {result : Except Failure α} {value : α}
    (ok : orMessage message result = .ok value) : result = .ok value := by
  cases result with
  | ok found =>
    cases ok
    rfl
  | error failure => cases failure <;> cases ok

def dictInt (key : Bytes) (entries : List (Bytes × BValue)) : Nat :=
  MachineInt.asU64 (((lookupKey key entries).bind BValue.getInt).getD 0)

def joinPath : List Bytes → Bytes
  | [] => []
  | [part] => part
  | part :: rest => part ++ utf8 "/" ++ joinPath rest

def multiFile (fileDict : BValue) : Option TorrentFile := do
  let entries ← fileDict.getDict
  let length := dictInt (utf8 "length") entries
  let parts ← (lookupKey (utf8 "path") entries).bind BValue.getList
  let pathParts := parts.filterMap BValue.asStr
  if pathParts = [] then none else some ⟨joinPath pathParts, length⟩

def torrentFiles (infoDict : List (Bytes × BValue)) (name : Option Bytes) : List TorrentFile :=
  match (lookupKey (utf8 "files") infoDict).bind BValue.getList with
  | some filesList => filesList.filterMap multiFile
  | none =>
      let length := dictInt (utf8 "length") infoDict
      (name.map fun path => (⟨path, length⟩ : TorrentFile)).toList

def parseTorrent (bytes : Bytes) : Except TorrentFailure Torrent := do
  let (root, _) ← orMessage "Invalid bencode" (parseBencode bytes)
  let dict ← orMessage "Root not a dict" (orError root.getDict)
  let info ← orMessage "Missing info dict" (orError (lookupKey infoKey dict))
  let infoBytes ← orMessage "Could not extract info bytes" (extractInfoBytes bytes)
  let infoHash := sha1Str infoBytes
  let infoDict ← orMessage "Info not a dict" (orError info.getDict)
  let name := (lookupKey (utf8 "name") infoDict).bind BValue.asStr
  .ok ⟨infoHash, torrentFiles infoDict name, name⟩

section KeyText

theorem digitsValue_concat (digits : Bytes) (digit : UInt8) :
    digitsValue (digits ++ [digit]) = digitsValue digits * 10 + (digit.toNat - 48) := by
  simp [digitsValue]

theorem isAsciiDigit_toNat {digit : UInt8} (accepted : isAsciiDigit digit = true) :
    48 ≤ digit.toNat ∧ digit.toNat ≤ 57 := by
  simp only [isAsciiDigit, Bool.and_eq_true, decide_eq_true_eq, UInt8.le_iff_toNat_le] at accepted
  exact accepted

theorem parseDigits_last {text : Bytes} (parsed : parseDigits text = some 4) :
    ∃ digits, text = digits ++ [52] := by
  obtain ⟨nonempty, allDigits, value⟩ := parseDigits_ok parsed
  obtain ⟨digits, last, rfl⟩ := List.eq_nil_or_concat text |>.resolve_left nonempty
  rw [List.concat_eq_append] at allDigits value ⊢
  rw [digitsValue_concat] at value
  have range := isAsciiDigit_toNat (allDigits last (by simp))
  have four : last.toNat = (52 : UInt8).toNat := by
    show last.toNat = 52
    omega
  exact ⟨digits, by rw [UInt8.toNat_inj.mp four]⟩

theorem parseU64_last {text : Bytes} (parsed : parseU64 text = some 4) :
    ∃ digits, text = digits ++ [52] := by
  unfold parseU64 at parsed
  obtain ⟨accepted, _⟩ := Option.filter_eq_some_iff.mp parsed
  obtain ⟨digits, same⟩ := parseDigits_last accepted
  split at same
  next signed =>
    cases text with
    | nil => cases signed
    | cons sign rest => exact ⟨sign :: digits, congrArg (sign :: ·) same⟩
  next => exact ⟨digits, same⟩

theorem parseInt_ok {bytes : Bytes} {value : BValue} {length : Nat}
    (parsed : parseInt bytes = .ok (value, length)) : ∃ number, value = .int number := by
  obtain ⟨stop, _, parsed⟩ := bind_ok parsed
  obtain ⟨text, _, parsed⟩ := bind_ok parsed
  obtain ⟨number, _, parsed⟩ := bind_ok parsed
  cases parsed
  exact ⟨number, rfl⟩

theorem parseBencode_str {bytes content : Bytes} {length : Nat}
    (parsed : parseBencode bytes = .ok (.str content, length)) :
    parseStr bytes = .ok (.str content, length) := by
  cases bytes with
  | nil => cases parsed
  | cons first rest =>
    rw [parseBencode_cons] at parsed
    split at parsed
    next =>
      obtain ⟨number, isInt⟩ := parseInt_ok parsed
      cases isInt
    split at parsed
    next =>
      obtain ⟨result, _, parsed⟩ := bind_ok parsed
      cases parsed
    split at parsed
    next =>
      obtain ⟨result, _, parsed⟩ := bind_ok parsed
      cases parsed
    split at parsed
    next => exact parsed
    next => cases parsed

-- However its length is written, a key `info` ends with the text that is searched.
theorem occursAt_of_infoKey {bytes : Bytes} {offset keyLength : Nat}
    (parsed : parseBencode (bytes.drop offset) = .ok (.str infoKey, keyLength)) :
    6 ≤ keyLength ∧ OccursAt infoPattern bytes (offset + keyLength - 6) := by
  obtain ⟨text, content, rest, split, sized, sameContent, lengthEq⟩ :=
    parseStr_ok (parseBencode_str parsed)
  cases sameContent
  have four : infoKey.length = 4 := rfl
  rw [four] at sized lengthEq
  obtain ⟨digits, rfl⟩ := parseU64_last sized
  have written : bytes.drop offset = digits ++ (infoPattern ++ rest) := by
    rw [split, List.append_assoc]
    rfl
  simp only [List.length_append, List.length_singleton] at lengthEq
  refine ⟨by omega, ?_⟩
  have place : offset + keyLength - 6 = offset + digits.length := by omega
  unfold OccursAt
  rw [place, ← List.drop_drop, written, List.drop_left, List.take_left]

end KeyText

section RootEntries

structure EntrySpan where
  key : Bytes
  start : Nat
  length : Nat
deriving DecidableEq, Repr

def entrySpans : Nat → Bytes → Nat → List EntrySpan
  | 0, _, _ => []
  | fuel + 1, bytes, offset =>
      match bytes[offset]? with
      | none => []
      | some 101 => []
      | some _ =>
          match parseBencode (bytes.drop offset) with
          | .ok (.str key, keyLength) =>
              match parseBencode (bytes.drop (offset + keyLength)) with
              | .ok (_, valueLength) =>
                  ⟨key, offset + keyLength, valueLength⟩ ::
                    entrySpans fuel bytes (offset + keyLength + valueLength)
              | .error _ => []
          | _ => []

/-- A key that is given twice has the value of its last entry. -/
def valueSpan (key : Bytes) (spans : List EntrySpan) : Option EntrySpan :=
  spans.reverse.find? fun span => span.key = key

def rootInfoSpan (bytes : Bytes) : Option EntrySpan :=
  valueSpan infoKey (entrySpans bytes.length bytes 1)

theorem valueSpan_cons (key : Bytes) (span : EntrySpan) (spans : List EntrySpan) :
    valueSpan key (span :: spans) =
      (valueSpan key spans).or (if span.key = key then some span else none) := by
  unfold valueSpan
  rw [List.reverse_cons, List.find?_append]
  by_cases same : span.key = key <;> simp [same]

/-- The value at the place of a key `info`, written after the searched text. -/
structure InfoAt (bytes : Bytes) (span : EntrySpan) (value : BValue) : Prop where
  after : 6 ≤ span.start
  occurs : OccursAt infoPattern bytes (span.start - 6)
  parsed : parseBencode (bytes.drop span.start) = .ok (value, span.length)

theorem dictLoop_info {fuel : Nat} {bytes : Bytes} {map entries : List (Bytes × BValue)}
    {offset length : Nat} (enough : bytes.length - offset ≤ fuel)
    (looped : dictLoop bytes map offset = .ok (entries, length)) :
    (∃ span value, valueSpan infoKey (entrySpans fuel bytes offset) = some span ∧
      InfoAt bytes span value ∧ lookupKey infoKey entries = some value) ∨
    (valueSpan infoKey (entrySpans fuel bytes offset) = none ∧
      lookupKey infoKey entries = lookupKey infoKey map) := by
  -- One round of the loop for each unit of fuel; the entries that follow win.
  induction fuel generalizing map offset with
  | zero =>
    rw [dictLoop_eq, List.getElem?_eq_none (by omega)] at looped
    cases looped
  | succ fuel ih =>
    rw [dictLoop_eq] at looped
    split at looped
    next => cases looped
    next ended =>
      cases looped
      have noSpans : entrySpans (fuel + 1) bytes offset = [] := by simp only [entrySpans, ended]
      rw [noSpans]
      exact .inr ⟨rfl, rfl⟩
    next present more =>
      have inside := (List.getElem?_eq_some_iff.mp more).1
      obtain ⟨⟨keyValue, keyLength⟩, keyParsed, afterKey⟩ := bind_ok looped
      obtain ⟨content, isKey, afterBytes⟩ := bind_ok afterKey
      obtain ⟨⟨value, valueLength⟩, valueParsed, later⟩ := bind_ok afterBytes
      have isKey := orError_ok isKey
      cases keyValue with
      | int | list | dict => cases isKey
      | str content =>
        cases isKey
        have consumed := parseBencode_consumed keyParsed
        rw [List.length_drop] at consumed
        simp only [entrySpans, more, keyParsed, valueParsed]
        rw [valueSpan_cons]
        obtain ⟨span, found, spanFound, place, looked⟩ | ⟨noSpan, looked⟩ :=
          ih (by omega) later
        · exact .inl ⟨span, found, by rw [spanFound]; rfl, place, looked⟩
        · rw [noSpan, Option.none_or]
          rw [lookupKey_insertKey] at looked
          by_cases isInfo : content = infoKey
          · subst isInfo
            obtain ⟨atLeast, occurs⟩ := occursAt_of_infoKey keyParsed
            refine .inl ⟨_, value, if_pos rfl, ⟨by simp only; omega, occurs, valueParsed⟩, ?_⟩
            rw [looked, if_pos rfl]
          · exact .inr ⟨if_neg isInfo, by rw [looked, if_neg isInfo]⟩

end RootEntries

section InfoHash

theorem parseBencode_dict {bytes : Bytes} {entries : List (Bytes × BValue)} {length : Nat}
    (parsed : parseBencode bytes = .ok (.dict entries, length)) :
    dictLoop bytes [] 1 = .ok (entries, length) := by
  cases bytes with
  | nil => cases parsed
  | cons first rest =>
    rw [parseBencode_cons] at parsed
    split at parsed
    next =>
      obtain ⟨number, isInt⟩ := parseInt_ok parsed
      cases isInt
    split at parsed
    next =>
      obtain ⟨result, _, parsed⟩ := bind_ok parsed
      cases parsed
    split at parsed
    next =>
      obtain ⟨⟨found, stop⟩, looped, parsed⟩ := bind_ok parsed
      cases parsed
      exact looped
    split at parsed
    next =>
      obtain ⟨text, content, _, _, _, isStr, _⟩ := parseStr_ok parsed
      cases isStr
    next => cases parsed

theorem parseTorrent_ok {bytes : Bytes} {torrent : Torrent}
    (accepted : parseTorrent bytes = .ok torrent) :
    ∃ root span value extracted, rootInfoSpan bytes = some root ∧ InfoAt bytes root value ∧
      extractInfoSpan bytes = .ok (span, extracted) ∧
      torrent.infoHash = sha1Str (slice bytes span (span + extracted)) := by
  obtain ⟨⟨rootValue, total⟩, rootParsed, accepted⟩ := bind_ok accepted
  obtain ⟨dict, isDict, accepted⟩ := bind_ok accepted
  obtain ⟨info, looked, accepted⟩ := bind_ok accepted
  obtain ⟨infoBytes, extracted, accepted⟩ := bind_ok accepted
  obtain ⟨infoDict, _, accepted⟩ := bind_ok accepted
  have isDict := orError_ok (orMessage_ok isDict)
  cases rootValue with
  | int | str | list => cases isDict
  | dict entries =>
    cases isDict
    have looped := parseBencode_dict (orMessage_ok rootParsed)
    have looked := orError_ok (orMessage_ok looked)
    obtain ⟨⟨start, length⟩, spanned, sliced⟩ := bind_ok (orMessage_ok extracted)
    cases sliced
    cases accepted
    have enough : bytes.length - 1 ≤ bytes.length := by omega
    obtain ⟨root, value, rootSpan, place, _⟩ | ⟨_, missing⟩ := dictLoop_info enough looped
    · exact ⟨root, start, value, length, rootSpan, place, spanned, rfl⟩
    · rw [missing] at looked
      cases looked

/-- The root's own `info` key is the first place where the searched text stands. -/
def InfoTextFirst (bytes : Bytes) (root : EntrySpan) : Prop :=
  ∀ earlier, earlier + infoPattern.length < root.start → ¬ OccursAt infoPattern bytes earlier

theorem extractInfoSpan_eq_iff {bytes : Bytes} {root : EntrySpan} {value : BValue}
    (place : InfoAt bytes root value) :
    extractInfoSpan bytes = .ok (root.start, root.length) ↔ InfoTextFirst bytes root := by
  have sixLong : infoPattern.length = 6 := rfl
  have after := place.after
  constructor
  · intro extracted earlier before occurs
    obtain ⟨position, found, extracted⟩ := bind_ok extracted
    obtain ⟨⟨other, length⟩, _, extracted⟩ := bind_ok extracted
    have first := ((windows_findIdx?_eq_some_iff (by decide)).mp (orError_ok found)).2
    have sameStart : position + infoPattern.length = root.start :=
      congrArg Prod.fst (Except.ok.inj extracted)
    exact first earlier (by omega) occurs
  · intro textFirst
    have found : (windows infoPattern.length bytes).findIdx? (· = infoPattern) =
        some (root.start - 6) := by
      refine (windows_findIdx?_eq_some_iff (by decide)).mpr ⟨place.occurs, ?_⟩
      intro earlier before
      exact textFirst earlier (by omega)
    have sameStart : root.start - 6 + infoPattern.length = root.start := by omega
    unfold extractInfoSpan
    rw [found]
    show (parseBencode (bytes.drop (root.start - 6 + infoPattern.length)) >>= fun parsed =>
      Except.ok (root.start - 6 + infoPattern.length, parsed.2)) = _
    rw [sameStart, place.parsed]
    rfl

theorem infoHash_of_root_info {bytes : Bytes} {torrent : Torrent}
    (accepted : parseTorrent bytes = .ok torrent) :
    ∃ root, rootInfoSpan bytes = some root ∧
      (extractInfoSpan bytes = .ok (root.start, root.length) ↔ InfoTextFirst bytes root) ∧
      (InfoTextFirst bytes root →
        torrent.infoHash = sha1Str (slice bytes root.start (root.start + root.length))) := by
  obtain ⟨root, start, value, length, rootSpan, place, extracted, hashed⟩ := parseTorrent_ok accepted
  refine ⟨root, rootSpan, extractInfoSpan_eq_iff place, ?_⟩
  intro textFirst
  have same := (extractInfoSpan_eq_iff place).mpr textFirst
  rw [extracted] at same
  cases same
  exact hashed

def plainTorrent : Bytes := utf8 "d8:announce5:where4:infod6:lengthi7e4:name1:aee"

theorem plainTorrent_infoHash : ∃ torrent root, parseTorrent plainTorrent = .ok torrent ∧
    rootInfoSpan plainTorrent = some root ∧
    torrent.infoHash = sha1Str (slice plainTorrent root.start (root.start + root.length)) := by
  have accepted : parseTorrent plainTorrent = .ok
      ⟨sha1Str (utf8 "d6:lengthi7e4:name1:ae"), [⟨utf8 "a", 7⟩], some (utf8 "a")⟩ := by
    decide +kernel
  obtain ⟨root, rootSpan, _, hashed⟩ := infoHash_of_root_info accepted
  have rootPlace : rootInfoSpan plainTorrent = some ⟨infoKey, 24, 22⟩ := by decide +kernel
  cases rootSpan.symm.trans rootPlace
  refine ⟨_, _, accepted, rootPlace, hashed ?_⟩
  intro earlier before
  have bounded : earlier < 18 := by
    have sixLong : infoPattern.length = 6 := rfl
    simp only at before
    omega
  have checked : ∀ place : Fin 18, ¬ OccursAt infoPattern plainTorrent place := by decide +kernel
  exact checked ⟨earlier, bounded⟩

/-- A comment that holds the searched text makes the hash that of another part of the file. -/
def commentTorrent : Bytes := utf8 "d7:comment6:4:info4:infod6:lengthi7e4:name1:aee"

theorem comment_text_changes_infoHash :
    ∃ torrent root, parseTorrent commentTorrent = .ok torrent ∧
      rootInfoSpan commentTorrent = some root ∧
      slice commentTorrent root.start (root.start + root.length) =
        utf8 "d6:lengthi7e4:name1:ae" ∧
      torrent.infoHash ≠ sha1Str (slice commentTorrent root.start (root.start + root.length)) :=
  ⟨⟨sha1Str (utf8 "4:info"), [⟨utf8 "a", 7⟩], some (utf8 "a")⟩, ⟨infoKey, 24, 22⟩,
    by decide +kernel, by decide +kernel, by decide +kernel, by decide +kernel⟩

end InfoHash

end StreamServer.LocalAddon
