import StreamServer.Shared.Checked
import StreamServer.Shared.Patterns
import StreamServer.Shared.Trimming

set_option autoImplicit false

namespace StreamServer.EngineFs

open Patterns

abbrev Text := List Char

section Strings

/-- The property `White_Space`, for `trim` and for `\s`. -/
def isWhitespace (character : Char) : Bool :=
  let code := character.toNat
  (9 ≤ code && code ≤ 13) || code == 32 || code == 133 || code == 160 || code == 5760 ||
    (8192 ≤ code && code ≤ 8202) || code == 8232 || code == 8233 || code == 8239 || code == 8287 ||
    code == 12288

/-- What the tables of the regex crate have under `\d`: more than ASCII, which alone is parsed. -/
structure DecimalDigits where
  isDecimal : Char → Bool
  ascii : ∀ character : Char, character.isDigit = true → isDecimal character = true

def trim (text : Text) : Text := Trimming.trim isWhitespace text

def contains (text pattern : Text) : Bool := decide (pattern <:+: text)

-- `skip` counts the characters of a match that have been passed over already.
def replaceFrom (pattern replacement : Text) : Nat → Text → Text
  | _, [] => []
  | skip + 1, _ :: rest => replaceFrom pattern replacement skip rest
  | 0, character :: rest =>
      if pattern <+: character :: rest then
        replacement ++ replaceFrom pattern replacement (pattern.length - 1) rest
      else character :: replaceFrom pattern replacement 0 rest

def replace (text pattern replacement : Text) : Text := replaceFrom pattern replacement 0 text

def normalizeLines (content : Text) : Text :=
  replace (replace content "\r\n".toList "\n".toList) "\r".toList "\n".toList

/-- The parts between the separators, each a newline twice. -/
def splitBlocks : Text → List Text
  | [] => [[]]
  | [character] => [[character]]
  | first :: second :: rest =>
      if first = '\n' ∧ second = '\n' then [] :: splitBlocks rest
      else
        match splitBlocks (second :: rest) with
        | [] => [[first]]
        | block :: blocks => (first :: block) :: blocks

def stripReturn (line : Text) : Text := if line.getLast? = some '\r' then line.dropLast else line

def lines (text : Text) : List Text :=
  let parts := text.splitOn '\n'
  let last := parts.getLast?.getD []
  parts.dropLast.map stripReturn ++ if last = [] then [] else [last]

def joinLines (parts : List Text) : Text := ['\n'].intercalate parts

def parseU64 (text : Text) : Option Nat :=
  let digits := if text.head? = some '+' then text.tail else text
  if digits ≠ [] ∧ digits.all Char.isDigit ∧ Nat.ofDigitChars 10 digits 0 < 2 ^ 64 then
    some (Nat.ofDigitChars 10 digits 0)
  else none

def padded (width number : Nat) : Text := (Nat.toDigits 10 number).leftpad width '0'

end Strings

section Cues

inductive SubFormat where
  | srt
  | ass
  | vtt
  | unknown
deriving DecidableEq, Repr

structure CueStyle where
  color : Option Text
  bold : Bool
  italic : Bool
  underline : Bool
deriving DecidableEq, Repr

structure SubtitleCue where
  startMs : Nat
  endMs : Nat
  text : Text
  style : Option CueStyle
deriving DecidableEq, Repr

structure ParsedSubtitle where
  format : SubFormat
  cues : List SubtitleCue
deriving DecidableEq, Repr

def CueStyle.ifAny (style : CueStyle) : Option CueStyle :=
  if style.bold || style.italic || style.underline || style.color.isSome then some style else none

end Cues

section Times

def timeOf (unit : Nat) (hours mins secs fraction : Text) : Checked Nat := do
  let limit := 2 ^ 64
  let h ← Checked.mul limit ((parseU64 hours).getD 0) 3600000
  let m ← Checked.mul limit ((parseU64 mins).getD 0) 60000
  let hm ← Checked.add limit h m
  let s ← Checked.mul limit ((parseU64 secs).getD 0) 1000
  let hms ← Checked.add limit hm s
  let f ← Checked.mul limit ((parseU64 fraction).getD 0) unit
  Checked.add limit hms f

def parseTimeComponents (hours mins secs millis : Text) : Checked Nat :=
  timeOf 1 hours mins secs millis

def parseAssTime (hours mins secs centis : Text) : Checked Nat := timeOf 10 hours mins secs centis

/-- A group that takes part in every match, which all do here. -/
def groupAt (groups : List Text) (index : Nat) : Text := groups.getD index "0".toList

def formatVttTime (ms : Nat) : Text :=
  padded 2 (ms / 3600000) ++ ":".toList ++ padded 2 (ms % 3600000 / 60000) ++ ":".toList ++
    padded 2 (ms % 60000 / 1000) ++ ".".toList ++ padded 3 (ms % 1000)

end Times

section Expressions

variable (tables : DecimalDigits)

def digits (count : Nat) : Pattern Char := .exactly count tables.isDecimal

-- `(\d{2}):(\d{2}):(\d{2}),(\d{3})`, with a comma or a point.
def stampPattern (point : Char) : Pattern Char :=
  .sequence [.group (digits tables 2), .literal [':'], .group (digits tables 2), .literal [':'],
    .group (digits tables 2), .literal [point], .group (digits tables 3)]

-- `^\s*(\d{2}):(\d{2}):(\d{2}),(\d{3})\s*-->\s*(\d{2}):(\d{2}):(\d{2}),(\d{3})`
def timestampPattern (point : Char) : Pattern Char :=
  .sequence [.many isWhitespace, stampPattern tables point, .many isWhitespace,
    .literal "-->".toList, .many isWhitespace, stampPattern tables point]

-- `^\d+\s*\r?\n\d{2}:\d{2}:\d{2},\d{3}`
def srtPattern : Pattern Char :=
  .sequence [.some tables.isDecimal, .many isWhitespace, .optional (.literal ['\r']), .literal ['\n'],
    digits tables 2, .literal [':'], digits tables 2, .literal [':'], digits tables 2, .literal [','],
    digits tables 3]

-- `(\d+):(\d{2}):(\d{2})\.(\d{2}),`
def assStampPattern : Pattern Char :=
  .sequence [.group (.some tables.isDecimal), .literal [':'], .group (digits tables 2), .literal [':'],
    .group (digits tables 2), .literal ['.'], .group (digits tables 2), .literal [',']]

-- `[^,]*,`
def fieldPattern : Pattern Char := .sequence [.many fun character => character ≠ ',', .literal [',']]

-- `\d+,`
def numberPattern : Pattern Char := .sequence [.some tables.isDecimal, .literal [',']]

-- `Dialogue:\s*\d+,(\d+):(\d{2}):(\d{2})\.(\d{2}),(\d+):(\d{2}):(\d{2})\.(\d{2}),[^,]*,[^,]*,\d+,\d+,\d+,[^,]*,(.*)`
def dialoguePattern : Pattern Char :=
  .sequence [.literal "Dialogue:".toList, .many isWhitespace, numberPattern tables,
    assStampPattern tables, assStampPattern tables, fieldPattern, fieldPattern, numberPattern tables,
    numberPattern tables, numberPattern tables, fieldPattern,
    .group (.many fun character => character ≠ '\n')]

def isQuote (character : Char) : Bool := character = '\x22' || character = '\x27'

-- `<font\s+color=["']?([^"'>]+)["']?>`
def fontPattern : Pattern Char :=
  .sequence [.literal "<font".toList, .some isWhitespace, .literal "color=".toList,
    .optional (.one isQuote), .group (.some fun character => !isQuote character && character ≠ '>'),
    .optional (.one isQuote), .literal ['>']]

-- `<[^>]+>`
def tagPattern : Pattern Char :=
  .sequence [.literal ['<'], .some fun character => character ≠ '>', .literal ['>']]

def isHexDigit (character : Char) : Bool :=
  character.isDigit || ('A' ≤ character && character ≤ 'F') || ('a' ≤ character && character ≤ 'f')

-- `\\(?:1?c)&H([0-9A-Fa-f]{6})&`
def assColorPattern : Pattern Char :=
  .sequence [.literal ['\\'], .optional (.literal ['1']), .literal "c&H".toList,
    .group (.exactly 6 isHexDigit), .literal ['&']]

def overridePattern : Pattern Char :=
  .sequence [.literal "\x7b".toList, .many fun character => character ≠ '\x7d', .literal "\x7d".toList]

end Expressions

section Styling

def removeAll (pattern : Pattern Char) (text : Text) : Text := removeMatches pattern text.length text

def parseSrtStyling (text : Text) : Text × Option CueStyle :=
  let style : CueStyle :=
    { bold := contains text "<b>".toList || contains text "<B>".toList
      italic := contains text "<i>".toList || contains text "<I>".toList
      underline := contains text "<u>".toList || contains text "<U>".toList
      color := (find fontPattern text).map fun found => groupAt found.2.1 0 }
  (removeAll tagPattern text, style.ifAny)

def assColor (bgr : Text) : Text :=
  "#".toList ++ (bgr.drop 4).take 2 ++ (bgr.drop 2).take 2 ++ bgr.take 2

def parseAssStyling (text : Text) : Text × Option CueStyle :=
  let style : CueStyle :=
    { bold := contains text "\x7b\\b1\x7d".toList || contains text "\x7b\\b1\\".toList
      italic := contains text "\x7b\\i1\x7d".toList || contains text "\x7b\\i1\\".toList
      underline := contains text "\x7b\\u1\x7d".toList || contains text "\x7b\\u1\\".toList
      color := (find assColorPattern text).bind fun found =>
        let bgr := groupAt found.2.1 0
        if bgr.length = 6 then some (assColor bgr) else none }
  let clean := removeAll overridePattern text
  (replace (replace clean "\\N".toList "\n".toList) "\\n".toList "\n".toList, style.ifAny)

def applyVttStyling (text : Text) (style : Option CueStyle) : Text :=
  match style with
  | none => text
  | some style =>
      let result := if style.bold then "<b>".toList ++ text ++ "</b>".toList else text
      let result := if style.italic then "<i>".toList ++ result ++ "</i>".toList else result
      let result := if style.underline then "<u>".toList ++ result ++ "</u>".toList else result
      match style.color with
      | some color =>
          "<c.".toList ++ color.dropWhile (fun character => character = '#') ++ ">".toList ++ result ++
            "</c>".toList
      | none => result

end Styling

section Parsers

variable (tables : DecimalDigits)

def detectFormat (content : Text) : SubFormat :=
  let trimmed := trim content
  if "WEBVTT".toList <+: trimmed then .vtt
  else if contains trimmed "[Script Info]".toList || contains trimmed "ScriptType:".toList then .ass
  else if (matchStart (srtPattern tables) trimmed).isSome then .srt
  else .unknown

def srtBlock (block : Text) : Option (List Text × Text) :=
  match lines block with
  | _ :: timestampLine :: rest =>
      (matchStart (timestampPattern tables ',') timestampLine).map fun groups =>
        (groups, trim (joinLines rest))
  | _ => none

def vttBlock (block : Text) : Option (List Text × Text) :=
  let lines := lines block
  (lines.findIdx? fun line => contains line "-->".toList).bind fun timestampIdx =>
    (matchStart (timestampPattern tables '.') (lines.getD timestampIdx [])).map fun groups =>
      (groups, trim (joinLines (lines.drop (timestampIdx + 1))))

def srtCue (groups : List Text) (text : Text) : Checked SubtitleCue := do
  let startMs ← parseTimeComponents (groupAt groups 0) (groupAt groups 1) (groupAt groups 2)
    (groupAt groups 3)
  let endMs ← parseTimeComponents (groupAt groups 4) (groupAt groups 5) (groupAt groups 6)
    (groupAt groups 7)
  let (cleanText, style) := parseSrtStyling text
  return ⟨startMs, endMs, cleanText, style⟩

def vttCue (groups : List Text) (text : Text) : Checked SubtitleCue := do
  let startMs ← parseTimeComponents (groupAt groups 0) (groupAt groups 1) (groupAt groups 2)
    (groupAt groups 3)
  let endMs ← parseTimeComponents (groupAt groups 4) (groupAt groups 5) (groupAt groups 6)
    (groupAt groups 7)
  return ⟨startMs, endMs, text, none⟩

def assCue (groups : List Text) : Checked SubtitleCue := do
  let startMs ← parseAssTime (groupAt groups 0) (groupAt groups 1) (groupAt groups 2) (groupAt groups 3)
  let endMs ← parseAssTime (groupAt groups 4) (groupAt groups 5) (groupAt groups 6) (groupAt groups 7)
  let (cleanText, style) := parseAssStyling (groups.getD 8 [])
  return ⟨startMs, endMs, cleanText, style⟩

def parseSrt (content : Text) : Checked (List SubtitleCue) :=
  ((splitBlocks (normalizeLines content)).filterMap (srtBlock tables)).mapM fun found =>
    srtCue found.1 found.2

def parseVtt (content : Text) : Checked (List SubtitleCue) :=
  ((splitBlocks (normalizeLines content)).filterMap (vttBlock tables)).mapM fun found =>
    vttCue found.1 found.2

def parseAss (content : Text) : Checked (List SubtitleCue) :=
  (allMatches (dialoguePattern tables) content.length content).mapM assCue

def ParsedSubtitle.parse (content : Text) : Checked ParsedSubtitle := do
  let format := detectFormat tables content
  let cues ←
    match format with
    | .srt => parseSrt tables content
    | .ass => parseAss tables content
    | .vtt => parseVtt tables content
    | .unknown => parseSrt tables content
  return ⟨format, cues⟩

end Parsers

section Emitter

def cueText (number : Nat) (cue : SubtitleCue) : Text :=
  Nat.toDigits 10 number ++ "\n".toList ++ formatVttTime cue.startMs ++ " --> ".toList ++
    formatVttTime cue.endMs ++ "\n".toList ++ applyVttStyling cue.text cue.style ++ "\n\n".toList

def cueTexts (number : Nat) : List SubtitleCue → Text
  | [] => []
  | cue :: cues => cueText number cue ++ cueTexts (number + 1) cues

def ParsedSubtitle.toVtt (track : ParsedSubtitle) : Text :=
  "WEBVTT\n\n".toList ++ cueTexts 1 track.cues

end Emitter

end StreamServer.EngineFs
