import Mathlib.Order.Compare
import StreamServer.Shared.Checked
import StreamServer.Shared.Fallible
import StreamServer.Shared.Numerals

set_option autoImplicit false

namespace StreamServer.Updater

open ByteText Decimals

-- What the updater uses of the `semver` crate: pre-releases are read from texts, and versions are
-- ordered by their fields in turn.
structure Semver where
  Prerelease : Type
  BuildMetadata : Type
  prereleaseOrder : LinearOrder Prerelease
  buildOrder : LinearOrder BuildMetadata
  noPrerelease : Prerelease
  noBuild : BuildMetadata
  newPrerelease : Bytes → Option Prerelease

namespace Semver

attribute [instance] prereleaseOrder buildOrder

/-- A release is above its pre-releases, and no pre-release is written with a plus sign. -/
structure Lawful (semver : Semver) : Prop where
  below : ∀ pre, pre ≤ semver.noPrerelease
  noPlus : ∀ {text pre}, semver.newPrerelease text = some pre → 43 ∉ text

end Semver

structure Version (semver : Semver) where
  major : Nat
  minor : Nat
  patch : Nat
  pre : semver.Prerelease
  build : semver.BuildMetadata

namespace Version

variable {semver : Semver}

def new (major minor patch : Nat) : Version semver :=
  ⟨major, minor, patch, semver.noPrerelease, semver.noBuild⟩

def cmp (left right : Version semver) : Ordering :=
  (compare left.major right.major).then <|
  (compare left.minor right.minor).then <|
  (compare left.patch right.patch).then <|
  (compare left.pre right.pre).then (compare left.build right.build)

end Version

section ReleaseTags

variable {semver : Semver}

def startsSuffix (byte : UInt8) : Bool := byte == 45 || byte == 43

def splitSuffix (text : Bytes) : Bytes × Option Bytes :=
  match text.findIdx? startsSuffix with
  | some pos => (text.take pos, some (text.drop (pos + 1)))
  | none => (text, none)

def applySuffix (version : Version semver) (suffix : Option Bytes) : Version semver :=
  match suffix.bind semver.newPrerelease with
  | some pre => { version with pre }
  | none => version

def patchScale : Nat := 10000

def parseReleaseTag (tag : Bytes) : Checked (Option (Version semver)) :=
  let tag := if startsWith (utf8 "v") tag then tag.tail else tag
  let (numeric, suffix) := splitSuffix tag
  match numeric.splitOn 46 with
  | [major, minor] =>
      match parseU64 major, parseU64 minor with
      | some major, some minor => .ok (some (applySuffix (.new major minor 0) suffix))
      | _, _ => .ok none
  | [major, minor, patch] =>
      match parseU64 major, parseU64 minor, parseU64 patch with
      | some major, some minor, some patch => do
          let patch ← Checked.mul Checked.usizeLimit patch patchScale
          return some (applySuffix (.new major minor patch) suffix)
      | _, _, _ => .ok none
  | [major, minor, patchHi, patchLo] =>
      match parseU64 major, parseU64 minor, parseU64 patchHi, parseU64 patchLo with
      | some major, some minor, some patchHi, some patchLo => do
          let scaled ← Checked.mul Checked.usizeLimit patchHi patchScale
          let patch ← Checked.add Checked.usizeLimit scaled patchLo
          return some (applySuffix (.new major minor patch) suffix)
      | _, _, _, _ => .ok none
  | _ => .ok none

/-- The version of the package itself is built in. -/
def normalizeCurrentVersion (currentVersion : Version semver) : Checked (Version semver) := do
  let patch ← Checked.mul Checked.usizeLimit currentVersion.patch patchScale
  return .new currentVersion.major currentVersion.minor patch

def isNewer (candidate current : Version semver) : Bool := candidate.cmp current == .gt

end ReleaseTags

structure Numeral where
  digits : Bytes
  written : digits ≠ [] ∧ digits.all isAsciiDigit = true

def Numeral.value (numeral : Numeral) : Nat := digitsValue numeral.digits

/-- A pre-release that a tag states; the empty text states none. -/
structure StatedPrerelease (semver : Semver) where
  text : Bytes
  value : semver.Prerelease
  valid : semver.newPrerelease text = some value
  stated : value ≠ semver.noPrerelease

inductive Numbers where
  | two (major minor : Numeral)
  | three (major minor patch : Numeral)
  | four (major minor patch sub : Numeral)

structure ReleaseTag (semver : Semver) where
  marked : Bool
  numbers : Numbers
  prerelease : Option (StatedPrerelease semver)
  build : Option Bytes

namespace Numbers

def texts : Numbers → List Bytes
  | two major minor => [major.digits, minor.digits]
  | three major minor patch => [major.digits, minor.digits, patch.digits]
  | four major minor patch sub => [major.digits, minor.digits, patch.digits, sub.digits]

def major : Numbers → Nat
  | two major _ | three major _ _ | four major _ _ _ => major.value

def minor : Numbers → Nat
  | two _ minor | three _ minor _ | four _ minor _ _ => minor.value

def patch : Numbers → Nat
  | two _ _ => 0
  | three _ _ patch | four _ _ patch _ => patch.value

def sub : Numbers → Nat
  | two _ _ | three _ _ _ => 0
  | four _ _ _ sub => sub.value

/-- The numbers and the patch made of the last two fit the word. -/
def Fits (numbers : Numbers) : Prop :=
  numbers.major < Checked.usizeLimit ∧ numbers.minor < Checked.usizeLimit ∧
    numbers.patch * patchScale + numbers.sub < Checked.usizeLimit

end Numbers

namespace ReleaseTag

variable {semver : Semver}

def suffix (tag : ReleaseTag semver) : Option Bytes :=
  match tag.prerelease, tag.build with
  | none, none => none
  | some pre, none => some pre.text
  | none, some build => some build
  | some pre, some build => some (pre.text ++ 43 :: build)

def suffixText (tag : ReleaseTag semver) : Bytes :=
  (tag.prerelease.elim [] fun pre => 45 :: pre.text) ++ tag.build.elim [] fun build => 43 :: build

def text (tag : ReleaseTag semver) : Bytes :=
  (if tag.marked then utf8 "v" else []) ++ [46].intercalate tag.numbers.texts ++ tag.suffixText

def pre (tag : ReleaseTag semver) : semver.Prerelease :=
  tag.prerelease.elim semver.noPrerelease StatedPrerelease.value

end ReleaseTag

section Reading

variable {semver : Semver}

theorem parseU64_numeral (numeral : Numeral) :
    parseU64 numeral.digits
      = if numeral.value < Checked.usizeLimit then some numeral.value else none := by
  have unsigned : numeral.digits.head? ≠ some 43 := by
    intro signed
    have digit := List.all_eq_true.mp numeral.written.2 43 (List.mem_of_mem_head? signed)
    exact absurd digit (by decide)
  rw [parseU64, if_neg unsigned, parseDigits, if_pos numeral.written, Option.filter_some]
  simp only [decide_eq_true_eq, Numeral.value]
  rfl

theorem digit_plain : ∀ byte, isAsciiDigit byte = true →
    byte ≠ 46 ∧ byte ≠ 118 ∧ startsSuffix byte = false :=
  forall_byte (by decide +kernel)

theorem numeral_plain (numeral : Numeral) {byte : UInt8} (member : byte ∈ numeral.digits) :
    byte ≠ 46 ∧ byte ≠ 118 ∧ startsSuffix byte = false :=
  digit_plain byte (List.all_eq_true.mp numeral.written.2 byte member)

theorem Numbers.text_numeral {numbers : Numbers} {text : Bytes} (member : text ∈ numbers.texts) :
    ∃ numeral : Numeral, text = numeral.digits := by
  cases numbers with
  | two | three | four =>
      simp only [Numbers.texts, List.mem_cons, List.not_mem_nil, or_false] at member
      grind

theorem Numbers.split_texts (numbers : Numbers) :
    ([46].intercalate numbers.texts).splitOn 46 = numbers.texts := by
  apply List.splitOn_intercalate
  · intro text member dot
    obtain ⟨numeral, rfl⟩ := Numbers.text_numeral member
    exact (numeral_plain numeral dot).1 rfl
  · cases numbers <;> simp [Numbers.texts]

theorem Numbers.joined_plain {numbers : Numbers} {byte : UInt8}
    (member : byte ∈ [46].intercalate numbers.texts) :
    byte ≠ 118 ∧ startsSuffix byte = false := by
  have inside (numeral : Numeral) (digit : byte ∈ numeral.digits) :
      byte ≠ 118 ∧ startsSuffix byte = false :=
    (numeral_plain numeral digit).2
  have dot (between : byte = 46) : byte ≠ 118 ∧ startsSuffix byte = false := by
    subst between
    decide
  cases numbers <;> simp [Numbers.texts, List.intercalate] at member <;> grind

theorem Numbers.joined_ne_nil (numbers : Numbers) : [46].intercalate numbers.texts ≠ [] := by
  cases numbers <;> simp [Numbers.texts, List.intercalate, Numeral.written]

theorem splitSuffix_none {numeric : Bytes} (plain : ∀ byte ∈ numeric, startsSuffix byte = false) :
    splitSuffix numeric = (numeric, none) := by
  have absent : numeric.findIdx? startsSuffix = none := List.findIdx?_eq_none_iff.mpr plain
  simp [splitSuffix, absent]

theorem splitSuffix_some {numeric suffix : Bytes} {separator : UInt8}
    (plain : ∀ byte ∈ numeric, startsSuffix byte = false) (starts : startsSuffix separator = true) :
    splitSuffix (numeric ++ separator :: suffix) = (numeric, some suffix) := by
  have found : (numeric ++ separator :: suffix).findIdx? startsSuffix = some numeric.length := by
    rw [List.findIdx?_append, List.findIdx?_eq_none_iff.mpr plain]
    simp [List.findIdx?_cons, starts]
  simp [splitSuffix, found, List.drop_append]

namespace ReleaseTag

theorem split_text (tag : ReleaseTag semver) :
    splitSuffix ([46].intercalate tag.numbers.texts ++ tag.suffixText)
      = ([46].intercalate tag.numbers.texts, tag.suffix) := by
  have plain : ∀ byte ∈ [46].intercalate tag.numbers.texts, startsSuffix byte = false :=
    fun byte member => (Numbers.joined_plain member).2
  unfold suffixText suffix
  cases tag.prerelease with
  | none =>
      cases tag.build with
      | none => simpa using splitSuffix_none plain
      | some build => exact splitSuffix_some plain (by decide)
  | some pre =>
      cases tag.build with
      | none =>
          have hyphen : startsSuffix 45 = true := rfl
          simpa using splitSuffix_some plain hyphen
      | some build => exact splitSuffix_some plain (by decide)

theorem strip_text (tag : ReleaseTag semver) :
    (if startsWith (utf8 "v") tag.text then tag.text.tail else tag.text)
      = [46].intercalate tag.numbers.texts ++ tag.suffixText := by
  have mark : utf8 "v" = [118] := by decide
  cases marked : tag.marked with
  | true => simp [text, marked, startsWith, mark]
  | false =>
      obtain ⟨first, rest, joined⟩ := List.exists_cons_of_ne_nil tag.numbers.joined_ne_nil
      have plain : first ≠ 118 := (Numbers.joined_plain (joined ▸ List.mem_cons_self)).1
      have unmarked : startsWith (utf8 "v") tag.text = false := by
        simp [text, marked, joined, startsWith, mark, List.isPrefixOf, plain.symm]
      rw [unmarked]
      simp [text, marked]

/-- What the code takes for the tag's pre-release. -/
def taken (tag : ReleaseTag semver) : semver.Prerelease :=
  (tag.suffix.bind semver.newPrerelease).getD semver.noPrerelease

def packed (tag : ReleaseTag semver) : Version semver :=
  { major := tag.numbers.major
    minor := tag.numbers.minor
    patch := tag.numbers.patch * patchScale + tag.numbers.sub
    pre := tag.taken
    build := semver.noBuild }

theorem applySuffix_new (tag : ReleaseTag semver) (major minor patch : Nat) :
    applySuffix (.new major minor patch) tag.suffix
      = ⟨major, minor, patch, tag.taken, semver.noBuild⟩ := by
  unfold applySuffix taken
  cases tag.suffix.bind semver.newPrerelease <;> rfl

theorem parseReleaseTag_of_fits {tag : ReleaseTag semver} (fits : tag.numbers.Fits) :
    parseReleaseTag tag.text = .ok (some tag.packed) := by
  unfold parseReleaseTag
  simp only [strip_text, split_text, Numbers.split_texts]
  unfold packed
  obtain ⟨fitsMajor, fitsMinor, fitsPatch⟩ := fits
  cases numbers : tag.numbers with
  | two major minor =>
      simp only [numbers, Numbers.major, Numbers.minor] at fitsMajor fitsMinor
      simp only [Numbers.texts, parseU64_numeral, applySuffix_new, fitsMajor, fitsMinor, if_true,
        Numbers.major, Numbers.minor, Numbers.patch, Numbers.sub, Nat.zero_mul]
  | three major minor patch =>
      simp only [numbers, Numbers.major, Numbers.minor, Numbers.patch, Numbers.sub, Nat.add_zero]
        at fitsMajor fitsMinor fitsPatch
      have digits : patch.value < Checked.usizeLimit := by
        unfold patchScale at fitsPatch
        omega
      simp only [Numbers.texts, parseU64_numeral, applySuffix_new, fitsMajor, fitsMinor, digits,
        if_true, Checked.mul_ok fitsPatch, Checked.ok_bind, Checked.pure_ok, Numbers.major,
        Numbers.minor, Numbers.patch, Numbers.sub, Nat.add_zero]
  | four major minor patch sub =>
      simp only [numbers, Numbers.major, Numbers.minor, Numbers.patch, Numbers.sub]
        at fitsMajor fitsMinor fitsPatch
      have digits : patch.value < Checked.usizeLimit ∧ sub.value < Checked.usizeLimit ∧
          patch.value * patchScale < Checked.usizeLimit := by
        unfold patchScale at *
        omega
      simp only [Numbers.texts, parseU64_numeral, applySuffix_new, fitsMajor, fitsMinor, digits,
        if_true, Checked.mul_ok digits.2.2, Checked.ok_bind, Checked.add_ok fitsPatch,
        Checked.pure_ok, Numbers.major, Numbers.minor, Numbers.patch, Numbers.sub]

theorem fits_of_parseReleaseTag {tag : ReleaseTag semver} {version : Version semver}
    (parsed : parseReleaseTag tag.text = .ok (some version)) : tag.numbers.Fits := by
  have read {numeral : Numeral} {value : Nat} (parsed : parseU64 numeral.digits = some value) :
      numeral.value < Checked.usizeLimit ∧ numeral.value = value := by
    rw [parseU64_numeral] at parsed
    simpa using parsed
  unfold parseReleaseTag at parsed
  simp only [strip_text, split_text, Numbers.split_texts] at parsed
  unfold Numbers.Fits
  cases numbers : tag.numbers with
  | two major minor =>
      simp only [numbers, Numbers.texts] at parsed
      split at parsed
      next readMajor readMinor =>
        exact ⟨(read readMajor).1, (read readMinor).1, by simp [Numbers.patch, Numbers.sub, Checked.usizeLimit]⟩
      next => cases parsed
  | three major minor patch =>
      simp only [numbers, Numbers.texts] at parsed
      split at parsed
      next readMajor readMinor readPatch =>
        obtain ⟨scaled, product, -⟩ := Results.bind_ok parsed
        obtain ⟨-, rfl⟩ := read readPatch
        obtain ⟨fits, -⟩ := Checked.mul_ok_iff.mp product
        exact ⟨(read readMajor).1, (read readMinor).1, by simpa [Numbers.patch, Numbers.sub] using fits⟩
      next => cases parsed
  | four major minor patch sub =>
      simp only [numbers, Numbers.texts] at parsed
      split at parsed
      next readMajor readMinor readPatch readSub =>
        obtain ⟨scaled, product, added⟩ := Results.bind_ok parsed
        obtain ⟨whole, sum, -⟩ := Results.bind_ok added
        obtain ⟨-, rfl⟩ := read readPatch
        obtain ⟨-, rfl⟩ := read readSub
        obtain ⟨-, rfl⟩ := Checked.mul_ok_iff.mp product
        exact ⟨(read readMajor).1, (read readMinor).1, (Checked.add_ok_iff.mp sum).1⟩
      next => cases parsed

end ReleaseTag

end Reading

end StreamServer.Updater
