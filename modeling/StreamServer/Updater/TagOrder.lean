import Mathlib.Data.List.Lex
import Mathlib.Data.Sum.Order
import Mathlib.Order.WithBot
import StreamServer.Updater.Version

set_option autoImplicit false

namespace StreamServer.Updater

open ByteText

structure Rank (semver : Semver) where
  major : Nat
  minor : Nat
  patch : Nat
  sub : Nat
  pre : semver.Prerelease

-- What the text behind the first hyphen or plus sign is taken for, beside what the tag states:
-- its own pre-release or none, build metadata that spell a pre-release, or nothing at all where a
-- pre-release has build metadata behind it.
inductive Reading (semver : Semver) where
  | own (pre : semver.Prerelease)
  | build (read : semver.Prerelease)
  | dropped (stated : semver.Prerelease)

variable {semver : Semver}

def Rank.cmp (left right : Rank semver) : Ordering :=
  (compare left.major right.major).then <|
  (compare left.minor right.minor).then <|
  (compare left.patch right.patch).then <|
  (compare left.sub right.sub).then (compare left.pre right.pre)

def ReleaseTag.rank (tag : ReleaseTag semver) : Rank semver :=
  ⟨tag.numbers.major, tag.numbers.minor, tag.numbers.patch, tag.numbers.sub, tag.pre⟩

def Version.rank (version : Version semver) : Rank semver :=
  ⟨version.major, version.minor, version.patch, 0, version.pre⟩

theorem compare_eq_compare {A B : Type} [LinearOrder A] [LinearOrder B] {first second : A}
    {third fourth : B} :
    compare first second = compare third fourth ↔
      (first < second ↔ third < fourth) ∧ (second < first ↔ fourth < third) := by
  rw [← compare_lt_iff_lt, ← compare_lt_iff_lt, ← compare_gt_iff_gt, ← compare_gt_iff_gt]
  cases compare first second <;> cases compare third fourth <;> simp

namespace Reading

def taken : Reading semver → semver.Prerelease
  | own pre => pre
  | build read => read
  | dropped _ => semver.noPrerelease

def stated : Reading semver → semver.Prerelease
  | own pre => pre
  | build _ => semver.noPrerelease
  | dropped stated => stated

def Agrees : Reading semver → Reading semver → Prop
  | own _, own _ => True
  | own pre, build read | build read, own pre => pre ≠ semver.noPrerelease ∧ pre < read
  | own pre, dropped stated | dropped stated, own pre => pre ≠ semver.noPrerelease ∧ pre < stated
  | build read, build other => read = other
  | dropped stated, dropped other => stated = other
  | build _, dropped _ | dropped _, build _ => False

def Below : Reading semver → Reading semver → Prop
  | own pre, own other | own pre, build other | build pre, own other | build pre, build other =>
      pre < other
  | own pre, dropped _ => pre ≠ semver.noPrerelease
  | build _, dropped _ => True
  | dropped _, _ => False

def Valid : Reading semver → Prop
  | own pre => pre ≤ semver.noPrerelease
  | build read => read < semver.noPrerelease
  | dropped stated => stated < semver.noPrerelease

theorem agrees_iff {left right : Reading semver} (validLeft : left.Valid) (validRight : right.Valid) :
    compare left.taken right.taken = compare left.stated right.stated ↔ left.Agrees right := by
  cases left <;> cases right <;>
    simp only [Valid] at validLeft validRight <;>
    simp only [taken, stated, Agrees, compare_eq_compare] <;>
    grind

theorem below_iff {left right : Reading semver} (validLeft : left.Valid)
    (validRight : right.Valid) : left.taken < right.taken ↔ left.Below right := by
  cases left <;> cases right <;>
    simp only [Valid] at validLeft validRight <;> simp only [taken, Below] <;> grind

end Reading

section Readings

def readBuild (build : Bytes) : Reading semver :=
  match semver.newPrerelease build with
  | some read => if read = semver.noPrerelease then .own read else .build read
  | none => .own semver.noPrerelease

def ReleaseTag.reading (tag : ReleaseTag semver) : Reading semver :=
  match tag.prerelease, tag.build with
  | some pre, some _ => .dropped pre.value
  | some pre, none => .own pre.value
  | none, none => .own semver.noPrerelease
  | none, some build => readBuild build

theorem readBuild_spec (lawful : semver.Lawful) (build : Bytes) :
    (readBuild build : Reading semver).Valid ∧
      (readBuild build : Reading semver).stated = semver.noPrerelease ∧
      (readBuild build : Reading semver).taken
        = (semver.newPrerelease build).getD semver.noPrerelease := by
  unfold readBuild
  cases semver.newPrerelease build with
  | none => exact ⟨le_refl semver.noPrerelease, rfl, rfl⟩
  | some value =>
      by_cases empty : value = semver.noPrerelease
      · simp only [if_pos empty]
        exact ⟨lawful.below value, empty, rfl⟩
      · simp only [if_neg empty]
        exact ⟨lt_of_le_of_ne (lawful.below value) empty, rfl, rfl⟩

namespace ReleaseTag

theorem reading_valid (lawful : semver.Lawful) (tag : ReleaseTag semver) : tag.reading.Valid := by
  have proper (pre : StatedPrerelease semver) : pre.value < semver.noPrerelease :=
    lt_of_le_of_ne (lawful.below _) pre.stated
  unfold reading
  cases tag.prerelease with
  | some pre =>
      cases tag.build with
      | some build => exact proper pre
      | none => exact (proper pre).le
  | none =>
      cases tag.build with
      | some build => exact (readBuild_spec lawful build).1
      | none => exact le_refl semver.noPrerelease

theorem reading_stated (lawful : semver.Lawful) (tag : ReleaseTag semver) :
    tag.reading.stated = tag.pre := by
  unfold reading pre
  cases tag.prerelease with
  | some pre => cases tag.build <;> rfl
  | none =>
      cases tag.build with
      | some build => exact (readBuild_spec lawful build).2.1
      | none => rfl

theorem reading_taken (lawful : semver.Lawful) (tag : ReleaseTag semver) :
    tag.reading.taken = tag.taken := by
  unfold reading taken suffix
  cases tag.prerelease with
  | some pre =>
      cases tag.build with
      | some build =>
          have unread : semver.newPrerelease (pre.text ++ 43 :: build) = none := by
            cases read : semver.newPrerelease (pre.text ++ 43 :: build) with
            | none => rfl
            | some value => exact absurd (lawful.noPlus read) (by simp)
          simp [unread, Reading.taken]
      | none => simp [pre.valid, Reading.taken]
  | none =>
      cases tag.build with
      | some build => exact (readBuild_spec lawful build).2.2
      | none => rfl

end ReleaseTag

end Readings

section Order

/-- The code puts the numbers of the first below those of the second. -/
def Precedes (left right : ReleaseTag semver) : Prop :=
  left.numbers.sub < right.numbers.sub + (right.numbers.patch - left.numbers.patch) * patchScale ∨
    (left.numbers.sub = right.numbers.sub + (right.numbers.patch - left.numbers.patch) * patchScale ∧
      left.reading.Below right.reading)

-- When the tags agree in major and minor version, packing keeps their patches apart, and where all
-- numbers agree so does what is taken for their pre-releases.
def Separated (left right : ReleaseTag semver) : Prop :=
  left.numbers.major = right.numbers.major → left.numbers.minor = right.numbers.minor →
    (left.numbers.patch < right.numbers.patch → Precedes left right) ∧
    (right.numbers.patch < left.numbers.patch → Precedes right left) ∧
    (left.numbers.patch = right.numbers.patch → left.numbers.sub = right.numbers.sub →
      left.reading.Agrees right.reading)

theorem then_eq_then {outer inner other : Ordering} :
    outer.then inner = outer.then other ↔ (outer = .eq → inner = other) := by
  cases outer <;> simp

theorem packed_difference (sub other : Nat) {low high : Nat} (below : low ≤ high) :
    (low * patchScale + sub < high * patchScale + other ↔
        sub < other + (high - low) * patchScale) ∧
      (low * patchScale + sub = high * patchScale + other ↔
        sub = other + (high - low) * patchScale) := by
  have scaled := Nat.mul_le_mul_right patchScale below
  rw [Nat.sub_mul]
  omega

theorem packed_cmp (lawful : semver.Lawful) (left right : ReleaseTag semver) :
    left.packed.cmp right.packed = left.rank.cmp right.rank ↔ Separated left right := by
  simp only [Version.cmp, Rank.cmp, ReleaseTag.packed, ReleaseTag.rank, then_eq_then,
    compare_eq_iff_eq, Separated, ← ReleaseTag.reading_taken lawful,
    ← ReleaseTag.reading_stated lawful]
  refine imp_congr_right fun _ => imp_congr_right fun _ => ?_
  have agrees := Reading.agrees_iff (left.reading_valid lawful) (right.reading_valid lawful)
  have below_right := Reading.below_iff (left.reading_valid lawful) (right.reading_valid lawful)
  have below_left := Reading.below_iff (right.reading_valid lawful) (left.reading_valid lawful)
  have noBuild : compare semver.noBuild semver.noBuild = .eq := compare_eq_iff_eq.mpr rfl
  rcases lt_trichotomy left.numbers.patch right.numbers.patch with below | same | above
  · have patches := compare_lt_iff_lt.mpr below
    obtain ⟨less, equal⟩ := packed_difference left.numbers.sub right.numbers.sub below.le
    simp only [patches, Ordering.lt_then, Ordering.then_eq_lt, compare_lt_iff_lt,
      compare_eq_iff_eq, less, equal, noBuild, Precedes, Ordering.then_eq, below, below_right,
      true_imp_iff]
    simp [below.not_gt, below.ne]
  · have packed : compare (right.numbers.patch * patchScale + left.numbers.sub)
          (right.numbers.patch * patchScale + right.numbers.sub)
        = compare left.numbers.sub right.numbers.sub :=
      compare_eq_compare.mpr ⟨Nat.add_lt_add_iff_left, Nat.add_lt_add_iff_left⟩
    have patches : compare right.numbers.patch right.numbers.patch = .eq :=
      compare_eq_iff_eq.mpr rfl
    simp only [same, packed, patches, Ordering.eq_then, then_eq_then, compare_eq_iff_eq, noBuild,
      Ordering.then_eq, agrees]
    simp
  · have patches := compare_gt_iff_gt.mpr above
    obtain ⟨less, equal⟩ := packed_difference right.numbers.sub left.numbers.sub above.le
    simp only [patches, Ordering.gt_then, Ordering.then_eq_gt, compare_gt_iff_gt, compare_eq_iff_eq,
      less, eq_comm.trans equal, noBuild, Precedes, Ordering.then_eq, above, below_left,
      true_imp_iff]
    simp [above.not_gt, above.ne']

def ToldApart (tag : ReleaseTag semver) (package : Version semver) : Prop :=
  tag.numbers.major = package.major → tag.numbers.minor = package.minor →
    (tag.numbers.patch < package.patch →
      tag.numbers.sub ≤ (package.patch - tag.numbers.patch) * patchScale) ∧
    (tag.numbers.patch = package.patch → tag.numbers.sub = 0 → ¬ package.pre < tag.pre)

theorem packed_newer (lawful : semver.Lawful) (tag : ReleaseTag semver) (package : Version semver) :
    (isNewer tag.packed (.new package.major package.minor (package.patch * patchScale)) = true
        ↔ tag.rank.cmp package.rank = .gt) ↔ ToldApart tag package := by
  have noneAbove : ¬ semver.noPrerelease < tag.taken := not_lt.mpr (lawful.below _)
  simp only [isNewer, beq_iff_eq, Version.cmp, Rank.cmp, ReleaseTag.packed, ReleaseTag.rank,
    Version.rank, Version.new, Ordering.then_eq_gt, compare_gt_iff_gt, compare_eq_iff_eq,
    noneAbove, lt_irrefl, and_false, or_false, ToldApart]
  by_cases sameMajor : tag.numbers.major = package.major
  · by_cases sameMinor : tag.numbers.minor = package.minor
    · simp only [sameMajor, sameMinor, lt_irrefl, false_or, true_and, true_imp_iff]
      rcases lt_trichotomy tag.numbers.patch package.patch with below | same | above
      · have scaled := (packed_difference tag.numbers.sub 0 below.le).1
        have made : package.patch * patchScale < tag.numbers.patch * patchScale + tag.numbers.sub ↔
            ¬ tag.numbers.sub ≤ (package.patch - tag.numbers.patch) * patchScale := by
          have equal := (packed_difference tag.numbers.sub 0 below.le).2
          omega
        simp [made, below, below.not_gt, below.ne]
      · simp [same, Nat.pos_iff_ne_zero]
        grind
      · have scaled := Nat.mul_le_mul_right patchScale above
        have higher : package.patch * patchScale < tag.numbers.patch * patchScale + tag.numbers.sub := by
          rw [Nat.succ_mul] at scaled
          unfold patchScale at *
          omega
        simp [higher, above, above.not_gt, above.ne']
    · simp [sameMinor]
  · simp [sameMajor]

end Order

def ComparesAsTags (left right : ReleaseTag semver) : Prop :=
  ∃ first second : Version semver, parseReleaseTag left.text = .ok (some first) ∧
    parseReleaseTag right.text = .ok (some second) ∧ first.cmp second = left.rank.cmp right.rank

def NewerAsTag (tag : ReleaseTag semver) (package : Version semver) : Prop :=
  ∃ candidate current : Version semver, parseReleaseTag tag.text = .ok (some candidate) ∧
    normalizeCurrentVersion package = .ok current ∧
    (isNewer candidate current = true ↔ tag.rank.cmp package.rank = .gt)

theorem comparesAsTags_packed (left right : ReleaseTag semver) :
    ComparesAsTags left right ↔ left.numbers.Fits ∧ right.numbers.Fits ∧
      left.packed.cmp right.packed = left.rank.cmp right.rank := by
  constructor
  · rintro ⟨first, second, parsed, parsedOther, compared⟩
    have fits := ReleaseTag.fits_of_parseReleaseTag parsed
    have fitsOther := ReleaseTag.fits_of_parseReleaseTag parsedOther
    rw [ReleaseTag.parseReleaseTag_of_fits fits] at parsed
    rw [ReleaseTag.parseReleaseTag_of_fits fitsOther] at parsedOther
    cases parsed
    cases parsedOther
    exact ⟨fits, fitsOther, compared⟩
  · rintro ⟨fits, fitsOther, compared⟩
    exact ⟨_, _, ReleaseTag.parseReleaseTag_of_fits fits,
      ReleaseTag.parseReleaseTag_of_fits fitsOther, compared⟩

theorem normalizeCurrentVersion_ok_iff {package current : Version semver} :
    normalizeCurrentVersion package = .ok current ↔
      package.patch * patchScale < Checked.usizeLimit ∧
        current = .new package.major package.minor (package.patch * patchScale) := by
  unfold normalizeCurrentVersion
  constructor
  · intro normalized
    obtain ⟨scaled, product, finished⟩ := Results.bind_ok normalized
    obtain ⟨fits, rfl⟩ := Checked.mul_ok_iff.mp product
    cases finished
    exact ⟨fits, rfl⟩
  · rintro ⟨fits, rfl⟩
    rw [Checked.mul_ok fits]
    rfl

theorem newerAsTag_packed (tag : ReleaseTag semver) (package : Version semver) :
    NewerAsTag tag package ↔ tag.numbers.Fits ∧ package.patch * patchScale < Checked.usizeLimit ∧
      (isNewer tag.packed (.new package.major package.minor (package.patch * patchScale)) = true
        ↔ tag.rank.cmp package.rank = .gt) := by
  constructor
  · rintro ⟨candidate, current, parsed, normalized, newer⟩
    have fits := ReleaseTag.fits_of_parseReleaseTag parsed
    rw [ReleaseTag.parseReleaseTag_of_fits fits] at parsed
    obtain ⟨patchFits, rfl⟩ := normalizeCurrentVersion_ok_iff.mp normalized
    cases parsed
    exact ⟨fits, patchFits, newer⟩
  · rintro ⟨fits, patchFits, newer⟩
    exact ⟨_, _, ReleaseTag.parseReleaseTag_of_fits fits,
      normalizeCurrentVersion_ok_iff.mpr ⟨patchFits, rfl⟩, newer⟩

theorem releaseTags_ordered_iff (lawful : semver.Lawful) (left right : ReleaseTag semver)
    (package : Version semver) :
    (ComparesAsTags left right ↔
        left.numbers.Fits ∧ right.numbers.Fits ∧ Separated left right) ∧
      (NewerAsTag left package ↔
        left.numbers.Fits ∧ package.patch * patchScale < Checked.usizeLimit ∧
          ToldApart left package) := by
  rw [comparesAsTags_packed, newerAsTag_packed, packed_cmp lawful, packed_newer lawful]
  exact ⟨Iff.rfl, Iff.rfl⟩

section Crate

/-- Numeric identifiers are below the others. -/
abbrev Identifier := Nat ⊕ₗ List Nat

def readIdentifier (text : Bytes) : Option Identifier :=
  if text = [] then none
  else if text.all isAsciiDigit then
    if text.head? = some 48 ∧ text.length ≠ 1 then none
    else some (toLex (.inl (Decimals.digitsValue text)))
  else some (toLex (.inr (text.map UInt8.toNat)))

def prereleaseByte (byte : UInt8) : Bool := isAsciiAlphanumeric byte || byte == 45 || byte == 46

def readPrerelease (text : Bytes) : Option (WithTop (List Identifier)) :=
  if text = [] then some ⊤
  else if text.all prereleaseByte then ((text.splitOn 46).mapM readIdentifier).map some
  else none

def crate : Semver where
  Prerelease := WithTop (List Identifier)
  BuildMetadata := List Nat
  prereleaseOrder := inferInstance
  buildOrder := inferInstance
  noPrerelease := ⊤
  noBuild := []
  newPrerelease := readPrerelease

theorem crate_lawful : crate.Lawful where
  below pre := le_top (α := WithTop (List Identifier)) (a := pre)
  noPlus {text pre} read plus := by
    unfold crate readPrerelease at read
    simp only at read
    split at read
    next empty => simp [empty] at plus
    next =>
      split at read
      next plain => exact absurd (List.all_eq_true.mp plain 43 plus) (by decide)
      next => cases read

def release (patch : Numeral) (build : Option Bytes) : ReleaseTag crate where
  marked := true
  numbers := .three ⟨utf8 "1", by decide⟩ ⟨utf8 "2", by decide⟩ patch
  prerelease := none
  build := build

def patch3 : Numeral := ⟨utf8 "3", by decide⟩

theorem releases_ordered :
    (ComparesAsTags (release patch3 none) (release ⟨utf8 "4", by decide⟩ none) ↔
        (release patch3 none).numbers.Fits ∧ (release ⟨utf8 "4", by decide⟩ none).numbers.Fits ∧
          Separated (release patch3 none) (release ⟨utf8 "4", by decide⟩ none)) ∧
      (NewerAsTag (release patch3 none) (.new 1 2 3) ↔
        (release patch3 none).numbers.Fits ∧
          (Version.new 1 2 3 : Version crate).patch * patchScale < Checked.usizeLimit ∧
          ToldApart (release patch3 none) (.new 1 2 3)) :=
  releaseTags_ordered_iff crate_lawful _ _ _

-- The tag `v1.2.3+build.5` is the release `v1.2.3` and is put below it.
theorem build_below_release :
    (release patch3 (some (utf8 "build.5"))).text = utf8 "v1.2.3+build.5" ∧
      ¬ ∀ left right : ReleaseTag crate, ComparesAsTags left right := by
  refine ⟨by decide +kernel, fun compares => ?_⟩
  have compared := compares (release patch3 (some (utf8 "build.5"))) (release patch3 none)
  rw [comparesAsTags_packed, packed_cmp crate_lawful] at compared
  obtain ⟨-, -, separated⟩ := compared
  have agrees := (separated rfl rfl).2.2 rfl rfl
  let identifiers : WithTop (List Identifier) :=
    some [toLex (.inr ((utf8 "build").map UInt8.toNat)), toLex (.inl 5)]
  have read : crate.newPrerelease (utf8 "build.5") = some identifiers := by
    show readPrerelease (utf8 "build.5") = some identifiers
    decide +kernel
  have stated : identifiers ≠ ⊤ := WithTop.coe_ne_top
  have built : (release patch3 (some (utf8 "build.5"))).reading = .build identifiers := by
    simp only [ReleaseTag.reading, release, readBuild, read]
    exact if_neg stated
  rw [built] at agrees
  exact agrees.1 rfl

end Crate

end StreamServer.Updater
