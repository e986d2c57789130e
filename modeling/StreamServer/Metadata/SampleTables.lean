import StreamServer.Shared.ByteText
import StreamServer.Shared.Loops

set_option autoImplicit false

namespace StreamServer.Metadata

open Checked Loops

/-- The bytes of a slice, with the bound that every slice keeps. -/
abbrev Slice := { bytes : Bytes // bytes.length < sliceLimit }

def beAt (data : Bytes) (offset count : Nat) : Checked Nat :=
  (List.range count).foldlM (fun value index => do
    return value * 256 + (← get data (← add usizeLimit offset index)).toNat) 0

def u32At (data : Bytes) (offset : Nat) : Checked Nat := beAt data offset 4

def u64At (data : Bytes) (offset : Nat) : Checked Nat := beAt data offset 8

def findAtom (data atomType : Bytes) : Checked (Option Nat) :=
  firstOf (fun index => do
    let atom ← slice data (← add usizeLimit index 4) (← add usizeLimit index 8)
    return if atom = atomType then some index else none) (List.range (data.length - 8))

def parseTable {A : Type} (cap entrySize : Nat) (entry : Nat → Checked A) (data : Bytes) :
    Checked (List A) := do
  if data.length < 16 then return []
  let entryCount ← u32At data 12
  collectWhile (fun index => do
    let offset ← add usizeLimit 16 (← mul usizeLimit index entrySize)
    if (← add usizeLimit offset entrySize) > data.length then return none
    return some (← entry offset)) (List.range (min entryCount cap))

def parseStss (data : Bytes) : Checked (List Nat) := parseTable 100 4 (u32At data) data

def parseStco (data : Bytes) (is64bit : Bool) : Checked (List Nat) :=
  if is64bit then parseTable 1000 8 (u64At data) data else parseTable 1000 4 (u32At data) data

/-- The first chunk and the samples per chunk; the description index is not read. -/
def parseStsc (data : Bytes) : Checked (List (Nat × Nat)) :=
  parseTable 100 12 (fun offset => do
    return (← u32At data offset, ← u32At data (← add usizeLimit offset 4))) data

structure Walk where
  chunk : Nat
  sample : Nat
  samplesPerChunk : Nat
  stscIdx : Nat
deriving DecidableEq, Repr

/-- The table entry after the current one comes into force once its first chunk is reached. -/
def Walk.enterChunk (stsc : List (Nat × Nat)) (walk : Walk) : Checked Walk := do
  let next ← add usizeLimit walk.stscIdx 1
  if next < stsc.length then
    let entry ← get stsc next
    if walk.chunk ≥ entry.1 then
      return { walk with stscIdx := next, samplesPerChunk := entry.2 }
  return walk

def Walk.turn (sampleNumber : Nat) (stsc : List (Nat × Nat)) (walk : Walk) :
    Checked (Turn Walk Nat) := do
  if ¬ walk.sample < sampleNumber then return .done walk.chunk
  let walk ← walk.enterChunk stsc
  let sample ← add u32Limit walk.sample walk.samplesPerChunk
  if sample > sampleNumber then return .done walk.chunk
  let chunk ← add u32Limit walk.chunk 1
  return .again { walk with sample, chunk }

theorem Walk.enterChunk_chunk {stsc : List (Nat × Nat)} {walk entered : Walk}
    (taken : walk.enterChunk stsc = .ok entered) : entered.chunk = walk.chunk := by
  unfold enterChunk at taken
  cases next : add usizeLimit walk.stscIdx 1 with
  | error fault => simp [next] at taken
  | ok index =>
    by_cases inside : index < stsc.length
    case neg =>
      simp only [next, ok_bind, if_neg inside, pure_ok] at taken
      cases taken
      rfl
    simp only [next, ok_bind, if_pos inside, get_ok inside] at taken
    split at taken
    all_goals
      cases taken
      rfl

theorem Walk.turn_chunk {sampleNumber : Nat} {stsc : List (Nat × Nat)} {walk next : Walk}
    (taken : walk.turn sampleNumber stsc = .ok (.again next)) :
    next.chunk = walk.chunk + 1 ∧ next.chunk < u32Limit := by
  unfold turn at taken
  by_cases reached : walk.sample < sampleNumber
  case neg => simp [reached] at taken
  cases entered : walk.enterChunk stsc with
  | error fault => simp [reached, entered] at taken
  | ok inside =>
    have chunk := enterChunk_chunk entered
    simp only [reached, not_true_eq_false, if_false, entered, ok_bind] at taken
    cases sum : add u32Limit inside.sample inside.samplesPerChunk with
    | error fault => simp [sum] at taken
    | ok sample =>
      simp only [sum, ok_bind] at taken
      split at taken
      next => simp at taken
      cases number : add u32Limit inside.chunk 1 with
      | error fault => simp [number] at taken
      | ok chunk' =>
        obtain ⟨fits, rfl⟩ := add_ok_iff.mp number
        simp only [number, ok_bind, pure_ok, Except.ok.injEq, Turn.again.injEq] at taken
        subst taken
        exact ⟨congrArg (· + 1) chunk, fits⟩

def walkLoop (sampleNumber : Nat) (stsc : List (Nat × Nat)) : Loop Fault Walk Nat where
  turn := Walk.turn sampleNumber stsc
  size walk := u32Limit - walk.chunk
  lowers walk next taken := by
    obtain ⟨chunk, fits⟩ := Walk.turn_chunk taken
    omega

def sampleToChunk (sampleNumber : Nat) (stsc : List (Nat × Nat)) : Checked Nat :=
  match stsc with
  | [] => .ok sampleNumber
  | first :: _ => (walkLoop sampleNumber stsc).run ⟨1, 1, first.2, 0⟩

def tableOf {A : Type} (moov : Bytes) (parse : Bytes → Checked (List A)) :
    Option Nat → Checked (List A)
  | some pos => do parse (← sliceFrom moov pos)
  | none => .ok []

def chunkOffsetsOf (moov : Bytes) : Checked (List Nat) := do
  match ← findAtom moov (utf8 "stco") with
  | some pos => parseStco (← sliceFrom moov pos) false
  | none => tableOf moov (parseStco · true) (← findAtom moov (utf8 "co64"))

def chunkIndex (stsc : List (Nat × Nat)) (kfIdx : Nat) : Checked Nat := do
  if stsc = [] then return kfIdx - 1
  return (← sampleToChunk kfIdx stsc) - 1

def parseMoovForKeyframes (moov : Bytes) : Checked (List Nat) := do
  let keyframeIndices ← tableOf moov parseStss (← findAtom moov (utf8 "stss"))
  let chunkOffsets ← chunkOffsetsOf moov
  let samplesPerChunk ← tableOf moov parseStsc (← findAtom moov (utf8 "stsc"))
  if keyframeIndices ≠ [] ∧ chunkOffsets ≠ [] then
    collectSome (fun kfIdx => do
      let index ← chunkIndex samplesPerChunk kfIdx
      if index < chunkOffsets.length then return some (← get chunkOffsets index)
      return none) (keyframeIndices.take 20)
  else return chunkOffsets.take 10

/-- The entry the walk counts a chunk with: at each chunk it moves on by one entry at most. -/
def entryAt (stsc : List (Nat × Nat)) : Nat → Nat
  | 0 => 0
  | chunk + 1 =>
    if (stsc[entryAt stsc chunk + 1]?).any (·.1 ≤ chunk + 1) then entryAt stsc chunk + 1
    else entryAt stsc chunk

def samplesIn (stsc : List (Nat × Nat)) (chunk : Nat) : Nat :=
  (stsc[entryAt stsc chunk]?.map (·.2)).getD 0

def sampleAfter (stsc : List (Nat × Nat)) : Nat → Nat
  | 0 => 1
  | chunk + 1 => sampleAfter stsc chunk + samplesIn stsc (chunk + 1)

section Walks

variable {stsc : List (Nat × Nat)} {sampleNumber : Nat}

theorem sampleAfter_mono (stsc : List (Nat × Nat)) {earlier later : Nat} (ordered : earlier ≤ later) :
    sampleAfter stsc earlier ≤ sampleAfter stsc later := by
  induction ordered with
  | refl => exact Nat.le_refl _
  | step _ ih => exact Nat.le_trans ih (Nat.le_add_right _ _)

theorem entryAt_le (stsc : List (Nat × Nat)) (chunk : Nat) : entryAt stsc chunk ≤ chunk := by
  induction chunk with
  | zero => exact Nat.le_refl _
  | succ chunk ih =>
    unfold entryAt
    split <;> omega

def walkAfter (stsc : List (Nat × Nat)) (chunk : Nat) : Walk :=
  ⟨chunk + 1, sampleAfter stsc chunk, samplesIn stsc chunk, entryAt stsc chunk⟩

theorem walkAfter_enterChunk {chunk : Nat} (fits : chunk + 1 < u32Limit) :
    (walkAfter stsc chunk).enterChunk stsc =
      .ok ⟨chunk + 1, sampleAfter stsc chunk, samplesIn stsc (chunk + 1),
        entryAt stsc (chunk + 1)⟩ := by
  have bounded := entryAt_le stsc chunk
  have room : entryAt stsc chunk + 1 < usizeLimit := by
    unfold u32Limit at fits
    unfold usizeLimit
    omega
  simp only [Walk.enterChunk, walkAfter, add_ok room, ok_bind, samplesIn, entryAt]
  by_cases inside : entryAt stsc chunk + 1 < stsc.length
  · by_cases reached : stsc[entryAt stsc chunk + 1].1 ≤ chunk + 1
    · simp [inside, get_ok inside, reached]
    · simp [inside, get_ok inside, reached]
  · simp [inside]

theorem walkAfter_turn {chunk : Nat} (fits : chunk + 1 < u32Limit) :
    (walkAfter stsc chunk).turn sampleNumber stsc =
      if sampleNumber ≤ sampleAfter stsc chunk then .ok (.done (chunk + 1))
      else if ¬ sampleAfter stsc (chunk + 1) < u32Limit then .error .overflow
      else if sampleNumber < sampleAfter stsc (chunk + 1) then .ok (.done (chunk + 1))
      else if ¬ chunk + 2 < u32Limit then .error .overflow
      else .ok (.again (walkAfter stsc (chunk + 1))) := by
  unfold Walk.turn
  rw [walkAfter_enterChunk fits]
  by_cases ended : sampleNumber ≤ sampleAfter stsc chunk
  · simp [ended, walkAfter]
  by_cases counted : sampleAfter stsc (chunk + 1) < u32Limit
  case neg =>
    have sum : add u32Limit (sampleAfter stsc chunk) (samplesIn stsc (chunk + 1)) =
      .error .overflow := if_neg counted
    simp [ended, counted, walkAfter, sum]
  have sum : add u32Limit (sampleAfter stsc chunk) (samplesIn stsc (chunk + 1)) =
      .ok (sampleAfter stsc (chunk + 1)) := add_ok counted
  by_cases passed : sampleNumber < sampleAfter stsc (chunk + 1)
  · simp [ended, counted, walkAfter, sum, passed]
  by_cases numbered : chunk + 2 < u32Limit
  · have next : add u32Limit (chunk + 1) 1 = .ok (chunk + 2) := add_ok numbered
    simp [ended, counted, walkAfter, sum, passed, next, numbered]
  · have next : add u32Limit (chunk + 1) 1 = .error .overflow := if_neg numbered
    simp [ended, counted, walkAfter, sum, passed, next, numbered]

-- The chunks up to `last` add up to the sample before `sampleNumber`, and the numbers that show it
-- fit: those of the next sample and, where that is the one looked for, of the next chunk.
structure Completes (stsc : List (Nat × Nat)) (sampleNumber last : Nat) : Prop where
  counted : sampleNumber ≤ sampleAfter stsc last
  sampleFits : sampleAfter stsc last < u32Limit
  chunkFits : last < u32Limit
  nextFits : sampleAfter stsc last = sampleNumber → last + 1 < u32Limit

theorem walk_ok {last : Nat} (completes : Completes stsc sampleNumber last) (left : Nat) :
    ∀ chunk, chunk + left = last → chunk + 1 < u32Limit →
      ∃ result, (walkLoop sampleNumber stsc).run (walkAfter stsc chunk) = .ok result := by
  induction left with
  | zero =>
    rintro chunk rfl fits
    refine ⟨chunk + 1, Loop.run_done ?_⟩
    exact (walkAfter_turn fits).trans (if_pos completes.counted)
  | succ left ih =>
    intro chunk reaches fits
    have turn : (walkAfter stsc chunk).turn sampleNumber stsc = _ := walkAfter_turn fits
    by_cases ended : sampleNumber ≤ sampleAfter stsc chunk
    · exact ⟨_, Loop.run_done (turn.trans (if_pos ended))⟩
    have below : sampleAfter stsc (chunk + 1) ≤ sampleAfter stsc last :=
      sampleAfter_mono stsc (by omega)
    have sampleFits := Nat.lt_of_le_of_lt below completes.sampleFits
    rw [if_neg ended, if_neg (not_not_intro sampleFits)] at turn
    by_cases passed : sampleNumber < sampleAfter stsc (chunk + 1)
    · exact ⟨_, Loop.run_done (turn.trans (if_pos passed))⟩
    have chunkFits : chunk + 2 < u32Limit := by
      rcases Nat.eq_zero_or_pos left with rfl | more
      · have same : chunk + 1 = last := by omega
        subst same
        exact completes.nextFits (Nat.le_antisymm (by omega) completes.counted)
      · have := completes.chunkFits
        omega
    rw [if_neg passed, if_neg (not_not_intro chunkFits)] at turn
    obtain ⟨result, ran⟩ := ih (chunk + 1) (by omega) chunkFits
    exact ⟨result, (Loop.run_again turn).trans ran⟩

-- Where the walk has found a chunk, the chunks up to it complete the count; the sample looked for
-- is behind the chunks before it, and it is the first of the chunk or inside it.
structure Found (stsc : List (Nat × Nat)) (sampleNumber result : Nat) : Prop where
  completes : ∃ last, Completes stsc sampleNumber last
  positive : 0 < result
  numbered : result < u32Limit
  inside : sampleNumber ≤ 1 ∧ result = 1 ∨ sampleAfter stsc (result - 1) ≤ sampleNumber ∧
    (sampleNumber = sampleAfter stsc (result - 1) ∨
      sampleNumber < sampleAfter stsc result ∧ sampleAfter stsc result < u32Limit)

theorem walk_found {chunk result : Nat} (fits : chunk + 1 < u32Limit)
    (sampleFits : sampleAfter stsc chunk < u32Limit)
    (behind : chunk = 0 ∨ sampleAfter stsc chunk ≤ sampleNumber)
    (ran : (walkLoop sampleNumber stsc).run (walkAfter stsc chunk) = .ok result) :
    Found stsc sampleNumber result := by
  refine Loop.run_induction (walkLoop sampleNumber stsc)
    (motive := fun walk outcome => ∀ chunk, walk = walkAfter stsc chunk → chunk + 1 < u32Limit →
      sampleAfter stsc chunk < u32Limit → (chunk = 0 ∨ sampleAfter stsc chunk ≤ sampleNumber) →
      outcome = .ok result → Found stsc sampleNumber result)
    ?_ ?_ ?_ (walkAfter stsc chunk) chunk rfl fits sampleFits behind ran
  · intro walk fault _ chunk _ _ _ _ impossible
    cases impossible
  · rintro walk ended taken chunk rfl fits sampleFits behind same
    cases same
    have turn := (walkAfter_turn fits).symm.trans taken
    split at turn
    next counted =>
      cases turn
      refine ⟨⟨chunk, counted, sampleFits, by omega, fun _ => fits⟩, by omega, fits, ?_⟩
      rcases behind with rfl | behind
      · exact .inl ⟨counted, rfl⟩
      · exact .inr ⟨behind, .inl (Nat.le_antisymm counted behind)⟩
    next uncounted =>
    split at turn
    next => cases turn
    next counts =>
    split at turn
    next passed =>
      cases turn
      have counts := not_not.mp counts
      refine ⟨⟨chunk + 1, Nat.le_of_lt passed, counts, fits, fun same => ?_⟩, by omega, fits, ?_⟩
      · exact absurd same (Nat.ne_of_gt passed)
      · exact .inr ⟨Nat.le_of_lt (Nat.lt_of_not_le uncounted), .inr ⟨passed, counts⟩⟩
    next =>
      split at turn
      next => cases turn
      next => cases turn
  · rintro walk next taken ih chunk rfl fits _ _ same
    have turn := (walkAfter_turn fits).symm.trans taken
    split at turn
    next => cases turn
    next =>
    split at turn
    next => cases turn
    next counts =>
    split at turn
    next => cases turn
    next passed =>
    split at turn
    next => cases turn
    next numbered =>
      cases turn
      exact ih (chunk + 1) rfl (not_not.mp numbered) (not_not.mp counts)
        (.inr (Nat.le_of_not_lt passed)) same

theorem sampleToChunk_walk (entered : stsc ≠ []) :
    sampleToChunk sampleNumber stsc =
      (walkLoop sampleNumber stsc).run (walkAfter stsc 0) := by
  cases stsc with
  | nil => exact absurd rfl entered
  | cons first rest => rfl

theorem sampleToChunk_found {result : Nat} (entered : stsc ≠ [])
    (found : sampleToChunk sampleNumber stsc = .ok result) : Found stsc sampleNumber result := by
  rw [sampleToChunk_walk entered] at found
  have first : sampleAfter stsc 0 < u32Limit := show 1 < u32Limit by decide
  exact walk_found (by decide) first (.inl rfl) found

theorem sampleToChunk_ok_iff (entered : stsc ≠ []) :
    (∃ result, sampleToChunk sampleNumber stsc = .ok result) ↔
      ∃ last, Completes stsc sampleNumber last := by
  constructor
  · rintro ⟨result, found⟩
    exact (sampleToChunk_found entered found).completes
  · rintro ⟨last, completes⟩
    rw [sampleToChunk_walk entered]
    exact walk_ok completes last 0 (Nat.zero_add last) (by decide)

end Walks

end StreamServer.Metadata
