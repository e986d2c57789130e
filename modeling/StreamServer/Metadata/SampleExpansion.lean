import Mathlib.Algebra.GroupWithZero.Nat
import Mathlib.Data.Nat.Find
import StreamServer.Metadata.SampleTables

set_option autoImplicit false

namespace StreamServer.Metadata

open Checked Loops

structure IsoTable (table : List (Nat × Nat)) : Prop where
  first : ∃ samples rest, table = (1, samples) :: rest
  increasing : table.Pairwise fun earlier later => earlier.1 < later.1
  positive : ∀ entry ∈ table, 0 < entry.2

def expand (chunks : Nat) : List (Nat × Nat) → List Nat
  | [] => []
  | [(first, samples)] => List.replicate (chunks + 1 - first) samples
  | (first, samples) :: (next, following) :: rest =>
      List.replicate (next - first) samples ++ expand chunks ((next, following) :: rest)

structure InChunk (expansion : List Nat) (sampleNumber chunk : Nat) : Prop where
  numbered : 0 < chunk
  behind : (expansion.take (chunk - 1)).sum < sampleNumber
  within : sampleNumber ≤ (expansion.take chunk).sum

section Expansion

variable {table : List (Nat × Nat)}

structure RunAt (table : List (Nat × Nat)) (chunk entry : Nat) : Prop where
  begun : ∃ run, table[entry]? = some run ∧ run.1 ≤ chunk
  unfinished : ∀ next, table[entry + 1]? = some next → chunk < next.1

theorem RunAt.unique (increasing : table.Pairwise fun earlier later => earlier.1 < later.1)
    {chunk entry other : Nat} (left : RunAt table chunk entry) (right : RunAt table chunk other) :
    entry = other := by
  have not_lt {entry other : Nat} (left : RunAt table chunk entry)
      (right : RunAt table chunk other) : ¬ entry < other := by
    intro before
    obtain ⟨run, found, begun⟩ := right.begun
    obtain ⟨inside, rfl⟩ := List.getElem?_eq_some_iff.mp found
    have later := left.unfinished _ (List.getElem?_eq_getElem (by omega))
    rcases Nat.eq_or_lt_of_le (show entry + 1 ≤ other from before) with same | after
    · subst same
      omega
    · have ordered := List.pairwise_iff_getElem.mp increasing _ _ (by omega) inside after
      omega
  exact Nat.le_antisymm (Nat.le_of_not_lt (not_lt right left)) (Nat.le_of_not_lt (not_lt left right))

theorem IsoTable.entryAt_run (iso : IsoTable table) (chunk : Nat) :
    RunAt table (chunk + 1) (entryAt table (chunk + 1)) := by
  obtain ⟨samples, rest, opens⟩ := iso.first
  induction chunk with
  | zero =>
    have later : ∀ next, table[1]? = some next → 1 < next.1 := by
      intro next found
      subst opens
      exact (List.pairwise_cons.mp iso.increasing).1 next (List.mem_of_getElem? found)
    have stays : entryAt table (0 + 1) = 0 := by
      unfold entryAt
      rw [if_neg]
      rfl
      intro reached
      obtain ⟨next, found, begun⟩ := (Option.any_eq_true _ _).mp reached
      have := later next found
      simp only [Nat.zero_add, decide_eq_true_eq] at begun
      omega
    rw [stays]
    exact ⟨⟨(1, samples), by simp [opens], Nat.le_refl _⟩, later⟩
  | succ chunk ih =>
    obtain ⟨run, found, begun⟩ := ih.begun
    by_cases reached : (table[entryAt table (chunk + 1) + 1]?).any (·.1 ≤ chunk + 2) = true
    · have moves : entryAt table (chunk + 2) = entryAt table (chunk + 1) + 1 := if_pos reached
      obtain ⟨next, inside, started⟩ := (Option.any_eq_true _ _).mp reached
      rw [moves]
      refine ⟨⟨next, inside, by simpa using started⟩, fun after behind => ?_⟩
      have later := ih.unfinished next inside
      obtain ⟨bounded, rfl⟩ := List.getElem?_eq_some_iff.mp inside
      obtain ⟨bounded', rfl⟩ := List.getElem?_eq_some_iff.mp behind
      have ordered := List.pairwise_iff_getElem.mp iso.increasing _ _ bounded bounded' (by omega)
      omega
    · have stays : entryAt table (chunk + 2) = entryAt table (chunk + 1) := if_neg reached
      rw [stays]
      refine ⟨⟨run, found, by omega⟩, fun next inside => ?_⟩
      rw [inside] at reached
      simp only [Option.any_some, decide_eq_true_eq] at reached
      omega

theorem expand_run {chunks first samples : Nat} {rest : List (Nat × Nat)}
    (increasing : ((first, samples) :: rest).Pairwise fun earlier later => earlier.1 < later.1)
    (place : Nat) (inside : place < (expand chunks ((first, samples) :: rest)).length) :
    ∃ entry, RunAt ((first, samples) :: rest) (first + place) entry ∧
      ((first, samples) :: rest)[entry]?.map (·.2) =
        some (expand chunks ((first, samples) :: rest))[place] := by
  induction rest generalizing first samples place with
  | nil =>
    refine ⟨0, ⟨⟨_, rfl, Nat.le_add_right _ _⟩, fun next impossible => ?_⟩, ?_⟩
    · cases impossible
    · simp [expand]
  | cons following rest ih =>
    obtain ⟨next, after⟩ := following
    have ordered := List.pairwise_cons.mp increasing
    have opens : first < next := ordered.1 (next, after) (by simp)
    by_cases early : place < next - first
    · refine ⟨0, ⟨⟨_, rfl, Nat.le_add_right _ _⟩, ?_⟩, ?_⟩
      · intro later found
        cases found
        show first + place < next
        omega
      · simp [expand, List.getElem_append_left, early]
    · have length : (expand chunks ((first, samples) :: (next, after) :: rest)).length =
          next - first + (expand chunks ((next, after) :: rest)).length := by simp [expand]
      obtain ⟨entry, ⟨⟨run, found, begun⟩, unfinished⟩, value⟩ :=
        ih ordered.2 (place - (next - first)) (by omega)
      have same : next + (place - (next - first)) = first + place := by omega
      rw [same] at begun unfinished
      refine ⟨entry + 1, ⟨⟨run, by simpa using found, begun⟩, fun later inside => ?_⟩, ?_⟩
      · exact unfinished later (by simpa using inside)
      · rw [List.getElem?_cons_succ, value]
        simp [expand, List.getElem_append_right, Nat.le_of_not_lt early]

theorem IsoTable.samplesIn_eq (iso : IsoTable table) {chunks place : Nat}
    (inside : place < (expand chunks table).length) :
    samplesIn table (place + 1) = (expand chunks table)[place] := by
  obtain ⟨samples, rest, rfl⟩ := iso.first
  obtain ⟨entry, run, value⟩ := expand_run iso.increasing place inside
  rw [Nat.add_comm] at run
  have same := (iso.entryAt_run place).unique iso.increasing run
  unfold samplesIn
  rw [same, value]
  rfl

theorem IsoTable.sampleAfter_eq (iso : IsoTable table) (chunks chunk : Nat)
    (inside : chunk ≤ (expand chunks table).length) :
    sampleAfter table chunk = ((expand chunks table).take chunk).sum + 1 := by
  induction chunk with
  | zero => rfl
  | succ chunk ih =>
    have counted : ((expand chunks table).take (chunk + 1)).sum =
        ((expand chunks table).take chunk).sum + (expand chunks table)[chunk] := by
      rw [List.take_succ_eq_append_getElem inside, List.sum_append_nat, List.sum_singleton]
    rw [sampleAfter, ih (by omega), iso.samplesIn_eq inside]
    omega

theorem IsoTable.samplesIn_pos (iso : IsoTable table) (chunk : Nat) :
    0 < samplesIn table (chunk + 1) := by
  obtain ⟨run, found, -⟩ := (iso.entryAt_run chunk).begun
  have member := List.mem_of_getElem? found
  unfold samplesIn
  rw [found]
  exact iso.positive run member

theorem IsoTable.lt_sampleAfter (iso : IsoTable table) (chunk : Nat) :
    chunk < sampleAfter table chunk := by
  induction chunk with
  | zero => exact Nat.one_pos
  | succ chunk ih =>
    have counted := iso.samplesIn_pos chunk
    unfold sampleAfter
    omega

theorem exists_inChunk {expansion : List Nat} {sampleNumber : Nat} (positive : 0 < sampleNumber)
    (inRange : sampleNumber ≤ expansion.sum) : ∃ chunk, InChunk expansion sampleNumber chunk := by
  have counted : ∃ chunk, sampleNumber ≤ (expansion.take chunk).sum :=
    ⟨expansion.length, by rwa [List.take_length]⟩
  have least := Nat.find_spec counted
  have before (earlier : Nat) (less : earlier < Nat.find counted) :=
    Nat.lt_of_not_le (Nat.find_min counted less)
  cases found : Nat.find counted with
  | zero =>
    rw [found] at least
    simp at least
    omega
  | succ chunk =>
    rw [found] at least
    exact ⟨chunk + 1, Nat.succ_pos _, before chunk (by omega), least⟩

theorem InChunk.inside {expansion : List Nat} {sampleNumber chunk : Nat}
    (held : InChunk expansion sampleNumber chunk) : chunk ≤ expansion.length := by
  by_contra beyond
  have behind := held.behind
  have within := held.within
  rw [List.take_of_length_le (by omega)] at behind within
  omega

theorem Found.window (iso : IsoTable table) {sampleNumber result : Nat} (counted : 0 < sampleNumber)
    (found : Found table sampleNumber result) :
    sampleAfter table (result - 1) ≤ sampleNumber ∧ sampleNumber < sampleAfter table result := by
  have positive := found.positive
  obtain ⟨chunk, rfl⟩ := Nat.exists_eq_add_of_lt positive
  have grows := iso.samplesIn_pos chunk
  simp only [Nat.zero_add, Nat.add_sub_cancel] at *
  have behind : sampleAfter table (chunk + 1) = sampleAfter table chunk + samplesIn table (chunk + 1) :=
    rfl
  rcases found.inside with ⟨small, first⟩ | ⟨begun, rfl | ⟨inside, -⟩⟩
  · obtain rfl : chunk = 0 := by omega
    have opens : sampleAfter table 0 = 1 := rfl
    omega
  · rw [Nat.add_sub_cancel] at *
    omega
  · exact ⟨begun, inside⟩

theorem window_unique {sampleNumber left right : Nat}
    (first : sampleAfter table (left - 1) ≤ sampleNumber ∧ sampleNumber < sampleAfter table left)
    (second : sampleAfter table (right - 1) ≤ sampleNumber ∧ sampleNumber < sampleAfter table right) :
    left ≤ right := by
  by_contra beyond
  have ordered := sampleAfter_mono table (show right ≤ left - 1 by omega)
  omega

-- Every sample in range is in a chunk, and the walk finds that chunk exactly when the sample is the
-- chunk's first or the number of the sample behind the chunk fits.
theorem sampleToChunk_iso (table : List (Nat × Nat)) (iso : IsoTable table)
    (chunks sampleNumber : Nat) (positive : 0 < sampleNumber)
    (inRange : sampleNumber ≤ (expand chunks table).sum) :
    ∃ chunk, InChunk (expand chunks table) sampleNumber chunk ∧
      (sampleToChunk sampleNumber table = .ok chunk ↔
        sampleNumber = ((expand chunks table).take (chunk - 1)).sum + 1 ∧
            sampleNumber < u32Limit ∨
          ((expand chunks table).take chunk).sum + 1 < u32Limit) := by
  obtain ⟨chunk, held⟩ := exists_inChunk positive inRange
  refine ⟨chunk, held, ?_⟩
  have entered : table ≠ [] := by
    obtain ⟨samples, rest, rfl⟩ := iso.first
    exact List.cons_ne_nil _ _
  have inside := held.inside
  have numbered := held.numbered
  have behind := held.behind
  have within := held.within
  have opens := iso.sampleAfter_eq chunks (chunk - 1) (by omega)
  have closes := iso.sampleAfter_eq chunks chunk inside
  have window : sampleAfter table (chunk - 1) ≤ sampleNumber ∧
      sampleNumber < sampleAfter table chunk := by omega
  rw [← opens, ← closes]
  constructor
  · intro walked
    have found := sampleToChunk_found entered walked
    rcases found.inside with ⟨small, rfl⟩ | ⟨begun, first | ⟨ended, fits⟩⟩
    · have first : sampleAfter table (1 - 1) = 1 := rfl
      exact .inl ⟨by omega, Nat.lt_of_le_of_lt small (by decide)⟩
    · obtain ⟨last, completes⟩ := found.completes
      exact .inl ⟨first, Nat.lt_of_le_of_lt completes.counted completes.sampleFits⟩
    · exact .inr fits
  · intro fits
    have completes : ∃ last, Completes table sampleNumber last := by
      rcases fits with ⟨first, fits⟩ | fits
      · have few := iso.lt_sampleAfter (chunk - 1)
        exact ⟨chunk - 1, Nat.le_of_eq first, by omega, by omega, fun _ => by omega⟩
      · have few := iso.lt_sampleAfter chunk
        exact ⟨chunk, Nat.le_of_lt window.2, fits, by omega, fun same => by omega⟩
    obtain ⟨result, walked⟩ := (sampleToChunk_ok_iff entered).mpr completes
    have found := (sampleToChunk_found entered walked).window iso positive
    rw [walked, Nat.le_antisymm (window_unique found window) (window_unique window found)]

def fourThenTwo : List (Nat × Nat) := [(1, 4), (3, 2)]

theorem fourThenTwo_iso : IsoTable fourThenTwo where
  first := ⟨4, [(3, 2)], rfl⟩
  increasing := by decide
  positive := by decide

theorem tenth_sample_is_in_the_third_chunk :
    ∃ chunk, InChunk (expand 5 fourThenTwo) 10 chunk ∧
      (sampleToChunk 10 fourThenTwo = .ok chunk ↔
        10 = ((expand 5 fourThenTwo).take (chunk - 1)).sum + 1 ∧ 10 < u32Limit ∨
          ((expand 5 fourThenTwo).take chunk).sum + 1 < u32Limit) :=
  sampleToChunk_iso fourThenTwo fourThenTwo_iso 5 10 (by decide) (by decide)

-- Two samples of one chunk get the same answer, so it says nothing about their places in the chunk;
-- and a chunk with the most samples that a count can name cannot be walked through.
theorem answer_has_no_index :
    IsoTable [(1, 2)] ∧ InChunk (expand 1 [(1, 2)]) 1 1 ∧ InChunk (expand 1 [(1, 2)]) 2 1 ∧
      sampleToChunk 1 [(1, 2)] = .ok 1 ∧ sampleToChunk 2 [(1, 2)] = .ok 1 ∧
      IsoTable [(1, 4294967295)] ∧ InChunk (expand 1 [(1, 4294967295)]) 2 1 ∧
      (expand 1 [(1, 4294967295)]).sum < u32Limit ∧
      sampleToChunk 2 [(1, 4294967295)] = .error .overflow :=
  ⟨⟨⟨2, [], rfl⟩, by decide, by decide⟩, ⟨by decide, by decide, by decide⟩,
    ⟨by decide, by decide, by decide⟩, by decide +kernel, by decide +kernel,
    ⟨⟨4294967295, [], rfl⟩, by decide, by decide⟩, ⟨by decide, by decide, by decide⟩, by decide,
    by decide +kernel⟩

end Expansion

section Readers

variable {A : Type} {data : Bytes}

def beValue (bytes : Bytes) : Nat := bytes.foldl (fun value byte => value * 256 + byte.toNat) 0

theorem beAt_ok {offset count : Nat} (inside : offset + count ≤ data.length)
    (bounded : data.length < sliceLimit) :
    beAt data offset count = .ok (beValue ((data.drop offset).take count)) := by
  unfold beAt
  induction count with
  | zero => rfl
  | succ count ih =>
    have place : count < (data.drop offset).length := by
      rw [List.length_drop]
      omega
    have room := sliceLimit_room
    have fits : offset + count < usizeLimit := by omega
    rw [List.range_succ, List.foldlM_append, ih (by omega), List.take_succ_eq_append_getElem place]
    simp [add_ok fits, get_ok (show offset + count < data.length by omega), beValue]

def atomAt (data atomType : Bytes) : Option Nat :=
  (List.range (data.length - 8)).find? fun index => (data.drop (index + 4)).take 4 = atomType

theorem findAtom_ok (atomType : Bytes) (bounded : data.length < sliceLimit) :
    findAtom data atomType = .ok (atomAt data atomType) := by
  unfold findAtom atomAt
  rw [List.find?_eq_findSome?_guard]
  refine firstOf_ok fun index member => ?_
  have inside : index < data.length - 8 := List.mem_range.mp member
  have room := sliceLimit_room
  have fits : index + 8 < usizeLimit := by omega
  have width : index + 8 - (index + 4) = 4 := by omega
  rw [add_ok (show index + 4 < usizeLimit by omega), add_ok fits, ok_bind, ok_bind,
    slice_ok (by omega) (by omega), width]
  simp [Option.guard]

theorem atomAt_lt {atomType : Bytes} {pos : Nat} (found : atomAt data atomType = some pos) :
    pos < data.length := by
  have member := List.mem_of_find?_eq_some found
  have := List.mem_range.mp member
  omega

/-- The entries of a table that lie inside its bytes, as many of them as are counted and read. -/
def tableEntries (cap entrySize : Nat) (value : Nat → A) (data : Bytes) : List A :=
  if data.length < 16 then []
  else
    ((List.range (min (beValue ((data.drop 12).take 4)) cap)).takeWhile fun index =>
      16 + index * entrySize + entrySize ≤ data.length).map fun index =>
        value (16 + index * entrySize)

theorem parseTable_ok {cap entrySize : Nat} {entry : Nat → Checked A} {value : Nat → A}
    (bounded : data.length < sliceLimit) (few : cap ≤ 1000) (small : entrySize ≤ 12)
    (reads : ∀ offset, offset + entrySize ≤ data.length → entry offset = .ok (value offset)) :
    parseTable cap entrySize entry data = .ok (tableEntries cap entrySize value data) := by
  unfold parseTable tableEntries
  by_cases short : data.length < 16
  · simp [short]
  have header : u32At data 12 = .ok (beValue ((data.drop 12).take 4)) :=
    beAt_ok (by omega) bounded
  simp only [short, if_false, header, ok_bind]
  have looked : ∀ index ∈ List.range (min (beValue ((data.drop 12).take 4)) cap),
      (do
        let offset ← add usizeLimit 16 (← mul usizeLimit index entrySize)
        if (← add usizeLimit offset entrySize) > data.length then return none
        return some (← entry offset) : Checked (Option A)) =
      .ok (if 16 + index * entrySize + entrySize ≤ data.length then
        some (value (16 + index * entrySize)) else none) := by
    intro index member
    have placed := List.mem_range.mp member
    have scaled : index * entrySize ≤ 1000 * 12 := Nat.mul_le_mul (by omega) small
    have word : 1000 * 12 + 28 < usizeLimit := by decide
    rw [mul_ok (by omega), ok_bind, add_ok (by omega), ok_bind, add_ok (by omega), ok_bind]
    by_cases inside : 16 + index * entrySize + entrySize ≤ data.length
    · simp [inside, Nat.not_lt.mpr inside, reads _ inside]
    · simp [inside, Nat.lt_of_not_le inside]
  rw [collectWhile_ok looked, ← List.filterMap_eq_map]
  congr 1
  generalize List.range (min (beValue ((data.drop 12).take 4)) cap) = indices
  induction indices with
  | nil => rfl
  | cons index rest ih =>
    by_cases inside : 16 + index * entrySize + entrySize ≤ data.length
    · simpa [inside] using ih
    · simp [inside]

end Readers

section Keyframes

variable {moov : Bytes}

def beFrom (data : Bytes) (count offset : Nat) : Nat := beValue ((data.drop offset).take count)

def tableAt {A : Type} (moov atomType : Bytes) (entries : Bytes → List A) : List A :=
  match atomAt moov atomType with
  | some pos => entries (moov.drop pos)
  | none => []

def stssEntries (data : Bytes) : List Nat := tableEntries 100 4 (beFrom data 4) data

def stcoEntries (data : Bytes) : List Nat := tableEntries 1000 4 (beFrom data 4) data

def co64Entries (data : Bytes) : List Nat := tableEntries 1000 8 (beFrom data 8) data

def stscEntries (data : Bytes) : List (Nat × Nat) :=
  tableEntries 100 12 (fun offset => (beFrom data 4 offset, beFrom data 4 (offset + 4))) data

def syncSamples (moov : Bytes) : List Nat := tableAt moov (utf8 "stss") stssEntries

def chunkOffsets (moov : Bytes) : List Nat :=
  match atomAt moov (utf8 "stco") with
  | some pos => stcoEntries (moov.drop pos)
  | none => tableAt moov (utf8 "co64") co64Entries

def sampleToChunkTable (moov : Bytes) : List (Nat × Nat) := tableAt moov (utf8 "stsc") stscEntries

theorem drop_bounded {data : Bytes} (pos : Nat) (bounded : data.length < sliceLimit) :
    (data.drop pos).length < sliceLimit := by
  rw [List.length_drop]
  omega

theorem parseStss_ok {data : Bytes} (bounded : data.length < sliceLimit) :
    parseStss data = .ok (stssEntries data) :=
  parseTable_ok bounded (by decide) (by decide) fun _ inside => beAt_ok inside bounded

theorem parseStco_ok {data : Bytes} (bounded : data.length < sliceLimit) :
    parseStco data false = .ok (stcoEntries data) :=
  parseTable_ok bounded (by decide) (by decide) fun _ inside => beAt_ok inside bounded

theorem parseCo64_ok {data : Bytes} (bounded : data.length < sliceLimit) :
    parseStco data true = .ok (co64Entries data) :=
  parseTable_ok bounded (by decide) (by decide) fun _ inside => beAt_ok inside bounded

theorem parseStsc_ok {data : Bytes} (bounded : data.length < sliceLimit) :
    parseStsc data = .ok (stscEntries data) := by
  refine parseTable_ok bounded (by decide) (by decide) fun offset inside => ?_
  have room := sliceLimit_room
  have fits : offset + 4 < usizeLimit := by omega
  have first : u32At data offset = .ok (beFrom data 4 offset) := beAt_ok (by omega) bounded
  have second : u32At data (offset + 4) = .ok (beFrom data 4 (offset + 4)) :=
    beAt_ok (by omega) bounded
  rw [first, ok_bind, add_ok fits, ok_bind, second, ok_bind, pure_ok]

theorem tableOf_ok {A : Type} {parse : Bytes → Checked (List A)} {entries : Bytes → List A}
    (atomType : Bytes) (bounded : moov.length < sliceLimit)
    (reads : ∀ data : Bytes, data.length < sliceLimit → parse data = .ok (entries data)) :
    tableOf moov parse (atomAt moov atomType) = .ok (tableAt moov atomType entries) := by
  unfold tableAt
  cases found : atomAt moov atomType with
  | none => rfl
  | some pos =>
    have inside := atomAt_lt found
    simp only [tableOf, sliceFrom_ok (Nat.le_of_lt inside), ok_bind]
    exact reads _ (drop_bounded pos bounded)

theorem chunkOffsetsOf_ok (bounded : moov.length < sliceLimit) :
    chunkOffsetsOf moov = .ok (chunkOffsets moov) := by
  unfold chunkOffsetsOf chunkOffsets
  rw [findAtom_ok _ bounded, ok_bind]
  cases found : atomAt moov (utf8 "stco") with
  | none =>
    simp only [findAtom_ok _ bounded, ok_bind]
    exact tableOf_ok _ bounded fun data bounded => parseCo64_ok bounded
  | some pos =>
    simp only [sliceFrom_ok (Nat.le_of_lt (atomAt_lt found)), ok_bind]
    exact parseStco_ok (drop_bounded pos bounded)

/-- For each sync sample that is looked up, some chunk of the table completes the count. -/
def KeyframesCountUp (moov : Bytes) : Prop :=
  chunkOffsets moov ≠ [] → sampleToChunkTable moov ≠ [] →
    ∀ sampleNumber ∈ (syncSamples moov).take 20,
      ∃ last, Completes (sampleToChunkTable moov) sampleNumber last

theorem chunkIndex_ok_iff {stsc : List (Nat × Nat)} {sampleNumber : Nat} :
    (∃ index, chunkIndex stsc sampleNumber = .ok index) ↔
      (stsc ≠ [] → ∃ last, Completes stsc sampleNumber last) := by
  unfold chunkIndex
  by_cases listed : stsc = []
  · simp [listed]
  rw [← sampleToChunk_ok_iff listed]
  cases walked : sampleToChunk sampleNumber stsc with
  | error fault => simp [listed]
  | ok chunk => simp [listed]

theorem keyframeOffset_ok_iff {stsc : List (Nat × Nat)} {offsets : List Nat} {sampleNumber : Nat} :
    (∃ found, (do
      let index ← chunkIndex stsc sampleNumber
      if index < offsets.length then return some (← get offsets index)
      return none : Checked (Option Nat)) = .ok found) ↔
      ∃ index, chunkIndex stsc sampleNumber = .ok index := by
  cases walked : chunkIndex stsc sampleNumber with
  | error fault => simp
  | ok index =>
    by_cases inside : index < offsets.length
    · simp [inside, get_ok inside]
    · simp [inside]

theorem parseMoovForKeyframes_ok_iff (moov : Slice) :
    (∃ keyframes, parseMoovForKeyframes moov.val = .ok keyframes) ↔ KeyframesCountUp moov.val := by
  have bounded := moov.property
  unfold parseMoovForKeyframes KeyframesCountUp
  have samples := tableOf_ok (utf8 "stss") bounded fun data bounded => parseStss_ok bounded
  have table := tableOf_ok (utf8 "stsc") bounded fun data bounded => parseStsc_ok bounded
  simp only [findAtom_ok _ bounded, ok_bind, samples, table, chunkOffsetsOf_ok bounded]
  rw [← syncSamples, ← sampleToChunkTable]
  by_cases offset : chunkOffsets moov.val = []
  · simp [offset]
  by_cases listed : syncSamples moov.val = []
  · simp [listed]
  rw [if_pos ⟨listed, offset⟩, collectSome_ok_iff]
  simp only [keyframeOffset_ok_iff, chunkIndex_ok_iff]
  constructor
  · intro counts _ entered sampleNumber member
    exact counts sampleNumber member entered
  · intro counts sampleNumber member entered
    exact counts offset entered sampleNumber member

/-- One sync sample, the second; one chunk; and a table that counts the most samples for a chunk. -/
def crowdedMoov : Bytes :=
  [0, 0, 0, 20] ++ utf8 "stss" ++ [0, 0, 0, 0, 0, 0, 0, 1, 0, 0, 0, 2] ++
    [0, 0, 0, 20] ++ utf8 "stco" ++ [0, 0, 0, 0, 0, 0, 0, 1, 0, 0, 4, 0] ++
    [0, 0, 0, 28] ++ utf8 "stsc" ++
    [0, 0, 0, 0, 0, 0, 0, 1, 0, 0, 0, 1, 255, 255, 255, 255, 0, 0, 0, 1]

theorem crowded_chunk_overflows :
    crowdedMoov.length < sliceLimit ∧ parseMoovForKeyframes crowdedMoov = .error .overflow :=
  ⟨by decide, by decide +kernel⟩

end Keyframes

end StreamServer.Metadata
