import Mathlib.Data.List.Induction
import Mathlib.Data.Nat.Bitwise
import StreamServer.LocalAddon.InfoHash
import StreamServer.Shared.Fips180

set_option autoImplicit false

namespace StreamServer.LocalAddon

open ByteText Fips180 Framing

namespace Sha1

def vars (state : Sha1) : Vars :=
  ⟨state.h0.toBitVec, state.h1.toBitVec, state.h2.toBitVec, state.h3.toBitVec, state.h4.toBitVec⟩

section Words

theorem rotateLeft_toBitVec (word count : UInt32) (positive : 0 < count.toNat)
    (below : count.toNat < 32) :
    (rotateLeft word count).toBitVec = word.toBitVec.rotateLeft count.toNat := by
  rw [rotateLeft, BitVec.rotateLeft_def, UInt32.toBitVec_or, UInt32.toBitVec_shiftRight,
    UInt32.toBitVec_shiftLeft, BitVec.ushiftRight_eq', BitVec.shiftLeft_eq']
  congr 2
  simp [BitVec.toNat_umod]
  omega

theorem or_byte (word : UInt32) (byte : UInt8) :
    ((word <<< 8) ||| byte.toUInt32).toNat = (256 * word.toNat + byte.toNat) % 2 ^ 32 := by
  have small : byte.toNat < 2 ^ 8 := byte.toNat_lt
  have shifted : (word <<< 8).toNat = (word.toNat % 2 ^ 24) <<< 8 := by
    simp only [UInt32.toNat_shiftLeft, Nat.shiftLeft_eq, UInt32.reduceToNat, Nat.reduceMod]
    omega
  rw [UInt32.toNat_or, shifted, UInt8.toNat_toUInt32, ← Nat.shiftLeft_add_eq_or_of_lt small,
    Nat.shiftLeft_eq]
  omega

theorem u32FromBeBytes_toNat (bytes : Bytes) :
    (u32FromBeBytes bytes).toNat = numberOf bytes % 2 ^ 32 := by
  induction bytes using List.reverseRecOn with
  | nil => rfl
  | append_singleton bytes byte ih =>
      have read : u32FromBeBytes (bytes ++ [byte])
          = (u32FromBeBytes bytes <<< 8) ||| byte.toUInt32 := by
        simp [u32FromBeBytes]
      rw [read, or_byte, ih, numberOf_concat]
      omega

theorem u32FromBeBytes_toBitVec (bytes : Bytes) :
    (u32FromBeBytes bytes).toBitVec = .ofNat 32 (numberOf bytes) := by
  apply BitVec.eq_of_toNat_eq
  rw [UInt32.toNat_toBitVec, u32FromBeBytes_toNat, BitVec.toNat_ofNat]

theorem shiftRight_toUInt8 (word count : UInt32) :
    (word >>> count).toUInt8 = .ofNat (word.toNat / 2 ^ (count.toNat % 32)) := by
  apply UInt8.toNat_inj.mp
  simp [Nat.shiftRight_eq_div_pow]

theorem u32ToBeBytes_eq (word : UInt32) : u32ToBeBytes word = bigEndian 4 word.toNat := by
  have last : word.toUInt8 = .ofNat word.toNat := by
    apply UInt8.toNat_inj.mp
    simp
  simp only [u32ToBeBytes, shiftRight_toUInt8, last, bigEndian, List.nil_append, List.cons_append,
    Nat.div_div_eq_div_mul]
  rfl

theorem u64ToBeBytes_eq (word : UInt64) : u64ToBeBytes word = bigEndian 8 word.toNat := by
  have high : (word >>> 32).toUInt32.toNat = word.toNat / 256 ^ 4 := by
    have below := word.toNat_lt
    simp [Nat.shiftRight_eq_div_pow]
    omega
  have low : word.toUInt32.toNat = word.toNat % 256 ^ 4 := by
    simp
  rw [u64ToBeBytes, u32ToBeBytes_eq, u32ToBeBytes_eq, high, low, bigEndian_mod, ← bigEndian_add]

end Words

section Schedule

theorem asChunks_length (size : Nat) (data : Bytes) :
    (asChunks size data).length = data.length / size := by
  simp [asChunks]

theorem expandStep_length (w : List UInt32) (i : Nat) : (expandStep w i).length = w.length := by
  simp [expandStep]

theorem expandStep_other (w : List UInt32) {i t : Nat} (other : t ≠ i) :
    (expandStep w i).getD t 0 = w.getD t 0 := by
  simp [expandStep, List.getD_eq_getElem?_getD, List.getElem?_set_ne (Ne.symm other)]

theorem expandStep_same (w : List UInt32) {i : Nat} (inside : i < w.length) :
    (expandStep w i).getD i 0
      = rotateLeft (w.getD (i - 3) 0 ^^^ w.getD (i - 8) 0 ^^^ w.getD (i - 14) 0
          ^^^ w.getD (i - 16) 0) 1 := by
  simp [expandStep, List.getD_eq_getElem?_getD, inside]

def Scheduled (chunk : Bytes) (count : Nat) (w : List UInt32) : Prop :=
  w.length = 80 ∧ ∀ t < count, (w.getD t 0).toBitVec = scheduleWord chunk t

theorem scheduled_words {chunk : Bytes} (whole : chunk.length = 64) :
    Scheduled chunk 16 ((asChunks 4 chunk).map u32FromBeBytes
      ++ List.replicate (80 - ((asChunks 4 chunk).map u32FromBeBytes).length) 0) := by
  have words : ((asChunks 4 chunk).map u32FromBeBytes).length = 16 := by
    simp [asChunks_length, whole]
  constructor
  · simp [words]
  · intro t below
    rw [scheduleWord, if_pos below, messageWord, ← u32FromBeBytes_toBitVec,
      List.getD_eq_getElem?_getD, List.getElem?_append_left (words ▸ below)]
    simp [asChunks, whole, below]

theorem scheduled_expandStep {chunk : Bytes} {i : Nat} {w : List UInt32} (from16 : 16 ≤ i)
    (inside : i < 80) (scheduled : Scheduled chunk i w) :
    Scheduled chunk (i + 1) (expandStep w i) := by
  obtain ⟨length, words⟩ := scheduled
  refine ⟨(expandStep_length w i).trans length, fun t below => ?_⟩
  by_cases same : t = i
  · subst same
    rw [expandStep_same w (length ▸ inside), rotateLeft_toBitVec _ 1 (by decide) (by decide),
      scheduleWord, if_neg (by omega)]
    simp only [UInt32.toBitVec_xor, words (t - 3) (by omega), words (t - 8) (by omega),
      words (t - 14) (by omega), words (t - 16) (by omega)]
    rfl
  · rw [expandStep_other w same]
    exact words t (by omega)

theorem scheduled_fold {chunk : Bytes} {w : List UInt32} (scheduled : Scheduled chunk 16 w)
    {count : Nat} (inside : count ≤ 64) :
    Scheduled chunk (16 + count) ((List.range' 16 count).foldl expandStep w) := by
  induction count with
  | zero => exact scheduled
  | succ count ih =>
      rw [List.range'_1_concat, List.foldl_concat]
      have expanded := scheduled_expandStep (Nat.le_add_right 16 count) (by omega) (ih (by omega))
      exact expanded

theorem schedule_scheduled {chunk : Bytes} (whole : chunk.length = 64) :
    Scheduled chunk 80 (schedule chunk) :=
  scheduled_fold (scheduled_words whole) (by omega)

end Schedule

section Rounds

theorem ch_eq (x y z : Word) : (x &&& y) ||| (~~~x &&& z) = ch x y z := by
  ext i inside
  simp [ch]
  cases x[i] <;> simp

theorem maj_eq (x y z : Word) : (x &&& y) ||| (x &&& z) ||| (y &&& z) = maj x y z := by
  ext i inside
  simp [maj]
  cases x[i] <;> cases y[i] <;> cases z[i] <;> rfl

theorem roundStep_vars {chunk : Bytes} (state : Sha1) {t : Nat} {word : UInt32}
    (scheduled : word.toBitVec = scheduleWord chunk t) :
    (roundStep state (t, word)).vars = Fips180.round chunk t state.vars := by
  have fifth := rotateLeft_toBitVec state.h0 5 (by decide) (by decide)
  have thirtieth := rotateLeft_toBitVec state.h1 30 (by decide) (by decide)
  have mixed (g constant : UInt32) :
      (⟨rotateLeft state.h0 5 + g + state.h4 + constant + word, state.h0, rotateLeft state.h1 30,
          state.h2, state.h3⟩ : Sha1).vars
        = { a := state.h0.toBitVec.rotateLeft 5 + g.toBitVec + state.h4.toBitVec
              + constant.toBitVec + scheduleWord chunk t
            b := state.h0.toBitVec
            c := state.h1.toBitVec.rotateLeft 30
            d := state.h2.toBitVec
            e := state.h3.toBitVec } := by
    simp only [vars, UInt32.toBitVec_add, fifth, thirtieth, scheduled]
    rfl
  by_cases first : t < 20
  · simp only [roundStep, Fips180.round, f, k, if_pos first, mixed, ← ch_eq]
    rfl
  by_cases second : t < 40
  · simp only [roundStep, Fips180.round, f, k, if_neg first, if_pos second, mixed, parity]
    rfl
  by_cases third : t < 60
  · simp only [roundStep, Fips180.round, f, k, if_neg first, if_neg second, if_pos third, mixed, ← maj_eq]
    rfl
  · simp only [roundStep, Fips180.round, f, k, if_neg first, if_neg second, if_neg third, mixed, parity]
    rfl

theorem rounds_vars {chunk : Bytes} {w : List UInt32} (scheduled : Scheduled chunk 80 w)
    (state : Sha1) {count : Nat} (inside : count ≤ 80) :
    ((List.range count).foldl (fun state t => roundStep state (t, w.getD t 0)) state).vars
      = rounds chunk state.vars count := by
  induction count with
  | zero => rfl
  | succ count ih =>
      rw [List.range_succ, List.foldl_concat, roundStep_vars _ (scheduled.2 count (by omega)),
        ih (by omega), rounds]

theorem zip_range (w : List UInt32) :
    (List.range w.length).zip w = (List.range w.length).map fun t => (t, w.getD t 0) := by
  apply List.ext_getElem
  · simp
  · intro t _ inside
    have below : t < w.length := by simpa using inside
    simp [below]

theorem processChunk_vars (state : Sha1) {chunk : Bytes} (whole : chunk.length = 64) :
    (processChunk state chunk).vars = compress state.vars chunk := by
  have scheduled := schedule_scheduled whole
  have run := rounds_vars scheduled state le_rfl
  have stepped : ((List.range (schedule chunk).length).zip (schedule chunk)).foldl roundStep state
      = (List.range 80).foldl (fun state t => roundStep state (t, (schedule chunk).getD t 0))
          state := by
    rw [zip_range, List.foldl_map, scheduled.1]
  simp only [compress, ← run]
  simp only [processChunk, stepped, vars, UInt32.toBitVec_add]

end Rounds

section Blocks

theorem block_length {padded : Bytes} {i : Nat} (inside : i < padded.length / 64) :
    (block padded i).length = 64 := by
  simp [block]
  omega

theorem update_vars (padded : Bytes) {count : Nat} (inside : count ≤ padded.length / 64) :
    ((List.range count).foldl (fun state i => processChunk state (block padded i)) new).vars
      = hashAfter padded count := by
  induction count with
  | zero => rfl
  | succ count ih =>
      rw [List.range_succ, List.foldl_concat, processChunk_vars _ (block_length (by omega)),
        ih (by omega), hashAfter]

theorem new_update_vars (padded : Bytes) :
    (new.update padded).vars = hashAfter padded (padded.length / 64) := by
  rw [update, asChunks, List.foldl_map]
  exact update_vars padded le_rfl

theorem asChunks_flatten {size : Nat} (positive : 0 < size) {data : Bytes} (whole : size ∣ data.length) :
    (asChunks size data).flatten = data := by
  obtain ⟨count, whole⟩ := whole
  have chunks : data.length / size = count := by
    rw [whole, Nat.mul_div_cancel_left _ positive]
  have taken : ∀ n ≤ count,
      ((List.range n).map fun index => (data.drop (size * index)).take size).flatten
        = data.take (size * n) := by
    intro n _
    induction n with
    | zero => simp
    | succ n ih =>
        rw [List.range_succ, List.map_append, List.flatten_append, ih (by omega), Nat.mul_succ,
          List.take_add]
        simp
  rw [asChunks, chunks, taken count le_rfl, ← whole, List.take_length]

end Blocks

end Sha1

theorem padZeros_eq (fuel count : Nat) (padded : Bytes) (enough : count ≤ fuel)
    (whole : (padded.length + count + 8) % 64 = 0) (least : count < 64) :
    padZeros fuel padded = padded ++ List.replicate count 0 := by
  induction count generalizing fuel padded with
  | zero =>
      cases fuel with
      | zero => simp [padZeros]
      | succ fuel =>
          have done : (padded.length + 8) % 64 = 0 := whole
          simp [padZeros, done]
  | succ count ih =>
      obtain ⟨fuel, rfl⟩ : ∃ smaller, fuel = smaller + 1 := ⟨fuel - 1, by omega⟩
      have more : (padded.length + 8) % 64 ≠ 0 := by omega
      rw [padZeros, if_pos more, ih _ _ (by omega) (by simp; omega) (by omega), List.append_assoc,
        List.replicate_succ, List.singleton_append]

theorem sha1Padded_eq {data : Bytes} (short : data.length < 2 ^ 61) : sha1Padded data = pad data := by
  have bits : (UInt64.ofNat data.length * 8).toNat = 8 * data.length := by
    simp [UInt64.toNat_mul]
    omega
  have zeroed := padZeros_eq 64 (zeros data.length) (data ++ [0x80])
    (by unfold zeros; omega) (by simp [zeros]; omega) (by unfold zeros; omega)
  rw [sha1Padded, zeroed, Sha1.u64ToBeBytes_eq, bits, pad]
  simp

theorem sha1Digest_sha1 {data : Bytes} (short : data.length < 2 ^ 61) :
    sha1Digest data = sha1 data := by
  have hashed := Sha1.new_update_vars (sha1Padded data)
  rw [sha1Padded_eq short] at hashed
  rw [sha1Digest, sha1, sha1Padded_eq short, ← hashed]
  simp only [List.flatMap_cons, Sha1.u32ToBeBytes_eq, Sha1.vars, UInt32.toNat_toBitVec,
    List.flatMap_nil]

theorem sha1Digest_standard {data : Bytes} (short : data.length < 2 ^ 61) :
    sha1Digest data = sha1 data ∧ sha1Padded data = pad data ∧ 64 ∣ (sha1Padded data).length
      ∧ (Sha1.asChunks 64 (sha1Padded data)).flatten = sha1Padded data := by
  have padded := sha1Padded_eq short
  have whole : 64 ∣ (sha1Padded data).length := padded ▸ pad_whole data
  exact ⟨sha1Digest_sha1 short, padded, whole, Sha1.asChunks_flatten (by decide) whole⟩

theorem sha1Digest_abc_standard :
    sha1Digest (utf8 "abc") = sha1 (utf8 "abc") ∧ sha1Padded (utf8 "abc") = pad (utf8 "abc")
      ∧ 64 ∣ (sha1Padded (utf8 "abc")).length
      ∧ (Sha1.asChunks 64 (sha1Padded (utf8 "abc"))).flatten = sha1Padded (utf8 "abc") :=
  sha1Digest_standard (by decide)

end StreamServer.LocalAddon
