import StreamServer.Shared.Fallible
import StreamServer.Shared.Loops
import StreamServer.Shared.StrSlices

set_option autoImplicit false

namespace StreamServer.EngineFs

open ByteText Loops

section Source

def capabilityMarker : Bytes := utf8 "cap="

def credentialLength : Nat := 64

def redactedText : Bytes := utf8 "<redacted>"

def isAsciiHexdigit (byte : UInt8) : Bool :=
  isAsciiDigit byte || (97 ≤ byte && byte ≤ 102) || (65 ≤ byte && byte ≤ 70)

structure Redacting where
  remainder : Bytes
  output : Bytes
  redacted : Bool

def redactTurn (state : Redacting) : Checked (Turn Redacting Redacting) :=
  match StrSlices.find capabilityMarker state.remainder with
  | none => .ok (.done state)
  | some index => do
      let credentialStart := index + capabilityMarker.length
      let credential := StrSlices.getBytes state.remainder credentialStart credentialLength
      if credential.any (·.all isAsciiHexdigit) then
        let kept ← StrSlices.sliceTo state.remainder credentialStart
        let rest ← StrSlices.sliceFrom state.remainder (credentialStart + credentialLength)
        .ok (.again ⟨rest, state.output ++ kept ++ redactedText, true⟩)
      else
        let kept ← StrSlices.sliceTo state.remainder credentialStart
        let rest ← StrSlices.sliceFrom state.remainder credentialStart
        .ok (.again ⟨rest, state.output ++ kept, state.redacted⟩)

theorem sliceFrom_eq {text rest : Bytes} {start : Nat}
    (sliced : StrSlices.sliceFrom text start = .ok rest) : rest = text.drop start := by
  unfold StrSlices.sliceFrom at sliced
  split at sliced <;> cases sliced
  rfl

theorem redactTurn_lowers (state next : Redacting) (turned : redactTurn state = .ok (.again next)) :
    next.remainder.length < state.remainder.length := by
  unfold redactTurn at turned
  cases found : StrSlices.find capabilityMarker state.remainder with
  | none =>
    rw [found] at turned
    cases turned
  | some index =>
    obtain ⟨before, rest, joined, length, _⟩ := StrSlices.find_some (by decide) found
    have lengths := congrArg List.length joined
    have marker : capabilityMarker.length = 4 := rfl
    simp only [List.length_append, marker] at lengths
    simp only [found] at turned
    split at turned <;>
    · obtain ⟨kept, _, turned⟩ := Results.bind_ok turned
      obtain ⟨tail, sliced, turned⟩ := Results.bind_ok turned
      cases turned
      rw [sliceFrom_eq sliced, List.length_drop]
      omega

def redactLoop : Loop Fault Redacting Redacting where
  turn := redactTurn
  size state := state.remainder.length
  lowers := redactTurn_lowers

def redactSourceCapabilities (input : Bytes) : Checked Bytes := do
  let final ← redactLoop.run ⟨input, [], false⟩
  if final.redacted then .ok (final.output ++ final.remainder) else .ok input

end Source

section Capabilities

structure Credential where
  text : Bytes
  length : text.length = credentialLength
  hex : ∀ byte ∈ text, isAsciiHexdigit byte = true

theorem lt_of_isAsciiHexdigit {byte : UInt8} (hex : isAsciiHexdigit byte = true) : byte < 128 := by
  revert byte
  apply forall_byte
  decide +kernel

theorem Credential.ascii (credential : Credential) {byte : UInt8} (member : byte ∈ credential.text) :
    byte < 128 :=
  lt_of_isAsciiHexdigit (credential.hex byte member)

def Clean (text : Bytes) : Prop :=
  ∀ (before : Bytes) (credential : Credential) (rest : Bytes),
    text ≠ before ++ (capabilityMarker ++ (credential.text ++ rest))

inductive Redacts : Bytes → Bytes → Prop where
  | unchanged (text : Bytes) : Redacts text text
  | credential (kept : Bytes) (credential : Credential) {rest output : Bytes}
      (others : Redacts rest output) :
      Redacts (kept ++ (capabilityMarker ++ (credential.text ++ rest)))
        (kept ++ (capabilityMarker ++ (redactedText ++ output)))

theorem Redacts.prepend {text output : Bytes} (redacts : Redacts text output) (leading : Bytes) :
    Redacts (leading ++ text) (leading ++ output) := by
  cases redacts with
  | unchanged => exact .unchanged _
  | credential kept credential others =>
    simpa only [List.append_assoc] using Redacts.credential (leading ++ kept) credential others

theorem Clean.of_append {leading text : Bytes} (clean : Clean (leading ++ text)) : Clean text := by
  intro before credential rest joined
  apply clean (leading ++ before) credential rest
  rw [joined, List.append_assoc]

theorem clean_cons {byte : UInt8} {text : Bytes} (clean : Clean text)
    (start : ∀ (credential : Credential) (rest : Bytes),
      byte :: text ≠ capabilityMarker ++ (credential.text ++ rest)) : Clean (byte :: text) := by
  intro before credential rest joined
  cases before with
  | nil => exact start credential rest joined
  | cons first before =>
    rw [List.cons_append, List.cons.injEq] at joined
    exact clean before credential rest joined.2

theorem clean_cons_of_letters {byte : UInt8} {text : Bytes} (clean : Clean text)
    (letters : byte ≠ 99 ∨ text.head? ≠ some 97) : Clean (byte :: text) := by
  refine clean_cons clean fun credential rest joined => ?_
  rw [show capabilityMarker = [99, 97, 112, 61] by decide, List.cons_append, List.cons.injEq] at joined
  rcases letters with other | other
  · exact other joined.1
  · exact other (by rw [joined.2]; rfl)

theorem clean_redacted {text : Bytes} (clean : Clean text) : Clean (redactedText ++ text) := by
  rw [show redactedText = [60, 114, 101, 100, 97, 99, 116, 101, 100, 62] by decide]
  simp only [List.cons_append, List.nil_append]
  repeat' apply clean_cons_of_letters
  all_goals first | exact clean | simp

theorem clean_marker {text : Bytes} (clean : Clean text)
    (start : ∀ (credential : Credential) (rest : Bytes), text ≠ credential.text ++ rest) :
    Clean (capabilityMarker ++ text) := by
  have letters : Clean ([97, 112, 61] ++ text) := by
    simp only [List.cons_append, List.nil_append]
    repeat' apply clean_cons_of_letters
    all_goals first | exact clean | simp
  rw [show capabilityMarker = [99] ++ [97, 112, 61] by decide, List.append_assoc]
  refine clean_cons letters fun credential rest joined => start credential rest ?_
  rw [show capabilityMarker = [99] ++ [97, 112, 61] by decide, List.append_assoc] at joined
  simpa using joined

theorem clean_before {before tail text : Bytes}
    (first : ∀ earlier < before.length,
      ¬ OccursAt capabilityMarker (before ++ (capabilityMarker ++ tail)) earlier)
    (clean : Clean (capabilityMarker ++ text)) : Clean (before ++ (capabilityMarker ++ text)) := by
  induction before with
  | nil => exact clean
  | cons byte before ih =>
    have later := ih fun earlier inside occurs => first (earlier + 1) (Nat.succ_lt_succ inside) occurs
    refine clean_cons later fun credential rest joined => first 0 (Nat.succ_pos _) ?_
    have opening : ∀ more, ((byte :: before) ++ (capabilityMarker ++ more)).take 4 =
        ((byte :: before) ++ capabilityMarker).take 4 := by
      intro more
      rw [← List.append_assoc, List.take_append_of_le_length]
      rw [List.length_append, show capabilityMarker.length = 4 from rfl]
      omega
    have whole : (byte :: before) ++ (capabilityMarker ++ text) =
      capabilityMarker ++ (credential.text ++ rest) := joined
    have marked := congrArg (List.take 4) whole
    rw [opening] at marked
    unfold OccursAt
    rw [List.drop_zero, show capabilityMarker.length = 4 from rfl, opening, marked]
    exact List.take_left' rfl

theorem not_isAsciiHexdigit_p : isAsciiHexdigit 112 = false := by decide

-- The letter `p` of the marker is no digit, so a credential cannot reach over it.
theorem Redacts.credential_start {text output rest : Bytes} {credential : Credential}
    (redacts : Redacts text output) (start : output = credential.text ++ rest) :
    ∃ more, text = credential.text ++ more := by
  cases redacts with
  | unchanged => exact ⟨rest, start⟩
  | @credential kept other tail output others =>
    have letters : capabilityMarker = [99, 97] ++ ([112] ++ [61]) := by decide
    have reaches : credentialLength ≤ (kept ++ [99, 97]).length := by
      by_contra short
      have inside : (kept ++ [99, 97]).length < credential.text.length := by
        rw [credential.length]
        omega
      have letter : credential.text[(kept ++ [99, 97]).length]? = some 112 := by
        have here : (credential.text ++ rest)[(kept ++ [99, 97]).length]? = some 112 := by
          rw [← start, letters]
          simp only [List.append_assoc]
          rw [← List.append_assoc kept, List.getElem?_append_right (Nat.le_refl _), Nat.sub_self]
          rfl
        rwa [List.getElem?_append_left inside] at here
      have hex := credential.hex 112 (List.mem_of_getElem? letter)
      rw [not_isAsciiHexdigit_p] at hex
      cases hex
    have shared : credential.text <+: kept ++ [99, 97] := by
      have opens : kept ++ [99, 97] <+: credential.text ++ rest := by
        rw [← start, letters]
        simp only [List.append_assoc]
        rw [← List.append_assoc kept]
        exact List.prefix_append ..
      refine List.prefix_of_prefix_length_le (List.prefix_append ..) opens ?_
      rw [credential.length]
      exact reaches
    obtain ⟨between, joined⟩ := shared
    refine ⟨between ++ ([112] ++ [61] ++ (other.text ++ tail)), ?_⟩
    rw [← List.append_assoc credential.text, joined, letters]
    simp

end Capabilities

section Turns

open StrSlices

variable {state : Redacting}

theorem isCharBoundary_marker {before rest : Bytes}
    (aligned : Aligned (before ++ (capabilityMarker ++ rest))) :
    isCharBoundary (before ++ (capabilityMarker ++ rest)) (before.length + 4) = true := by
  have sign : (before ++ (capabilityMarker ++ rest))[before.length + 3]? = some 61 := by
    rw [List.getElem?_append_right (by omega), show before.length + 3 - before.length = 3 by omega]
    rfl
  exact isCharBoundary_after aligned sign (by decide)

theorem isCharBoundary_credential {before rest : Bytes} {credential : Credential}
    (aligned : Aligned (before ++ (capabilityMarker ++ (credential.text ++ rest)))) :
    isCharBoundary (before ++ (capabilityMarker ++ (credential.text ++ rest)))
      (before.length + 4 + 64) = true := by
  have length : credential.text.length = 64 := credential.length
  have inside : 63 < credential.text.length := by omega
  have ascii : credential.text[63] < 128 := credential.ascii (List.getElem_mem inside)
  have marker : capabilityMarker.length = 4 := rfl
  have last : (before ++ (capabilityMarker ++ (credential.text ++ rest)))[before.length + 4 + 63]? =
      some credential.text[63] := by
    rw [List.getElem?_append_right (by omega), List.getElem?_append_right (by omega),
      show before.length + 4 + 63 - before.length - capabilityMarker.length = 63 by omega,
      List.getElem?_append_left inside]
    exact List.getElem?_eq_getElem inside
  exact isCharBoundary_after aligned last ascii

theorem redactTurn_done (found : find capabilityMarker state.remainder = none) :
    redactTurn state = .ok (.done state) ∧ Clean state.remainder := by
  refine ⟨by simp only [redactTurn, found], fun before credential rest joined => ?_⟩
  refine find_none (by decide) found before (credential.text ++ rest) ?_
  rw [joined, List.append_assoc]

theorem redactTurn_credential {before tail : Bytes} {credential : Credential}
    (found : find capabilityMarker state.remainder = some before.length)
    (joined : state.remainder = before ++ (capabilityMarker ++ (credential.text ++ tail)))
    (aligned : Aligned state.remainder) : redactTurn state =
      .ok (.again ⟨tail, state.output ++ (before ++ capabilityMarker) ++ redactedText, true⟩) := by
  have marker : capabilityMarker.length = 4 := rfl
  have length : credential.text.length = 64 := credential.length
  have afterMarker : state.remainder.drop (before.length + 4) = credential.text ++ tail := by
    rw [joined, ← List.append_assoc, List.drop_left' (by rw [List.length_append, marker])]
  have afterCredential : state.remainder.drop (before.length + 4 + 64) = tail := by
    rw [← List.drop_drop, afterMarker, List.drop_left' length]
  have kept : state.remainder.take (before.length + 4) = before ++ capabilityMarker := by
    rw [joined, ← List.append_assoc, List.take_left' (by rw [List.length_append, marker])]
  have inside : before.length + 4 ≤ state.remainder.length := by
    simp only [joined, List.length_append, marker]
    omega
  have read : getBytes state.remainder (before.length + 4) 64 = some credential.text :=
    (getBytes_eq_some_iff inside).mpr ⟨tail, afterMarker, length⟩
  have hex : (some credential.text).any (·.all isAsciiHexdigit) = true :=
    List.all_eq_true.mpr credential.hex
  have boundary : isCharBoundary state.remainder (before.length + 4) = true := by
    rw [joined] at aligned ⊢
    exact isCharBoundary_marker aligned
  have boundary' : isCharBoundary state.remainder (before.length + 4 + 64) = true := by
    rw [joined] at aligned ⊢
    exact isCharBoundary_credential aligned
  unfold redactTurn
  simp only [found, marker, credentialLength, read]
  rw [if_pos hex, sliceTo, if_pos boundary, sliceFrom, if_pos boundary', kept, afterCredential]
  rfl

theorem redactTurn_other {before rest : Bytes}
    (found : find capabilityMarker state.remainder = some before.length)
    (joined : state.remainder = before ++ (capabilityMarker ++ rest))
    (other : ∀ (credential : Credential) (tail : Bytes), rest ≠ credential.text ++ tail)
    (aligned : Aligned state.remainder) : redactTurn state =
      .ok (.again ⟨rest, state.output ++ (before ++ capabilityMarker), state.redacted⟩) := by
  have marker : capabilityMarker.length = 4 := rfl
  have afterMarker : state.remainder.drop (before.length + 4) = rest := by
    rw [joined, ← List.append_assoc, List.drop_left' (by rw [List.length_append, marker])]
  have kept : state.remainder.take (before.length + 4) = before ++ capabilityMarker := by
    rw [joined, ← List.append_assoc, List.take_left' (by rw [List.length_append, marker])]
  have inside : before.length + 4 ≤ state.remainder.length := by
    simp only [joined, List.length_append, marker]
    omega
  have plain : ¬ (getBytes state.remainder (before.length + 4) 64).any (·.all isAsciiHexdigit) = true := by
    intro hex
    obtain ⟨read, taken, digits⟩ := (Option.any_eq_true _ _).mp hex
    obtain ⟨tail, start, length⟩ := (getBytes_eq_some_iff inside).mp taken
    rw [afterMarker] at start
    exact other ⟨read, length, List.all_eq_true.mp digits⟩ tail start
  have boundary : isCharBoundary state.remainder (before.length + 4) = true := by
    rw [joined] at aligned ⊢
    exact isCharBoundary_marker aligned
  unfold redactTurn
  simp only [found, marker, credentialLength]
  rw [if_neg plain, sliceTo, if_pos boundary, sliceFrom, if_pos boundary, kept, afterMarker]
  rfl

end Turns

section Runs

open StrSlices

structure Redacting.Finishes (state final : Redacting) (written : Bytes) : Prop where
  output : final.output ++ final.remainder = state.output ++ written
  redacts : Redacts state.remainder written
  clean : Clean written
  sticky : state.redacted = true → final.redacted = true
  unmarked : Clean state.remainder → final.redacted = state.redacted
  unchanged : final.redacted = false → written = state.remainder

variable {state final : Redacting} {written before tail : Bytes} {credential : Credential}

theorem finishes_done (clean : Clean state.remainder) : state.Finishes state state.remainder where
  output := rfl
  redacts := .unchanged _
  clean := clean
  sticky := id
  unmarked _ := rfl
  unchanged _ := rfl

theorem finishes_credential
    (joined : state.remainder = before ++ (capabilityMarker ++ (credential.text ++ tail)))
    (first : ∀ earlier < before.length, ¬ OccursAt capabilityMarker state.remainder earlier)
    (later : Redacting.Finishes ⟨tail, state.output ++ (before ++ capabilityMarker) ++ redactedText, true⟩
      final written) :
    state.Finishes final (before ++ (capabilityMarker ++ (redactedText ++ written))) where
  output := by
    rw [later.output]
    simp
  redacts := by
    rw [joined]
    exact .credential before credential later.redacts
  clean := by
    rw [joined] at first
    refine clean_before first (clean_marker (clean_redacted later.clean) fun other rest start => ?_)
    have nonempty : 0 < other.text.length := by
      rw [other.length]
      decide
    have letter : other.text[0]? = some 60 := by
      have here : (other.text ++ rest)[0]? = some 60 := by
        rw [← start]
        rfl
      rwa [List.getElem?_append_left nonempty] at here
    exact absurd (other.hex 60 (List.mem_of_getElem? letter)) (by decide)
  sticky _ := later.sticky rfl
  unmarked clean := absurd joined (clean before credential tail)
  unchanged kept := by
    rw [later.sticky rfl] at kept
    cases kept

theorem finishes_other (joined : state.remainder = before ++ (capabilityMarker ++ tail))
    (first : ∀ earlier < before.length, ¬ OccursAt capabilityMarker state.remainder earlier)
    (other : ∀ (credential : Credential) (rest : Bytes), tail ≠ credential.text ++ rest)
    (later : Redacting.Finishes ⟨tail, state.output ++ (before ++ capabilityMarker), state.redacted⟩
      final written) :
    state.Finishes final (before ++ (capabilityMarker ++ written)) where
  output := by
    rw [later.output]
    simp
  redacts := by
    rw [joined]
    exact (later.redacts.prepend capabilityMarker).prepend before
  clean := by
    rw [joined] at first
    refine clean_before first (clean_marker later.clean fun credential rest start => ?_)
    obtain ⟨more, same⟩ := later.redacts.credential_start start
    exact other credential more same
  sticky := later.sticky
  unmarked clean := by
    rw [joined] at clean
    exact later.unmarked clean.of_append.of_append
  unchanged kept := by
    rw [joined, later.unchanged kept]

theorem redactTurn_cases (aligned : Aligned state.remainder) :
    (redactTurn state = .ok (.done state) ∧ Clean state.remainder) ∨
    ∃ next, redactTurn state = .ok (.again next) ∧ Aligned next.remainder ∧
      ∀ final written, next.Finishes final written → ∃ more, state.Finishes final more := by
  cases found : find capabilityMarker state.remainder with
  | none => exact .inl (redactTurn_done found)
  | some index =>
    right
    obtain ⟨before, rest, split, length, first⟩ := find_some (by decide) found
    rw [List.append_assoc] at split
    subst length
    have rests : rest = state.remainder.drop (before ++ capabilityMarker).length := by
      rw [split, ← List.append_assoc, List.drop_left]
    by_cases guarded : ∃ (credential : Credential) (tail : Bytes), rest = credential.text ++ tail
    · obtain ⟨credential, tail, rfl⟩ := guarded
      refine ⟨_, redactTurn_credential found split aligned, ?_,
        fun final written later => ⟨_, finishes_credential split first later⟩⟩
      have dropped := (aligned.drop (before ++ capabilityMarker).length).drop credential.text.length
      rwa [← rests, List.drop_left] at dropped
    · have other : ∀ (credential : Credential) (tail : Bytes), rest ≠ credential.text ++ tail :=
        fun credential tail start => guarded ⟨credential, tail, start⟩
      refine ⟨_, redactTurn_other found split other aligned, ?_,
        fun final written later => ⟨_, finishes_other split first other later⟩⟩
      exact rests ▸ aligned.drop _

theorem redactLoop_finishes (state : Redacting) (aligned : Aligned state.remainder) :
    ∃ final written, redactLoop.run state = .ok final ∧ state.Finishes final written := by
  refine Loop.run_induction redactLoop
    (motive := fun state outcome => Aligned state.remainder →
      ∃ final written, outcome = .ok final ∧ state.Finishes final written)
    ?_ ?_ ?_ state aligned
  · intro state error turned aligned
    obtain ⟨other, _⟩ | ⟨next, other, _⟩ := redactTurn_cases aligned <;>
      cases turned.symm.trans other
  · intro state result turned aligned
    obtain ⟨other, clean⟩ | ⟨next, other, _⟩ := redactTurn_cases aligned
    · cases turned.symm.trans other
      exact ⟨_, _, rfl, finishes_done clean⟩
    · cases turned.symm.trans other
  · intro state next turned ih aligned
    obtain ⟨other, _⟩ | ⟨_, other, further, finishes⟩ := redactTurn_cases aligned
    · cases turned.symm.trans other
    · cases turned.symm.trans other
      obtain ⟨final, written, ran, later⟩ := ih further
      obtain ⟨more, done⟩ := finishes final written later
      exact ⟨final, more, ran, done⟩

-- Between the replaced credentials the characters stay whole.
theorem Redacts.aligned {text output : Bytes} (redacts : Redacts text output)
    (aligned : Aligned text) : Aligned output ∧
      ((∀ byte ∈ text.head?, opensCharacter byte = true) →
        ∀ byte ∈ output.head?, opensCharacter byte = true) := by
  induction redacts with
  | unchanged => exact ⟨aligned, id⟩
  | @credential kept credential rest output others ih =>
    have marked := aligned.right_of_append.right_of_append
    obtain ⟨outputAligned, heads⟩ := ih marked.right_of_append
    have opens : ∀ byte ∈ rest.head?, opensCharacter byte = true := by
      intro byte first
      have nonempty : credential.text ≠ [] := by
        apply List.ne_nil_of_length_pos
        rw [credential.length]
        decide
      have last := List.getLast?_eq_some_getLast nonempty
      exact (List.isChain_append.mp marked).2.2 _ last byte first (credential.ascii (List.getLast_mem nonempty))
    have literal : Aligned (capabilityMarker ++ redactedText) := by
      rw [show capabilityMarker ++ redactedText =
        [99, 97, 112, 61, 60, 114, 101, 100, 97, 99, 116, 101, 100, 62] by decide]
      simp [Aligned, opensCharacter]
    have tail : Aligned (capabilityMarker ++ (redactedText ++ output)) := by
      rw [← List.append_assoc]
      exact literal.append outputAligned fun _ _ byte first _ => heads opens byte first
    constructor
    · refine aligned.left_of_append.append tail fun _ _ byte first _ => ?_
      cases first
      decide
    · intro before byte first
      cases kept with
      | nil =>
        cases first
        decide
      | cons opening kept => exact before byte first

theorem redactSourceCapabilities_of_clean {text : Bytes} (aligned : Aligned text)
    (clean : Clean text) : redactSourceCapabilities text = .ok text := by
  obtain ⟨final, written, ran, finishes⟩ := redactLoop_finishes ⟨text, [], false⟩ aligned
  unfold redactSourceCapabilities
  rw [ran, Checked.ok_bind, finishes.unmarked clean]
  rfl

theorem redactSourceCapabilities_correct (input : Bytes) (valid : IsUtf8 input) :
    ∃ output, redactSourceCapabilities input = .ok output ∧ Clean output ∧ Redacts input output ∧
      redactSourceCapabilities output = .ok output := by
  have aligned := aligned_of_isUtf8 valid
  obtain ⟨final, written, ran, finishes⟩ := redactLoop_finishes ⟨input, [], false⟩ aligned
  refine ⟨written, ?_, finishes.clean, finishes.redacts,
    redactSourceCapabilities_of_clean (finishes.redacts.aligned aligned).1 finishes.clean⟩
  unfold redactSourceCapabilities
  rw [ran, Checked.ok_bind]
  split
  next => rw [finishes.output, List.nil_append]
  next kept =>
    rw [Bool.not_eq_true] at kept
    rw [finishes.unchanged kept]

theorem redactSourceCapabilities_letters :
    ∃ output, redactSourceCapabilities (capabilityMarker ++ List.replicate 64 97) = .ok output ∧
      Clean output ∧ Redacts (capabilityMarker ++ List.replicate 64 97) output ∧
      redactSourceCapabilities output = .ok output :=
  redactSourceCapabilities_correct (capabilityMarker ++ List.replicate 64 97)
    (isUtf8_of_ascii (by decide +kernel))

example : redactSourceCapabilities (utf8 "?cap=" ++ List.replicate 65 97) =
    .ok (utf8 "?cap=<redacted>a") := by decide +kernel

end Runs

end StreamServer.EngineFs
