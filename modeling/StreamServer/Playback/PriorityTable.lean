import Mathlib.Data.List.Dedup
import StreamServer.Playback.PriorityMerge

set_option autoImplicit false

namespace StreamServer.Playback

open ActivePriorityWindows

structure PriorityTable where
  windows : ActivePriorityWindows
  baselinePriority : Int
  native : NativePriorities

inductive PriorityOperation where
  | replace (streamId : Nat) (assignments : List LibtorrentPiecePriority)
  | release (streamId : Nat)
  | markPieceVerified (piece : Int)
  -- `select` and `begin_pause` clear the tracking together with setting the selected priority.
  | clearTracking (selectedPriority : Int)
deriving DecidableEq, Repr

def PriorityTable.reconciled (table : PriorityTable) (windows : ActivePriorityWindows)
    (changes : List PiecePriorityChange) : PriorityTable :=
  { table with
    windows
    native := applyPiecePriorityChanges table.native table.baselinePriority changes }

inductive PriorityStep (table : PriorityTable) : PriorityOperation → PriorityTable → Prop where
  | replaced (streamId : Nat) (assignments : List LibtorrentPiecePriority)
      (windows : ActivePriorityWindows) (changes : List PiecePriorityChange)
      (reconciles : Reconciles
        { table.windows with
          streams := table.windows.streams.insert streamId (replacement assignments) }
        (table.windows.affectedBy streamId assignments) windows changes) :
      PriorityStep table (.replace streamId assignments) (table.reconciled windows changes)
  | unknown (streamId : Nat) (absent : table.windows.streams.lookup streamId = none) :
      PriorityStep table (.release streamId) table
  | released (streamId : Nat) (previous : PriorityWindow) (windows : ActivePriorityWindows)
      (changes : List PiecePriorityChange)
      (registered : table.windows.streams.lookup streamId = some previous)
      (reconciles : Reconciles
        { table.windows with streams := table.windows.streams.erase streamId } previous.keys
        windows changes) :
      PriorityStep table (.release streamId) (table.reconciled windows changes)
  | verified (piece : Int) :
      PriorityStep table (.markPieceVerified piece)
        { table with windows := table.windows.markPieceVerified piece }
  | cleared (selectedPriority : Int) :
      PriorityStep table (.clearTracking selectedPriority)
        { table with
          windows := table.windows.clearTracking
          baselinePriority := selectedPriority }

-- A run of the operations. `cleared` is the native table as the last `clear_tracking` found it, or
-- the initial one.
inductive PriorityRun (baselinePriority : Int) (native : NativePriorities) :
    List PriorityOperation → PriorityTable → NativePriorities → Prop where
  | start : PriorityRun baselinePriority native [] ⟨.empty, baselinePriority, native⟩ native
  | step {operations : List PriorityOperation} {table next : PriorityTable}
      {cleared : NativePriorities} (operation : PriorityOperation)
      (run : PriorityRun baselinePriority native operations table cleared)
      (taken : PriorityStep table operation next) :
      PriorityRun baselinePriority native (operations ++ [operation]) next
        (if operation matches .clearTracking _ then next.native else cleared)

def nameStep (named : List Int) : PriorityOperation → List Int
  | .replace _ assignments => named ++ (replacement assignments).keys
  | .clearTracking _ => []
  | _ => named

/-- The pieces that a window has named since the last `clear_tracking`. -/
def namedSinceClear (operations : List PriorityOperation) : List Int :=
  operations.foldl nameStep []

structure TableFollows (table : PriorityTable) (operations : List PriorityOperation)
    (cleared : NativePriorities) : Prop where
  keyed : table.windows.Keyed
  merged : ∀ piece, IsMerge piece (table.windows.Wants piece) (table.windows.effective.lookup piece)
  named : ∀ piece, ∀ assignment ∈ table.windows.Wants piece, piece ∈ namedSinceClear operations
  native : ∀ piece, .markPieceVerified piece ∉ operations →
    table.native piece =
      if piece ∈ namedSinceClear operations then
        NativePiece.settled table.baselinePriority (table.windows.effective.lookup piece)
      else cleared piece

theorem wants_of_perm {left right : ActivePriorityWindows}
    (same : left.streams.entries.Perm right.streams.entries) (piece : Int) :
    left.Wants piece = right.Wants piece := by
  ext assignment
  simp only [Wants, Set.mem_ofPred_eq, AList.perm_lookup same]

structure Reconciled (windows : ActivePriorityWindows) (affected : List Int)
    (after : ActivePriorityWindows) (changes : List PiecePriorityChange) : Prop where
  wants : ∀ piece, after.Wants piece = windows.Wants piece
  merged : ∀ piece ∈ affected, IsMerge piece (windows.Wants piece) (after.effective.lookup piece)
  kept : ∀ piece, piece ∉ affected →
    after.effective.lookup piece = windows.effective.lookup piece
  native : ∀ native baselinePriority piece,
    applyPiecePriorityChanges native baselinePriority changes piece =
      if after.effective.lookup piece = windows.effective.lookup piece then native piece
      else NativePiece.settled baselinePriority (after.effective.lookup piece)

theorem reconciled_of_reconciles {windows after : ActivePriorityWindows} {affected : List Int}
    {changes : List PiecePriorityChange} (keyed : windows.Keyed)
    (reconciles : Reconciles windows affected after changes) :
    Reconciled windows affected after changes := by
  obtain ⟨ordered, pieces, streams, effective, order, result⟩ := reconciles
  have reconciled := reconcile_reconciledBy ordered pieces
  rw [result] at reconciled
  have wants := wants_of_perm streams
  have orderedKeyed : ordered.Keyed := fun piece => wants piece ▸ keyed piece
  have isMerge := effectiveFor_isMerge orderedKeyed
  have lookup (piece : Int) : windows.effective.lookup piece = ordered.effective.lookup piece :=
    (AList.perm_lookup effective).symm
  have affects (piece : Int) : piece ∈ pieces ↔ piece ∈ affected := order.mem_iff
  refine ⟨fun piece => ?_, fun piece member => ?_, fun piece outside => ?_, ?_⟩
  · rw [← wants piece]
    exact wants_of_perm (reconciled.streams ▸ .refl _) piece
  · rw [reconciled.effective piece, if_pos ((affects piece).mpr member), ← wants piece]
    exact isMerge piece
  · rw [reconciled.effective piece, if_neg (fun member => outside ((affects piece).mp member)),
      lookup piece]
  · intro native baselinePriority piece
    rw [lookup piece]
    have own := own_of_isMerge (isMerge piece)
    have atPiece (other : Int) : (changeTo other (ordered.effectiveFor other)).piece = other :=
      changeTo_piece (own_of_isMerge (isMerge other))
    split
    next same =>
      refine applyPiecePriorityChanges_of_untouched native baselinePriority changes piece ?_
      intro change member equal
      obtain ⟨other, touched, different, rfl⟩ := (reconciled.changes change).mp member
      rw [atPiece other] at equal
      subst equal
      rw [reconciled.effective other, if_pos touched] at same
      exact different same.symm
    next different =>
      have touched : piece ∈ pieces := by
        by_contra outside
        exact different (by rw [reconciled.effective piece, if_neg outside])
      rw [reconciled.effective piece, if_pos touched] at different ⊢
      refine applyPiecePriorityChanges_of_touched native baselinePriority changes piece _ own
        ((reconciled.changes _).mpr ⟨piece, touched, Ne.symm different, rfl⟩) ?_
      intro other member equal
      obtain ⟨target, -, -, rfl⟩ := (reconciled.changes other).mp member
      rw [atPiece target] at equal
      rw [equal]

section Follows

variable {table : PriorityTable} {operations : List PriorityOperation} {cleared : NativePriorities}

theorem namedSinceClear_append (operations : List PriorityOperation) (operation : PriorityOperation) :
    namedSinceClear (operations ++ [operation]) = nameStep (namedSinceClear operations) operation := by
  simp [namedSinceClear]

theorem lookup_eq_none_of_unwanted {windows : ActivePriorityWindows} {piece : Int}
    {merged : Option LibtorrentPiecePriority} (isMerge : IsMerge piece (windows.Wants piece) merged)
    (unwanted : windows.Wants piece = ∅) : merged = none := by
  cases merged with
  | none => rfl
  | some assignment =>
    obtain ⟨-, ⟨⟨wanted, member, -⟩, -⟩, -⟩ := isMerge
    rw [unwanted] at member
    cases member

theorem wanted_of_lookup {windows : ActivePriorityWindows} {piece : Int}
    {assignment : LibtorrentPiecePriority}
    (isMerge : IsMerge piece (windows.Wants piece) (some assignment)) :
    ∃ wanted, wanted ∈ windows.Wants piece := by
  obtain ⟨-, ⟨⟨wanted, member, -⟩, -⟩, -⟩ := isMerge
  exact ⟨wanted, member⟩

theorem TableFollows.reconciled (follows : TableFollows table operations cleared)
    (operation : PriorityOperation) {windows after : ActivePriorityWindows} {affected : List Int}
    {changes : List PiecePriorityChange}
    (reconciled : Reconciled windows affected after changes)
    (effective : windows.effective = table.windows.effective) (keyed : windows.Keyed)
    (outside : ∀ piece, piece ∉ affected → windows.Wants piece = table.windows.Wants piece)
    (named : ∀ piece, piece ∈ namedSinceClear (operations ++ [operation]) ↔
      piece ∈ namedSinceClear operations ∨ ∃ wanted, wanted ∈ windows.Wants piece) :
    TableFollows (table.reconciled after changes) (operations ++ [operation]) cleared := by
  have merged (piece : Int) :
      IsMerge piece (after.Wants piece) (after.effective.lookup piece) := by
    rw [reconciled.wants piece]
    by_cases member : piece ∈ affected
    · exact reconciled.merged piece member
    · rw [reconciled.kept piece member, outside piece member, effective]
      exact follows.merged piece
  refine ⟨fun piece => reconciled.wants piece ▸ keyed piece, merged, fun piece assignment wanted => ?_,
    fun piece unverified => ?_⟩
  · exact (named piece).mpr (.inr ⟨assignment, reconciled.wants piece ▸ wanted⟩)
  · have earlier := follows.native piece fun member => unverified (by simp [member])
    have applied := reconciled.native table.native table.baselinePriority piece
    rw [effective] at applied
    show applyPiecePriorityChanges table.native table.baselinePriority changes piece = _
    rw [applied]
    show _ = if piece ∈ namedSinceClear (operations ++ [operation]) then
      NativePiece.settled table.baselinePriority (after.effective.lookup piece) else cleared piece
    by_cases isNamed : piece ∈ namedSinceClear (operations ++ [operation])
    · rw [if_pos isNamed]
      split
      next same =>
        -- A piece named only now is wanted now, so its assignment is not the one it had.
        have before : piece ∈ namedSinceClear operations := by
          rcases (named piece).mp isNamed with before | ⟨wanted, member⟩
          · exact before
          · cases now : after.effective.lookup piece with
            | none =>
              have nobody : after.Wants piece = ∅ := by simpa [now, IsMerge] using merged piece
              rw [← reconciled.wants piece, nobody] at member
              cases member
            | some assignment =>
              have isMerge := follows.merged piece
              rw [← same, now] at isMerge
              obtain ⟨wanted, member⟩ := wanted_of_lookup isMerge
              exact follows.named piece wanted member
        rw [earlier, if_pos before, same]
      next => rfl
    · have before : piece ∉ namedSinceClear operations :=
        fun member => isNamed ((named piece).mpr (.inl member))
      have unwanted : after.Wants piece = ∅ := by
        refine Set.eq_empty_of_forall_notMem fun wanted member => isNamed ((named piece).mpr (.inr ?_))
        exact ⟨wanted, reconciled.wants piece ▸ member⟩
      have unwantedBefore : table.windows.Wants piece = ∅ :=
        Set.eq_empty_of_forall_notMem fun wanted member => before (follows.named piece wanted member)
      have same : after.effective.lookup piece = table.windows.effective.lookup piece := by
        rw [lookup_eq_none_of_unwanted (merged piece) unwanted,
          lookup_eq_none_of_unwanted (follows.merged piece) unwantedBefore]
      rw [if_neg isNamed, if_pos same, earlier, if_neg before]

theorem replacement_own (assignments : List LibtorrentPiecePriority) (piece : Int)
    (assignment : LibtorrentPiecePriority)
    (present : (replacement assignments).lookup piece = some assignment) :
    assignment.piece = piece := by
  have folded (given : List LibtorrentPiecePriority) (window : PriorityWindow)
      (own : ∀ piece assignment, window.lookup piece = some assignment → assignment.piece = piece) :
      ∀ piece assignment, (given.foldl
          (fun window assignment => window.insert assignment.piece assignment) window).lookup piece =
        some assignment → assignment.piece = piece := by
    induction given generalizing window with
    | nil => exact own
    | cons first rest ih =>
      refine ih _ fun piece assignment present => ?_
      by_cases same : piece = first.piece
      · subst same
        simp only [AList.lookup_insert, Option.some.injEq] at present
        rw [present]
      · rw [AList.lookup_insert_ne same] at present
        exact own piece assignment present
  exact folded _ ∅ (by simp) piece assignment present

theorem mem_wants_insert {windows : ActivePriorityWindows} {streamId : Nat} {window : PriorityWindow}
    {piece : Int} {assignment : LibtorrentPiecePriority} :
    assignment ∈ ({ windows with
        streams := windows.streams.insert streamId window } : ActivePriorityWindows).Wants piece ↔
      window.lookup piece = some assignment ∨
        ∃ other earlier, other ≠ streamId ∧ windows.streams.lookup other = some earlier ∧
          earlier.lookup piece = some assignment := by
  simp only [Wants, Set.mem_ofPred_eq]
  constructor
  · rintro ⟨other, earlier, registered, wanted⟩
    by_cases same : other = streamId
    · subst same
      simp only [AList.lookup_insert, Option.some.injEq] at registered
      exact .inl (registered ▸ wanted)
    · rw [AList.lookup_insert_ne same] at registered
      exact .inr ⟨other, earlier, same, registered, wanted⟩
  · rintro (wanted | ⟨other, earlier, different, registered, wanted⟩)
    · exact ⟨streamId, window, AList.lookup_insert _, wanted⟩
    · exact ⟨other, earlier, by rw [AList.lookup_insert_ne different, registered], wanted⟩

theorem mem_wants_erase {windows : ActivePriorityWindows} {streamId : Nat} {piece : Int}
    {assignment : LibtorrentPiecePriority} :
    assignment ∈ ({ windows with
        streams := windows.streams.erase streamId } : ActivePriorityWindows).Wants piece ↔
      ∃ other earlier, other ≠ streamId ∧ windows.streams.lookup other = some earlier ∧
        earlier.lookup piece = some assignment := by
  simp only [Wants, Set.mem_ofPred_eq]
  constructor
  · rintro ⟨other, earlier, registered, wanted⟩
    by_cases same : other = streamId
    · subst same
      simp at registered
    · rw [AList.lookup_erase_ne same] at registered
      exact ⟨other, earlier, same, registered, wanted⟩
  · rintro ⟨other, earlier, different, registered, wanted⟩
    exact ⟨other, earlier, by rw [AList.lookup_erase_ne different, registered], wanted⟩

theorem mem_wants_markPieceVerified {windows : ActivePriorityWindows} {verified piece : Int}
    {assignment : LibtorrentPiecePriority} :
    assignment ∈ (windows.markPieceVerified verified).Wants piece ↔
      piece ≠ verified ∧ assignment ∈ windows.Wants piece := by
  rw [mem_wants_iff, mem_wants_iff]
  simp only [markPieceVerified, eraseFromAll, List.mem_filterMap, List.mem_map]
  constructor
  · rintro ⟨_, ⟨stream, member, rfl⟩, wanted⟩
    by_cases same : piece = verified
    · subst same
      simp at wanted
    · rw [AList.lookup_erase_ne same] at wanted
      exact ⟨same, stream, member, wanted⟩
  · rintro ⟨different, stream, member, wanted⟩
    exact ⟨_, ⟨stream, member, rfl⟩, by rw [AList.lookup_erase_ne different, wanted]⟩

theorem TableFollows.replaced (follows : TableFollows table operations cleared) (streamId : Nat)
    (assignments : List LibtorrentPiecePriority) {windows : ActivePriorityWindows}
    {changes : List PiecePriorityChange}
    (reconciles : Reconciles
      { table.windows with
        streams := table.windows.streams.insert streamId (replacement assignments) }
      (table.windows.affectedBy streamId assignments) windows changes) :
    TableFollows (table.reconciled windows changes) (operations ++ [.replace streamId assignments])
      cleared := by
  have keyed : Keyed { table.windows with
      streams := table.windows.streams.insert streamId (replacement assignments) } := by
    intro piece assignment wanted
    rcases mem_wants_insert.mp wanted with new | ⟨other, earlier, -, registered, wanted⟩
    · exact replacement_own assignments piece assignment new
    · exact follows.keyed piece assignment ⟨other, earlier, registered, wanted⟩
  refine follows.reconciled _ (reconciled_of_reconciles keyed reconciles) rfl keyed
    (fun piece unaffected => ?_) fun piece => ?_
  · have absent : (replacement assignments).lookup piece = none ∧
        (((table.windows.streams.lookup streamId).getD ∅).lookup piece) = none := by
      simpa [affectedBy, AList.lookup_eq_none, AList.mem_keys, List.mem_dedup] using unaffected
    ext assignment
    rw [mem_wants_insert]
    constructor
    · rintro (new | ⟨other, earlier, -, registered, wanted⟩)
      · rw [absent.1] at new
        cases new
      · exact ⟨other, earlier, registered, wanted⟩
    · rintro ⟨other, earlier, registered, wanted⟩
      refine .inr ⟨other, earlier, ?_, registered, wanted⟩
      rintro rfl
      simp [registered, wanted] at absent
  · rw [namedSinceClear_append]
    simp only [nameStep, List.mem_append]
    constructor
    · rintro (before | new)
      · exact .inl before
      · obtain ⟨assignment, present⟩ := AList.lookup_isSome.mpr (AList.mem_keys.mpr new) |>
          Option.isSome_iff_exists.mp
        exact .inr ⟨assignment, mem_wants_insert.mpr (.inl present)⟩
    · rintro (before | ⟨assignment, wanted⟩)
      · exact .inl before
      · rcases mem_wants_insert.mp wanted with new | ⟨other, earlier, -, registered, wanted⟩
        · exact .inr (AList.mem_keys.mp (AList.lookup_isSome.mp (by simp [new])))
        · exact .inl (follows.named piece assignment ⟨other, earlier, registered, wanted⟩)

theorem TableFollows.released (follows : TableFollows table operations cleared) (streamId : Nat)
    {previous : PriorityWindow} {windows : ActivePriorityWindows}
    {changes : List PiecePriorityChange}
    (registered : table.windows.streams.lookup streamId = some previous)
    (reconciles : Reconciles
      { table.windows with streams := table.windows.streams.erase streamId } previous.keys
      windows changes) :
    TableFollows (table.reconciled windows changes) (operations ++ [.release streamId]) cleared := by
  have fewer (piece : Int) (assignment : LibtorrentPiecePriority)
      (wanted : assignment ∈ ({ table.windows with
        streams := table.windows.streams.erase streamId } : ActivePriorityWindows).Wants piece) :
      assignment ∈ table.windows.Wants piece := by
    obtain ⟨other, earlier, -, registered, wanted⟩ := mem_wants_erase.mp wanted
    exact ⟨other, earlier, registered, wanted⟩
  have keyed : Keyed { table.windows with streams := table.windows.streams.erase streamId } :=
    fun piece assignment wanted => follows.keyed piece assignment (fewer piece assignment wanted)
  refine follows.reconciled _ (reconciled_of_reconciles keyed reconciles) rfl keyed
    (fun piece unaffected => ?_) fun piece => ?_
  · ext assignment
    refine ⟨fewer piece assignment, ?_⟩
    rintro ⟨other, earlier, present, wanted⟩
    refine mem_wants_erase.mpr ⟨other, earlier, ?_, present, wanted⟩
    rintro rfl
    cases registered.symm.trans present
    exact unaffected (AList.mem_keys.mp (AList.lookup_isSome.mp (by simp [wanted])))
  · rw [namedSinceClear_append]
    refine ⟨.inl, ?_⟩
    rintro (before | ⟨assignment, wanted⟩)
    · exact before
    · exact follows.named piece assignment (fewer piece assignment wanted)

theorem TableFollows.verified (follows : TableFollows table operations cleared) (verified : Int) :
    TableFollows { table with windows := table.windows.markPieceVerified verified }
      (operations ++ [.markPieceVerified verified]) cleared := by
  have fewer (piece : Int) (assignment : LibtorrentPiecePriority)
      (wanted : assignment ∈ (table.windows.markPieceVerified verified).Wants piece) :
      assignment ∈ table.windows.Wants piece := (mem_wants_markPieceVerified.mp wanted).2
  refine ⟨fun piece assignment wanted => follows.keyed piece assignment (fewer _ _ wanted),
    fun piece => ?_, fun piece assignment wanted => ?_, fun piece unverified => ?_⟩
  · show IsMerge piece ((table.windows.markPieceVerified verified).Wants piece)
      ((table.windows.effective.erase verified).lookup piece)
    by_cases same : piece = verified
    · subst same
      rw [AList.lookup_erase]
      exact Set.eq_empty_of_forall_notMem fun _ wanted => (mem_wants_markPieceVerified.mp wanted).1 rfl
    · have wants : (table.windows.markPieceVerified verified).Wants piece =
          table.windows.Wants piece := by
        ext assignment
        simp [mem_wants_markPieceVerified, same]
      rw [AList.lookup_erase_ne same, wants]
      exact follows.merged piece
  · rw [namedSinceClear_append]
    exact follows.named piece assignment (fewer piece assignment wanted)
  · have different : piece ≠ verified := by
      rintro rfl
      exact unverified (by simp)
    have earlier := follows.native piece fun member => unverified (by simp [member])
    rw [namedSinceClear_append]
    show table.native piece = if piece ∈ namedSinceClear operations then
      NativePiece.settled table.baselinePriority
        ((table.windows.effective.erase verified).lookup piece) else cleared piece
    rw [AList.lookup_erase_ne different]
    exact earlier

theorem tableFollows_cleared (table : PriorityTable) (operations : List PriorityOperation)
    (selectedPriority : Int) :
    TableFollows
      { table with windows := table.windows.clearTracking, baselinePriority := selectedPriority }
      (operations ++ [.clearTracking selectedPriority]) table.native := by
  have unwanted (piece : Int) : (table.windows.clearTracking).Wants piece = ∅ := by
    refine Set.eq_empty_of_forall_notMem ?_
    rintro assignment ⟨streamId, window, registered, -⟩
    cases registered
  refine ⟨fun piece assignment wanted => ?_, unwanted, fun piece assignment wanted => ?_, ?_⟩
  · rw [unwanted piece] at wanted
    cases wanted
  · rw [unwanted piece] at wanted
    cases wanted
  · intro piece unverified
    rw [namedSinceClear_append]
    simp [nameStep]

theorem tableFollows_of_run {baselinePriority : Int} {native : NativePriorities}
    (run : PriorityRun baselinePriority native operations table cleared) :
    TableFollows table operations cleared := by
  induction run with
  | start =>
    refine ⟨?_, fun piece => ?_, ?_, fun piece _ => by simp [namedSinceClear]⟩
    · rintro piece assignment ⟨streamId, window, ⟨⟩, -⟩
    · refine Set.eq_empty_of_forall_notMem ?_
      rintro assignment ⟨streamId, window, ⟨⟩, -⟩
    · rintro piece assignment ⟨streamId, window, ⟨⟩, -⟩
  | step operation run taken follows =>
    cases taken with
    | replaced streamId assignments windows changes reconciles =>
      exact follows.replaced streamId assignments reconciles
    | unknown streamId absent =>
      refine ⟨follows.keyed, follows.merged, ?_, fun piece unverified => ?_⟩
      · rw [namedSinceClear_append]
        exact follows.named
      · rw [namedSinceClear_append]
        exact follows.native piece fun member => unverified (by simp [member])
    | released streamId previous windows changes registered reconciles =>
      exact follows.released streamId registered reconciles
    | verified piece => exact follows.verified piece
    | cleared selectedPriority => exact tableFollows_cleared _ _ selectedPriority

end Follows

theorem native_follows_windows {baselinePriority : Int} {native cleared : NativePriorities}
    {operations : List PriorityOperation} {table : PriorityTable}
    (run : PriorityRun baselinePriority native operations table cleared) :
    (∀ piece,
      IsMerge piece (table.windows.Wants piece) (table.windows.effective.lookup piece)) ∧
    ∀ piece, .markPieceVerified piece ∉ operations →
      table.native piece =
        if piece ∈ namedSinceClear operations then
          NativePiece.settled table.baselinePriority (table.windows.effective.lookup piece)
        else cleared piece :=
  ⟨(tableFollows_of_run run).merged, (tableFollows_of_run run).native⟩

def PriorityTable.replace (table : PriorityTable) (streamId : Nat)
    (assignments : List LibtorrentPiecePriority) : PriorityTable :=
  let (windows, changes) := table.windows.replace streamId assignments
  table.reconciled windows changes

theorem priorityStep_replace (table : PriorityTable) (streamId : Nat)
    (assignments : List LibtorrentPiecePriority) :
    PriorityStep table (.replace streamId assignments) (table.replace streamId assignments) :=
  .replaced streamId assignments _ _ (reconciles_replace table.windows streamId assignments)

-- Two streams want piece 10: the native table has the higher priority and the earlier deadline.
theorem native_follows_overlapping_windows :
    ∃ table, PriorityRun 1 (fun _ => ⟨1, none⟩)
        [.replace 1 [⟨10, 7, some 500⟩], .replace 2 [⟨10, 4, some 100⟩]] table (fun _ => ⟨1, none⟩) ∧
      table.native 10 = ⟨7, some 100⟩ ∧ table.native 11 = ⟨1, none⟩ := by
  have fresh : PriorityRun 1 (fun _ => ⟨1, none⟩) [] _ _ := .start
  have run := fresh.step (.replace 1 [⟨10, 7, some 500⟩]) (priorityStep_replace _ 1 _) |>.step
    (.replace 2 [⟨10, 4, some 100⟩]) (priorityStep_replace _ 2 _)
  have follows := (native_follows_windows run).2
  refine ⟨_, run, (follows 10 (by decide)).trans rfl, (follows 11 (by decide)).trans rfl⟩

theorem clear_tracking_leaves_native :
    ∃ table cleared, PriorityRun 1 (fun _ => ⟨1, none⟩)
        [.replace 1 [⟨10, 7, some 0⟩], .clearTracking 1] table cleared ∧
      table.windows.effective.lookup 10 = none ∧ table.native 10 = ⟨7, some 0⟩ ∧
      table.native 10 ≠ NativePiece.settled table.baselinePriority none := by
  have fresh : PriorityRun 1 (fun _ => ⟨1, none⟩) [] _ _ := .start
  have run := fresh.step (.replace 1 [⟨10, 7, some 0⟩]) (priorityStep_replace _ 1 _) |>.step
    (.clearTracking 1) (.cleared 1)
  exact ⟨_, _, run, rfl, rfl, by decide⟩

end StreamServer.Playback
