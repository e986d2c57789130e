import Mathlib.Data.List.AList
import Mathlib.Data.List.Induction
import Mathlib.Logic.Function.Basic
import Mathlib.Order.Bounds.Basic
import StreamServer.Shared.Lists

set_option autoImplicit false

namespace StreamServer.Playback

open SortDedup

structure LibtorrentPiecePriority where
  piece : Int
  priority : Int
  deadlineMs : Option Int
deriving DecidableEq, Repr

inductive PiecePriorityChange where
  | apply (assignment : LibtorrentPiecePriority)
  | reset (piece : Int)
deriving DecidableEq, Repr

def PiecePriorityChange.piece : PiecePriorityChange → Int
  | .apply assignment => assignment.piece
  | .reset piece => piece

abbrev PriorityWindow := AList fun _ : Int => LibtorrentPiecePriority

/-- The order of an entry list stands for the iteration order of the source's hash map. -/
structure ActivePriorityWindows where
  streams : AList fun _ : Nat => PriorityWindow
  effective : PriorityWindow

namespace ActivePriorityWindows

def empty : ActivePriorityWindows := ⟨∅, ∅⟩

def mergeAssignments (piece : Int) (left right : LibtorrentPiecePriority) :
    LibtorrentPiecePriority :=
  { piece
    priority := max left.priority right.priority
    deadlineMs :=
      match left.deadlineMs, right.deadlineMs with
      | some left, some right => some (min left right)
      | some deadline, none | none, some deadline => some deadline
      | none, none => none }

def effectiveFor (windows : ActivePriorityWindows) (piece : Int) :
    Option LibtorrentPiecePriority :=
  match windows.streams.entries.filterMap fun stream => stream.2.lookup piece with
  | [] => none
  | first :: rest => some (rest.foldl (mergeAssignments piece) first)

def reconcilePiece (state : ActivePriorityWindows × List PiecePriorityChange) (piece : Int) :
    ActivePriorityWindows × List PiecePriorityChange :=
  let (windows, changes) := state
  let next := windows.effectiveFor piece
  if windows.effective.lookup piece = next then (windows, changes)
  else
    match next with
    | some next =>
        ({ windows with effective := windows.effective.insert piece next },
          changes ++ [.apply next])
    | none =>
        ({ windows with effective := windows.effective.erase piece }, changes ++ [.reset piece])

def reconcile (windows : ActivePriorityWindows) (affected : List Int) :
    ActivePriorityWindows × List PiecePriorityChange :=
  let (windows, changes) := affected.foldl reconcilePiece (windows, [])
  (windows, sortBy PiecePriorityChange.piece changes)

def replace (windows : ActivePriorityWindows) (streamId : Nat)
    (assignments : List LibtorrentPiecePriority) :
    ActivePriorityWindows × List PiecePriorityChange :=
  -- Collecting into a map keeps the last assignment given for a piece.
  let replacement : PriorityWindow :=
    (assignments.filter fun assignment => 0 ≤ assignment.piece).foldl
      (fun window assignment => window.insert assignment.piece assignment) ∅
  let previous := (windows.streams.lookup streamId).getD ∅
  let affected := (replacement.keys ++ previous.keys).dedup
  reconcile { windows with streams := windows.streams.insert streamId replacement } affected

def release (windows : ActivePriorityWindows) (streamId : Nat) :
    ActivePriorityWindows × List PiecePriorityChange :=
  match windows.streams.lookup streamId with
  | none => (windows, [])
  | some previous =>
      reconcile { windows with streams := windows.streams.erase streamId } previous.keys

def clearTracking (_ : ActivePriorityWindows) : ActivePriorityWindows := empty

def eraseFromAll (streams : AList fun _ : Nat => PriorityWindow) (piece : Int) :
    AList fun _ : Nat => PriorityWindow where
  entries := streams.entries.map fun stream => ⟨stream.1, stream.2.erase piece⟩
  nodupKeys := by
    simpa [List.NodupKeys, List.keys, Function.comp_def] using streams.nodupKeys

def markPieceVerified (windows : ActivePriorityWindows) (piece : Int) : ActivePriorityWindows :=
  { streams := eraseFromAll windows.streams piece
    effective := windows.effective.erase piece }

end ActivePriorityWindows

/-- What libtorrent was last asked to do with a piece. -/
structure NativePiece where
  priority : Int
  deadlineMs : Option Int
deriving DecidableEq, Repr

abbrev NativePriorities := Int → NativePiece

namespace PiecePriorityChange

/-- The three passes of `apply_piece_priority_changes`, at the piece of a change. -/
def resetDeadline : PiecePriorityChange → NativePiece → NativePiece
  | .reset _, piece | .apply ⟨_, _, none⟩, piece => { piece with deadlineMs := none }
  | .apply _, piece => piece

def setPriority (baselinePriority : Int) : PiecePriorityChange → NativePiece → NativePiece
  | .apply assignment, piece => { piece with priority := assignment.priority }
  | .reset _, piece => { piece with priority := baselinePriority }

def setDeadline : PiecePriorityChange → NativePiece → NativePiece
  | .apply ⟨_, _, some deadlineMs⟩, piece => { piece with deadlineMs := some deadlineMs }
  | _, piece => piece

end PiecePriorityChange

def forEachChange (write : PiecePriorityChange → NativePiece → NativePiece)
    (native : NativePriorities) (changes : List PiecePriorityChange) : NativePriorities :=
  changes.foldl
    (fun native change =>
      Function.update native change.piece (write change (native change.piece))) native

def applyPiecePriorityChanges (native : NativePriorities) (baselinePriority : Int)
    (changes : List PiecePriorityChange) : NativePriorities :=
  let native := forEachChange PiecePriorityChange.resetDeadline native changes
  let native := forEachChange (PiecePriorityChange.setPriority baselinePriority) native changes
  forEachChange PiecePriorityChange.setDeadline native changes

namespace ActivePriorityWindows

def Wants (windows : ActivePriorityWindows) (piece : Int) : Set LibtorrentPiecePriority :=
  {assignment | ∃ streamId window, windows.streams.lookup streamId = some window ∧
    window.lookup piece = some assignment}

/-- The greatest priority asked for, and the least of the deadlines asked for, if any. -/
def IsMerge (piece : Int) (wants : Set LibtorrentPiecePriority) :
    Option LibtorrentPiecePriority → Prop
  | none => wants = ∅
  | some merged => merged.piece = piece ∧
      IsGreatest (LibtorrentPiecePriority.priority '' wants) merged.priority ∧
      match merged.deadlineMs with
      | none => ∀ wanted ∈ wants, wanted.deadlineMs = none
      | some deadline =>
          IsLeast {deadline | ∃ wanted ∈ wants, wanted.deadlineMs = some deadline} deadline

/-- Windows are keyed by the piece of each assignment. -/
def Keyed (windows : ActivePriorityWindows) : Prop :=
  ∀ piece, ∀ assignment ∈ windows.Wants piece, assignment.piece = piece

theorem IsMerge.insert {piece : Int} {wants : Set LibtorrentPiecePriority}
    {merged : LibtorrentPiecePriority} (isMerge : IsMerge piece wants (some merged))
    (last : LibtorrentPiecePriority) :
    IsMerge piece (insert last wants) (some (mergeAssignments piece merged last)) := by
  obtain ⟨-, greatest, deadlines⟩ := isMerge
  refine ⟨rfl, ?_, ?_⟩
  · rw [Set.image_insert_eq, mergeAssignments, max_comm]
    exact greatest.insert last.priority
  · cases left : merged.deadlineMs with
    | none =>
      rw [left] at deadlines
      cases right : last.deadlineMs with
      | none => simpa [mergeAssignments, left, right] using deadlines
      | some deadline =>
        simp only [mergeAssignments, left, right]
        refine ⟨⟨last, Set.mem_insert _ _, right⟩, ?_⟩
        rintro other ⟨wanted, member, has⟩
        rcases member with rfl | member
        · cases right.symm.trans has
          exact le_refl deadline
        · rw [deadlines wanted member] at has
          cases has
    | some earliest =>
      rw [left] at deadlines
      obtain ⟨⟨holder, held, has⟩, least⟩ := deadlines
      cases right : last.deadlineMs with
      | none =>
        simp only [mergeAssignments, left, right]
        refine ⟨⟨holder, Set.mem_insert_of_mem _ held, has⟩, ?_⟩
        rintro other ⟨wanted, member, wants⟩
        rcases member with rfl | member
        · rw [right] at wants
          cases wants
        · exact least ⟨wanted, member, wants⟩
      | some deadline =>
        simp only [mergeAssignments, left, right]
        refine ⟨?_, ?_⟩
        · rcases le_total earliest deadline with before | after
          · exact ⟨holder, Set.mem_insert_of_mem _ held, by rw [has, min_eq_left before]⟩
          · exact ⟨last, Set.mem_insert _ _, by rw [right, min_eq_right after]⟩
        · rintro other ⟨wanted, member, wants⟩
          rcases member with rfl | member
          · cases right.symm.trans wants
            exact min_le_right earliest deadline
          · exact (min_le_left earliest deadline).trans (least ⟨wanted, member, wants⟩)

theorem isMerge_foldl (piece : Int) (first : LibtorrentPiecePriority)
    (rest : List LibtorrentPiecePriority) (own : first.piece = piece) :
    IsMerge piece {assignment | assignment ∈ first :: rest}
      (some (rest.foldl (mergeAssignments piece) first)) := by
  induction rest using List.reverseRecOn with
  | nil =>
    refine ⟨own, by simp [IsGreatest, upperBounds], ?_⟩
    cases deadline : first.deadlineMs with
    | none => simp [deadline]
    | some earliest => simp [deadline, IsLeast, lowerBounds]
  | append_singleton rest last ih =>
    have same : {assignment | assignment ∈ first :: (rest ++ [last])} =
        insert last {assignment | assignment ∈ first :: rest} := by
      ext assignment
      simp only [List.mem_cons, List.mem_append, List.not_mem_nil, or_false, Set.mem_ofPred_eq,
        Set.mem_insert_iff]
      tauto
    rw [same, List.foldl_append]
    exact ih.insert last

theorem mem_wants_iff (windows : ActivePriorityWindows) (piece : Int)
    (assignment : LibtorrentPiecePriority) :
    assignment ∈ windows.Wants piece ↔
      assignment ∈ windows.streams.entries.filterMap fun stream => stream.2.lookup piece := by
  simp only [Wants, Set.mem_ofPred_eq, List.mem_filterMap]
  constructor
  · rintro ⟨streamId, window, registered, wanted⟩
    exact ⟨⟨streamId, window⟩, AList.mem_lookup_iff.mp registered, wanted⟩
  · rintro ⟨⟨streamId, window⟩, member, wanted⟩
    exact ⟨streamId, window, AList.mem_lookup_iff.mpr member, wanted⟩

theorem effectiveFor_isMerge {windows : ActivePriorityWindows} (keyed : windows.Keyed)
    (piece : Int) : IsMerge piece (windows.Wants piece) (windows.effectiveFor piece) := by
  have wants : windows.Wants piece = {assignment | assignment ∈
      windows.streams.entries.filterMap fun stream => stream.2.lookup piece} :=
    Set.ext fun assignment => mem_wants_iff windows piece assignment
  unfold effectiveFor
  split
  next nobody =>
    rw [nobody] at wants
    simpa [IsMerge] using wants
  next first rest wanted =>
    rw [wanted] at wants
    rw [wants]
    exact isMerge_foldl piece first rest (keyed piece first (by simp [wants]))

theorem own_of_isMerge {piece : Int} {wants : Set LibtorrentPiecePriority}
    {merged : Option LibtorrentPiecePriority} (isMerge : IsMerge piece wants merged) :
    ∀ assignment ∈ merged, assignment.piece = piece := by
  rintro assignment ⟨⟩
  exact isMerge.1

section Reconcile

def changeTo (piece : Int) : Option LibtorrentPiecePriority → PiecePriorityChange
  | some assignment => .apply assignment
  | none => .reset piece

theorem changeTo_piece {piece : Int} {next : Option LibtorrentPiecePriority}
    (own : ∀ assignment ∈ next, assignment.piece = piece) : (changeTo piece next).piece = piece := by
  cases next with
  | none => rfl
  | some assignment => exact own assignment rfl

variable {windows : ActivePriorityWindows}

structure ReconciledBy (windows : ActivePriorityWindows) (pieces : List Int)
    (result : ActivePriorityWindows × List PiecePriorityChange) : Prop where
  streams : result.1.streams = windows.streams
  effective : ∀ piece, result.1.effective.lookup piece =
    if piece ∈ pieces then windows.effectiveFor piece else windows.effective.lookup piece
  changes : ∀ change, change ∈ result.2 ↔ ∃ piece ∈ pieces,
    windows.effective.lookup piece ≠ windows.effectiveFor piece ∧
      change = changeTo piece (windows.effectiveFor piece)

theorem effectiveFor_congr {left right : ActivePriorityWindows}
    (streams : left.streams = right.streams) (piece : Int) :
    left.effectiveFor piece = right.effectiveFor piece := by
  simp only [effectiveFor, streams]

theorem ReconciledBy.reconcilePiece {pieces : List Int}
    {result : ActivePriorityWindows × List PiecePriorityChange}
    (reconciled : ReconciledBy windows pieces result) (last : Int) :
    ReconciledBy windows (pieces ++ [last]) (reconcilePiece result last) := by
  obtain ⟨streams, effective, changes⟩ := reconciled
  have wanted := effectiveFor_congr streams last
  have current := effective last
  unfold ActivePriorityWindows.reconcilePiece
  simp only [wanted]
  split
  next settled =>
    refine ⟨streams, fun piece => ?_, fun change => ?_⟩
    · rw [effective piece]
      by_cases same : piece = last
      · subst same
        rw [current] at settled
        simp only [List.mem_append, List.mem_singleton, or_true, if_true]
        exact settled
      · simp [same]
    · rw [changes change]
      constructor
      · rintro ⟨piece, member, different, rfl⟩
        exact ⟨piece, by simp [member], different, rfl⟩
      · rintro ⟨piece, member, different, rfl⟩
        rcases List.mem_append.mp member with earlier | new
        · exact ⟨piece, earlier, different, rfl⟩
        · cases List.mem_singleton.mp new
          by_cases earlier : last ∈ pieces
          · exact ⟨last, earlier, different, rfl⟩
          · rw [current, if_neg earlier] at settled
            exact absurd settled different
  next unsettled =>
    have earlier : last ∉ pieces := by
      intro member
      rw [current, if_pos member] at unsettled
      exact unsettled rfl
    rw [current, if_neg earlier] at unsettled
    have appended (change : PiecePriorityChange) :
        change ∈ result.2 ++ [changeTo last (windows.effectiveFor last)] ↔
          ∃ piece ∈ pieces ++ [last],
            windows.effective.lookup piece ≠ windows.effectiveFor piece ∧
              change = changeTo piece (windows.effectiveFor piece) := by
      rw [List.mem_append, changes change, List.mem_singleton]
      constructor
      · rintro (⟨piece, member, different, rfl⟩ | rfl)
        · exact ⟨piece, by simp [member], different, rfl⟩
        · exact ⟨last, by simp, unsettled, rfl⟩
      · rintro ⟨piece, member, different, rfl⟩
        rcases List.mem_append.mp member with earlier | new
        · exact .inl ⟨piece, earlier, different, rfl⟩
        · cases List.mem_singleton.mp new
          exact .inr rfl
    cases next : windows.effectiveFor last with
    | some assignment =>
      rw [next] at appended
      refine ⟨streams, fun piece => ?_, appended⟩
      by_cases same : piece = last
      · subst same
        simp [next]
      · simp [AList.lookup_insert_ne same, effective piece, same]
    | none =>
      rw [next] at appended
      refine ⟨streams, fun piece => ?_, appended⟩
      by_cases same : piece = last
      · subst same
        simp [next]
      · simp [AList.lookup_erase_ne same, effective piece, same]

theorem reconcile_reconciledBy (windows : ActivePriorityWindows) (pieces : List Int) :
    ReconciledBy windows pieces (windows.reconcile pieces) := by
  have folded : ReconciledBy windows pieces (pieces.foldl reconcilePiece (windows, [])) := by
    induction pieces using List.reverseRecOn with
    | nil => exact ⟨rfl, by simp, by simp⟩
    | append_singleton pieces last ih =>
      rw [List.foldl_append]
      exact ih.reconcilePiece last
  exact ⟨folded.streams, folded.effective, fun change => by
    simpa [reconcile] using folded.changes change⟩

end Reconcile

def Reconciles (windows : ActivePriorityWindows) (affected : List Int)
    (after : ActivePriorityWindows) (changes : List PiecePriorityChange) : Prop :=
  ∃ (ordered : ActivePriorityWindows) (pieces : List Int),
    ordered.streams.entries.Perm windows.streams.entries ∧
    ordered.effective.entries.Perm windows.effective.entries ∧
    pieces.Perm affected ∧ ordered.reconcile pieces = (after, changes)

def replacement (assignments : List LibtorrentPiecePriority) : PriorityWindow :=
  (assignments.filter fun assignment => 0 ≤ assignment.piece).foldl
    (fun window assignment => window.insert assignment.piece assignment) ∅

def affectedBy (windows : ActivePriorityWindows) (streamId : Nat)
    (assignments : List LibtorrentPiecePriority) : List Int :=
  ((replacement assignments).keys ++ ((windows.streams.lookup streamId).getD ∅).keys).dedup

theorem reconciles_replace (windows : ActivePriorityWindows) (streamId : Nat)
    (assignments : List LibtorrentPiecePriority) :
    Reconciles { windows with streams := windows.streams.insert streamId (replacement assignments) }
      (windows.affectedBy streamId assignments) (windows.replace streamId assignments).1
      (windows.replace streamId assignments).2 :=
  ⟨_, _, .refl _, .refl _, .refl _, rfl⟩

end ActivePriorityWindows

section Native

def NativePiece.settled (baselinePriority : Int) : Option LibtorrentPiecePriority → NativePiece
  | some assignment => ⟨assignment.priority, assignment.deadlineMs⟩
  | none => ⟨baselinePriority, none⟩

theorem forEachChange_of_untouched (write : PiecePriorityChange → NativePiece → NativePiece)
    (native : NativePriorities) (changes : List PiecePriorityChange) (piece : Int)
    (untouched : ∀ change ∈ changes, change.piece ≠ piece) :
    forEachChange write native changes piece = native piece := by
  induction changes generalizing native with
  | nil => rfl
  | cons change rest ih =>
    have other := untouched change (by simp)
    have later := ih (Function.update native change.piece (write change (native change.piece)))
      fun change member => untouched change (by simp [member])
    rw [Function.update_of_ne (Ne.symm other)] at later
    exact later

theorem forEachChange_of_touched (write : PiecePriorityChange → NativePiece → NativePiece)
    (native : NativePriorities) (changes : List PiecePriorityChange) (change : PiecePriorityChange)
    (member : change ∈ changes) (only : ∀ other ∈ changes, other.piece = change.piece → other = change)
    (idempotent : ∀ piece, write change (write change piece) = write change piece) :
    forEachChange write native changes change.piece = write change (native change.piece) := by
  induction changes generalizing native with
  | nil => cases member
  | cons first rest ih =>
    have onlyRest : ∀ other ∈ rest, other.piece = change.piece → other = change :=
      fun other later => only other (by simp [later])
    have folded : forEachChange write native (first :: rest) =
        forEachChange write
          (Function.update native first.piece (write first (native first.piece))) rest := rfl
    rw [folded]
    by_cases same : first.piece = change.piece
    · obtain rfl := only first (by simp) same
      by_cases again : first ∈ rest
      · rw [ih _ again onlyRest, Function.update_self, idempotent]
      · rw [forEachChange_of_untouched, Function.update_self]
        intro other later equal
        exact again (onlyRest other later equal ▸ later)
    · have later : change ∈ rest := by
        rcases List.mem_cons.mp member with rfl | later
        · exact absurd rfl same
        · exact later
      rw [ih _ later onlyRest, Function.update_of_ne (Ne.symm same)]

theorem applyPiecePriorityChanges_of_untouched (native : NativePriorities) (baselinePriority : Int)
    (changes : List PiecePriorityChange) (piece : Int)
    (untouched : ∀ change ∈ changes, change.piece ≠ piece) :
    applyPiecePriorityChanges native baselinePriority changes piece = native piece := by
  simp only [applyPiecePriorityChanges, forEachChange_of_untouched _ _ _ _ untouched]

theorem applyPiecePriorityChanges_of_touched (native : NativePriorities) (baselinePriority : Int)
    (changes : List PiecePriorityChange) (piece : Int) (next : Option LibtorrentPiecePriority)
    (own : ∀ assignment ∈ next, assignment.piece = piece)
    (member : ActivePriorityWindows.changeTo piece next ∈ changes)
    (only : ∀ other ∈ changes, other.piece = piece →
      other = ActivePriorityWindows.changeTo piece next) :
    applyPiecePriorityChanges native baselinePriority changes piece =
      NativePiece.settled baselinePriority next := by
  have keyed := ActivePriorityWindows.changeTo_piece own
  generalize change_eq : ActivePriorityWindows.changeTo piece next = change at member only keyed
  subst keyed
  simp only [applyPiecePriorityChanges]
  rw [forEachChange_of_touched _ _ _ _ member only, forEachChange_of_touched _ _ _ _ member only,
    forEachChange_of_touched _ _ _ _ member only]
  · rw [← change_eq]
    rcases next with _ | ⟨piece, priority, _ | deadline⟩ <;> rfl
  all_goals
    intro piece
    rcases change with ⟨_, _, _ | _⟩ | _ <;> rfl

end Native

end StreamServer.Playback
