import Mathlib.Data.List.TakeWhile

set_option autoImplicit false

-- What is left of a text when its ends are trimmed.
namespace Trimming

variable {α : Type} {matching : α → Bool} {text core leading trailing : List α}

def trim (matching : α → Bool) (text : List α) : List α :=
  ((text.dropWhile matching).reverse.dropWhile matching).reverse

structure Tight (matching : α → Bool) (text : List α) : Prop where
  head : ∀ item ∈ text.head?, matching item = false
  last : ∀ item ∈ text.getLast?, matching item = false

theorem Tight.reverse (tight : Tight matching text) : Tight matching text.reverse where
  head := by
    rw [List.head?_reverse]
    exact tight.last
  last := by
    rw [List.getLast?_reverse]
    exact tight.head

theorem dropWhile_of_head (stops : ∀ item ∈ text.head?, matching item = false) :
    text.dropWhile matching = text := by
  cases text with
  | nil => rfl
  | cons item rest => exact List.dropWhile_cons_of_neg (by simpa using stops item rfl)

theorem dropWhile_surplus (all : ∀ item ∈ leading, matching item = true)
    (stops : ∀ item ∈ text.head?, matching item = false) :
    (leading ++ text).dropWhile matching = text := by
  rw [List.dropWhile_append_of_pos all, dropWhile_of_head stops]

theorem head?_dropWhile (matching : α → Bool) (text : List α) :
    ∀ item ∈ (text.dropWhile matching).head?, matching item = false := by
  induction text with
  | nil => simp
  | cons item rest ih =>
    by_cases dropped : matching item = true
    · rw [List.dropWhile_cons_of_pos dropped]
      exact ih
    · rw [List.dropWhile_cons_of_neg dropped]
      simpa using dropped

theorem all_takeWhile (matching : α → Bool) (text : List α) :
    ∀ item ∈ text.takeWhile matching, matching item = true :=
  fun _ member => List.mem_takeWhile_imp member

theorem trim_between (matching : α → Bool) (text : List α) :
    ∃ leading trailing, text = leading ++ trim matching text ++ trailing ∧
      (∀ item ∈ leading, matching item = true) ∧ ∀ item ∈ trailing, matching item = true := by
  let opened := text.dropWhile matching
  refine ⟨text.takeWhile matching, (opened.reverse.takeWhile matching).reverse, ?_,
    all_takeWhile matching text, ?_⟩
  · have closed : trim matching text ++ (opened.reverse.takeWhile matching).reverse = opened := by
      have whole := congrArg List.reverse (List.takeWhile_append_dropWhile (p := matching) (l := opened.reverse))
      rwa [List.reverse_append, List.reverse_reverse] at whole
    rw [List.append_assoc, closed, List.takeWhile_append_dropWhile]
  · intro item member
    exact all_takeWhile matching _ item (List.mem_reverse.mp member)

theorem trim_surrounded (tight : Tight matching core) (nonempty : core ≠ [])
    (before : ∀ item ∈ leading, matching item = true)
    (after : ∀ item ∈ trailing, matching item = true) :
    trim matching (leading ++ core ++ trailing) = core := by
  unfold trim
  have opens : ∀ item ∈ (core ++ trailing).head?, matching item = false := by
    obtain ⟨first, rest, rfl⟩ := List.exists_cons_of_ne_nil nonempty
    exact tight.head
  rw [List.append_assoc, dropWhile_surplus before opens, List.reverse_append,
    dropWhile_surplus (fun item member => after item (List.mem_reverse.mp member)) tight.reverse.head,
    List.reverse_reverse]

theorem tight_between {left right : List α} (opening : Tight matching left) (leftSome : left ≠ [])
    (middle : List α) (closing : Tight matching right) (rightSome : right ≠ []) :
    Tight matching (left ++ middle ++ right) := by
  constructor
  · obtain ⟨first, rest, rfl⟩ := List.exists_cons_of_ne_nil leftSome
    exact opening.head
  · intro item last
    apply closing.last
    rw [List.getLast?_append, List.getLast?_eq_some_getLast rightSome] at last
    rw [List.getLast?_eq_some_getLast rightSome]
    exact last

theorem trim_all (all : ∀ item ∈ text, matching item = true) : trim matching text = [] := by
  unfold trim
  rw [List.dropWhile_eq_nil_iff.mpr all]
  rfl

theorem trim_of_tight (tight : Tight matching text) : trim matching text = text := by
  rw [trim, dropWhile_of_head tight.head, dropWhile_of_head tight.reverse.head, List.reverse_reverse]

theorem trim_tight (matching : α → Bool) (text : List α) : Tight matching (trim matching text) := by
  let opened := text.dropWhile matching
  refine ⟨?_, ?_⟩
  · -- The end is cut off last, so the first item is still that of the opened text.
    intro item first
    obtain ⟨rest, joined⟩ : trim matching text <+: opened := by
      simpa [trim] using List.reverse_prefix.mpr (List.dropWhile_suffix matching (l := opened.reverse))
    apply head?_dropWhile matching text
    rw [show text.dropWhile matching = trim matching text ++ rest from joined.symm,
      List.head?_append, first]
    rfl
  · intro item last
    rw [trim, List.getLast?_reverse] at last
    exact head?_dropWhile matching _ item last

theorem prefix_trim {rest : List α} (tight : Tight matching core) (nonempty : core ≠ []) :
    core <+: trim matching (core ++ rest) := by
  have opens : (core ++ rest).dropWhile matching = core ++ rest := by
    obtain ⟨first, others, rfl⟩ := List.exists_cons_of_ne_nil nonempty
    exact dropWhile_of_head tight.head
  rw [trim, opens, List.reverse_append, List.dropWhile_append, dropWhile_of_head tight.reverse.head]
  split
  next => simp
  next =>
    rw [List.reverse_append, List.reverse_reverse]
    exact List.prefix_append ..

theorem trim_eq_nil_iff : trim matching text = [] ↔ ∀ item ∈ text, matching item = true := by
  refine ⟨fun empty => ?_, trim_all⟩
  obtain ⟨leading, trailing, joined, before, after⟩ := trim_between matching text
  rw [empty] at joined
  intro item member
  rw [joined] at member
  simp only [List.append_nil, List.mem_append] at member
  exact member.elim (before item) (after item)

end Trimming
