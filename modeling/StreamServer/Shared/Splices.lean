import Mathlib.Algebra.Ring.Nat
import Mathlib.Data.List.Basic
import Mathlib.Data.List.Infix

set_option autoImplicit false

namespace Splitting

variable {α : Type} [DecidableEq α] {separator : α} {text left right : List α}

theorem splitOn_mem (member : separator ∈ text) :
    ∃ left right, text = left ++ separator :: right ∧ separator ∉ left ∧
      text.splitOn separator = left :: right.splitOn separator := by
  obtain ⟨left, right, rfl, absent⟩ := List.eq_append_cons_of_mem member
  exact ⟨left, right, rfl, absent, List.splitOn_append_cons_self_of_not_mem absent right⟩

theorem splitOn_eq_singleton_iff {part : List α} :
    text.splitOn separator = [part] ↔ separator ∉ text ∧ text = part := by
  constructor
  · intro parts
    have absent : separator ∉ text := by
      intro member
      obtain ⟨left, right, rfl, _, split⟩ := splitOn_mem member
      rw [split, List.cons.injEq] at parts
      exact List.splitOn_ne_nil separator right parts.2
    rw [List.splitOn_eq_singleton absent, List.singleton_inj] at parts
    exact ⟨absent, parts⟩
  · rintro ⟨absent, rfl⟩
    exact List.splitOn_eq_singleton absent

theorem splitOn_eq_pair_iff : text.splitOn separator = [left, right] ↔
    text = left ++ separator :: right ∧ separator ∉ left ∧ separator ∉ right := by
  constructor
  · intro parts
    by_cases member : separator ∈ text
    · obtain ⟨first, rest, rfl, absent, split⟩ := splitOn_mem member
      rw [split, List.cons.injEq, splitOn_eq_singleton_iff] at parts
      obtain ⟨rfl, restAbsent, rfl⟩ := parts
      exact ⟨rfl, absent, restAbsent⟩
    · rw [List.splitOn_eq_singleton member] at parts
      cases parts
  · rintro ⟨rfl, leftAbsent, rightAbsent⟩
    rw [List.splitOn_append_cons_self_of_not_mem leftAbsent, List.splitOn_eq_singleton rightAbsent]

end Splitting

-- Marks set between texts, and where a pattern occurs in the whole.
namespace Splices

variable {α : Type}

def splice (first : List α) : List (List α) → List (List α) → List α
  | mark :: marks, text :: texts => first ++ (mark ++ splice text marks texts)
  | _, _ => first

section Infixes

variable {pattern left right : List α} {cut : α}

theorem infix_cut_iff (apart : cut ∉ pattern) :
    pattern <:+: left ++ cut :: right ↔ pattern <:+: left ∨ pattern <:+: right := by
  constructor
  · rintro ⟨before, after, same⟩
    rw [List.append_assoc] at same
    obtain ⟨rest, rfl, there⟩ | ⟨rest, rfl, there⟩ := List.append_eq_append_iff.mp same
    · -- The pattern starts before the cut.
      obtain ⟨more, rfl, _⟩ | ⟨more, rfl, tail⟩ := List.append_eq_append_iff.mp there
      · exact .inl ⟨before, more, by simp⟩
      · cases more with
        | nil => exact .inl ⟨before, [], by simp⟩
        | cons head more =>
          cases tail
          exact absurd (by simp) apart
    · cases rest with
      | nil =>
        cases pattern with
        | nil => exact .inl (List.nil_infix)
        | cons head pattern =>
          cases there
          exact absurd List.mem_cons_self apart
      | cons head rest =>
        cases there
        exact .inr ⟨rest, after, by simp⟩
  · rintro (inside | inside)
    · exact inside.trans (List.prefix_append ..).isInfix
    · exact inside.trans ((List.suffix_cons ..).trans (List.suffix_append ..)).isInfix

-- A mark that a pattern does not reach into.
theorem not_infix_splice {opening closing : α} (noOpening : opening ∉ pattern)
    (noClosing : closing ∉ pattern) {marks texts : List (List α)} {first : List α}
    (outside : ¬ pattern <:+: first) (texts_outside : ∀ text ∈ texts, ¬ pattern <:+: text)
    (enclosed : ∀ mark ∈ marks, ¬ pattern <:+: mark ∧
      ∃ inner, mark = opening :: (inner ++ [closing])) :
    ¬ pattern <:+: splice first marks texts := by
  induction marks generalizing first texts with
  | nil => exact outside
  | cons mark marks ih =>
    cases texts with
    | nil => exact outside
    | cons text texts =>
      obtain ⟨notIn, inner, rfl⟩ := enclosed mark List.mem_cons_self
      have later := ih (texts_outside text List.mem_cons_self)
        (fun other member => texts_outside other (List.mem_cons_of_mem _ member))
        (fun other member => enclosed other (List.mem_cons_of_mem _ member))
      rw [splice, List.cons_append, List.append_assoc, List.singleton_append, infix_cut_iff noOpening,
        infix_cut_iff noClosing]
      rintro (inFirst | inInner | inRest)
      · exact outside inFirst
      · exact notIn (inInner.trans ((List.prefix_append ..).isInfix.trans
          (List.suffix_cons ..).isInfix))
      · exact later inRest

end Infixes

section Counts

variable [DecidableEq α] {pattern left right : List α}

def occurrences (pattern : List α) : List α → Nat
  | [] => 0
  | head :: rest => (if pattern <+: head :: rest then 1 else 0) + occurrences pattern rest

theorem occurrences_pos_iff (nonempty : pattern ≠ []) {text : List α} :
    0 < occurrences pattern text ↔ pattern <:+: text := by
  induction text with
  | nil => simp [occurrences, nonempty]
  | cons head rest ih =>
    rw [occurrences, List.infix_cons_iff, ← ih]
    split
    next starts =>
      simp only [starts, true_or, iff_true]
      omega
    next other => simp [other]

theorem occurrences_add_le (pattern left right : List α) :
    occurrences pattern left + occurrences pattern right ≤ occurrences pattern (left ++ right) := by
  induction left with
  | nil => simp [occurrences]
  | cons head rest ih =>
    have starts : pattern <+: head :: rest → pattern <+: head :: (rest ++ right) :=
      fun prefixed => prefixed.trans (List.prefix_append (head :: rest) right)
    rw [List.cons_append, occurrences, occurrences]
    split
    next prefixed =>
      rw [if_pos (starts prefixed)]
      omega
    next => omega

theorem occurrences_append_le (left : List α) :
    occurrences pattern right ≤ occurrences pattern (left ++ right) :=
  (Nat.le_add_left ..).trans (occurrences_add_le pattern left right)

theorem not_prefix_of_le {first rest : List α}
    (counted : occurrences pattern (first ++ rest) ≤ occurrences pattern rest) {before after : List α}
    (split : first = before ++ after) (some : after ≠ []) : ¬ pattern <+: after ++ rest := by
  intro prefixed
  obtain ⟨head, after, rfl⟩ := List.exists_cons_of_ne_nil some
  have later : occurrences pattern rest ≤ occurrences pattern (after ++ rest) := occurrences_append_le after
  have here : occurrences pattern (head :: after ++ rest) = 1 + occurrences pattern (after ++ rest) := by
    rw [List.cons_append] at prefixed ⊢
    rw [occurrences, if_pos prefixed]
  have all : occurrences pattern (head :: after ++ rest) ≤ occurrences pattern (first ++ rest) := by
    rw [split, List.append_assoc]
    exact occurrences_append_le before
  omega

theorem count_add_le_splice (nonempty : pattern ≠ []) (first : List α) (marks texts : List (List α))
    (sameLength : texts.length = marks.length) :
    marks.count pattern + occurrences pattern first + (texts.map (occurrences pattern)).sum ≤
      occurrences pattern (splice first marks texts) := by
  induction marks generalizing first texts with
  | nil =>
    cases List.length_eq_zero_iff.mp sameLength
    simp [splice]
  | cons mark marks ih =>
    cases texts with
    | nil => cases sameLength
    | cons text texts =>
      have rest := ih text texts (Nat.succ.inj sameLength)
      have split := occurrences_add_le pattern first (mark ++ splice text marks texts)
      have splitMark := occurrences_add_le pattern mark (splice text marks texts)
      rw [splice, List.map_cons, List.sum_cons, List.count_cons]
      have one : (if mark == pattern then 1 else 0) ≤ occurrences pattern mark := by
        split
        next same =>
          rw [beq_iff_eq] at same
          exact (occurrences_pos_iff nonempty).mpr (same ▸ List.infix_refl _)
        next => exact Nat.zero_le _
      omega

theorem not_infix_texts (nonempty : pattern ≠ []) {first : List α} {marks texts : List (List α)}
    (sameLength : texts.length = marks.length)
    (counted : occurrences pattern (splice first marks texts) ≤ marks.count pattern) :
    ∀ text ∈ first :: texts, ¬ pattern <:+: text := by
  have parts := count_add_le_splice nonempty first marks texts sameLength
  have none : ((first :: texts).map (occurrences pattern)).sum = 0 := by
    rw [List.map_cons, List.sum_cons]
    omega
  intro text member inside
  have zero := List.sum_eq_zero_iff_forall_eq_nat.mp none _ (List.mem_map_of_mem member)
  exact Nat.ne_of_gt ((occurrences_pos_iff nonempty).mpr inside) zero

end Counts

end Splices
