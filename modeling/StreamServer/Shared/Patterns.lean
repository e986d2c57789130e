import Mathlib.Data.List.Infix

set_option autoImplicit false

-- Regular expressions with groups, matched from the left with the preferred way first.
namespace Patterns

variable {α : Type}

inductive Pattern (α : Type) where
  | empty
  | one (matching : α → Bool)
  -- As many as there are, rather than fewer.
  | many (matching : α → Bool)
  | optional (inner : Pattern α)
  | group (inner : Pattern α)
  | andThen (first second : Pattern α)

def Pattern.sequence (parts : List (Pattern α)) : Pattern α := parts.foldr .andThen .empty

def Pattern.literal [DecidableEq α] (items : List α) : Pattern α :=
  .sequence (items.map fun item => .one fun other => other = item)

def Pattern.exactly (count : Nat) (matching : α → Bool) : Pattern α :=
  .sequence (List.replicate count (.one matching))

def Pattern.some (matching : α → Bool) : Pattern α := .andThen (.one matching) (.many matching)

section Runs

def manyRests (matching : α → Bool) : List α → List (List α)
  | [] => [[]]
  | item :: rest =>
      if matching item then manyRests matching rest ++ [item :: rest] else [item :: rest]

/-- All ways to match a beginning of the text: what is in the groups, and what is left. -/
def run : Pattern α → List α → List (List (List α) × List α)
  | .empty, text => [([], text)]
  | .one _, [] => []
  | .one matching, item :: rest => if matching item then [([], rest)] else []
  | .many matching, text => (manyRests matching text).map fun rest => ([], rest)
  | .optional inner, text => run inner text ++ [([], text)]
  | .group inner, text =>
      (run inner text).map fun way => (text.take (text.length - way.2.length) :: way.1, way.2)
  | .andThen first second, text =>
      (run first text).flatMap fun way =>
        (run second way.2).map fun later => (way.1 ++ later.1, later.2)

def matchStart (pattern : Pattern α) (text : List α) : Option (List (List α)) :=
  (run pattern text).head?.map Prod.fst

def find (pattern : Pattern α) : List α → Option (List α × List (List α) × List α)
  | [] => (run pattern []).head?.map fun way => ([], way)
  | item :: text =>
      match (run pattern (item :: text)).head? with
      | some way => some ([], way)
      | none => (find pattern text).map fun found => (item :: found.1, found.2)

/-- The groups of all matches, one after the other; no match of the patterns in use is empty. -/
def allMatches (pattern : Pattern α) : Nat → List α → List (List (List α))
  | 0, _ => []
  | turns + 1, text =>
      match find pattern text with
      | some (_, groups, rest) => groups :: allMatches pattern turns rest
      | none => []

def removeMatches (pattern : Pattern α) : Nat → List α → List α
  | 0, text => text
  | turns + 1, text =>
      match find pattern text with
      | some (before, _, rest) => before ++ removeMatches pattern turns rest
      | none => text

theorem run_many_none {matching : α → Bool} {item : α} {text : List α} (stops : matching item = false) :
    run (.many matching) (item :: text) = [([], item :: text)] := by
  simp [run, manyRests, stops]

theorem run_many_one {matching : α → Bool} {item other : α} {text : List α} (goes : matching item = true)
    (stops : matching other = false) :
    run (.many matching) (item :: other :: text) =
      [([], other :: text), ([], item :: other :: text)] := by
  simp [run, manyRests, goes, stops]

theorem run_andThen_one {first second : Pattern α} {text rest : List α} {groups : List (List α)}
    (way : run first text = [(groups, rest)]) :
    run (.andThen first second) text =
      (run second rest).map fun later => (groups ++ later.1, later.2) := by
  rw [run, way, List.flatMap_singleton]

theorem run_andThen_none {first second : Pattern α} {text : List α} (none : run first text = []) :
    run (.andThen first second) text = [] := by
  rw [run, none, List.flatMap_nil]

end Runs

section Ways

variable {pattern : Pattern α} {text rest : List α} {groups : List (List α)}

/-- How a pattern comes to take a beginning of the text. -/
inductive Way : Pattern α → List α → List (List α) → List α → Prop where
  | empty {text : List α} : Way .empty text [] text
  | one {matching : α → Bool} {item : α} {text : List α} (matched : matching item = true) :
      Way (.one matching) (item :: text) [] text
  | many {matching : α → Bool} {taken rest : List α} (matched : ∀ item ∈ taken, matching item = true) :
      Way (.many matching) (taken ++ rest) [] rest
  | skipped {inner : Pattern α} {text : List α} : Way (.optional inner) text [] text
  | taken {inner : Pattern α} {text rest : List α} {groups : List (List α)}
      (way : Way inner text groups rest) : Way (.optional inner) text groups rest
  | group {inner : Pattern α} {text rest : List α} {groups : List (List α)}
      (way : Way inner text groups rest) :
      Way (.group inner) text (text.take (text.length - rest.length) :: groups) rest
  | andThen {first second : Pattern α} {text middle rest : List α} {early late : List (List α)}
      (firstWay : Way first text early middle) (secondWay : Way second middle late rest) :
      Way (.andThen first second) text (early ++ late) rest

theorem manyRests_taken {matching : α → Bool} (member : rest ∈ manyRests matching text) :
    ∃ taken, text = taken ++ rest ∧ ∀ item ∈ taken, matching item = true := by
  have whole : ∃ taken, text = taken ++ text ∧ ∀ item ∈ taken, matching item = true :=
    ⟨[], rfl, by simp⟩
  induction text with
  | nil => exact List.mem_singleton.mp member ▸ whole
  | cons item text ih =>
    rw [manyRests] at member
    split at member
    next matched =>
      rcases List.mem_append.mp member with later | here
      · obtain ⟨taken, rfl, each⟩ := ih later ⟨[], rfl, by simp⟩
        exact ⟨item :: taken, rfl, List.forall_mem_cons.mpr ⟨matched, each⟩⟩
      · exact List.mem_singleton.mp here ▸ whole
    next => exact List.mem_singleton.mp member ▸ whole

theorem way_of_run (found : (groups, rest) ∈ run pattern text) : Way pattern text groups rest := by
  induction pattern generalizing text groups rest with
  | empty =>
    cases List.mem_singleton.mp found
    exact .empty
  | one matching =>
    cases text with
    | nil => cases found
    | cons item text =>
      rw [run] at found
      split at found
      next matched =>
        cases List.mem_singleton.mp found
        exact .one matched
      next => cases found
  | many matching =>
    obtain ⟨left, member, same⟩ := List.mem_map.mp found
    cases same
    obtain ⟨taken, rfl, matched⟩ := manyRests_taken member
    exact .many matched
  | optional inner ih =>
    rcases List.mem_append.mp found with inside | outside
    · exact .taken (ih inside)
    · cases List.mem_singleton.mp outside
      exact .skipped
  | group inner ih =>
    obtain ⟨⟨innerGroups, left⟩, inside, same⟩ := List.mem_map.mp found
    cases same
    exact .group (ih inside)
  | andThen first second firstIh secondIh =>
    obtain ⟨⟨early, middle⟩, firstWay, more⟩ := List.mem_flatMap.mp found
    obtain ⟨⟨late, left⟩, secondWay, same⟩ := List.mem_map.mp more
    cases same
    exact .andThen (firstIh firstWay) (secondIh secondWay)

theorem Way.parts (way : Way pattern text groups rest) :
    rest <:+ text ∧ ∀ part ∈ groups, part <:+: text := by
  induction way with
  | empty => exact ⟨List.suffix_rfl, by simp⟩
  | one matched => exact ⟨List.suffix_cons .., by simp⟩
  | many matched => exact ⟨List.suffix_append .., by simp⟩
  | skipped => exact ⟨List.suffix_rfl, by simp⟩
  | taken way ih => exact ih
  | group way ih =>
    refine ⟨ih.1, List.forall_mem_cons.mpr ⟨?_, ih.2⟩⟩
    exact (List.take_prefix ..).isInfix
  | andThen firstWay secondWay firstIh secondIh =>
    refine ⟨secondIh.1.trans firstIh.1, List.forall_mem_append.mpr ⟨firstIh.2, fun part member => ?_⟩⟩
    exact (secondIh.2 part member).trans firstIh.1.isInfix

theorem find_way {before : List α} (found : find pattern text = some (before, groups, rest)) :
    ∃ tail, tail <:+ text ∧ Way pattern tail groups rest := by
  induction text generalizing before with
  | nil =>
    obtain ⟨way, first, same⟩ := Option.map_eq_some_iff.mp found
    cases same
    exact ⟨[], List.suffix_rfl, way_of_run (List.mem_of_head? first)⟩
  | cons item text ih =>
    rw [find] at found
    split at found
    next way first =>
      cases found
      exact ⟨item :: text, List.suffix_rfl, way_of_run (List.mem_of_head? first)⟩
    next =>
      obtain ⟨⟨earlier, later⟩, inside, same⟩ := Option.map_eq_some_iff.mp found
      cases same
      obtain ⟨tail, suffix, way⟩ := ih inside
      exact ⟨tail, suffix.trans (List.suffix_cons ..), way⟩

theorem find_parts {before : List α} (found : find pattern text = some (before, groups, rest)) :
    ∀ part ∈ groups, part <:+: text := by
  obtain ⟨tail, suffix, way⟩ := find_way found
  exact fun part member => (way.parts.2 part member).trans suffix.isInfix

end Ways

section Classes

variable {pattern : Pattern α} {allowed : α → Prop} {text rest : List α} {groups : List (List α)}

def Pattern.Within (allowed : α → Prop) : Pattern α → Prop
  | .empty => True
  | .one matching => ∀ item, matching item = true → allowed item
  | .many matching => ∀ item, matching item = true → allowed item
  | .optional inner => inner.Within allowed
  | .group inner => inner.Within allowed
  | .andThen first second => first.Within allowed ∧ second.Within allowed

def Pattern.GroupsWithin (allowed : α → Prop) : Pattern α → Prop
  | .empty => True
  | .one _ => True
  | .many _ => True
  | .optional inner => inner.GroupsWithin allowed
  | .group inner => inner.Within allowed ∧ inner.GroupsWithin allowed
  | .andThen first second => first.GroupsWithin allowed ∧ second.GroupsWithin allowed

theorem Way.within (way : Way pattern text groups rest) (within : pattern.Within allowed) :
    ∃ taken, text = taken ++ rest ∧ ∀ item ∈ taken, allowed item := by
  induction way with
  | empty => exact ⟨[], rfl, by simp⟩
  | @one matching item text matched => exact ⟨[item], rfl, by simpa using within item matched⟩
  | @many matching taken rest matched =>
    exact ⟨taken, rfl, fun item member => within item (matched item member)⟩
  | skipped => exact ⟨[], rfl, by simp⟩
  | taken way ih => exact ih within
  | group way ih => exact ih within
  | andThen firstWay secondWay firstIh secondIh =>
    obtain ⟨firstTaken, rfl, firstEach⟩ := firstIh within.1
    obtain ⟨secondTaken, rfl, secondEach⟩ := secondIh within.2
    exact ⟨firstTaken ++ secondTaken, (List.append_assoc ..).symm,
      List.forall_mem_append.mpr ⟨firstEach, secondEach⟩⟩

theorem Way.groups_within (way : Way pattern text groups rest) (within : pattern.GroupsWithin allowed) :
    ∀ part ∈ groups, ∀ item ∈ part, allowed item := by
  induction way with
  | empty => exact List.forall_mem_nil _
  | one matched => exact List.forall_mem_nil _
  | many matched => exact List.forall_mem_nil _
  | skipped => exact List.forall_mem_nil _
  | taken way ih => exact ih within
  | group way ih =>
    refine List.forall_mem_cons.mpr ⟨?_, ih within.2⟩
    obtain ⟨taken, rfl, each⟩ := way.within within.1
    simpa using each
  | andThen firstWay secondWay firstIh secondIh =>
    exact List.forall_mem_append.mpr ⟨firstIh within.1, secondIh within.2⟩

theorem find_groups_within {before : List α} (within : pattern.GroupsWithin allowed)
    (found : find pattern text = some (before, groups, rest)) :
    ∀ part ∈ groups, ∀ item ∈ part, allowed item := by
  obtain ⟨tail, _, way⟩ := find_way found
  exact way.groups_within within

end Classes

end Patterns
