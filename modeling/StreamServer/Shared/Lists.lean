import Mathlib.Algebra.GroupWithZero.Nat
import Mathlib.Data.List.Basic
import Mathlib.Data.List.Sort

set_option autoImplicit false

namespace Lists

variable {α : Type} {list : List α} {index : Nat} {value old other : α}

theorem mem_set_of_ne (present : list[index]? = some old) (different : value ≠ old)
    (member : value ∈ list) : value ∈ list.set index other := by
  obtain ⟨place, atPlace⟩ := List.mem_iff_getElem?.mp member
  refine List.mem_iff_getElem?.mpr ⟨place, ?_⟩
  rw [List.getElem?_set_ne, atPlace]
  rintro rfl
  rw [present] at atPlace
  exact different (Option.some.inj atPlace).symm

theorem mem_of_mem_set_ne (member : value ∈ list.set index other) (different : value ≠ other) :
    value ∈ list :=
  (List.mem_or_eq_of_mem_set member).resolve_right different

theorem mem_set_self (present : list[index]? = some old) : other ∈ list.set index other :=
  List.mem_set (List.getElem?_eq_some_iff.mp present).1 other

theorem countP_set_add (counted : α → Bool) (present : list[index]? = some old) (other : α) :
    (list.set index other).countP counted + (counted old).toNat =
      list.countP counted + (counted other).toNat := by
  obtain ⟨inside, rfl⟩ := List.getElem?_eq_some_iff.mp present
  have enough : counted list[index] = true → 0 < list.countP counted := fun holds =>
    List.countP_pos_iff.mpr ⟨list[index], List.getElem_mem inside, holds⟩
  rw [List.countP_set inside]
  cases before : counted list[index] with
  | false => cases counted other <;> simp
  | true =>
    have positive := enough before
    cases counted other <;> simp <;> omega

theorem countP_append_singleton (counted : α → Bool) (list : List α) (value : α) :
    (list ++ [value]).countP counted = list.countP counted + (counted value).toNat := by
  rw [List.countP_append, List.countP_singleton]
  cases counted value <;> rfl

theorem getElem?_append_cases {place : Nat} (found : (list ++ [other])[place]? = some value) :
    list[place]? = some value ∨ place = list.length ∧ value = other := by
  rcases Nat.lt_or_ge place list.length with inside | outside
  · rw [List.getElem?_append_left inside] at found
    exact .inl found
  · rw [List.getElem?_append_right outside] at found
    obtain ⟨inside, rfl⟩ := List.getElem?_eq_some_iff.mp found
    rw [List.length_singleton] at inside
    exact .inr ⟨by omega, by simp⟩

theorem getElem?_set_cases {place : Nat} (found : (list.set index other)[place]? = some value) :
    place ≠ index ∧ list[place]? = some value ∨ place = index ∧ value = other := by
  by_cases same : place = index
  · subst same
    rw [List.getElem?_set_self'] at found
    obtain ⟨_, _, rfl⟩ := Option.map_eq_some_iff.mp found
    exact .inr ⟨rfl, rfl⟩
  · rw [List.getElem?_set_ne (Ne.symm same)] at found
    exact .inl ⟨same, found⟩

theorem le_sum_map (weight : α → Nat) (found : list[index]? = some value) :
    weight value ≤ (list.map weight).sum := by
  induction list generalizing index with
  | nil => cases found
  | cons head tail ih =>
    rw [List.map_cons, List.sum_cons]
    cases index with
    | zero =>
      cases found
      exact Nat.le_add_right ..
    | succ index => exact Nat.le_add_left_of_le (ih found)

theorem add_le_sum_map (weight : α → Nat) {first second : Nat} (apart : first ≠ second)
    (atFirst : list[first]? = some value) (atSecond : list[second]? = some other) :
    weight value + weight other ≤ (list.map weight).sum := by
  induction list generalizing first second with
  | nil => cases atFirst
  | cons head tail ih =>
    rw [List.map_cons, List.sum_cons]
    cases first with
    | zero =>
      cases second with
      | zero => exact absurd rfl apart
      | succ second =>
        cases atFirst
        have bound : weight other ≤ (tail.map weight).sum := le_sum_map weight atSecond
        omega
    | succ first =>
      cases second with
      | zero =>
        cases atSecond
        have bound : weight value ≤ (tail.map weight).sum := le_sum_map weight atFirst
        omega
      | succ second =>
        have rest := ih (fun same => apart (congrArg Nat.succ same)) atFirst atSecond
        omega

theorem countP_le_places (counted : α → Bool) (list : List α) (places : List Nat)
    (covers : ∀ (place : Nat) (item : α), list[place]? = some item → counted item = true →
      place ∈ places) : list.countP counted ≤ places.length := by
  induction list generalizing places with
  | nil => exact Nat.zero_le _
  | cons head tail ih =>
    have later := ih ((places.filter (· ≠ 0)).map Nat.pred) fun place item found holds => by
      have covered := covers (place + 1) item found holds
      exact List.mem_map.mpr ⟨place + 1,
        List.mem_filter.mpr ⟨covered, decide_eq_true (Nat.succ_ne_zero _)⟩, rfl⟩
    rw [List.length_map] at later
    rw [List.countP_cons]
    split
    next holds =>
      have first := covers 0 head rfl holds
      have fewer : (places.filter (· ≠ 0)).length < places.length :=
        List.length_filter_lt_length_iff_exists.mpr ⟨0, first, by simp⟩
      omega
    next =>
      have fewer := List.length_filter_le (fun place => decide (place ≠ 0)) places
      omega

section Splitting

variable {β : Type} [BEq α]

theorem splitOn_map [LawfulBEq α] [BEq β] [LawfulBEq β] {f : α → β} {separator : α} {mark : β}
    (marks : ∀ item, f item = mark ↔ item = separator) (list : List α) :
    (list.map f).splitOn mark = (list.splitOn separator).map (List.map f) := by
  induction list with
  | nil => simp
  | cons head tail ih =>
    rw [List.map_cons, List.splitOn_cons_eq_if_modifyHead, List.splitOn_cons_eq_if_modifyHead, ih]
    by_cases here : head = separator
    next => simp [here, (marks separator).mpr rfl]
    next =>
      have apart : f head ≠ mark := fun same => here ((marks head).mp same)
      cases split : tail.splitOn separator with
      | nil => exact absurd split (List.splitOn_ne_nil _ _)
      | cons part rest => simp [here, apart]

theorem mem_of_mem_splitOn {separator item : α} {part : List α} {list : List α}
    (isPart : part ∈ list.splitOn separator) (member : item ∈ part) : item ∈ list := by
  induction list generalizing part with
  | nil =>
    rw [List.splitOn_nil, List.mem_singleton] at isPart
    exact isPart ▸ member
  | cons head tail ih =>
    rw [List.splitOn_cons_eq_if_modifyHead] at isPart
    split at isPart
    next =>
      obtain rfl | isPart := List.mem_cons.mp isPart
      · cases member
      · exact List.mem_cons_of_mem _ (ih isPart member)
    next =>
      cases split : tail.splitOn separator with
      | nil => exact absurd split (List.splitOn_ne_nil _ _)
      | cons first rest =>
        rw [split, List.modifyHead_cons] at isPart
        obtain rfl | later := List.mem_cons.mp isPart
        · obtain rfl | behind := List.mem_cons.mp member
          · exact List.mem_cons_self
          · exact List.mem_cons_of_mem _ (ih (split ▸ List.mem_cons_self) behind)
        · exact List.mem_cons_of_mem _ (ih (split ▸ List.mem_cons_of_mem _ later) member)

theorem mem_part_of_mem [LawfulBEq α] {separator item : α} {list : List α} (member : item ∈ list)
    (different : item ≠ separator) : ∃ part ∈ list.splitOn separator, item ∈ part := by
  induction list with
  | nil => cases member
  | cons head tail ih =>
    rw [List.splitOn_cons_eq_if_modifyHead]
    split
    next same =>
      obtain rfl | later := List.mem_cons.mp member
      · exact absurd (beq_iff_eq.mp same) different
      · obtain ⟨part, isPart, inside⟩ := ih later
        exact ⟨part, List.mem_cons_of_mem _ isPart, inside⟩
    next =>
      cases split : tail.splitOn separator with
      | nil => exact absurd split (List.splitOn_ne_nil _ _)
      | cons first rest =>
        rw [List.modifyHead_cons]
        obtain rfl | later := List.mem_cons.mp member
        · exact ⟨_, List.mem_cons_self, List.mem_cons_self⟩
        · obtain ⟨part, isPart, inside⟩ := ih later
          rw [split] at isPart
          obtain rfl | isPart := List.mem_cons.mp isPart
          · exact ⟨_, List.mem_cons_self, List.mem_cons_of_mem _ inside⟩
          · exact ⟨part, List.mem_cons_of_mem _ isPart, inside⟩

end Splitting

end Lists

namespace SortDedup

variable {A K : Type} [LinearOrder K]

def sortBy (key : A → K) (values : List A) : List A :=
  values.insertionSort fun left right => key left ≤ key right

/-- Only neighbours are compared, so duplicates go away entirely once the list is sorted. -/
def dedupAdjacent [DecidableEq A] : List A → List A
  | [] => []
  | [value] => [value]
  | first :: second :: rest =>
      if first = second then dedupAdjacent (second :: rest)
      else first :: dedupAdjacent (second :: rest)

def sortDedup [DecidableEq A] (key : A → K) (values : List A) : List A :=
  dedupAdjacent (sortBy key values)

@[simp] theorem mem_sortBy (key : A → K) (values : List A) (value : A) :
    value ∈ sortBy key values ↔ value ∈ values :=
  List.mem_insertionSort _

theorem sortBy_pairwise (key : A → K) (values : List A) :
    (sortBy key values).Pairwise fun left right => key left ≤ key right := by
  have total : Std.Total fun left right : A => key left ≤ key right :=
    ⟨fun left right => le_total (key left) (key right)⟩
  have transitive : IsTrans A fun left right : A => key left ≤ key right :=
    ⟨fun _ _ _ first second => le_trans first second⟩
  exact List.pairwise_insertionSort _ values

@[simp] theorem mem_dedupAdjacent [DecidableEq A] (values : List A) (value : A) :
    value ∈ dedupAdjacent values ↔ value ∈ values := by
  fun_induction dedupAdjacent values with
  | case1 => simp
  | case2 => simp
  | case3 second rest ih => simp [ih]
  | case4 first second rest different ih => simp [ih]

theorem dedupAdjacent_nodup [DecidableEq A] (key : A → K) (injective : Function.Injective key)
    (values : List A) (sorted : values.Pairwise fun left right => key left ≤ key right) :
    (dedupAdjacent values).Nodup := by
  fun_induction dedupAdjacent values with
  | case1 => exact List.nodup_nil
  | case2 value => exact List.nodup_singleton value
  | case3 second rest ih => exact ih sorted.of_cons
  | case4 first second rest different ih =>
    refine List.nodup_cons.mpr ⟨fun member => ?_, ih sorted.of_cons⟩
    rw [mem_dedupAdjacent] at member
    obtain ⟨below, sortedRest⟩ := List.pairwise_cons.mp sorted
    -- `first` again later in a sorted list forces every element between to be equal to it.
    have after : key second ≤ key first := by
      rcases List.mem_cons.mp member with rfl | member
      · exact absurd rfl different
      · exact (List.pairwise_cons.mp sortedRest).1 first member
    exact different (injective (le_antisymm (below second (by simp)) after))

@[simp] theorem mem_sortDedup [DecidableEq A] (key : A → K) (values : List A) (value : A) :
    value ∈ sortDedup key values ↔ value ∈ values := by
  simp [sortDedup]

theorem sortDedup_nodup [DecidableEq A] (key : A → K) (injective : Function.Injective key)
    (values : List A) : (sortDedup key values).Nodup :=
  dedupAdjacent_nodup key injective _ (sortBy_pairwise key values)

theorem sortDedup_eq_nil [DecidableEq A] (key : A → K) (values : List A) :
    sortDedup key values = [] ↔ values = [] := by
  simp [List.eq_nil_iff_forall_not_mem]

theorem dedupAdjacent_sublist [DecidableEq A] (values : List A) :
    (dedupAdjacent values).Sublist values := by
  fun_induction dedupAdjacent values with
  | case1 => exact List.Sublist.refl _
  | case2 => exact List.Sublist.refl _
  | case3 second rest ih => exact ih.cons second
  | case4 first second rest different ih => exact ih.cons_cons first

theorem sortDedup_congr [DecidableEq A] (key : A → K) (injective : Function.Injective key)
    (left right : List A) (same : ∀ value, value ∈ left ↔ value ∈ right) :
    sortDedup key left = sortDedup key right := by
  have sorted (values : List A) :
      (sortDedup key values).Pairwise fun left right => key left ≤ key right :=
    (sortBy_pairwise key values).sublist (dedupAdjacent_sublist _)
  have perm : (sortDedup key left).Perm (sortDedup key right) := by
    refine (List.perm_ext_iff_of_nodup (sortDedup_nodup key injective left)
      (sortDedup_nodup key injective right)).mpr fun value => ?_
    rw [mem_sortDedup, mem_sortDedup, same]
  exact perm.eq_of_pairwise (fun _ _ _ _ below above => injective (le_antisymm below above))
    (sorted left) (sorted right)

end SortDedup
