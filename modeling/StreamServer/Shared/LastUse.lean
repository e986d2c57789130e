import Mathlib.Algebra.Ring.Nat
import Mathlib.Data.List.AList
import Mathlib.Data.List.Dedup

set_option autoImplicit false

-- Keyed values with a weight each, and their keys in the order of their last use.
namespace LastUse

variable {K V : Type} [DecidableEq K]

/-- The queue lists the keys that have a value, the one that was used least recently first. -/
structure Lists (uses : List K) (values : AList fun _ : K => V) (queue : List K) : Prop where
  ordered : queue = uses.dedup.filter fun key => (values.lookup key).isSome
  used : ∀ key, (values.lookup key).isSome → key ∈ uses

def total (weight : V → Nat) (values : AList fun _ : K => V) : Nat :=
  (values.entries.map fun entry => weight entry.2).sum

section Queue

variable {uses queue : List K} {values : AList fun _ : K => V} {key : K} {value : V}

theorem dedup_concat (uses : List K) (key : K) :
    (uses ++ [key]).dedup = (uses.dedup.filter fun other => other ≠ key) ++ [key] := by
  induction uses with
  | nil => rfl
  | cons first rest ih =>
    by_cases again : first ∈ rest
    · rw [List.dedup_cons_of_mem again, List.cons_append,
        List.dedup_cons_of_mem (List.mem_append_left _ again), ih]
    rw [List.dedup_cons_of_notMem again, List.cons_append]
    by_cases same : first = key
    · subst same
      rw [List.dedup_cons_of_mem (by simp), ih, List.filter_cons_of_neg (by simp)]
    · rw [List.dedup_cons_of_notMem (by simp [again, same]), ih,
        List.filter_cons_of_pos (by simp [same]), List.cons_append]

theorem Lists.nodup (lists : Lists uses values queue) : queue.Nodup := by
  rw [lists.ordered]
  exact (List.nodup_dedup uses).filter _

theorem Lists.mem_iff (lists : Lists uses values queue) : key ∈ queue ↔ key ∈ values := by
  rw [lists.ordered, List.mem_filter, List.mem_dedup, AList.lookup_isSome]
  exact ⟨fun both => both.2, fun present => ⟨lists.used key (AList.lookup_isSome.mpr present), present⟩⟩

theorem lists_empty : Lists [] (∅ : AList fun _ : K => V) [] where
  ordered := rfl
  used := by simp

theorem Lists.touched (lists : Lists uses values queue) (present : (values.lookup key).isSome) :
    Lists (uses ++ [key]) values ((queue.filter fun other => other ≠ key) ++ [key]) where
  ordered := by
    rw [dedup_concat, List.filter_append, lists.ordered, List.filter_filter, List.filter_filter]
    congr 1
    · refine List.filter_congr fun other _ => ?_
      exact Bool.and_comm ..
    · simp [present]
  used other found := List.mem_append_left _ (lists.used other found)

theorem Lists.added (lists : Lists uses values queue) (absent : key ∉ values) (value : V) :
    Lists (uses ++ [key]) (values.insert key value) (queue ++ [key]) where
  ordered := by
    rw [dedup_concat, List.filter_append, lists.ordered, List.filter_filter]
    congr 1
    · refine List.filter_congr fun other _ => ?_
      by_cases same : other = key
      · subst same
        rw [← AList.lookup_isSome, Bool.not_eq_true] at absent
        simp [absent]
      · simp [AList.lookup_insert_ne same, same]
    · simp
  used other found := by
    by_cases same : other = key
    · simp [same]
    · rw [AList.lookup_insert_ne same] at found
      exact List.mem_append_left _ (lists.used other found)

theorem Lists.erased (lists : Lists uses values queue) (key : K) :
    Lists uses (values.erase key) (queue.filter fun other => other ≠ key) where
  ordered := by
    rw [lists.ordered, List.filter_filter]
    refine List.filter_congr fun other _ => ?_
    by_cases same : other = key
    · subst same
      simp
    · simp [AList.lookup_erase_ne same, same]
  used other found := by
    by_cases same : other = key
    · subst same
      simp at found
    · rw [AList.lookup_erase_ne same] at found
      exact lists.used other found

theorem erase_absent (absent : values.lookup key = none) : values.erase key = values :=
  AList.ext (List.kerase_of_notMem_keys (AList.lookup_eq_none.mp absent))

end Queue

section Weights

variable {values : AList fun _ : K => V} {key : K} {value : V}

theorem total_insert (weight : V → Nat) (absent : key ∉ values) (value : V) :
    total weight (values.insert key value) = weight value + total weight values := by
  unfold total
  rw [AList.entries_insert_of_notMem absent, List.map_cons, List.sum_cons]

theorem total_erase (weight : V → Nat) (found : values.lookup key = some value) :
    total weight (values.erase key) + weight value = total weight values := by
  have present : key ∈ values.entries.keys :=
    AList.lookup_isSome.mp (Option.isSome_iff_exists.mpr ⟨value, found⟩)
  obtain ⟨other, before, after, _, split, erased⟩ := List.exists_of_kerase present
  have listed : (⟨key, other⟩ : Sigma fun _ : K => V) ∈ values.entries := by simp [split]
  have same : value = other :=
    Option.some.inj (found.symm.trans (List.mem_dlookup values.nodupKeys listed))
  have rest : (values.erase key).entries = before ++ after := erased
  unfold total
  rw [rest, split, same]
  simp only [List.map_append, List.map_cons, List.sum_append, List.sum_cons]
  omega

theorem size_insert (absent : key ∉ values) (value : V) :
    (values.insert key value).entries.length = values.entries.length + 1 := by
  rw [AList.entries_insert_of_notMem absent, List.length_cons]

theorem size_erase_le (values : AList fun _ : K => V) (key : K) :
    (values.erase key).entries.length ≤ values.entries.length :=
  (List.kerase_sublist key values.entries).length_le

end Weights

end LastUse
