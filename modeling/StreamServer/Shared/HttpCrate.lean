import StreamServer.Shared.ByteText

set_option autoImplicit false

/-- A name's values are entries of their own. What only `insert` has filled has distinct names. -/
abbrev HeaderMap := List (Bytes × Bytes)

namespace HeaderMap

def get (headers : HeaderMap) (name : Bytes) : Option Bytes := headers.lookup name

def insert (headers : HeaderMap) (name value : Bytes) : HeaderMap :=
  if name ∈ headers.map Prod.fst then
    headers.map fun entry => if entry.1 = name then (name, value) else entry
  else headers ++ [(name, value)]

def remove (headers : HeaderMap) (name : Bytes) : HeaderMap :=
  headers.filter fun entry => entry.1 ≠ name

def DistinctNames (headers : HeaderMap) : Prop := (headers.map Prod.fst).Nodup

instance (headers : HeaderMap) : Decidable headers.DistinctNames :=
  inferInstanceAs (Decidable (headers.map Prod.fst).Nodup)

theorem insert_of_notMem {headers : HeaderMap} {name : Bytes} (absent : name ∉ headers.map Prod.fst)
    (value : Bytes) : headers.insert name value = headers ++ [(name, value)] := if_neg absent

theorem mem_insert {headers : HeaderMap} {name value : Bytes} {entry : Bytes × Bytes}
    (member : entry ∈ headers.insert name value) : entry ∈ headers ∨ entry = (name, value) := by
  unfold insert at member
  split at member
  next =>
    obtain ⟨earlier, present, same⟩ := List.mem_map.mp member
    split at same
    next => exact .inr same.symm
    next => exact .inl (same ▸ present)
  next => simpa using member

theorem insert_distinctNames {headers : HeaderMap} (distinct : headers.DistinctNames)
    (name value : Bytes) : (headers.insert name value).DistinctNames := by
  unfold insert
  split
  next =>
    have names : (headers.map fun entry => if entry.1 = name then (name, value) else entry).map
        Prod.fst = headers.map Prod.fst := by
      rw [List.map_map]
      apply List.map_congr_left
      intro entry _
      by_cases same : entry.1 = name
      · simp [same]
      · simp [same]
    unfold DistinctNames
    rwa [names]
  next absent =>
    unfold DistinctNames
    rw [List.map_append, List.nodup_append]
    refine ⟨distinct, by simp, ?_⟩
    rintro earlier member later last rfl
    have same : earlier = name := by simpa using last
    rw [same] at member
    exact absent member

theorem insert_of_distinctNames {headers rest : HeaderMap} {name value : Bytes}
    (distinct : (headers ++ (name, value) :: rest).DistinctNames) :
    headers.insert name value = headers ++ [(name, value)] := by
  apply insert_of_notMem
  intro member
  unfold DistinctNames at distinct
  rw [List.map_append, List.nodup_append] at distinct
  exact distinct.2.2 name member name (by simp) rfl

theorem get_insert_of_ne {name other : Bytes} (distinct : other ≠ name) (headers : HeaderMap)
    (value : Bytes) : (headers.insert name value).get other = headers.get other := by
  have missed : (other == name) = false := by simpa using distinct
  unfold insert get
  split
  next present =>
    clear present
    induction headers with
    | nil => rfl
    | cons entry rest ih =>
      obtain ⟨key, held⟩ := entry
      by_cases same : key = name
      · simp only [List.map_cons, same, if_true, List.lookup_cons, missed]
        exact ih
      · simp only [List.map_cons, same, if_false, List.lookup_cons]
        rw [ih]
  next => simp [List.lookup_append, List.lookup_cons, missed]

theorem get_remove (headers : HeaderMap) (name : Bytes) : (headers.remove name).get name = none := by
  unfold get
  rw [List.lookup_eq_none_iff]
  intro entry member
  have kept := (List.mem_filter.mp member).2
  simpa using Ne.symm (of_decide_eq_true kept)

theorem remove_again (headers : HeaderMap) (name : Bytes) :
    (headers.remove name).remove name = headers.remove name := by
  simp [remove]

section Values

def getAll (headers : HeaderMap) (name : Bytes) : List Bytes :=
  (headers.filter fun entry => entry.1 = name).map Prod.snd

-- `insert` where a name may have several values so far.
def put (headers : HeaderMap) (name value : Bytes) : HeaderMap :=
  headers.remove name ++ [(name, value)]

def putAll (headers entries : HeaderMap) : HeaderMap :=
  entries.foldl (fun headers entry => headers.put entry.1 entry.2) headers

variable {headers entries : HeaderMap} {name other value : Bytes} {entry : Bytes × Bytes}

theorem mem_insert_self (headers : HeaderMap) (name value : Bytes) :
    (name, value) ∈ headers.insert name value := by
  unfold insert
  split
  next present =>
    obtain ⟨earlier, member, same⟩ := List.mem_map.mp present
    exact List.mem_map.mpr ⟨earlier, member, if_pos same⟩
  next => simp

theorem mem_getAll : value ∈ headers.getAll name ↔ (name, value) ∈ headers := by
  simp [getAll]

@[simp]
theorem getAll_append (first second : HeaderMap) (name : Bytes) :
    getAll (first ++ second) name = first.getAll name ++ second.getAll name := by
  simp [getAll]

theorem getAll_of_notMem (absent : name ∉ headers.map Prod.fst) : headers.getAll name = [] := by
  unfold getAll
  rw [List.map_eq_nil_iff, List.filter_eq_nil_iff]
  intro entry member same
  apply absent
  rw [← of_decide_eq_true same]
  exact List.mem_map_of_mem member

theorem getAll_remove (headers : HeaderMap) (name : Bytes) :
    (headers.remove name).getAll name = [] := by
  simp [getAll, remove, List.filter_filter]

theorem getAll_remove_of_ne (distinct : other ≠ name) (headers : HeaderMap) :
    (headers.remove name).getAll other = headers.getAll other := by
  unfold getAll remove
  rw [List.filter_filter]
  congr 1
  apply List.filter_congr
  intro entry _
  by_cases same : entry.1 = other
  · simp [same, distinct]
  · simp [same]

@[simp]
theorem getAll_put (headers : HeaderMap) (name value : Bytes) :
    (headers.put name value).getAll name = [value] := by
  rw [put, getAll_append, getAll_remove]
  simp [getAll]

theorem getAll_put_of_ne (distinct : other ≠ name) (headers : HeaderMap) (value : Bytes) :
    (headers.put name value).getAll other = headers.getAll other := by
  rw [put, getAll_append, getAll_remove_of_ne distinct]
  simp [getAll, Ne.symm distinct]

theorem mem_put (member : entry ∈ headers.put name value) :
    entry ∈ headers ∨ entry = (name, value) := by
  rcases List.mem_append.mp member with kept | added
  · exact .inl (List.mem_of_mem_filter kept)
  · exact .inr (List.mem_singleton.mp added)

theorem putAll_cons (headers : HeaderMap) (entry : Bytes × Bytes) (entries : HeaderMap) :
    headers.putAll (entry :: entries) = (headers.put entry.1 entry.2).putAll entries := rfl

theorem mem_putAll (member : entry ∈ headers.putAll entries) : entry ∈ headers ∨ entry ∈ entries := by
  induction entries generalizing headers with
  | nil => exact .inl member
  | cons first rest ih =>
    rw [putAll_cons] at member
    rcases ih member with put | later
    · rcases mem_put put with kept | rfl
      · exact .inl kept
      · exact .inr List.mem_cons_self
    · exact .inr (List.mem_cons_of_mem _ later)

theorem getAll_putAll_of_notMem (absent : name ∉ entries.map Prod.fst) (headers : HeaderMap) :
    (headers.putAll entries).getAll name = headers.getAll name := by
  induction entries generalizing headers with
  | nil => rfl
  | cons first rest ih =>
    rw [List.map_cons, List.mem_cons, not_or] at absent
    rw [putAll_cons, ih absent.2, getAll_put_of_ne absent.1]

theorem getAll_putAll (distinct : entries.DistinctNames) (member : entry ∈ entries)
    (headers : HeaderMap) : (headers.putAll entries).getAll entry.1 = [entry.2] := by
  induction entries generalizing headers with
  | nil => cases member
  | cons first rest ih =>
    obtain ⟨fresh, rest'⟩ := List.nodup_cons.mp distinct
    rw [putAll_cons]
    rcases List.mem_cons.mp member with rfl | later
    · rw [getAll_putAll_of_notMem fresh, getAll_put]
    · exact ih rest' later _

end Values

end HeaderMap

structure HttpCrate where
  headerNameFromBytes : Bytes → Option Bytes
  headerValueFromStr : Bytes → Option Bytes

/-- Names are normalised to lower case; a value is the text it was made from. -/
structure HttpCrate.Lawful (http : HttpCrate) : Prop where
  nameLowercase : ∀ name normal, http.headerNameFromBytes name = some normal →
    normal = name.map ByteText.toAsciiLowercase
  nameNormal : ∀ name normal, http.headerNameFromBytes name = some normal →
    http.headerNameFromBytes normal = some normal
  valueText : ∀ text value, http.headerValueFromStr text = some value → value = text

def HttpCrate.ascii : HttpCrate where
  headerNameFromBytes name :=
    if name.all fun byte => ByteText.isAsciiAlphanumeric byte || byte == 45 then
      some (name.map ByteText.toAsciiLowercase)
    else none
  headerValueFromStr text := if text.all fun byte => 32 ≤ byte && byte < 127 then some text else none

theorem toAsciiLowercase_again (byte : UInt8) :
    ByteText.toAsciiLowercase (ByteText.toAsciiLowercase byte) = ByteText.toAsciiLowercase byte ∧
      (ByteText.isAsciiAlphanumeric (ByteText.toAsciiLowercase byte) ||
          ByteText.toAsciiLowercase byte == 45) =
        (ByteText.isAsciiAlphanumeric byte || byte == 45) := by
  revert byte
  apply ByteText.forall_byte
  decide +kernel

theorem HttpCrate.ascii_lawful : HttpCrate.ascii.Lawful where
  nameLowercase name normal converted := by
    simp only [ascii] at converted
    split at converted
    next => exact (Option.some.inj converted).symm
    next => cases converted
  nameNormal name normal converted := by
    simp only [ascii] at converted
    split at converted
    next named =>
      obtain rfl := Option.some.inj converted
      simp only [ascii, List.all_map, Function.comp_def, List.map_map,
        (toAsciiLowercase_again _).1, (toAsciiLowercase_again _).2]
      exact if_pos named
    next => cases converted
  valueText text value converted := by
    simp only [ascii] at converted
    split at converted
    next => exact (Option.some.inj converted).symm
    next => cases converted
