import Mathlib.Data.List.Induction
import Mathlib.Data.List.Nodup
import KeyProtection.Value

/-! Entries read by key. Where no key is there twice it does not matter where an entry stands, and entries
made distinct hold under each key the last value that was given for it. -/

namespace KeyProtection

variable {Item : Type}

theorem lookup_cons_entry (first : String) (value : Item) (rest : List (String × Item))
    (key : String) :
    ((first, value) :: rest).lookup key = if key = first then some value else rest.lookup key := by
  by_cases same : key = first
  · simp [same]
  · rw [List.lookup_cons, beq_false_of_ne same, if_neg same]

theorem lookup_of_mem {entries : List (String × Item)} (distinct : (entries.map Prod.fst).Nodup)
    {key : String} {value : Item} (member : (key, value) ∈ entries) :
    entries.lookup key = some value := by
  induction entries with
  | nil => cases member
  | cons head rest step =>
    obtain ⟨name, first⟩ := head
    obtain ⟨absent, others⟩ := List.nodup_cons.mp distinct
    rcases List.mem_cons.mp member with same | later
    · obtain ⟨rfl, rfl⟩ := Prod.mk.inj same
      simp
    · have different : key ≠ name := by
        intro same
        exact absent (List.mem_map.mpr ⟨(key, value), later, same⟩)
      rw [lookup_cons_entry, if_neg different]
      exact step others later

/-- Where no key is there twice, a key reads what stands under it. -/
theorem lookup_eq_some_iff_mem {entries : List (String × Item)}
    (distinct : (entries.map Prod.fst).Nodup) {key : String} {value : Item} :
    entries.lookup key = some value ↔ (key, value) ∈ entries := by
  constructor
  · intro found
    obtain ⟨before, after, same, _⟩ := List.lookup_eq_some_iff.mp found
    rw [same]
    exact List.mem_append_right before List.mem_cons_self
  · exact lookup_of_mem distinct

theorem lookup_reverse {entries : List (String × Item)}
    (distinct : (entries.map Prod.fst).Nodup) (key : String) :
    entries.reverse.lookup key = entries.lookup key := by
  have distinctToo : (entries.reverse.map Prod.fst).Nodup := by
    rw [List.map_reverse]
    exact List.nodup_reverse.mpr distinct
  apply Option.ext
  intro value
  rw [lookup_eq_some_iff_mem distinctToo, lookup_eq_some_iff_mem distinct, List.mem_reverse]

/-- Without the entries of one key all other keys read what they did. -/
theorem lookup_filter_ne (key other : String) (entries : List (String × Item)) :
    (entries.filter fun entry => entry.1 != key).lookup other =
      if other = key then none else entries.lookup other := by
  induction entries with
  | nil => exact (ite_self none).symm
  | cons head rest step =>
    obtain ⟨found, value⟩ := head
    by_cases here : found = key
    · subst here
      rw [List.filter_cons_of_neg (by simp), step, lookup_cons_entry]
      split
      · rfl
      · rfl
    · rw [List.filter_cons_of_pos (by simpa using here), lookup_cons_entry, lookup_cons_entry, step]
      by_cases same : other = found
      · subst same
        rw [if_pos rfl, if_pos rfl, if_neg here]
      · rw [if_neg same, if_neg same]

namespace Value

/-- A key that is given a value reads that value, and every other key reads what it did. -/
theorem lookup_insertEntry (key other : String) (value : Value) (entries : List (String × Value)) :
    (insertEntry key value entries).lookup other =
      if other = key then some value else entries.lookup other := by
  induction entries with
  | nil => exact lookup_cons_entry key value [] other
  | cons head rest step =>
    obtain ⟨found, old⟩ := head
    by_cases here : found = key
    · subst here
      rw [insertEntry, if_pos rfl, lookup_cons_entry, lookup_cons_entry]
      split
      · rfl
      · rfl
    · rw [insertEntry, if_neg here, lookup_cons_entry, lookup_cons_entry, step]
      by_cases same : other = found
      · subst same
        rw [if_pos rfl, if_pos rfl, if_neg here]
      · rw [if_neg same, if_neg same]

theorem map_fst_insertEntry (key : String) (value : Value) (entries : List (String × Value)) :
    (insertEntry key value entries).map Prod.fst =
      if key ∈ entries.map Prod.fst then entries.map Prod.fst
      else entries.map Prod.fst ++ [key] := by
  induction entries with
  | nil => rfl
  | cons head rest step =>
    obtain ⟨found, old⟩ := head
    by_cases here : found = key
    · subst here
      simp [insertEntry]
    · have apart : key ≠ found := fun same => here same.symm
      rw [insertEntry, if_neg here, List.map_cons, step]
      by_cases later : key ∈ rest.map Prod.fst
      · simp [later]
      · simp [later, apart]

theorem distinctEntries_concat (entries : List (String × Value)) (key : String) (value : Value) :
    distinctEntries (entries ++ [(key, value)]) = insertEntry key value (distinctEntries entries) := by
  rw [distinctEntries, List.foldl_append]
  rfl

/-- Distinct entries have each key once. -/
theorem nodup_distinctEntries (entries : List (String × Value)) :
    ((distinctEntries entries).map Prod.fst).Nodup := by
  induction entries using List.reverseRecOn with
  | nil => exact .nil
  | append_singleton entries entry step =>
    rw [distinctEntries_concat, map_fst_insertEntry]
    split
    · exact step
    · next absent => exact List.nodup_append_comm.mp (List.nodup_cons.mpr ⟨absent, step⟩)

/-- Entries and the distinct ones made of them have the same keys. -/
theorem mem_keys_distinctEntries {entries : List (String × Value)} {key : String} :
    key ∈ (distinctEntries entries).map Prod.fst ↔ key ∈ entries.map Prod.fst := by
  induction entries using List.reverseRecOn with
  | nil => rfl
  | append_singleton entries entry step =>
    rw [distinctEntries_concat, map_fst_insertEntry, List.map_append, List.mem_append, ← step]
    split
    · next present =>
      constructor
      · exact .inl
      · rintro (there | added)
        · exact there
        · rw [List.mem_singleton.mp added]
          exact present
    · exact List.mem_append

/-- Under each key distinct entries hold the last value that was given for it. -/
theorem lookup_distinctEntries (entries : List (String × Value)) (key : String) :
    (distinctEntries entries).lookup key = entries.reverse.lookup key := by
  induction entries using List.reverseRecOn with
  | nil => rfl
  | append_singleton entries entry step =>
    obtain ⟨given, value⟩ := entry
    rw [distinctEntries_concat, lookup_insertEntry, List.reverse_concat, lookup_cons_entry, step]

end Value

end KeyProtection
