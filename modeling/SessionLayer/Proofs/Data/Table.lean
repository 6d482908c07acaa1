import SessionLayer.Data.Table

/-!
# Tables that change under one key

Giving a key a value and taking it out again touch no other key, and only the last
of two changes under one key is seen: `insert_insert` and `erase_insert` say so of
whole tables, with the order of their keys, which `keys_insert_of_none`,
`keys_insert_of_some` and `keys_erase` follow.
-/

namespace SessionLayer.Table

variable {α β : Type}

theorem ext_entries {first second : Table α β} (h : first.entries = second.entries) :
    first = second := by
  cases first; cases second; cases h; rfl

theorem nodup_keys (table : Table α β) : table.keys.Nodup := table.keys_nodup

variable [DecidableEq α]

theorem get?_insert_of_ne (table : Table α β) {key other : α} (value : β) (h : other ≠ key) :
    (table.insert key value).get? other = table.get? other := by
  rw [get?_insert, if_neg h]

theorem get?_erase_of_ne (table : Table α β) {key other : α} (h : other ≠ key) :
    (table.erase key).get? other = table.get? other := by
  rw [get?_erase, if_neg h]

theorem get?_eq_none_iff {table : Table α β} {key : α} :
    table.get? key = none ↔ key ∉ table.keys :=
  find?_eq_none

theorem mem_keys_of_get? {table : Table α β} {key : α} {value : β}
    (h : table.get? key = some value) : key ∈ table.keys :=
  mem_keys.mpr (by simp [h])

/-- A key has the value that is entered under it. -/
theorem get?_eq_some_iff {table : Table α β} {key : α} {value : β} :
    table.get? key = some value ↔ (key, value) ∈ table.entries := by
  obtain ⟨entries, distinct⟩ := table
  simp only [get?]
  induction entries with
  | nil => simp [find?]
  | cons entry rest ih =>
    rw [List.map_cons, List.nodup_cons] at distinct
    rw [find?, List.mem_cons]
    by_cases same : entry.1 = key
    · have others : (key, value) ∉ rest := fun present =>
        distinct.1 (same ▸ List.mem_map_of_mem present)
      rw [if_pos same, Option.some.injEq]
      constructor
      · rintro rfl
        exact .inl (by rw [← same])
      · rintro (rfl | present)
        · rfl
        · exact absurd present others
    · rw [if_neg same, ih distinct.2]
      constructor
      · exact .inr
      · rintro (rfl | present)
        · exact absurd rfl same
        · exact present

/-- The entries of a table are its keys, each with its value. -/
theorem map_some_entries (table : Table α β) :
    table.entries.map some = table.keys.map fun key => (table.get? key).map (key, ·) := by
  rw [keys, List.map_map]
  refine List.map_congr_left fun entry present => ?_
  rw [Function.comp_apply, get?_eq_some_iff.mpr present, Option.map_some]

/-- Two tables are the same if they have the same keys in the same order, and every key has
the same value. -/
theorem ext_get? {first second : Table α β} (keys : first.keys = second.keys)
    (values : ∀ key, first.get? key = second.get? key) : first = second := by
  apply ext_entries
  have same := first.map_some_entries
  rw [keys] at same
  simp only [values] at same
  rw [← map_some_entries] at same
  exact (List.map_inj_right fun _ _ => Option.some.inj).mp same

/-! ## The entries after a change -/

theorem entries_insert_of_none {table : Table α β} {key : α} (value : β)
    (h : table.get? key = none) :
    (table.insert key value).entries = table.entries ++ [(key, value)] := by
  rw [insert, dif_pos h]

theorem size_insert_of_none {table : Table α β} {key : α} (value : β)
    (h : table.get? key = none) : (table.insert key value).size = table.size + 1 := by
  rw [size, entries_insert_of_none value h, List.length_append]
  rfl

theorem entries_insert_of_some {table : Table α β} {key : α} {old : β} (value : β)
    (h : table.get? key = some old) :
    (table.insert key value).entries = replaceIn key value table.entries := by
  rw [insert, dif_neg (by simp [h])]

theorem keys_insert_of_none {table : Table α β} {key : α} (value : β)
    (h : table.get? key = none) : (table.insert key value).keys = table.keys ++ [key] := by
  simp only [keys, entries_insert_of_none value h, List.map_append, List.map_cons, List.map_nil]

theorem keys_insert_of_some {table : Table α β} {key : α} {old : β} (value : β)
    (h : table.get? key = some old) : (table.insert key value).keys = table.keys := by
  simp only [keys, entries_insert_of_some value h, map_fst_replaceIn]

theorem keys_erase (table : Table α β) (key : α) :
    (table.erase key).keys = table.keys.filter (· ≠ key) := by
  simp only [keys, erase, filter, List.filter_map]
  rfl

/-- The key that is taken out accounts for the one entry that is missing. -/
theorem perm_cons_entries_erase {table : Table α β} {key : α} {value : β}
    (h : table.get? key = some value) :
    ((key, value) :: (table.erase key).entries).Perm table.entries := by
  obtain ⟨entries, distinct⟩ := table
  simp only [erase, filter, get?] at h ⊢
  induction entries with
  | nil => cases h
  | cons entry rest ih =>
    rw [List.map_cons, List.nodup_cons] at distinct
    rw [find?] at h
    by_cases same : entry.1 = key
    · subst same
      rw [if_pos rfl, Option.some.injEq] at h
      subst h
      have others : ∀ other ∈ rest, decide (other.1 ≠ entry.1) = true := fun other present =>
        decide_eq_true fun repeated => distinct.1 (repeated ▸ List.mem_map_of_mem present)
      rw [List.filter_cons_of_neg (by simp), List.filter_eq_self.mpr others]
    · rw [if_neg same] at h
      rw [List.filter_cons_of_pos (by simpa using same)]
      exact (List.Perm.swap ..).trans ((ih distinct.2 h).cons entry)

/-! ## Two changes under one key -/

theorem replaceIn_replaceIn (key : α) (first second : β) (entries : List (α × β)) :
    replaceIn key second (replaceIn key first entries) = replaceIn key second entries := by
  simp only [replaceIn, List.map_map]
  apply List.map_congr_left
  intro entry _
  by_cases h : entry.1 = key <;> simp [h]

theorem replaceIn_of_notMem {key : α} (value : β) {entries : List (α × β)}
    (h : key ∉ entries.map Prod.fst) : replaceIn key value entries = entries := by
  unfold replaceIn
  refine (List.map_congr_left fun entry present => ?_).trans (List.map_id _)
  have other : entry.1 ≠ key := fun same => h (same ▸ List.mem_map_of_mem present)
  rw [if_neg other, id]

/-- Of two values given to one key only the second is seen. -/
theorem insert_insert (table : Table α β) (key : α) (first second : β) :
    (table.insert key first).insert key second = table.insert key second := by
  have known := table.get?_insert_self key first
  apply ext_entries
  rw [entries_insert_of_some second known]
  cases h : table.get? key with
  | none =>
    have absent : key ∉ table.entries.map Prod.fst := get?_eq_none_iff.mp h
    rw [entries_insert_of_none first h, entries_insert_of_none second h, replaceIn,
      List.map_append]
    have front := replaceIn_of_notMem second absent
    rw [replaceIn] at front
    rw [front]
    simp
  | some old =>
    rw [entries_insert_of_some first h, entries_insert_of_some second h, replaceIn_replaceIn]

/-- Giving a key the value that it has changes nothing. -/
theorem insert_of_get? {table : Table α β} {key : α} {value : β}
    (known : table.get? key = some value) : table.insert key value = table := by
  apply ext_entries
  rw [entries_insert_of_some value known, replaceIn]
  refine (List.map_congr_left fun entry present => ?_).trans (List.map_id _)
  split
  · rename_i here
    subst here
    have same := get?_eq_some_iff.mpr present
    rw [known, Option.some.injEq] at same
    rw [same, id]
  · rfl

/-- A key that is taken out leaves nothing of the value that it was given last. -/
theorem erase_insert (table : Table α β) (key : α) (value : β) :
    (table.insert key value).erase key = table.erase key := by
  apply ext_entries
  simp only [erase, filter]
  cases h : table.get? key with
  | none =>
    rw [entries_insert_of_none value h]
    simp
  | some old =>
    rw [entries_insert_of_some value h]
    simp only [replaceIn, List.filter_map]
    have others : ∀ entry ∈ table.entries.filter (fun entry => decide (entry.1 ≠ key)),
        (if entry.1 = key then (key, value) else entry) = entry := by
      intro entry kept
      have other : entry.1 ≠ key := by simpa using (List.mem_filter.mp kept).2
      rw [if_neg other]
    have tests : ((fun entry : α × β => decide (entry.1 ≠ key)) ∘
        fun entry => if entry.1 = key then (key, value) else entry) =
        fun entry => decide (entry.1 ≠ key) := by
      funext entry
      by_cases same : entry.1 = key <;> simp [same]
    rw [tests]
    exact (List.map_congr_left others).trans (List.map_id _)

end SessionLayer.Table
