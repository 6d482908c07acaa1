/-!
# Tables

A table gives at most one value to each key and keeps its keys in the order in
which they came in. The view is `get?`; each operation has one equation through
it: `get?_empty`, `get?_insert`, `get?_erase`, `get?_filter`.
-/

namespace SessionLayer

/-- A finite table, its entries in the order in which their keys came in. -/
structure Table (α β : Type) where
  entries : List (α × β)
  keys_nodup : (entries.map Prod.fst).Nodup

namespace Table

variable {α β : Type}

/-- The table without entries. -/
def empty : Table α β := ⟨[], .nil⟩

instance : Inhabited (Table α β) := ⟨empty⟩

/-- The keys, oldest first. -/
def keys (table : Table α β) : List α := table.entries.map Prod.fst

/-- The values, in the order of their keys. -/
def values (table : Table α β) : List β := table.entries.map Prod.snd

/-- The number of entries. -/
def size (table : Table α β) : Nat := table.entries.length

/-- Keeps the entries that pass a test. -/
def filter (test : α → β → Bool) (table : Table α β) : Table α β where
  entries := table.entries.filter fun entry => test entry.1 entry.2
  keys_nodup := List.Nodup.sublist (List.filter_sublist.map _) table.keys_nodup

/-- Changes every value. -/
def mapValues {γ : Type} (table : Table α β) (change : β → γ) : Table α γ where
  entries := table.entries.map fun entry => (entry.1, change entry.2)
  keys_nodup := by
    rw [List.map_map]
    exact table.keys_nodup

variable [DecidableEq α]

/-- The value that a list of entries gives to a key first. -/
def find? (key : α) : List (α × β) → Option β
  | [] => none
  | entry :: rest => if entry.1 = key then some entry.2 else find? key rest

/-- The value of a key. -/
def get? (table : Table α β) (key : α) : Option β := find? key table.entries

/-- The value of a key, or `usual` where it has none. -/
def getD (table : Table α β) (key : α) (usual : β) : β := (table.get? key).getD usual

/-- Whether a key has a value. -/
def contains (table : Table α β) (key : α) : Bool := (table.get? key).isSome

/-- Takes a key out. -/
def erase (table : Table α β) (key : α) : Table α β :=
  table.filter fun other _ => other ≠ key

/-- Puts `value` in the place of the value of `key`, in a list of entries. -/
def replaceIn (key : α) (value : β) (entries : List (α × β)) : List (α × β) :=
  entries.map fun entry => if entry.1 = key then (key, value) else entry

theorem map_fst_replaceIn (key : α) (value : β) (entries : List (α × β)) :
    (replaceIn key value entries).map Prod.fst = entries.map Prod.fst := by
  simp only [replaceIn, List.map_map]
  apply List.map_congr_left
  intro entry _
  by_cases h : entry.1 = key <;> simp [h]

theorem find?_eq_none {entries : List (α × β)} {key : α} :
    find? key entries = none ↔ key ∉ entries.map Prod.fst := by
  induction entries with
  | nil => simp [find?]
  | cons entry rest ih =>
    rw [find?, List.map_cons, List.mem_cons, not_or, ← ih]
    split
    · rename_i h; simp [h]
    · rename_i h; simp [Ne.symm h]

/-- Gives a key a value: a key that has one keeps its place, a new one comes
last. -/
def insert (table : Table α β) (key : α) (value : β) : Table α β :=
  if h : table.get? key = none then
    { entries := table.entries ++ [(key, value)]
      keys_nodup := by
        rw [List.map_append, List.nodup_append]
        refine ⟨table.keys_nodup, by simp, ?_⟩
        rintro other present _ new rfl
        simp only [List.map_cons, List.map_nil, List.mem_singleton] at new
        exact find?_eq_none.mp h (new ▸ present) }
  else
    { entries := replaceIn key value table.entries
      keys_nodup := by rw [map_fst_replaceIn]; exact table.keys_nodup }

/-! ## The view -/

@[simp] theorem get?_empty (key : α) : (empty : Table α β).get? key = none := rfl

theorem find?_append (key : α) (left right : List (α × β)) :
    find? key (left ++ right) = (find? key left).or (find? key right) := by
  induction left with
  | nil => simp [find?]
  | cons entry rest ih =>
    simp only [List.cons_append, find?]
    split <;> simp [ih]

theorem find?_replaceIn (key other : α) (value : β) (entries : List (α × β)) :
    find? other (replaceIn key value entries) =
      if other = key then (find? key entries).map fun _ => value else find? other entries := by
  induction entries with
  | nil => simp [replaceIn, find?]
  | cons entry rest ih =>
    simp only [replaceIn, List.map_cons] at ih ⊢
    simp only [find?]
    grind

theorem get?_insert (table : Table α β) (key other : α) (value : β) :
    (table.insert key value).get? other = if other = key then some value else table.get? other := by
  unfold insert
  split
  · rename_i absent
    simp only [get?, find?_append, find?] at absent ⊢
    grind
  · rename_i present
    simp only [get?, find?_replaceIn] at present ⊢
    by_cases h : other = key
    · obtain ⟨old, found⟩ := Option.ne_none_iff_exists'.mp present
      simp [h, found]
    · simp [h]

@[simp] theorem get?_insert_self (table : Table α β) (key : α) (value : β) :
    (table.insert key value).get? key = some value := by simp [get?_insert]

theorem find?_filter {entries : List (α × β)} (distinct : (entries.map Prod.fst).Nodup)
    (test : α → β → Bool) (key : α) :
    find? key (entries.filter fun entry => test entry.1 entry.2) =
      (find? key entries).filter (test key) := by
  induction entries with
  | nil => simp [find?]
  | cons entry rest ih =>
    simp only [List.map_cons, List.nodup_cons] at distinct
    have absent := find?_eq_none.mpr distinct.1
    have tail := ih distinct.2
    simp only [List.filter_cons, find?]
    by_cases h : entry.1 = key
    · subst h
      by_cases passes : test entry.1 entry.2 = true
      · simp [passes, find?, Option.filter]
      · simp [passes, tail, absent, Option.filter]
    · by_cases passes : test entry.1 entry.2 = true <;> simp [passes, find?, h, tail]

theorem get?_filter (table : Table α β) (test : α → β → Bool) (key : α) :
    (table.filter test).get? key = (table.get? key).filter (test key) :=
  find?_filter table.keys_nodup test key

theorem get?_erase (table : Table α β) (key other : α) :
    (table.erase key).get? other = if other = key then none else table.get? other := by
  rw [erase, get?_filter]
  cases table.get? other <;> grind

@[simp] theorem get?_erase_self (table : Table α β) (key : α) :
    (table.erase key).get? key = none := by simp [get?_erase]

theorem get?_mapValues {γ : Type} (table : Table α β) (change : β → γ) (key : α) :
    (table.mapValues change).get? key = (table.get? key).map change := by
  simp only [mapValues, get?]
  induction table.entries with
  | nil => rfl
  | cons entry rest ih =>
    simp only [List.map_cons, find?]
    split <;> simp [ih]

theorem mem_keys {table : Table α β} {key : α} :
    key ∈ table.keys ↔ table.get? key ≠ none := by
  rw [get?, ne_eq, find?_eq_none, Classical.not_not, keys]

end Table

end SessionLayer
